import Enclose.Proofs.Script.Wording

/-!
# Trees are read back from their wordings

The parser makes of the tokens of a wording the tree that has it (`Expr.reads`, `Stmt.reads`), up to
the places in the tree.
-/

namespace Enclose.Script
open Enclose.Script.Parser

/-! ## Tokens laid out as a wording -/

/-- Some tokens are those of a wording, with lines broken only where they may be, and then others
follow. -/
inductive Laid : List Piece → List Piece → List Piece → Prop
  | nil {rest : List Piece} : Laid [] rest rest
  | cons {t : Token} {a n : Bool} {ts ps rest : List Piece} : (n = true → a = true) →
      Laid ts ps rest → Laid (⟨t, a⟩ :: ts) (⟨t, n⟩ :: ps) rest

namespace Laid

variable {t : Token} {a : Bool} {ts us ps rest : List Piece}

theorem cons_inv (laid : Laid (⟨t, a⟩ :: ts) ps rest) :
    ∃ n later, ps = ⟨t, n⟩ :: later ∧ (n = true → a = true) ∧ Laid ts later rest := by
  cases laid with
  | cons fits others => exact ⟨_, _, rfl, fits, others⟩

theorem append (first : Laid ts ps us) {vs : List Piece} (second : Laid vs us rest) :
    Laid (ts ++ vs) ps rest := by
  induction first with
  | nil => exact second
  | cons fits _ ih => exact .cons fits (ih second)

theorem append_inv {vs : List Piece} (laid : Laid (ts ++ vs) ps rest) :
    ∃ later, Laid ts ps later ∧ Laid vs later rest := by
  induction ts generalizing ps with
  | nil => exact ⟨ps, .nil, laid⟩
  | cons t ts ih =>
      obtain ⟨n, later, rfl, fits, others⟩ := cons_inv laid
      obtain ⟨later, first, second⟩ := ih others
      exact ⟨later, .cons fits first, second⟩

theorem length_eq (laid : Laid ts ps rest) : ps.length = ts.length + rest.length := by
  induction laid with
  | nil => simp
  | cons _ _ ih =>
      simp only [List.length_cons, ih]
      omega

end Laid

/-! ## What comes before and after an expression -/

namespace Parser

def separates : Token → Bool
  | .comma | .closeParen | .closeBrace => true
  | _ => false

def closes : Token → Bool
  | .closeBracket | .semicolon | .colon => true
  | t => separates t

def endsOperators : Token → Bool
  | .assign _ => true
  | t => closes t

def endsOperand : Token → Bool
  | .binary _ | .question => true
  | t => endsOperators t

def continues : Token → Bool
  | .dot | .openBracket | .openParen => true
  | t => endsOperand t

def startsExpr : Token → Bool
  | .word _ | .openParen | .openBrace | .string _ | .bang => true
  | _ => false

def Next (kind : Token → Bool) (ps : List Piece) : Prop := (next? ps).any kind = true

def NoShortLink (ps : List Piece) : Prop :=
  next? ps = some .question → next? ps.tail ≠ some .dot

section
variable {kind kind' : Token → Bool} {ps : List Piece}

theorem Next.exists (next : Next kind ps) : ∃ t, next? ps = some t ∧ kind t = true :=
  (Option.any_eq_true _ _).1 next

theorem Next.ne {t : Token} (next : Next kind ps) (other : kind t = false) :
    next? ps ≠ some t := by
  intro here
  rw [Next, here, Option.any_some, other] at next
  cases next

theorem Next.mono (next : Next kind ps) (weaker : ∀ t, kind t = true → kind' t = true) :
    Next kind' ps := by
  obtain ⟨t, here, known⟩ := next.exists
  rw [Next, here]
  exact weaker t known

theorem closes_of_separates (t : Token) (h : separates t = true) : closes t = true := by
  cases t <;> first | rfl | exact h

theorem endsOperators_of_closes (t : Token) (h : closes t = true) : endsOperators t = true := by
  cases t <;> first | rfl | exact h

theorem endsOperand_of_endsOperators (t : Token) (h : endsOperators t = true) :
    endsOperand t = true := by
  cases t <;> first | rfl | exact h

theorem continues_of_endsOperand (t : Token) (h : endsOperand t = true) : continues t = true := by
  cases t <;> first | rfl | exact h

theorem startsExpr_of_beginsOperand (begins : beginsOperand ps) : Next startsExpr ps := by
  unfold beginsOperand at begins
  split at begins
  case h_5 => cases begins
  all_goals
    rename_i here
    rw [Next, here]
    rfl

theorem noShortLink (next : Next kind ps) (other : kind .question = false) :
    NoShortLink ps := fun here => absurd here (next.ne other)

theorem endsChain_of_endsOperand (ends : Next endsOperand ps) (long : NoShortLink ps)
    (noCall : Bool) : endsChain noCall ps = true := by
  unfold endsChain
  split
  case h_1 here => exact absurd here (ends.ne rfl)
  case h_2 here => exact absurd here (ends.ne rfl)
  case h_3 here => exact absurd here (ends.ne rfl)
  case h_4 here => exact absurd here (ends.ne rfl)
  case h_5 here => exact bne_iff_ne.2 (long here)
  case h_6 => rfl

theorem leavesName_of_continues {name : String} (next : Next continues ps)
    (call : next? ps = some .openParen → name ≠ "async") : leavesName name ps = true := by
  unfold leavesName
  split
  case h_1 here => exact absurd here (next.ne rfl)
  case h_2 here => exact bne_iff_ne.2 (call here)
  case h_3 here => exact absurd here (next.ne rfl)
  case h_4 => rfl

theorem operator?_of_endsOperators {c : Context} (ends : Next endsOperators ps) :
    operator? c (next? ps) = none := by
  unfold operator?
  split
  case h_1 here => exact absurd here (ends.ne rfl)
  case h_2 here => exact absurd here (ends.ne rfl)
  case h_3 here => exact absurd here (ends.ne rfl)
  case h_4 => rfl

end

end Parser

/-! ## What is read of an expression -/

namespace Expr

def ReadsMember (e : Expr) : Prop :=
  ∀ ⦃m : Bool⦄ ⦃c : Context⦄ ⦃d : Nat⦄ ⦃ps rest after : List Piece⦄ ⦃whole : Expr⦄, c.IsPlain →
    3 * e.wording.length ≤ d + 3 → Laid e.wording ps rest → Next continues rest → NoShortLink rest →
    (next? rest = some .openParen → e.mayBeCalled) → Links (grammar d) true c e rest whole after →
    Phrase m (memberExpr (grammar d)) unplaced c ps whole after

def ReadsLeft (e : Expr) : Prop :=
  ∀ ⦃m : Bool⦄ ⦃c : Context⦄ ⦃d : Nat⦄ ⦃ps rest : List Piece⦄, c.IsPlain →
    3 * e.wording.length ≤ d + 2 → Laid e.wording ps rest → Next endsOperand rest → NoShortLink rest →
    Phrase m (leftSide (grammar d)) unplaced c ps e rest

def ReadsUnary (e : Expr) : Prop :=
  ∀ ⦃m : Bool⦄ ⦃c : Context⦄ ⦃d : Nat⦄ ⦃ps rest : List Piece⦄, c.IsPlain →
    3 * e.wording.length ≤ d + 2 → Laid e.wording ps rest → Next endsOperand rest → NoShortLink rest →
    Phrase m (unaryExpr (grammar d)) unplaced c ps e rest

def ReadsOperators (e : Expr) : Prop :=
  ∀ ⦃m : Bool⦄ ⦃c : Context⦄ ⦃d minimum : Nat⦄ ⦃ps rest after : List Piece⦄ ⦃whole : Expr⦄,
    c.IsPlain → 3 * e.wording.length ≤ d + 2 → Laid e.wording ps rest → Next endsOperand rest → NoShortLink rest →
    (∀ op, operator? c (next? rest) = some op → op.precedence < e.strength) →
    minimum + 1 < e.strength → Operators (grammar d) minimum c e rest whole after →
    ∃ first later, Phrase m (grammar (d + 1)).unary unplaced c ps first later ∧
      isArrow first = false ∧ Operators (grammar d) minimum c first later whole after

def ReadsConditional (e : Expr) : Prop :=
  ∀ ⦃m : Bool⦄ ⦃c : Context⦄ ⦃d : Nat⦄ ⦃ps rest : List Piece⦄, c.IsPlain →
    3 * e.wording.length ≤ d + 2 → Laid e.wording ps rest → Next endsOperators rest →
    Phrase m (conditionalExpr (grammar (d + 1))) unplaced c ps e rest

def ReadsAssignment (e : Expr) : Prop :=
  ∀ ⦃m : Bool⦄ ⦃c : Context⦄ ⦃d : Nat⦄ ⦃ps rest : List Piece⦄, c.IsPlain →
    3 * e.wording.length ≤ d → Laid e.wording ps rest → Next closes rest →
    Phrase m (grammar d).assignment unplaced c ps e rest

structure Reads (e : Expr) : Prop where
  starts : ∀ ⦃ps rest⦄, Laid e.wording ps rest → Next startsExpr ps
  begins : 14 ≤ e.strength → ∀ ⦃ps rest⦄, Laid e.wording ps rest → beginsOperand ps = true
  member : 15 ≤ e.strength → e.ReadsMember
  unary : 13 ≤ e.strength → e.ReadsUnary
  operators : 2 ≤ e.strength → e.ReadsOperators
  assignment : e.ReadsAssignment
  regular : isLogicalOfNullish e = false
  notNullish : ∀ left right, e ≠ .binary .nullish left right

section
variable {e : Expr}

theorem ReadsMember.left (reads : e.ReadsMember) (callee : isCallee e) (nonempty : e.wording ≠ [])
    (begins : ∀ ⦃ps rest⦄, Laid e.wording ps rest → beginsOperand ps = true) : e.ReadsLeft := by
  intro m c d ps rest plain deep laid ends long
  have : 0 < e.wording.length := List.length_pos_iff.2 nonempty
  obtain ⟨d, rfl⟩ : ∃ k, d = k + 1 := ⟨d - 1, by omega⟩
  refine phrase_uncalled (begins laid) callee ?_ (ends.ne rfl)
  exact reads plain (by omega) laid (ends.mono continues_of_endsOperand) long
    (fun here => absurd here (ends.ne rfl)) (.done (endsChain_of_endsOperand ends long true))

theorem ReadsLeft.unary (reads : e.ReadsLeft) (simple : isArrow e = false)
    (begins : ∀ ⦃ps rest⦄, Laid e.wording ps rest → beginsOperand ps = true) : e.ReadsUnary := by
  intro m c d ps rest plain deep laid ends long
  exact phrase_unary (begins laid) simple (reads plain deep laid ends long) fun _ => ends.ne rfl

theorem ReadsUnary.operators (reads : e.ReadsUnary) (simple : isArrow e = false) :
    e.ReadsOperators := by
  intro m c d minimum ps rest after whole plain deep laid ends long _ _ operators
  exact ⟨e, rest, reads plain deep laid ends long, simple, operators⟩

theorem ReadsOperators.conditional (reads : e.ReadsOperators) (strong : 2 ≤ e.strength)
    (regular : isLogicalOfNullish e = false) : e.ReadsConditional := by
  intro m c d ps rest plain deep laid ends
  have none (op) (here : operator? c (next? rest) = some op) : False := by
    rw [operator?_of_endsOperators ends] at here
    cases here
  have done : Operators (grammar d) 0 c e rest e rest :=
    .done regular fun op here => (none op here).elim
  obtain ⟨first, later, one, simple, operators⟩ := reads (m := m) plain deep laid
    (ends.mono endsOperand_of_endsOperators) (noShortLink ends rfl)
    (fun op here => (none op here).elim) (by omega) done
  exact phrase_test simple one operators (ends.ne rfl)

theorem ReadsConditional.assignment (reads : e.ReadsConditional) (nonempty : e.wording ≠ []) :
    e.ReadsAssignment := by
  intro m c d ps rest plain deep laid ends
  have : 0 < e.wording.length := List.length_pos_iff.2 nonempty
  obtain ⟨d, rfl⟩ : ∃ k, d = k + 2 := ⟨d - 2, by omega⟩
  refine phrase_value (g := grammar (d + 1)) plain ?_ fun op => ends.ne rfl
  exact reads plain (by omega) laid (ends.mono endsOperators_of_closes)

theorem wording_ne_nil (starts : ∀ ⦃ps rest⦄, Laid e.wording ps rest → Next startsExpr ps) :
    e.wording ≠ [] := by
  intro none
  have laid : Laid e.wording [] [] := none ▸ .nil
  cases starts laid

theorem isCallee_of_strength (strong : 14 ≤ e.strength) : isCallee e = true := by
  cases e <;> first | rfl | simp [strength] at strong

theorem isArrow_of_isCallee (callee : isCallee e) : isArrow e = false := by
  cases e <;> first | rfl | simp [isCallee, isArrow] at callee

theorem Reads.of_operators (starts : ∀ ⦃ps rest⦄, Laid e.wording ps rest → Next startsExpr ps)
    (begins : 14 ≤ e.strength → ∀ ⦃ps rest⦄, Laid e.wording ps rest → beginsOperand ps = true)
    (member : 15 ≤ e.strength → e.ReadsMember) (unary : 13 ≤ e.strength → e.ReadsUnary)
    (operators : e.ReadsOperators) (strong : 2 ≤ e.strength) (regular : isLogicalOfNullish e = false)
    (notNullish : ∀ left right, e ≠ .binary .nullish left right) : e.Reads where
  starts := starts
  begins := begins
  member := member
  unary := unary
  operators _ := operators
  assignment := (operators.conditional strong regular).assignment (wording_ne_nil starts)
  regular := regular
  notNullish := notNullish

section
variable (begins : ∀ ⦃ps rest⦄, Laid e.wording ps rest → beginsOperand ps = true)
include begins

theorem Reads.of_member (member : e.ReadsMember) (callee : isCallee e) (simple : isArrow e = false)
    (strength : e.strength = 15) (regular : isLogicalOfNullish e = false)
    (notNullish : ∀ left right, e ≠ .binary .nullish left right) : e.Reads := by
  have starts ⦃ps rest : List Piece⦄ (laid : Laid e.wording ps rest) :=
    startsExpr_of_beginsOperand (begins laid)
  have unary := (member.left callee (wording_ne_nil starts) begins).unary simple begins
  exact .of_operators starts (fun _ => begins) (fun _ => member) (fun _ => unary)
    (unary.operators simple) (by omega) regular notNullish

theorem Reads.of_operand (strength : e.strength = 15)
    (one : ∀ ⦃m c d ps rest⦄, c.IsPlain → 3 * e.wording.length ≤ d + 3 → Laid e.wording ps rest →
      Next continues rest → (next? rest = some .openParen → e.mayBeCalled) →
      Phrase m (operand (grammar d) (leftSide (grammar d))) unplaced c ps e rest)
    (notNullish : ∀ op left right, e ≠ .binary op left right) : e.Reads := by
  have callee : isCallee e = true := isCallee_of_strength (by omega)
  have regular : isLogicalOfNullish e = false := by
    cases e <;> first | rfl | exact absurd rfl (notNullish _ _ _)
  refine .of_member begins ?_ callee (isArrow_of_isCallee callee) strength regular
    fun left right => notNullish _ left right
  intro m c d ps rest after whole plain deep laid continued _ called links
  exact phrase_member (begins laid) (one plain deep laid continued called)
    (isArrow_of_isCallee callee) links

end

end

section
variable {name : String} {m n a : Bool} {c : Context} {d : Nat} {ps rest : List Piece}

theorem laid_singleton {t : Token} (laid : Laid [⟨t, a⟩] ps rest) :
    ∃ n, ps = ⟨t, n⟩ :: rest ∧ (n = true → a = true) := by
  obtain ⟨n, later, rfl, fits, others⟩ := laid.cons_inv
  cases others
  exact ⟨n, rfl, fits⟩

theorem reads_ident (named : IsName name) : (ident name).Reads := by
  refine .of_operand (fun ps rest laid => ?_) rfl (fun m c d ps rest plain _ laid continued called => ?_)
    nofun
  · obtain ⟨n, rfl, -⟩ := laid_singleton laid
    exact beginsOperand_name named
  · obtain ⟨n, rfl, -⟩ := laid_singleton laid
    refine phrase_name plain named _ _ (leavesName_of_continues continued fun here => ?_)
    simpa [mayBeCalled] using called here

theorem reads_valueWord {word : String} {e : Expr} (value : valueOf? word = some e) : e.Reads := by
  have wording := wording_of_valueOf? value
  refine .of_operand (fun ps rest laid => ?_) (strength_of_valueOf? value)
    (fun m c d ps rest _ _ laid _ _ => ?_) ?_
  · obtain ⟨n, rfl, -⟩ := laid_singleton (wording ▸ laid)
    unfold valueOf? at value
    split at value <;> first | rfl | cases value
  · obtain ⟨n, rfl, -⟩ := laid_singleton (wording ▸ laid)
    exact phrase_valueWord _ _ value
  · rintro op left right rfl
    unfold valueOf? at value
    split at value <;> cases value

theorem reads_string (lit : StringLit) : (string lit).Reads := by
  refine .of_operand (fun ps rest laid => ?_) rfl (fun m c d ps rest _ _ laid _ _ => ?_) nofun
  · obtain ⟨n, rfl, -⟩ := laid_singleton laid
    rfl
  · obtain ⟨n, rfl, -⟩ := laid_singleton laid
    exact phrase_string _ _ lit

theorem Reads.within {inner : Expr} (reads : inner.Reads) (plain : c.IsPlain)
    (deep : 3 * inner.wording.length ≤ d) (laid : Laid inner.wording ps rest)
    (ends : Next closes rest) :
    Phrase m (grammar d).assignment unplaced { c with includeIn := true } ps inner rest :=
  reads.assignment (c := { c with includeIn := true }) plain deep laid ends

theorem reads_paren {inner : Expr} (reads : inner.Reads) (notObject : isObject inner = false) :
    (paren inner).Reads := by
  refine .of_operand (fun ps rest laid => ?_) rfl
    (fun m c d ps rest plain deep laid continued called => ?_) nofun
  · obtain ⟨n, later, rfl, -, -⟩ := laid.cons_inv
    rfl
  · obtain ⟨n, later, rfl, -, laid⟩ := laid.cons_inv
    obtain ⟨close, laid, closing⟩ := laid.append_inv
    obtain ⟨k, rfl, -⟩ := laid_singleton closing
    simp only [wording, List.length_cons, List.length_append, List.length_nil] at deep
    have starts := reads.starts laid
    have value := reads.within (m := false) (d := d) plain (by omega) laid rfl
    exact phrase_paren notObject (phrase_item (starts.ne rfl) value) (starts.ne rfl) (continued.ne rfl)

theorem enclosed_of_laid {α β : Type} {p : Parse α} {look : α → β} {wording : β → List Piece}
    {close : Token} (closing : separates close) {bs : List β}
    (one : ∀ b ∈ bs, ∀ ⦃ps rest⦄, Laid (wording b) ps rest → Next separates rest →
      next? ps ≠ some close ∧ Phrase false p look c ps b rest)
    (laid : Laid (Separated wording bs ++ [loose close]) ps rest) :
    Enclosed p look c close ps bs rest := by
  induction bs generalizing ps with
  | nil =>
      obtain ⟨n, rfl, -⟩ := laid_singleton laid
      exact .empty
  | cons b others ih =>
      rw [Separated, List.append_assoc] at laid
      obtain ⟨later, first, laid⟩ := laid.append_inv
      cases others with
      | nil =>
          obtain ⟨n, rfl, -⟩ := laid_singleton laid
          obtain ⟨starts, one⟩ := one b List.mem_cons_self first closing
          exact .some (.last starts one)
      | cons b' others =>
          obtain ⟨n, later, rfl, -, laid⟩ := laid.cons_inv
          obtain ⟨starts, first⟩ := one b List.mem_cons_self first rfl
          cases ih (fun b member => one b (.tail _ member)) laid with
          | some listed => exact .some (.more starts first listed)

theorem reads_object {properties : List Property}
    (reads : ∀ p ∈ properties, ∃ key value, p = .keyed 0 key 0 value ∧ key.isNamed ∧ value.Reads) :
    (object properties).Reads := by
  refine .of_operand (fun ps rest laid => ?_) rfl
    (fun m c d ps rest plain deep laid continued called => ?_) nofun
  · obtain ⟨n, later, rfl, -, -⟩ := laid.cons_inv
    rfl
  · obtain ⟨n, later, rfl, -, laid⟩ := laid.cons_inv
    rw [propertiesWording_eq] at laid
    simp only [wording, List.length_cons, List.length_append, List.length_nil,
      propertiesWording_eq] at deep
    refine phrase_object (enclosed_of_laid rfl (fun p member ps rest laid ends => ?_) laid)
    obtain ⟨key, value, rfl, named, reads⟩ := reads p member
    have shorter := length_le_separated Property.wording member
    simp only [Property.wording, List.length_append, List.length_cons] at shorter
    obtain ⟨later, first, laid⟩ := laid.append_inv
    obtain ⟨k, later, rfl, -, laid⟩ := laid.cons_inv
    have inner := reads.within (m := false) (c := c) (d := d) plain (by omega) laid
      (ends.mono closes_of_separates)
    cases key with
    | ident name =>
        obtain ⟨l, rfl, -⟩ := laid_singleton first
        exact ⟨by simp [next?], phrase_property (.word name) inner⟩
    | string lit =>
        obtain ⟨l, rfl, -⟩ := laid_singleton first
        exact ⟨by simp [next?], phrase_property (.string lit) inner⟩
    | _ => cases named

theorem reads_member {whole : Expr} {key : PropertyKey} (reads : whole.Reads)
    (strong : 15 ≤ whole.strength)
    (readsKey : (∃ name, key = .ident name) ∨ ∃ inner, key = .computed inner ∧ inner.Reads) :
    (member whole key).Reads := by
  have simple : isChain whole = false := by
    have callee := isCallee_of_strength (Nat.le_trans (by decide) strong)
    simp only [isCallee, Bool.and_eq_true, Bool.not_eq_true'] at callee
    exact callee.2
  refine .of_member (fun ps rest laid => ?_) ?_ rfl rfl rfl rfl (by simp)
  · obtain ⟨later, laid, -⟩ := laid.append_inv
    exact reads.begins (Nat.le_trans (by decide) strong) laid
  · intro m c d ps rest after result plain deep laid continued long called links
    obtain ⟨later, first, laid⟩ := laid.append_inv
    rw [wording, List.length_append] at deep
    rcases readsKey with ⟨name, rfl⟩ | ⟨inner, rfl, readsInner⟩
    · obtain ⟨n, later, rfl, -, laid⟩ := laid.cons_inv
      obtain ⟨k, rfl, -⟩ := laid_singleton laid
      exact reads.member strong plain (by omega) first rfl (by simp [NoShortLink, next?]) (by simp [next?])
        (.dot simple links)
    · obtain ⟨n, later, rfl, -, laid⟩ := laid.cons_inv
      obtain ⟨close, laid, closing⟩ := laid.append_inv
      obtain ⟨k, rfl, -⟩ := laid_singleton closing
      simp only [PropertyKey.memberWording, List.length_cons, List.length_append] at deep
      have value := readsInner.within (m := false) (d := d) plain (by omega) laid rfl
      have index := phrase_expression value (by simp [next?])
      exact reads.member strong plain (by omega) first rfl (by simp [NoShortLink, next?]) (by simp [next?])
        (.index simple index links)

theorem reads_call {callee : Expr} {args : List Element} (reads : callee.Reads)
    (strong : 15 ≤ callee.strength) (called : callee.mayBeCalled)
    (readsArgs : ∀ arg ∈ args, ∃ value, arg = .item 0 value ∧ value.Reads) :
    (call callee args).Reads := by
  have begins ⦃ps rest : List Piece⦄ (laid : Laid (call callee args).wording ps rest) :
      beginsOperand ps = true := by
    obtain ⟨later, laid, -⟩ := laid.append_inv
    exact reads.begins (Nat.le_trans (by decide) strong) laid
  have starts ⦃ps rest : List Piece⦄ (laid : Laid (call callee args).wording ps rest) :=
    startsExpr_of_beginsOperand (begins laid)
  have left : (call callee args).ReadsLeft := by
    intro m c d ps rest plain deep laid ends long
    obtain ⟨later, first, laid⟩ := laid.append_inv
    obtain ⟨n, later, rfl, -, laid⟩ := laid.cons_inv
    simp only [wording, List.length_cons, List.length_append, List.length_nil,
      elementsWording_eq] at deep laid
    obtain ⟨d, rfl⟩ : ∃ k, d = k + 1 := ⟨d - 1, by omega⟩
    have callable := isCallee_of_strength (Nat.le_trans (by decide) strong)
    have head : Phrase m (memberExpr (grammar d)) unplaced c ps callee (⟨.openParen, n⟩ :: later) :=
      reads.member strong plain (by omega) first rfl (by simp [NoShortLink, next?])
        (fun _ => called) (.done (by simp [endsChain, next?]))
    refine phrase_called (reads.begins (by omega) first) callable head ?_ (.done (endsChain_of_endsOperand ends long _))
    refine enclosed_of_laid rfl (fun arg member ps rest laid ends => ?_) laid
    obtain ⟨value, rfl, reads⟩ := readsArgs arg member
    have shorter := length_le_separated Element.wording member
    simp only [Element.wording] at shorter laid
    have value := reads.within (m := false) (c := c) (d := d + 1) plain (by omega) laid
      (ends.mono closes_of_separates)
    have starts := reads.starts laid
    exact ⟨starts.ne rfl, phrase_item (starts.ne rfl) value⟩
  have unary := left.unary rfl begins
  exact .of_operators starts (fun _ => begins) (fun strong => absurd strong (by simp [strength]))
    (fun _ => unary) (unary.operators rfl) (by simp [strength]) rfl (by simp)

theorem reads_not {inner : Expr} (reads : inner.Reads) (strong : 13 ≤ inner.strength) :
    (unary .not inner).Reads := by
  have starts ⦃ps rest : List Piece⦄ (laid : Laid (unary .not inner).wording ps rest) :
      Next startsExpr ps := by
    obtain ⟨n, later, rfl, -, -⟩ := laid.cons_inv
    rfl
  have reads : (unary .not inner).ReadsUnary := by
    intro m c d ps rest plain deep laid ends long
    obtain ⟨n, later, rfl, -, laid⟩ := laid.cons_inv
    rw [wording, List.length_cons] at deep
    obtain ⟨d, rfl⟩ : ∃ k, d = k + 1 := ⟨d - 1, by omega⟩
    have operand := reads.unary strong (m := false) (d := d) plain (by omega) laid ends long
    exact phrase_not operand
  exact .of_operators starts (fun strong => absurd strong (by simp [strength]))
    (fun strong => absurd strong (by simp [strength])) (fun _ => reads) (reads.operators rfl)
    (by simp [strength]) rfl (by simp)

theorem reads_binary {op : BinaryOp} {left right : Expr} (regular : op.isRegular)
    (readsLeft : left.Reads) (readsRight : right.Reads) (strongLeft : op.precedence < left.strength)
    (strongRight : op.precedence + 1 < right.strength) : (binary op left right).Reads := by
  have positive : 1 ≤ op.precedence := by cases op <;> decide
  have weak : op.precedence ≤ 11 := by cases op <;> decide
  simp only [BinaryOp.isRegular, Bool.and_eq_true, Bool.not_eq_true', bne_iff_ne, ne_eq] at regular
  have starts ⦃ps rest : List Piece⦄ (laid : Laid (binary op left right).wording ps rest) :
      Next startsExpr ps := by
    obtain ⟨later, laid, -⟩ := laid.append_inv
    exact readsLeft.starts laid
  have notNullish : isLogicalOfNullish (binary op left right) = false := by
    cases left with
    | binary inner l r => 
        have := readsLeft.notNullish l r
        cases inner <;> first | rfl | exact absurd rfl this
    | _ => rfl
  have operators : (binary op left right).ReadsOperators := by
    intro m c d minimum ps rest after whole plain deep laid ends long weaker stronger others
    obtain ⟨later, first, laid⟩ := laid.append_inv
    obtain ⟨n, later, rfl, -, laid⟩ := laid.cons_inv
    simp only [strength] at weaker stronger
    simp only [wording, List.length_append, List.length_cons] at deep
    obtain ⟨d, rfl⟩ : ∃ k, d = k + 1 := ⟨d - 1, by omega⟩
    -- The right side ends where nothing binds more strongly than `op`; then the left side goes on
    -- with the operators around.
    have done : Operators (grammar d) op.precedence c right rest right rest :=
      .done readsRight.regular fun op' here => Nat.le_of_lt_succ (weaker op' here)
    obtain ⟨operand, next, one, -, inner⟩ := readsRight.operators (by omega) (m := false)
      plain (by omega) laid ends long
      (fun op' here => Nat.lt_trans (Nat.lt_of_lt_of_le (weaker op' here) (by omega)) strongRight)
      strongRight done
    have linked : Operators (grammar (d + 1)) minimum c left (⟨.binary op, n⟩ :: later) whole after :=
      .operator readsLeft.regular (by omega) ⟨regular.1.2, regular.2⟩ one inner others
    refine readsLeft.operators (by omega) (m := m) plain (by omega) first rfl
      (by simp [NoShortLink, next?]) (fun op' here => ?_) (by omega) linked
    cases here
    exact strongLeft
  refine .of_operators starts (fun strong => absurd strong (by simp only [strength]; omega))
    (fun strong => absurd strong (by simp only [strength]; omega))
    (fun strong => absurd strong (by simp only [strength]; omega)) operators
    (by simp only [strength]; omega) notNullish ?_
  rintro l r ⟨⟩
  exact regular.2 rfl

theorem Reads.of_assignment {e : Expr} (starts : ∀ ⦃ps rest⦄, Laid e.wording ps rest → Next startsExpr ps)
    (assignment : e.ReadsAssignment) (weak : e.strength ≤ 1) : e.Reads where
  starts := starts
  begins strong := absurd strong (by omega)
  member strong := absurd strong (by omega)
  unary strong := absurd strong (by omega)
  operators strong := absurd strong (by omega)
  assignment := assignment
  regular := by
    cases e with
    | binary op => cases op <;> exact absurd weak (by simp [strength, BinaryOp.precedence])
    | _ => rfl
  notNullish := by
    rintro left right rfl
    exact absurd weak (by simp [strength, BinaryOp.precedence])

theorem reads_conditional {test yes no : Expr} (readsTest : test.Reads) (readsYes : yes.Reads)
    (readsNo : no.Reads) (strong : 2 ≤ test.strength) : (conditional test yes no).Reads := by
  refine .of_assignment (fun ps rest laid => ?_) ?_ (by simp [strength])
  · obtain ⟨later, laid, -⟩ := laid.append_inv
    exact readsTest.starts laid
  · intro m c d ps rest plain deep laid ends
    obtain ⟨later, first, laid⟩ := laid.append_inv
    obtain ⟨n, later, rfl, -, laid⟩ := laid.cons_inv
    obtain ⟨colon, second, laid⟩ := laid.append_inv
    obtain ⟨k, third, rfl, -, laid⟩ := laid.cons_inv
    simp only [wording, List.length_append, List.length_cons] at deep
    obtain ⟨d, rfl⟩ : ∃ k, d = k + 2 := ⟨d - 2, by omega⟩
    have long : NoShortLink (⟨.question, n⟩ :: later) := fun _ => (readsYes.starts second).ne rfl
    have done : Operators (grammar d) 0 c test (⟨.question, n⟩ :: later) test
        (⟨.question, n⟩ :: later) := .done readsTest.regular (by simp [next?, operator?])
    obtain ⟨operand, next, one, simple, operators⟩ := readsTest.operators strong
      (m := maySayArrow ps) plain (by omega) first rfl long (by simp [next?, operator?]) strong done
    have yes := readsYes.within (m := false) (c := c) (d := d + 1) plain (by omega) second rfl
    have no := readsNo.assignment (m := false) (d := d + 1) plain (by omega) laid ends
    exact phrase_value (g := grammar (d + 1)) plain (phrase_conditional simple one operators yes no)
      fun op => ends.ne rfl

theorem reads_assign {whole value : Expr} {key : PropertyKey} (reads : (member whole key).Reads)
    (readsValue : value.Reads) :
    (assign .assign (.expr (member whole key)) value).Reads := by
  refine .of_assignment (fun ps rest laid => ?_) ?_ (by simp [strength])
  · obtain ⟨later, laid, -⟩ := laid.append_inv
    exact reads.starts laid
  · intro m c d ps rest plain deep laid ends
    obtain ⟨later, first, laid⟩ := laid.append_inv
    obtain ⟨n, later, rfl, -, laid⟩ := laid.cons_inv
    rw [wording, List.length_append, List.length_cons, Pattern.wording] at deep
    obtain ⟨d, rfl⟩ : ∃ k, d = k + 2 := ⟨d - 2, by omega⟩
    have target : Phrase (maySayArrow ps) (conditionalExpr (grammar (d + 1))) unplaced c ps
        (member whole key) (⟨.assign .assign, n⟩ :: later) :=
      (reads.operators (by simp [strength])).conditional (by simp [strength]) reads.regular plain
        (by omega) first rfl
    have value := readsValue.assignment (m := false) (d := d + 1) plain (by omega) laid ends
    exact phrase_assign (g := grammar (d + 1)) plain target value

theorem separated_params (names : List String) :
    Separated Element.wording (names.map fun name => .item 0 (ident name)) =
      patternsWording (names.map .ident) := by
  induction names with
  | nil => rfl
  | cons name others ih =>
      simp only [List.map_cons, Separated, patternsWording, ih]
      cases others <;> rfl

theorem arrow_inv {names : List String} {body : List Piece} (bound : ∀ name ∈ names, MayBind name)
    (plain : c.IsPlain) (deep : 3 ≤ d)
    (laid : Laid (loose .openParen :: (patternsWording (names.map .ident) ++
      loose .closeParen :: tied .arrow :: body)) ps rest) :
    ∃ n head later, ps = ⟨.openParen, n⟩ :: head ∧ Laid body later rest ∧
      Enclosed (element (grammar d)) Element.unplaced { c with includeIn := true } .closeParen head
        (names.map fun name => .item 0 (ident name)) (⟨.arrow, false⟩ :: later) := by
  obtain ⟨n, head, rfl, -, laid⟩ := laid.cons_inv
  obtain ⟨later, params, laid⟩ := laid.append_inv
  obtain ⟨k, later, rfl, -, laid⟩ := laid.cons_inv
  obtain ⟨l, later, rfl, line, afterHead⟩ := laid.cons_inv
  -- No line may end before the arrow.
  obtain rfl : l = false := by
    cases l with
    | false => rfl
    | true => exact (line rfl).symm
  refine ⟨n, head, later, rfl, afterHead, ?_⟩
  -- The reader takes the parameters for the elements of a group first.
  rw [← separated_params] at params
  refine enclosed_of_laid rfl (fun item member ps rest laid ends => ?_)
    (params.append (.cons (fun _ => rfl) .nil))
  obtain ⟨name, isParam, rfl⟩ := List.mem_map.1 member
  have reads := reads_ident (bound name isParam).named
  have starts := reads.starts laid
  have value := reads.within (m := false) (c := { c with includeIn := true }) (d := d) plain deep
    laid (ends.mono closes_of_separates)
  exact ⟨starts.ne rfl, phrase_item (starts.ne rfl) value⟩

theorem maySayArrow_openParen {n : Bool} {ps : List Piece} :
    maySayArrow (⟨.openParen, n⟩ :: ps) = true := rfl

theorem reads_arrow {names : List String} {value : Expr} (bound : ∀ name ∈ names, MayBind name)
    (reads : value.Reads) (noBlock : ∀ ⦃ps rest⦄, Laid value.wording ps rest → next? ps ≠ some .openBrace) :
    (arrow false (names.map .ident) value).Reads := by
  refine .of_assignment (fun ps rest laid => ?_) ?_ (by simp [strength])
  · obtain ⟨n, later, rfl, -, -⟩ := laid.cons_inv
    rfl
  · intro m c d ps rest plain deep laid ends
    simp only [wording, List.length_cons, List.length_append] at deep
    obtain ⟨d, rfl⟩ : ∃ k, d = k + 3 := ⟨d - 3, by omega⟩
    obtain ⟨n, head, later, rfl, laid, enclosed⟩ :=
      arrow_inv (c := c) (d := d) bound plain (by omega) laid
    have inner := reads.assignment (m := false) (c := c.inArrow) (d := d) ?_ (by omega) laid ends
    · refine phrase_arrow rfl plain rfl ?_
      rw [maySayArrow_openParen]
      exact phrase_arrowOf enclosed bound (takes_arrowValue inner (noBlock laid)) inner.shorter
        fun op => ends.ne rfl
    · exact ⟨plain.1, plain.2.1, rfl, rfl, plain.2.2.2.2⟩

theorem reads_arrowBlock {names : List String} {body : List Stmt}
    (bound : ∀ name ∈ names, MayBind name)
    (reads : ∀ ⦃c d ps rest⦄, c.IsPlain → c.inFunction = true →
      3 * (stmtsWording body).length ≤ d → Laid (stmtsWording body) ps rest →
      next? rest = some .closeBrace →
      Sequence ((grammar d).statement true) Stmt.unplaced InBlock c rest ps body) :
    (arrowBlock false (names.map .ident) body).Reads := by
  refine .of_assignment (fun ps rest laid => ?_) ?_ (by simp [strength])
  · obtain ⟨n, later, rfl, -, -⟩ := laid.cons_inv
    rfl
  · intro m c d ps rest plain deep laid ends
    simp only [wording, List.length_cons, List.length_append, List.length_nil] at deep
    obtain ⟨d, rfl⟩ : ∃ k, d = k + 3 := ⟨d - 3, by omega⟩
    obtain ⟨n, head, later, rfl, laid, enclosed⟩ :=
      arrow_inv (c := c) (d := d) bound plain (by omega) laid
    obtain ⟨k, later, rfl, -, laid⟩ := laid.cons_inv
    obtain ⟨close, laid, closing⟩ := laid.append_inv
    obtain ⟨l, rfl, -⟩ := laid_singleton closing
    have sequence := reads (c := { c.inArrow with topLevel := false }) (d := d)
      ⟨plain.1, plain.2.1, rfl, rfl, plain.2.2.2.2⟩ rfl (by omega) laid rfl
    have shorter := sequence.length_le
    simp only [List.length_cons] at shorter
    refine phrase_arrow rfl plain rfl ?_
    rw [maySayArrow_openParen]
    refine phrase_arrowOf enclosed bound (takes_arrowBlock (takes_functionBlock sequence) rfl) ?_
      fun op => ends.ne rfl
    simp only [List.length_cons]
    omega

end

end Expr

end Enclose.Script
