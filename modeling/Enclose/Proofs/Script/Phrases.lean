import Enclose.Proofs.Script.Takes
import Enclose.Proofs.Script.Unplaced

/-!
# Expressions in a sequence of tokens

For the forms of expressions that generated code is made of, what the parser takes from tokens that
spell them. The result is known up to the places in it.
-/

namespace Enclose.Script.Parser

/-- A context in a module, outside of asynchronous functions, generators and fields of classes. -/
def Context.IsPlain (c : Context) : Prop :=
  c.isModule = true ∧ c.strict = true ∧ c.inGenerator = false ∧ c.inAsync = false ∧
    c.inField = false

def IsName (name : String) : Prop := name ∉ alwaysReserved ++ complainedWords ++ ["await"]

namespace IsName

variable {name : String}

theorem ne (named : IsName name) (word : String)
    (reserved : word ∈ alwaysReserved ++ complainedWords ++ ["await"]) : name ≠ word :=
  fun same => named (same ▸ reserved)

theorem parts (named : IsName name) :
    name ∉ alwaysReserved ∧ name ∉ complainedWords ∧ name ∉ strictReserved := by
  simp only [IsName, List.mem_append, not_or] at named
  refine ⟨named.1.1, named.1.2, fun strict => named.1.2 ?_⟩
  exact List.mem_append_right _ strict

end IsName

def IsUnreserved (name : String) : Prop :=
  name ∉ alwaysReserved ++ strictReserved ++ ["let", "await", "yield"]

theorem IsName.isUnreserved {name : String} (named : IsName name) : IsUnreserved name := by
  simp [IsUnreserved, named.ne "let" (by decide), named.ne "await" (by decide), named.ne "yield" (by decide), named.parts]

theorem IsUnreserved.reserves {name : String} (free : IsUnreserved name) (c : Context) :
    c.reserves name = false := by
  simp only [IsUnreserved, List.mem_append, List.mem_cons, List.not_mem_nil, or_false, not_or] at free
  simp [Context.reserves, free]

theorem isUnreserved_of_reserves {c : Context} {name : String} (inModule : c.isModule = true)
    (strict : c.strict = true) (free : c.reserves name = false) : IsUnreserved name := by
  intro member
  simp only [List.mem_append, List.mem_cons, List.not_mem_nil, or_false] at member
  simp only [Context.reserves, inModule, strict, Bool.or_true] at free
  split at free
  case isTrue => cases free
  split at free
  case isTrue => cases free
  split at free
  case isTrue => cases free
  simp_all

/-! ## Phrases -/

variable {α β : Type} {m n : Bool} {c : Context} {ps rest : List Piece}

/-- From the first tokens, at least one, a parser takes something that looks as it is said, and it
stops before the rest. -/
structure Phrase (m : Bool) (p : Parse α) (look : α → β) (c : Context) (ps : List Piece) (b : β)
    (rest : List Piece) : Prop where
  takes : Takes p ⟨ps, c, m⟩ (look · = b) ⟨rest, c, false⟩
  shorter : rest.length < ps.length

theorem Phrase.forget {p : Parse α} {look : α → β} {b : β} (phrase : Phrase false p look c ps b rest) :
    Phrase m p look c ps b rest :=
  ⟨phrase.takes.forget, phrase.shorter⟩

variable {name : String}

theorem takes_plainName :
    Takes plainName ⟨⟨.word name, n⟩ :: ps, c, m⟩ (· = name) ⟨ps, c, false⟩ :=
  .step .demand (.bind .advance fun _ _ => .pure rfl)

def leavesName (name : String) (ps : List Piece) : Bool :=
  match next? ps with
  | some .arrow => false
  | some .openParen | some (.word _) => name != "async"
  | _ => true

theorem takes_asyncArrow?_none (g : Grammar) (noWord : ∀ word, next? ps ≠ some (.word word)) :
    Takes (asyncArrow? g) ⟨ps, c, m⟩ (· = none) ⟨ps, c, m⟩ := by
  refine .bind .getState fun s _ => .step .atIdent ?_
  dsimp only
  split
  case h_1 word here => exact absurd here (noWord word)
  case h_2 => exact .pure rfl

theorem leavesName_async {name : String} (async : name = "async") (leaves : leavesName name ps) :
    (∀ word, next? ps ≠ some (.word word)) ∧ next? ps ≠ some .openParen := by
  constructor
  · intro word here
    simp [leavesName, here, async] at leaves
  · intro here
    simp [leavesName, here, async] at leaves

theorem takes_async_false {question : Parse Bool}
    (quiet : ∀ n, name = "async" → Takes question ⟨⟨.word name, n⟩ :: ps, c, m⟩ (· = false)
      ⟨⟨.word name, n⟩ :: ps, c, m⟩) :
    Takes (do if ← atWord "async" then question else return false) ⟨⟨.word name, n⟩ :: ps, c, m⟩
      (· = false) ⟨⟨.word name, n⟩ :: ps, c, m⟩ := by
  by_cases async : name = "async"
  · rw [async]
    exact (Takes.at?_self _).step (async ▸ quiet n async)
  · exact (Takes.at?_other (by rintro ⟨⟩; exact async rfl)).step (.pure rfl)

theorem takes_atAsyncFunction_false (noWord : name = "async" → ∀ word, next? ps ≠ some (.word word)) :
    Takes atAsyncFunction ⟨⟨.word name, n⟩ :: ps, c, m⟩ (· = false)
      ⟨⟨.word name, n⟩ :: ps, c, m⟩ := by
  refine takes_async_false fun _ async => .step .aheadToken? (.step .newlineAhead (.pure ?_))
  have other := beq_eq_false_iff_ne.2 (noWord async "function")
  exact (congrArg (· && _) other).trans (Bool.false_and _)

theorem takes_atAsyncParen_false (noParen : name = "async" → next? ps ≠ some .openParen) :
    Takes atAsyncParen ⟨⟨.word name, n⟩ :: ps, c, m⟩ (· = false)
      ⟨⟨.word name, n⟩ :: ps, c, m⟩ := by
  refine takes_async_false fun _ async => .step .aheadToken? (.step .newlineAhead (.pure ?_))
  have other := beq_eq_false_iff_ne.2 (noParen async)
  exact (congrArg (· && _) other).trans (Bool.false_and _)

section
variable (plain : c.IsPlain)
include plain

theorem takes_identifier (named : IsName name) (yieldAllowed awaitAllowed : Bool) :
    Takes (identifier yieldAllowed awaitAllowed) ⟨⟨.word name, n⟩ :: ps, c, m⟩ (· = name)
      ⟨ps, c, false⟩ := by
  refine .step .demand (.bind .advance fun _ _ => .bind .previousPlace fun start _ => ?_)
  simp only [beq_iff_eq, named.ne "enum" (by decide), named.ne "await" (by decide), named.ne "yield" (by decide), named.parts,
    List.contains_eq_mem, decide_false, Bool.false_eq_true, Bool.false_and, if_false]
  refine (Takes.inContext _).step ?_
  simp only [plain.2.2.2.2, Bool.and_false, Bool.false_eq_true, if_false]
  exact .pure rfl

theorem takes_identOperand (named : IsName name) (g : Grammar) (mayBeArrow : Bool)
    (leaves : leavesName name ps) :
    Takes (identOperand g mayBeArrow) ⟨⟨.word name, n⟩ :: ps, c, m⟩ (· = .ident name)
      ⟨ps, c, false⟩ := by
  have noArrow : next? ps ≠ some .arrow := by
    intro arrow
    simp [leavesName, arrow] at leaves
  have arrowless (body : Parse Expr) : Takes (do
      if ← eat .arrow then body else return .ident name) ⟨ps, c, false⟩ (· = .ident name)
      ⟨ps, c, false⟩ :=
    (Takes.eat_other noArrow).step (.pure rfl)
  refine .bind .getState fun s _ => .bind .place fun start _ => ?_
  refine (takes_identifier plain named _ _).step ?_
  cases mayBeArrow with
  | false => exact .pure rfl
  | true =>
      refine Takes.afterNewline.step ?_
      dsimp only
      split
      case isTrue => exact .pure rfl
      split
      case isTrue async =>
        rw [beq_iff_eq] at async
        have noWord := (leavesName_async async leaves).1
        exact (takes_asyncArrow?_none g noWord).step (arrowless _)
      case isFalse => exact arrowless _

theorem phrase_name (named : IsName name) (g : Grammar) (heritage : Parse Expr)
    (leaves : leavesName name ps) :
    Phrase m (operand g heritage) Expr.unplaced c (⟨.word name, n⟩ :: ps) (.ident name) ps := by
  refine ⟨?_, Nat.lt_succ_self _⟩
  unfold operand
  refine .bind .demandToken fun _ _ => .asksArrow fun start s _ => ?_
  extract_lets mayBeArrow literal
  refine Takes.token?.step ?_
  have here : next? (⟨.word name, n⟩ :: ps) = some (.word name) := rfl
  dsimp only
  rw [here]
  split
  case h_18 word _ _ _ _ _ _ same =>
    cases same
    refine (takes_atAsyncFunction_false fun async => (leavesName_async async leaves).1).step ?_
    have variable_ : Takes (do
        let ident ← atIdent
        if name == "let" || ident then identOperand g mayBeArrow else fail .expectedExpression)
        ⟨⟨.word name, n⟩ :: ps, c, m⟩ (·.unplaced = .ident name) ⟨ps, c, false⟩ := by
      refine Takes.atIdent.step ?_
      simp only [here, named.isUnreserved.reserves, Bool.not_false, Bool.or_true, if_true]
      exact (takes_identOperand plain named g mayBeArrow leaves).mono fun _ same => by rw [same]; rfl
    simp only [Bool.false_eq_true, if_false]
    split
    case isTrue =>
      refine (takes_atAsyncParen_false fun async => (leavesName_async async leaves).2).step ?_
      exact variable_
    case isFalse => exact variable_
  case h_19 other => exact absurd rfl (other name)
  -- Every other word here is reserved, so it is no name.
  all_goals
    rename_i same
    cases same
    try exact absurd (by decide) named

end

/-- The value that a word stands for in any code. -/
def valueOf? : String → Option Expr
  | "this" => some .this
  | "null" => some .null
  | "true" => some (.bool true)
  | "false" => some (.bool false)
  | _ => none

section
variable (g : Grammar) (heritage : Parse Expr)

theorem phrase_valueWord {word : String} {e : Expr} (value : valueOf? word = some e) :
    Phrase m (operand g heritage) Expr.unplaced c (⟨.word word, n⟩ :: ps) e ps := by
  refine ⟨.bind .demandToken fun _ _ => .asksArrow fun start s _ => Takes.token?.step ?_,
    Nat.lt_succ_self _⟩
  unfold valueOf? at value
  split at value <;> cases value
  all_goals exact Takes.advance.bind fun _ _ => .pure rfl

theorem phrase_string (lit : StringLit) :
    Phrase m (operand g heritage) Expr.unplaced c (⟨.string lit, n⟩ :: ps) (.string lit) ps := by
  refine ⟨.bind .demandToken fun _ _ => .asksArrow fun start s _ => Takes.token?.step ?_,
    Nat.lt_succ_self _⟩
  exact Takes.advance.bind fun _ _ => .pure rfl

end

/-! ## Members and calls -/

def endsChain (noCall : Bool) (ps : List Piece) : Bool :=
  match next? ps with
  | some .dot | some .openBracket | some .backquote => false
  | some .openParen => noCall
  | some .question => next? ps.tail != some .dot
  | _ => true

theorem takes_atShortLink_false (long : next? ps = some .question → next? ps.tail ≠ some .dot) :
    Takes atShortLink ⟨ps, c, m⟩ (· = false) ⟨ps, c, m⟩ := by
  by_cases question : next? ps = some .question
  · refine (Takes.at? _).step ?_
    dsimp only
    rw [question]
    exact Takes.aheadToken?.step (.pure (beq_eq_false_iff_ne.2 (long question)))
  · exact (Takes.at?_other question).step (.pure rfl)

theorem takes_memberName {name : String} :
    Takes memberName ⟨⟨.word name, n⟩ :: ps, c, m⟩ (· = .ident name) ⟨ps, c, false⟩ :=
  (Takes.at?_other (by simp [next?])).step (takes_plainName.step (.pure rfl))

theorem isChain_unplaced (e : Expr) : isChain e.unplaced = isChain e := by cases e <;> rfl

theorem takes_memberOf {e : Expr} (simple : isChain e = false) (noCall : Bool) (key : PropertyKey)
    {v : View} : Takes (memberOf (.expr e) false noCall key) v (· = .member e key) v := by
  simp only [memberOf, simple, Bool.or_self, Bool.false_eq_true, if_false]
  exact .pure rfl

theorem takes_callOf {e : Expr} (simple : isChain e = false) (args : List Element) {v : View} :
    Takes (callOf (.expr e) false args) v (· = .call e args) v := by
  simp only [callOf, simple, Bool.or_self, Bool.false_eq_true, if_false]
  exact .pure rfl

/-- From an operand that looks as it is said, members and calls lead to an expression. -/
structure Links (g : Grammar) (noCall : Bool) (c : Context) (e : Expr) (ps : List Piece)
    (whole : Expr) (rest : List Piece) : Prop where
  loops : ∀ start e', e'.unplaced = e → Loops (subscript g start noCall) (.expr e') ⟨ps, c, false⟩
    (·.unplaced = whole) ⟨rest, c, false⟩
  length_le : rest.length ≤ ps.length

namespace Links

variable {g : Grammar} {noCall k : Bool} {e whole : Expr} {later : List Piece}

theorem done (ends : endsChain noCall ps) : Links g noCall c e ps e ps := by
  refine ⟨fun start e' looks => ?_, Nat.le_refl _⟩
  have long : next? ps = some .question → next? ps.tail ≠ some .dot := by
    intro question
    simpa [endsChain, question] using ends
  have others : next? ps ≠ some .openBracket ∧ next? ps ≠ some .dot ∧ next? ps ≠ some .backquote := by
    refine ⟨?_, ?_, ?_⟩ <;> (intro here; simp [endsChain, here] at ends)
  have call : (next? ps == some .openParen && (false || !noCall)) = false := by
    by_cases paren : next? ps = some .openParen
    · have : noCall = true := by simpa [endsChain, paren] using ends
      simp [this]
    · simp [paren]
  refine .done (.bind .demandToken fun _ _ => (takes_atShortLink_false long).step ?_)
  refine Takes.token?.step ?_
  simp only [beq_eq_false_iff_ne.2 others.1, call, Bool.false_eq_true, if_false]
  refine (Takes.eat_other others.2.1).step ?_
  exact (Takes.at?_other others.2.2).step (.pure ⟨e', rfl, looks⟩)

theorem next {linked : Expr} (simple : isChain e = false)
    (first : ∀ start e', e'.unplaced = e → isChain e' = false →
      Takes (subscript g start noCall (.expr e')) ⟨ps, c, false⟩
        (fun result => ∃ e'', result = .inl (.expr e'') ∧ e''.unplaced = linked) ⟨later, c, false⟩)
    (shorter : later.length < ps.length) (others : Links g noCall c linked later whole rest) :
    Links g noCall c e ps whole rest := by
  refine ⟨fun start e' looks => .next ((first start e' looks ?_).mono ?_) shorter,
    Nat.le_of_lt (Nat.lt_of_le_of_lt others.length_le shorter)⟩
  · rw [← isChain_unplaced, looks, simple]
  · rintro _ ⟨e'', rfl, looks⟩
    exact ⟨_, rfl, others.loops start e'' looks⟩

theorem dot {name : String} (simple : isChain e = false)
    (others : Links g noCall c (.dot e name) ps whole rest) :
    Links g noCall c e (⟨.dot, n⟩ :: ⟨.word name, k⟩ :: ps) whole rest := by
  refine next simple (fun start e' looks simple => ?_) (by simp +arith) others
  refine .bind .demandToken fun _ _ => (takes_atShortLink_false (by simp [next?])).step ?_
  refine Takes.token?.step ((Takes.eat .dot).step ?_)
  refine takes_memberName.step ((takes_memberOf simple noCall _).step (.pure ⟨_, rfl, ?_⟩))
  rw [Expr.unplaced, looks]
  rfl

theorem index {key : Expr} (simple : isChain e = false)
    (inner : Phrase false (expression g) Expr.unplaced { c with includeIn := true } ps key
      (⟨.closeBracket, k⟩ :: later))
    (others : Links g noCall c (.member e (.computed key)) later whole rest) :
    Links g noCall c e (⟨.openBracket, n⟩ :: ps) whole rest := by
  refine next simple (fun start e' looks simple => ?_) ?_ others
  · refine .bind .demandToken fun _ _ => (takes_atShortLink_false (by simp [next?])).step ?_
    refine Takes.token?.step (.bind .advance fun _ _ => .bind (.withContext inner.takes) ?_)
    intro key' looksKey
    refine .bind (.expect .closeBracket) fun _ _ => (takes_memberOf simple noCall _).step ?_
    refine .pure ⟨_, rfl, ?_⟩
    rw [Expr.unplaced, looks, PropertyKey.unplaced, looksKey]
  · have := inner.shorter
    simp only [List.length_cons] at this ⊢
    omega

end Links

/-! ## Lists -/

inductive Listed (p : Parse α) (look : α → β) (c : Context) (close : Token) :
    List Piece → List β → List Piece → Prop
  | last {ps rest : List Piece} {b : β} {n : Bool} : next? ps ≠ some close →
      Phrase false p look c ps b (⟨close, n⟩ :: rest) → Listed p look c close ps [b] rest
  | more {ps later rest : List Piece} {b : β} {bs : List β} {n : Bool} : next? ps ≠ some close →
      Phrase false p look c ps b (⟨.comma, n⟩ :: later) → Listed p look c close later bs rest →
      Listed p look c close ps (b :: bs) rest

theorem Listed.starts {p : Parse α} {look : α → β} {close : Token} {bs : List β}
    (listed : Listed p look c close ps bs rest) : next? ps ≠ some close := by
  cases listed <;> assumption

inductive Enclosed (p : Parse α) (look : α → β) (c : Context) (close : Token) :
    List Piece → List β → List Piece → Prop
  | empty {rest : List Piece} {n : Bool} : Enclosed p look c close (⟨close, n⟩ :: rest) [] rest
  | some {ps rest : List Piece} {bs : List β} :
      Listed p look c close ps bs rest → Enclosed p look c close ps bs rest

section
variable {p : Parse α} {look : α → β} {close : Token} {bs : List β}

theorem Listed.shorter (listed : Listed p look c close ps bs rest) : rest.length < ps.length := by
  induction listed with
  | last _ one =>
      have := one.shorter
      simp only [List.length_cons] at this
      omega
  | more _ one _ ih =>
      have := one.shorter
      simp only [List.length_cons] at this
      omega

theorem Enclosed.shorter (enclosed : Enclosed p look c close ps bs rest) :
    rest.length < ps.length := by
  cases enclosed with
  | empty => exact Nat.lt_succ_self _
  | some listed => exact listed.shorter

theorem Phrase.ne_nil {b : β} (phrase : Phrase m p look c ps b rest) : ps.isEmpty = false := by
  cases ps with
  | nil => exact absurd phrase.shorter (Nat.not_lt_zero _)
  | cons => rfl

end

section
variable {p : Parse α} {look : α → β} {close : Token} {bs : List β} {σ γ : Type}
variable {step : σ → Parse (σ ⊕ γ)} {shown : σ → List β → Prop} {R : List β → γ → Prop}

structure ReadsList (p : Parse α) (look : α → β) (admits : β → Prop) (c : Context) (close : Token)
    (step : σ → Parse (σ ⊕ γ)) (shown : σ → List β → Prop) (R : List β → γ → Prop) : Prop where
  last : ∀ {s before ps b n rest}, shown s before → admits b → next? ps ≠ some close →
    Phrase false p look c ps b (⟨close, n⟩ :: rest) → Takes (step s) ⟨ps, c, false⟩
      (fun result => ∃ s', result = .inl s' ∧ shown s' (b :: before)) ⟨⟨close, n⟩ :: rest, c, false⟩
  more : ∀ {s before ps b n later}, shown s before → admits b → next? ps ≠ some close →
    Phrase false p look c ps b (⟨.comma, n⟩ :: later) → next? later ≠ some close →
    Takes (step s) ⟨ps, c, false⟩ (fun result => ∃ s', result = .inl s' ∧ shown s' (b :: before))
      ⟨later, c, false⟩
  done : ∀ {s before n rest}, shown s before → Takes (step s) ⟨⟨close, n⟩ :: rest, c, false⟩
    (fun result => ∃ x, result = .inr x ∧ R before.reverse x) ⟨rest, c, false⟩

namespace ReadsList

variable {admits : β → Prop}

theorem loops (reads : ReadsList p look admits c close step shown R)
    (listed : Listed p look c close ps bs rest) : (∀ b ∈ bs, admits b) →
      ∀ {s before}, shown s before →
        Loops step s ⟨ps, c, false⟩ (R (before.reverse ++ bs)) ⟨rest, c, false⟩ := by
  induction listed with
  | @last ps rest b n starts one =>
      intro admitted s before known
      refine .next ((reads.last known (admitted b List.mem_cons_self) starts one).mono ?_) one.shorter
      rintro _ ⟨s', rfl, known⟩
      exact ⟨s', rfl, .done (by simpa using reads.done known)⟩
  | @more ps later rest b bs n starts one others ih =>
      intro admitted s before known
      have shorter : later.length < ps.length := by
        have := one.shorter
        simp only [List.length_cons] at this
        omega
      have first := reads.more known (admitted b List.mem_cons_self) starts one others.starts
      refine .next (first.mono ?_) shorter
      rintro _ ⟨s', rfl, known⟩
      exact ⟨s', rfl, by simpa using ih (fun b member => admitted b (.tail _ member)) known⟩

theorem takes (reads : ReadsList p look admits c close step shown R) {s : σ} (known : shown s [])
    (admitted : ∀ b ∈ bs, admits b) (enclosed : Enclosed p look c close ps bs rest) :
    Takes (iterate step s) ⟨ps, c, false⟩ (R bs) ⟨rest, c, false⟩ := by
  refine .iterate ?_
  cases enclosed with
  | empty => exact .done (reads.done known)
  | some listed => exact reads.loops listed admitted known

end ReadsList

end

/-! ## Arguments -/

section
variable {g : Grammar}

theorem phrase_item {e : Expr} (starts : next? ps ≠ some .ellipsis)
    (inner : Phrase m g.assignment Expr.unplaced { c with includeIn := true } ps e rest) :
    Phrase m (element g) Element.unplaced c ps (.item 0 e) rest := by
  refine ⟨.bind .place fun start _ => (Takes.eat_other starts).step ?_, inner.shorter⟩
  exact .bind (.withContext inner.takes) fun e' looks => .pure (by rw [Element.unplaced, looks])

def argumentStep (g : Grammar) (start : Nat) (isImport : Bool) (args : List Element) :
    Parse (List Element ⊕ List Element) := do
  if (← atEnd) || (← at? .closeParen) then
    expect .closeParen
    return .inr args.reverse
  else if args.isEmpty then return .inl [← element g]
  else
    expect .comma
    if ← at? .closeParen then
      if isImport then failAt start .importCommaAtEnd
      return .inl args
    else return .inl ((← element g) :: args)

theorem arguments_eq (g : Grammar) (isImport : Bool) :
    arguments g isImport = place >>= fun start => expect .openParen >>= fun _ =>
      iterate (argumentStep g start isImport) [] :=
  rfl

def FromArgument (args : List Element) (ps qs : List Piece) : Prop :=
  args = [] ∧ qs = ps ∨ args ≠ [] ∧ ∃ n, qs = ⟨.comma, n⟩ :: ps

theorem FromArgument.length_le {args : List Element} {qs : List Piece}
    (from_ : FromArgument args ps qs) : ps.length ≤ qs.length := by
  rcases from_ with ⟨-, rfl⟩ | ⟨-, n, rfl⟩
  · exact Nat.le_refl _
  · exact Nat.le_succ _

theorem takes_argument {start : Nat} {args : List Element} {arg : Element} {qs : List Piece}
    (starts : next? ps ≠ some .closeParen)
    (one : Phrase false (element g) Element.unplaced c ps arg rest) (from_ : FromArgument args ps qs) :
    Takes (argumentStep g start false args) ⟨qs, c, false⟩
      (fun result => ∃ arg', result = .inl (arg' :: args) ∧ arg'.unplaced = arg) ⟨rest, c, false⟩ := by
  have reads : Takes (do return Sum.inl ((← element g) :: args)) ⟨ps, c, false⟩
      (fun result : List Element ⊕ List Element =>
        ∃ arg', result = .inl (arg' :: args) ∧ arg'.unplaced = arg) ⟨rest, c, false⟩ :=
    one.takes.bind fun arg' looks => .pure ⟨arg', rfl, looks⟩
  rcases from_ with ⟨rfl, rfl⟩ | ⟨ne, n, rfl⟩
  · refine Takes.atEnd.step ((Takes.at?_other starts).step ?_)
    simp only [one.ne_nil, Bool.or_self, Bool.false_eq_true, if_false]
    exact reads
  · refine Takes.atEnd.step ((Takes.at?_other (by simp [next?])).step ?_)
    have some : args.isEmpty = false := by simpa using ne
    simp only [List.isEmpty_cons, Bool.or_self, some, Bool.false_eq_true, if_false]
    exact .bind (.expect .comma) fun _ _ => (Takes.at?_other starts).step reads

theorem loops_arguments {start : Nat} {bs : List Element} {qs : List Piece}
    (listed : Listed (element g) Element.unplaced c .closeParen ps bs rest) :
    ∀ args, FromArgument args ps qs → Loops (argumentStep g start false) args ⟨qs, c, false⟩
      (·.map Element.unplaced = args.reverse.map Element.unplaced ++ bs) ⟨rest, c, false⟩ := by
  induction listed generalizing qs with
  | @last ps rest arg n starts one =>
      intro args from_
      refine .next ((takes_argument starts one from_).mono ?_) ?_
      · rintro _ ⟨arg', rfl, looks⟩
        refine ⟨_, rfl, .done (Takes.atEnd.step ((Takes.at?_self _).step ?_))⟩
        refine .bind (.expect .closeParen) fun _ _ => .pure ⟨_, rfl, ?_⟩
        simp [looks]
      · exact Nat.lt_of_lt_of_le one.shorter from_.length_le
  | @more ps later rest arg bs n starts one _ ih =>
      intro args from_
      refine .next ((takes_argument starts one from_).mono ?_) ?_
      · rintro _ ⟨arg', rfl, looks⟩
        refine ⟨_, rfl, ?_⟩
        have others := ih (arg' :: args) (.inr ⟨List.cons_ne_nil _ _, n, rfl⟩)
        simpa [looks] using others
      · exact Nat.lt_of_lt_of_le one.shorter from_.length_le

theorem takes_arguments {args : List Element}
    (enclosed : Enclosed (element g) Element.unplaced c .closeParen ps args rest) :
    Takes (arguments g false) ⟨⟨.openParen, n⟩ :: ps, c, m⟩ (·.map Element.unplaced = args)
      ⟨rest, c, false⟩ := by
  rw [arguments_eq]
  refine .bind .place fun start _ => .bind (.expect .openParen) fun _ _ => .iterate ?_
  cases enclosed with
  | empty =>
      refine .done (Takes.atEnd.step ((Takes.at?_self _).step ?_))
      exact .bind (.expect .closeParen) fun _ _ => .pure ⟨_, rfl, rfl⟩
  | some listed => exact loops_arguments listed [] (.inl ⟨rfl, rfl⟩)

def beginsOperand (ps : List Piece) : Bool :=
  match next? ps with
  | some (.word name) =>
    !(["new", "super", "import", "await", "typeof", "void", "delete"].contains name)
  | some .openParen | some .openBrace | some (.string _) => true
  | _ => false

theorem beginsOperand_name {name : String} (named : IsName name) :
    beginsOperand (⟨.word name, n⟩ :: ps) = true := by
  simp [beginsOperand, next?, named.ne "new" (by decide), named.ne "super" (by decide), named.ne "import" (by decide),
    named.ne "await" (by decide), named.ne "typeof" (by decide), named.ne "void" (by decide), named.ne "delete" (by decide)]

theorem beginsOperand_ne {word : String} (begins : beginsOperand ps)
    (excluded : ["new", "super", "import", "await", "typeof", "void", "delete"].contains word = true) :
    next? ps ≠ some (.word word) := by
  intro here
  simp only [beginsOperand, here, excluded] at begins
  contradiction

theorem isArrow_unplaced (e : Expr) : isArrow e.unplaced = isArrow e := by cases e <;> rfl

section
variable {e whole : Expr} {later : List Piece}

theorem takes_memberExpr (begins : beginsOperand ps) {R : Expr → Prop}
    (one : ∀ start, Takes (do
      let e ← operand g (leftSide g)
      if isArrow e then return e
      subscripts g start true (.expr e)) ⟨ps, c, m⟩ R ⟨rest, c, false⟩) :
    Takes (memberExpr g) ⟨ps, c, m⟩ R ⟨rest, c, false⟩ :=
  .bind .place fun start _ => (Takes.eat_other (beginsOperand_ne begins rfl)).step <|
    (Takes.eat_other (beginsOperand_ne begins rfl)).step <|
      (Takes.eat_other (beginsOperand_ne begins rfl)).step (one start)

theorem phrase_member (begins : beginsOperand ps)
    (one : Phrase m (operand g (leftSide g)) Expr.unplaced c ps e later) (simple : isArrow e = false)
    (links : Links g true c e later whole rest) :
    Phrase m (memberExpr g) Expr.unplaced c ps whole rest := by
  refine ⟨takes_memberExpr begins fun start => one.takes.bind fun e' looks => ?_,
    Nat.lt_of_le_of_lt links.length_le one.shorter⟩
  rw [← looks, isArrow_unplaced] at simple
  rw [if_neg (by rw [simple]; exact Bool.false_ne_true)]
  exact .iterate (links.loops start e' looks)

def isCallee (e : Expr) : Bool := !isArrow e && !(e matches .newBare _) && !isChain e

theorem isCallee_unplaced (e : Expr) : isCallee e.unplaced = isCallee e := by cases e <;> rfl

theorem takes_leftSide (begins : beginsOperand ps) (callee : isCallee e)
    (one : Phrase m g.member Expr.unplaced c ps e later)
    (next : ∀ start e', e'.unplaced = e → isChain e' = false → Takes (do
      if ← at? .openParen then
        let args ← arguments g false
        subscripts g start false (.expr (← callOf (.expr e') false args))
      else return e') ⟨later, c, false⟩ (·.unplaced = whole) ⟨rest, c, false⟩) :
    Takes (leftSide g) ⟨ps, c, m⟩ (·.unplaced = whole) ⟨rest, c, false⟩ := by
  refine .bind .place fun start _ => ?_
  refine (Takes.eat_other (beginsOperand_ne begins rfl)).step ?_
  refine (Takes.eat_other (beginsOperand_ne begins rfl)).step ?_
  refine one.takes.bind fun e' looks => ?_
  rw [← looks, isCallee_unplaced] at callee
  simp only [isCallee, Bool.and_eq_true, Bool.not_eq_true'] at callee
  rw [if_neg (Bool.eq_false_iff.1 callee.1.1), if_neg]
  · exact next start e' looks callee.2
  · exact Bool.eq_false_iff.1 callee.1.2

theorem phrase_uncalled (begins : beginsOperand ps) (callee : isCallee e)
    (one : Phrase m g.member Expr.unplaced c ps e rest) (ends : next? rest ≠ some .openParen) :
    Phrase m (leftSide g) Expr.unplaced c ps e rest :=
  ⟨takes_leftSide begins callee one fun _ _ looks _ => (Takes.at?_other ends).step (.pure looks),
    one.shorter⟩

theorem phrase_called {args : List Element} {after : List Piece} (begins : beginsOperand ps)
    (callee : isCallee e)
    (one : Phrase m g.member Expr.unplaced c ps e (⟨.openParen, n⟩ :: later))
    (enclosed : Enclosed (element g) Element.unplaced c .closeParen later args after)
    (links : Links g false c (.call e args) after whole rest) :
    Phrase m (leftSide g) Expr.unplaced c ps whole rest := by
  constructor
  · refine takes_leftSide begins callee one fun start e' looks simple => ?_
    refine (Takes.at?_self _).step ((takes_arguments enclosed).bind fun args' looksArgs => ?_)
    refine (takes_callOf simple args').step (.iterate (links.loops start _ ?_))
    rw [Expr.unplaced, looks, unplacedElements_eq, looksArgs]
  · have := one.shorter
    have := enclosed.shorter
    have := links.length_le
    simp only [List.length_cons] at *
    omega

/-! ## Operators -/

theorem unaryOp?_eq_none (begins : beginsOperand ps) : unaryOp? (next? ps) = none := by
  unfold unaryOp?
  split
  case h_8 => rfl
  all_goals
    rename_i here
    simp [beginsOperand, here] at begins

theorem takes_unaryExpr (begins : beginsOperand ps) {R : Expr → Prop}
    (one : ∀ start, Takes (do
      let e ← leftSide g
      if isArrow e then return e
      if ← afterNewline then return e
      match ← token? with
      | some (.update op) =>
        checkTarget start e
        advance
        return .update op false e
      | _ => return e) ⟨ps, c, m⟩ R ⟨rest, c, false⟩) :
    Takes (unaryExpr g) ⟨ps, c, m⟩ R ⟨rest, c, false⟩ := by
  refine .bind .place fun start _ => Takes.token?.step ?_
  dsimp only
  split
  case h_1 op here => simp [beginsOperand, here] at begins
  case h_2 here => simp [beginsOperand, here] at begins
  case h_3 =>
    rw [unaryOp?_eq_none begins]
    exact one start

theorem phrase_unary (begins : beginsOperand ps) (simple : isArrow e = false)
    (one : Phrase m (leftSide g) Expr.unplaced c ps e rest)
    (ends : ∀ op, next? rest ≠ some (.update op)) :
    Phrase m (unaryExpr g) Expr.unplaced c ps e rest := by
  refine ⟨takes_unaryExpr begins fun start => one.takes.bind fun e' looks => ?_, one.shorter⟩
  rw [← looks, isArrow_unplaced] at simple
  rw [if_neg (Bool.eq_false_iff.1 simple)]
  refine Takes.afterNewline.step ?_
  split
  case isTrue => exact .pure looks
  refine Takes.token?.step ?_
  dsimp only
  split
  case h_1 op here => exact absurd here (ends op)
  case h_2 => exact .pure looks

theorem phrase_not (one : Phrase false g.unary Expr.unplaced c ps e rest) :
    Phrase m (unaryExpr g) Expr.unplaced c (⟨.bang, n⟩ :: ps) (.unary .not e) rest := by
  refine ⟨.bind .place fun start _ => Takes.token?.step ?_, Nat.lt_succ_of_lt one.shorter⟩
  refine Takes.advance.bind fun _ _ => .bind .place fun _ _ => ?_
  refine (Takes.orComplain one.takes).bind fun e' looks => .pure ?_
  rw [Expr.unplaced, looks]

def operator? (c : Context) : Option Token → Option BinaryOp
  | some (.binary op) => some op
  | some (.word "instanceof") => some .instanceOf
  | some (.word "in") => if c.includeIn then some .isIn else none
  | _ => none

theorem takes_binaryOp? : Takes binaryOp? ⟨ps, c, m⟩ (· = operator? c (next? ps)) ⟨ps, c, m⟩ := by
  refine Takes.token?.step ?_
  dsimp only
  generalize next? ps = t
  split
  · exact .pure rfl
  · exact .pure rfl
  · refine (Takes.inContext _).step ?_
    cases within : c.includeIn <;> exact .pure (by simp [operator?, within])
  · refine .pure ?_
    unfold operator?
    split <;> simp_all

/-- From an operand that looks as it is said, operators of more than a precedence and their operands
lead to an expression. -/
structure Operators (g : Grammar) (minimum : Nat) (c : Context) (e : Expr) (ps : List Piece)
    (whole : Expr) (rest : List Piece) : Prop where
  loops : ∀ place e', e'.unplaced = e → Loops (operatorStep g minimum place) e' ⟨ps, c, false⟩
    (·.unplaced = whole) ⟨rest, c, false⟩
  length_le : rest.length ≤ ps.length

theorem isLogicalOfNullish_unplaced (e : Expr) :
    isLogicalOfNullish e.unplaced = isLogicalOfNullish e := by
  cases e with
  | binary op left right =>
      cases left with
      | binary inner _ _ => cases inner <;> rfl
      | _ => rfl
  | _ => rfl

namespace Operators

variable {minimum : Nat}

theorem takes_operatorStep {place : Nat} {R : Expr ⊕ Expr → Prop} {v : View}
    (regular : isLogicalOfNullish e = false) (next : Takes (do
      match ← binaryOp? with
      | none => return .inr e
      | some op =>
        if op.precedence ≤ minimum then return .inr e
        advance
        if op == .power && (e matches .unary _ _ | .await _) then fail .powerOfUnary
        let rightPlace ← Parser.place
        let first ← g.unary
        let right ←
          g.operators (if op == .power then op.precedence - 1 else op.precedence) first rightPlace
        if op == .nullish then
          if isLogical e then complain place .mixedNullish
          if isLogical right then complain rightPlace .mixedNullish
        return .inl (.binary op e right)) ⟨ps, c, m⟩ R v) :
    Takes (operatorStep g minimum place e) ⟨ps, c, m⟩ R v := by
  unfold operatorStep
  rw [if_neg (Bool.eq_false_iff.1 regular)]
  exact .bind .demandToken fun _ _ => next

theorem done (regular : isLogicalOfNullish e = false)
    (ends : ∀ op, operator? c (next? ps) = some op → op.precedence ≤ minimum) :
    Operators g minimum c e ps e ps := by
  refine ⟨fun place e' looks => .done (takes_operatorStep ?_ ?_), Nat.le_refl _⟩
  · rw [← isLogicalOfNullish_unplaced, looks, regular]
  refine takes_binaryOp?.step ?_
  split
  case h_1 => exact .pure ⟨e', rfl, looks⟩
  case h_2 op here =>
    rw [if_pos (ends op here)]
    exact .pure ⟨e', rfl, looks⟩

theorem takes {d : Nat} (operators : Operators (grammar d) minimum c e ps whole rest) (place : Nat)
    {e' : Expr} (looks : e'.unplaced = e) :
    Takes ((grammar (d + 1)).operators minimum e' place) ⟨ps, c, false⟩ (·.unplaced = whole)
      ⟨rest, c, false⟩ :=
  .iterate (operators.loops place e' looks)

theorem operator {d : Nat} {op : BinaryOp} {first right : Expr} {after : List Piece}
    (regular : isLogicalOfNullish e = false) (stronger : minimum < op.precedence)
    (usual : op ≠ .power ∧ op ≠ .nullish)
    (one : Phrase false (grammar (d + 1)).unary Expr.unplaced c ps first later)
    (inner : Operators (grammar d) op.precedence c first later right after)
    (others : Operators (grammar (d + 1)) minimum c (.binary op e right) after whole rest) :
    Operators (grammar (d + 1)) minimum c e (⟨.binary op, n⟩ :: ps) whole rest := by
  have lengths : after.length < (⟨.binary op, n⟩ :: ps : List Piece).length := by
    have := one.shorter
    have := inner.length_le
    simp only [List.length_cons]
    omega
  refine ⟨fun place e' looks => .next (u := ⟨after, c, false⟩) (takes_operatorStep ?_ ?_) lengths,
    Nat.le_of_lt (Nat.lt_of_le_of_lt others.length_le lengths)⟩
  · rw [← isLogicalOfNullish_unplaced, looks, regular]
  refine takes_binaryOp?.step ?_
  have known : operator? c (next? (⟨.binary op, n⟩ :: ps)) = some op := rfl
  simp only [known, Nat.not_le.2 stronger, beq_eq_false_iff_ne.2 usual.1, Bool.false_and,
    Bool.false_eq_true, if_false, beq_eq_false_iff_ne.2 usual.2]
  refine Takes.advance.bind fun _ _ => .bind .place fun rightPlace _ => ?_
  refine one.takes.bind fun first' looksFirst => ?_
  refine (inner.takes rightPlace looksFirst).bind fun right' looksRight => ?_
  refine .pure ⟨_, rfl, others.loops place _ ?_⟩
  rw [Expr.unplaced, looks, looksRight]

end Operators

end

end

end Enclose.Script.Parser
