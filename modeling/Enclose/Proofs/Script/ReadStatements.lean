import Enclose.Proofs.Script.ReadBack

/-!
# Statements are read back from their wordings
-/

namespace Enclose.Script
open Enclose.Script.Parser

variable {c : Context} {d : Nat} {ps rest : List Piece} {name : String}

namespace Pattern

def Reads (p : Pattern) : Prop :=
  ∀ ⦃m c d ps rest⦄, c.IsPlain → Laid p.wording ps rest → next? rest = some (.assign .assign) →
    3 ≤ d → Phrase m (bindingTarget (grammar d)) unplaced c ps p rest

theorem reads_ident (bound : MayBind name) : (ident name).Reads := by
  intro m c d ps rest plain laid _ _
  obtain ⟨n, rfl, -⟩ := Expr.laid_singleton laid
  exact phrase_boundName plain bound

inductive Binds : Pattern → Prop
  | shorthand {name : String} : IsUnreserved name → Binds (.shorthand name none)
  | keyed {key : PropertyKey} {name : String} : key.isNamed → MayBind name →
      Binds (.keyed key (.ident name))

theorem phrase_binds {p : Pattern} (binds : p.Binds) (plain : c.IsPlain)
    (laid : Laid p.wording ps rest) (ends : Next separates rest) :
    next? ps ≠ some .closeBrace ∧
      Phrase false (propertyPattern (grammar (d + 1))) unplaced c ps p rest := by
  cases binds with
  | @shorthand name free =>
      obtain ⟨n, rfl, -⟩ := Expr.laid_singleton laid
      exact ⟨by simp [next?], phrase_shorthand free (ends.ne rfl) (ends.ne rfl)⟩
  | @keyed key name named bound =>
      obtain ⟨later, first, laid⟩ := laid.append_inv
      obtain ⟨k, later, rfl, -, laid⟩ := laid.cons_inv
      obtain ⟨n, rfl, -⟩ := Expr.laid_singleton laid
      have target : Phrase false (bindingElement (grammar (d + 1))) unplaced c
          (⟨.word name, n⟩ :: rest) (.ident name) rest :=
        phrase_element (phrase_boundName (g := grammar d) plain bound) (ends.ne rfl)
      cases key with
      | ident word =>
          obtain ⟨l, rfl, -⟩ := Expr.laid_singleton first
          exact ⟨by simp [next?], phrase_keyedPattern (.word word) target⟩
      | string lit =>
          obtain ⟨l, rfl, -⟩ := Expr.laid_singleton first
          exact ⟨by simp [next?], phrase_keyedPattern (.string lit) target⟩
      | _ => cases named

theorem reads_object {properties : List Pattern} (binds : ∀ p ∈ properties, p.Binds) :
    (object properties).Reads := by
  intro m c d ps rest plain laid _ deep
  obtain ⟨d, rfl⟩ : ∃ k, d = k + 1 := ⟨d - 1, by omega⟩
  obtain ⟨n, later, rfl, -, laid⟩ := laid.cons_inv
  rw [patternsWording_eq] at laid
  refine phrase_objectPattern (fun p member => ?_)
    (Expr.enclosed_of_laid rfl (fun p member ps rest laid ends => ?_) laid)
  · cases binds p member <;> rfl
  · exact phrase_binds (binds p member) plain laid ends

end Pattern

def startsStmt : Token → Bool
  | .openParen => true
  | .word name => !(["else", "import", "export", "await"].contains name)
  | _ => false

namespace Stmt

def isFree (s : Stmt) : Bool :=
  match s with
  | .return _ => false
  | _ => true

structure Reads (s : Stmt) : Prop where
  starts : ∀ ⦃ps rest⦄, Laid s.wording ps rest → Next startsStmt ps
  statement : ∀ ⦃m c d ps rest declares⦄, c.IsPlain → (s.isFree ∨ c.inFunction = true) →
    (s.isBody ∨ declares = true) → 3 * s.wording.length ≤ d + 3 → Laid s.wording ps rest →
    next? rest ≠ some (.word "else") →
    Phrase m (statementOrDecl (grammar d) declares) unplaced c ps s rest
  notStrict : isUseStrict s = false

theorem startsStatement_of_leads {ts : List Piece} (leads : leadsStatement ts) (laid : Laid ts ps rest) :
    startsStatement ps := by
  unfold leadsStatement at leads
  split at leads
  case h_1 =>
      obtain ⟨n, later, rfl, -, -⟩ := laid.cons_inv
      exact .inl rfl
  case h_2 name _ next others =>
      obtain ⟨n, later, rfl, -, laid⟩ := laid.cons_inv
      obtain ⟨k, later, rfl, -, -⟩ := laid.cons_inv
      rw [Bool.and_eq_true, decide_eq_true_eq, Bool.not_eq_true'] at leads
      refine .inr ⟨name, leads.1, rfl, fun word here => ?_⟩
      obtain ⟨t, a⟩ := next
      cases here
      cases leads.2
  case h_3 => cases leads

theorem starts_of_leads {ts : List Piece} (leads : leadsStatement ts) (laid : Laid ts ps rest) :
    Next startsStmt ps := by
  rcases startsStatement_of_leads leads laid with here | ⟨name, named, here, -⟩
  · rw [Next, here]
    rfl
  · rw [Next, here]
    simp [startsStmt, named.ne "else" (by decide), named.ne "import" (by decide), named.ne "export" (by decide), named.ne "await" (by decide)]

theorem reads_expr {e : Expr} (reads : e.Reads) (leads : leadsStatement (e.wording ++ [loose .semicolon]))
    (notStrict : isUseStrict (expr e) = false) : (expr e).Reads where
  starts ps rest laid := starts_of_leads leads laid
  statement := by
    intro m c d ps rest declares plain _ _ deep laid _
    have starts := startsStatement_of_leads leads laid
    obtain ⟨later, laid, closing⟩ := laid.append_inv
    obtain ⟨n, rfl, -⟩ := Expr.laid_singleton closing
    simp only [wording, List.length_append, List.length_cons, List.length_nil] at deep
    have value := reads.within (m := m) (c := c) (d := d) plain (by omega) laid rfl
    exact phrase_expr starts (phrase_expression value (by simp [next?]))
  notStrict := notStrict

theorem reads_var {kind : VarKind} {target : Pattern} {value : Expr} (fixed : isFixed kind)
    (readsTarget : target.Reads) (starts : ∀ ⦃ps rest⦄, Laid target.wording ps rest → next? ps ≠ some .semicolon)
    (reads : value.Reads) : (var kind [.defaulted target value]).Reads where
  starts ps rest laid := by
    obtain ⟨n, later, rfl, -, -⟩ := laid.cons_inv
    cases kind <;> rfl
  statement := by
    intro m c d ps rest declares plain _ body deep laid _
    obtain ⟨n, later, rfl, -, laid⟩ := laid.cons_inv
    obtain ⟨close, laid, closing⟩ := laid.append_inv
    obtain ⟨k, rfl, -⟩ := Expr.laid_singleton closing
    simp only [patternsWording, List.isEmpty_nil, if_true, List.append_nil] at laid
    obtain ⟨next, first, laid⟩ := laid.append_inv
    obtain ⟨l, next, rfl, -, laid⟩ := laid.cons_inv
    simp only [wording, patternsWording, Pattern.wording, List.length_append, List.length_cons,
      List.length_nil, List.isEmpty_nil, if_true] at deep
    have plain' : { c with includeIn := c.includeIn || kind != VarKind.var || !false }.IsPlain := plain
    have assigned := reads.assignment (m := false)
      (c := { c with includeIn := c.includeIn || kind != VarKind.var || !false }) (d := d) plain'
      (by omega) laid rfl
    have declared : Phrase false (declarator (grammar d) kind false) Pattern.unplaced
        { c with includeIn := c.includeIn || kind != VarKind.var || !false } later
        (.defaulted target value) (⟨.semicolon, k⟩ :: rest) :=
      phrase_declarator (readsTarget plain' first rfl (by omega)) assigned
    have statement := phrase_var (m := m) (n := n) (t := .word kind.text) declared (starts first)
    -- A declaration stands among the statements of a block, and never alone as a body.
    rcases body with body | rfl
    · cases body
    · cases kind with
      | var => exact phrase_varStatement statement
      | const => exact phrase_constStatement statement
      | «let» => cases fixed
  notStrict := rfl

theorem reads_return (named : IsName name) : («return» (some (.ident name))).Reads where
  starts ps rest laid := by
    obtain ⟨n, later, rfl, -, -⟩ := laid.cons_inv
    rfl
  statement := by
    intro m c d ps rest declares plain inside _ deep laid _
    obtain ⟨n, later, rfl, -, laid⟩ := laid.cons_inv
    obtain ⟨k, later, rfl, line, laid⟩ := laid.cons_inv
    obtain ⟨l, rfl, -⟩ := Expr.laid_singleton laid
    obtain rfl : k = false := by
      cases k with
      | false => rfl
      | true => exact (line rfl).symm
    simp only [wording, returnedWording, List.length_append, List.length_cons, List.length_nil] at deep
    have value := (Expr.reads_ident named).within (m := false) (c := c) (d := d) plain
      (by simp only [Expr.wording, List.length_cons, List.length_nil]; omega)
      (.cons (n := false) (by simp) (@Laid.nil (⟨.semicolon, l⟩ :: rest))) rfl
    rcases inside with free | inside
    · cases free
    · exact phrase_return inside rfl ⟨by simp, by simp⟩ (phrase_expression value (by simp [next?]))
  notStrict := rfl

theorem reads_if {test : Expr} {s : Stmt} (readsTest : test.Reads) (reads : s.Reads)
    (body : s.isBody) : (ifElse test s none).Reads where
  starts ps rest laid := by
    obtain ⟨n, later, rfl, -, -⟩ := laid.cons_inv
    rfl
  statement := by
    intro m c d ps rest declares plain _ _ deep laid noElse
    obtain ⟨n, later, rfl, -, laid⟩ := laid.cons_inv
    obtain ⟨k, later, rfl, -, laid⟩ := laid.cons_inv
    obtain ⟨close, first, laid⟩ := laid.append_inv
    obtain ⟨l, later, rfl, -, laid⟩ := laid.cons_inv
    simp only [wording, List.length_append, List.length_cons] at deep
    obtain ⟨d, rfl⟩ : ∃ k, d = k + 1 := ⟨d - 1, by omega⟩
    have test := readsTest.within (m := false) (c := c) (d := d + 1) plain (by omega) first rfl
    have inner : Phrase false (statementOrDecl (grammar d) false) unplaced c _ s rest :=
      reads.statement plain ?_ (.inl body) (by omega) laid noElse
    · exact phrase_if (phrase_expression test (by simp [next?])) inner noElse
    · cases s <;> first | exact .inl rfl | cases body
  notStrict := rfl

theorem reads_forIn {kind : VarKind} {object : Expr} {s : Stmt} (fixed : isFixed kind)
    (bound : MayBind name) (readsObject : object.Reads) (reads : s.Reads) (body : s.isBody) :
    (forIn (.var kind [.ident name]) object s).Reads where
  starts ps rest laid := by
    obtain ⟨n, later, rfl, -, -⟩ := laid.cons_inv
    rfl
  statement := by
    intro m c d ps rest declares plain _ _ deep laid noElse
    obtain ⟨n, later, rfl, -, laid⟩ := laid.cons_inv
    obtain ⟨h, later, rfl, -, laid⟩ := laid.cons_inv
    obtain ⟨next, head, laid⟩ := laid.append_inv
    obtain ⟨l, next, rfl, -, afterHead⟩ := laid.cons_inv
    obtain ⟨i, later, rfl, -, head⟩ := head.cons_inv
    simp only [patternsWording, List.isEmpty_nil, if_true, List.append_nil] at head
    obtain ⟨k, rfl, -⟩ := Expr.laid_singleton head
    obtain ⟨close, first, afterObject⟩ := afterHead.append_inv
    obtain ⟨j, later, rfl, -, laid⟩ := afterObject.cons_inv
    simp only [wording, ForHead.wording, patternsWording, Pattern.wording, List.length_append,
      List.length_cons] at deep
    obtain ⟨d, rfl⟩ : ∃ k, d = k + 1 := ⟨d - 1, by omega⟩
    have object := readsObject.within (m := false) (c := c.inHead) (d := d + 1) plain (by omega)
      first rfl
    have inner : Phrase false (statementOrDecl (grammar d) false) unplaced c.inLoop _ s rest :=
      reads.statement plain ?_ (.inl body) (by omega) laid noElse
    · exact phrase_forIn fixed plain bound (phrase_expression object (by simp [next?])) inner
    · cases s <;> first | exact .inl rfl | cases body
  notStrict := rfl

end Stmt

end Enclose.Script
