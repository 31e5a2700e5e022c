import Enclose.Proofs.Script.Assignments
import Enclose.Proofs.Script.Blocks

/-!
# Groups in a sequence of tokens

Object literals and patterns, what stands between parentheses, and the bodies of arrow functions.
-/

namespace Enclose.Script.Parser

variable {m n k : Bool} {c : Context} {ps rest later : List Piece} {g : Grammar} {e : Expr}

inductive IsKey : Token → PropertyKey → Prop
  | word (name : String) : IsKey (.word name) (.ident name)
  | string (lit : StringLit) : IsKey (.string lit) (.string lit)

theorem IsKey.unplaced {t : Token} {key : PropertyKey} (isKey : IsKey t key) : key.unplaced = key := by
  cases isKey <;> rfl

theorem takes_propertyKey {t : Token} {key : PropertyKey} (isKey : IsKey t key) :
    Takes (propertyKey g) ⟨⟨t, n⟩ :: ps, c, m⟩ (· = key) ⟨ps, c, false⟩ := by
  cases isKey with
  | word name => exact .step .demand (.bind .advance fun _ _ => .pure rfl)
  | string lit => exact .step .demand (.bind .advance fun _ _ => .pure rfl)

theorem phrase_property {t : Token} {key : PropertyKey} (isKey : IsKey t key)
    (inner : Phrase false g.assignment Expr.unplaced { c with includeIn := true } ps e rest) :
    Phrase m (property g) Property.unplaced c (⟨t, n⟩ :: ⟨.colon, k⟩ :: ps) (.keyed 0 key 0 e)
      rest := by
  have notSign : t ≠ .ellipsis ∧ t ≠ .binary .multiply := by
    constructor <;> (rintro rfl; cases isKey)
  refine ⟨?_, by have := inner.shorter; simp only [List.length_cons]; omega⟩
  refine .bind .place fun start _ => ?_
  refine (Takes.eat_other (by simp [next?, notSign.1])).step ?_
  refine (Takes.eat_other (by simp [next?, notSign.2])).step ?_
  refine (takes_propertyKey isKey).step ((Takes.eat .colon).step ?_)
  refine .bind .place fun valuePlace _ => (Takes.withContext inner.takes).bind fun e' looks => ?_
  exact .pure (by rw [Property.unplaced, isKey.unplaced, looks])

def objectStep (g : Grammar) (start : Nat) (s : ObjectState) : Parse (ObjectState ⊕ Expr) := do
  if ← eat .closeBrace then
    if let some comma := s.trailingComma then
      noteTrailingComma start comma
    return .inr (.object s.properties.reverse)
  else
    let p ← property g
    if ← at? .closeBrace then return .inl ⟨p :: s.properties, none⟩
    else
      expect .comma
      let trailingComma ← if ← at? .closeBrace then pure (some (← previousPlace)) else pure none
      return .inl ⟨p :: s.properties, trailingComma⟩

theorem objectLiteral_eq (g : Grammar) : objectLiteral g = place >>= fun start =>
    advance >>= fun _ => iterate (objectStep g start) {} := rfl

theorem readsList_object (start : Nat) : ReadsList (property g) Property.unplaced (fun _ => True) c .closeBrace
    (objectStep g start)
    (fun s properties => s.properties.map Property.unplaced = properties ∧ s.trailingComma = none)
    (fun properties e => e.unplaced = .object properties) where
  last := by
    rintro s before ps b n rest ⟨shown, comma⟩ - starts one
    refine (Takes.eat_other starts).step (one.takes.bind fun p looks => ?_)
    exact (Takes.at?_self _).step (.pure ⟨_, rfl, by simp [looks, shown], rfl⟩)
  more := by
    rintro s before ps b n later ⟨shown, comma⟩ - starts one next
    refine (Takes.eat_other starts).step (one.takes.bind fun p looks => ?_)
    refine (Takes.at?_other (by simp [next?])).step (.bind (.expect .comma) fun _ _ => ?_)
    exact (Takes.at?_other next).step (.pure ⟨_, rfl, by simp [looks, shown], rfl⟩)
  done := by
    rintro s before n rest ⟨shown, comma⟩
    refine (Takes.eat .closeBrace).step ?_
    rw [comma]
    refine .pure ⟨_, rfl, ?_⟩
    rw [Expr.unplaced, unplacedProperties_eq, List.map_reverse, shown]

theorem phrase_object {properties : List Property}
    (enclosed : Enclosed (property g) Property.unplaced c .closeBrace ps properties rest)
    {heritage : Parse Expr} :
    Phrase m (operand g heritage) Expr.unplaced c (⟨.openBrace, n⟩ :: ps) (.object properties)
      rest := by
  refine ⟨.bind .demandToken fun _ _ => .asksArrow fun start s _ => Takes.token?.step ?_,
    Nat.lt_succ_of_lt enclosed.shorter⟩
  change Takes (objectLiteral g) _ _ _
  rw [objectLiteral_eq]
  exact .bind .place fun start _ => .bind .advance fun _ _ =>
    (readsList_object start).takes ⟨rfl, rfl⟩ (fun _ _ => trivial) enclosed

theorem takes_parenStep {s : ParenState} {b : Element} {R : ParenState ⊕ (List Element × Option Nat) → Prop}
    {v : View} (starts : next? ps ≠ some .closeParen)
    (one : Phrase false (element g) Element.unplaced c ps b later) (noArrow : next? later ≠ some .arrow)
    (next : ∀ item : Element, item.unplaced = b → Takes (do
      if ← at? .closeParen then return .inl (ParenState.mk (item :: s.items) s.trailingComma)
      else
        expect .comma
        let trailingComma ← if ← at? .closeParen then pure (some (← previousPlace)) else pure none
        return .inl ⟨item :: s.items, trailingComma⟩) ⟨later, c, false⟩ R v) :
    Takes (parenStep g s) ⟨ps, c, false⟩ R v := by
  refine (Takes.eat_other starts).step ?_
  cases ps with
  | nil => exact absurd one.shorter (Nat.not_lt_zero _)
  | cons x ps =>
      refine Takes.startArrow true fun start => ?_
      refine one.takes.forget.bind fun item looks => ?_
      exact (Takes.eat_other noArrow).step (next item looks)

theorem readsList_paren : ReadsList (element g) Element.unplaced (fun _ => True) c .closeParen
    (parenStep g)
    (fun s items => s.items.map Element.unplaced = items ∧ s.trailingComma = none)
    (fun items result => result.1.map Element.unplaced = items ∧ result.2 = none) where
  last := by
    rintro s before ps b n rest ⟨shown, comma⟩ - starts one
    refine takes_parenStep starts one (by simp [next?]) fun item looks => ?_
    exact (Takes.at?_self _).step (.pure ⟨_, rfl, by simp [looks, shown], comma⟩)
  more := by
    rintro s before ps b n later ⟨shown, comma⟩ - starts one next
    refine takes_parenStep starts one (by simp [next?]) fun item looks => ?_
    refine (Takes.at?_other (by simp [next?])).step (.bind (.expect .comma) fun _ _ => ?_)
    exact (Takes.at?_other next).step (.pure ⟨_, rfl, by simp [looks, shown], rfl⟩)
  done := by
    rintro s before n rest ⟨shown, comma⟩
    exact (Takes.eat .closeParen).step (.pure ⟨_, rfl, by simp [shown], comma⟩)

theorem takes_parenItems {items : List Element}
    (enclosed : Enclosed (element g) Element.unplaced { c with includeIn := true } .closeParen ps
      items rest) :
    Takes (parenItems g) ⟨⟨.openParen, n⟩ :: ps, c, m⟩
      (fun result => result.1.map Element.unplaced = items ∧ result.2 = none) ⟨rest, c, false⟩ := by
  unfold parenItems
  exact .bind (.expect .openParen) fun _ _ =>
    .withContext (readsList_paren.takes ⟨rfl, rfl⟩ (fun _ _ => trivial) enclosed)

def isObject : Expr → Bool
  | .object _ => true
  | _ => false

theorem isObject_unplaced (e : Expr) : isObject e.unplaced = isObject e := by cases e <;> rfl

theorem takes_checkDefaults {start : Nat} (plain : isObject e = false) {v : View} :
    Takes (checkDefaults [.item start e]) v (· = ()) v := by
  unfold checkDefaults
  rw [List.forIn_cons]
  refine Takes.step (a := ()) (Takes.step (a := .yield ()) ?_ (.pure rfl)) (.pure rfl)
  cases e
  case object => cases plain
  all_goals exact .pure rfl

theorem takes_parenOperand {heritage : Parse Expr} {x : Expr → Prop} {v : View}
    (next : ∀ start mayBeArrow, (m = true → mayBeArrow = true) →
      Takes (parenOrArrow g start mayBeArrow false) ⟨⟨.openParen, n⟩ :: ps, c, m⟩ x v) :
    Takes (operand g heritage) ⟨⟨.openParen, n⟩ :: ps, c, m⟩ x v :=
  .bind .demandToken fun _ _ => .asksArrow fun start _ known => Takes.token?.step (next start _ known)

theorem phrase_paren {heritage : Parse Expr} (notObject : isObject e = false)
    (one : Phrase false (element g) Element.unplaced { c with includeIn := true } ps (.item 0 e)
      (⟨.closeParen, k⟩ :: rest))
    (starts : next? ps ≠ some .closeParen) (ends : next? rest ≠ some .arrow) :
    Phrase m (operand g heritage) Expr.unplaced c (⟨.openParen, n⟩ :: ps) (.paren e) rest := by
  refine ⟨takes_parenOperand fun start mayBeArrow _ => ?_, ?_⟩
  · refine (takes_parenItems (.some (.last starts one))).bind ?_
    rintro ⟨items, comma⟩ ⟨looks, -⟩
    obtain ⟨item, rfl, looks⟩ := List.map_eq_singleton_iff.1 looks
    cases item <;> cases looks
    rename_i place inner
    refine (Takes.at?_other ends).step ?_
    refine (takes_checkDefaults (by rw [← isObject_unplaced, notObject])).step ?_
    exact .pure rfl
  · have := one.shorter
    simp only [List.length_cons] at *
    omega

structure MayBind (name : String) : Prop where
  named : IsName name
  free : name ≠ "eval" ∧ name ≠ "arguments"

def nameItems (names : List (Nat × String)) : List Element :=
  names.map fun (start, name) => .item start (.ident name)

theorem exists_nameItems {items : List Element} {names : List String}
    (looks : items.map Element.unplaced = names.map fun name => .item 0 (.ident name)) :
    ∃ placed, items = nameItems placed ∧ placed.map Prod.snd = names := by
  induction names generalizing items with
  | nil => exact ⟨[], List.map_eq_nil_iff.1 looks, rfl⟩
  | cons name names ih =>
      cases items with
      | nil => cases looks
      | cons item items =>
          rw [List.map_cons, List.map_cons, List.cons.injEq] at looks
          obtain ⟨placed, rfl, rfl⟩ := ih looks.2
          cases item with
          | item start e =>
              cases e <;> cases looks.1
              exact ⟨(start, _) :: placed, rfl, rfl⟩
          | hole => cases looks.1
          | spread => cases looks.1

theorem coverElementNames_nameItems (names : List (Nat × String)) :
    coverElementNames (nameItems names) = names := by
  induction names with
  | nil => rfl
  | cons first others ih => exact congrArg (first :: ·) ih

theorem takes_coverParams_go (names : List (Nat × String)) {v : View} :
    Takes (coverParams.go none (nameItems names)) v (· = names.map fun (_, name) => .ident name)
      v := by
  induction names with
  | nil => exact .pure rfl
  | cons first others ih =>
      exact Takes.step (a := .ident first.2) (.pure rfl) (ih.step (.pure rfl))

theorem takes_checkStrictNames {names : List (Nat × String)}
    (free : ∀ pair ∈ names, pair.2 ≠ "eval" ∧ pair.2 ≠ "arguments") {v : View} :
    Takes (checkStrictNames names) v (· = ()) v := by
  unfold checkStrictNames
  refine Takes.step (a := ()) ?_ (.pure rfl)
  induction names with
  | nil => exact .pure rfl
  | cons pair names ih =>
      have first := free _ List.mem_cons_self
      rw [List.forIn_cons]
      refine Takes.step (a := .yield ()) ?_ (ih fun pair member => free pair (.tail _ member))
      simp only [beq_eq_false_iff_ne.2 first.1, beq_eq_false_iff_ne.2 first.2, Bool.or_self,
        Bool.false_eq_true, if_false]
      exact .pure rfl

theorem takes_coverParams {items : List Element} {names : List String}
    (looks : items.map Element.unplaced = names.map fun name => .item 0 (.ident name))
    (bound : ∀ name ∈ names, MayBind name) {v : View} :
    Takes (coverParams items none) v (· = names.map .ident) v := by
  obtain ⟨placed, rfl, rfl⟩ := exists_nameItems looks
  refine (takes_coverParams_go placed).step ((Takes.inContext _).step ?_)
  rw [coverElementNames_nameItems]
  have same : (placed.map fun (_, name) => Pattern.ident name) = (placed.map Prod.snd).map .ident := by
    rw [List.map_map]
    rfl
  rw [same]
  have free (pair) (member : pair ∈ placed) := (bound pair.2 (List.mem_map_of_mem member)).free
  dsimp only
  split
  · exact (takes_checkStrictNames free).step (.pure rfl)
  · exact .pure rfl

def Context.inArrow (c : Context) : Context :=
  { c with
    inAsync := false, inGenerator := false, inFunction := true, breakAllowed := false,
    continueAllowed := false, inProperFunction := c.inProperFunction || !true }

theorem takes_arrowBody {params : List Pattern} {R : Expr → Prop}
    (body : Takes (do
      if ← at? .openBrace then return .arrowBlock false params (← functionBlock g false params)
      else return .arrow false params (← g.assignment)) ⟨ps, c.inArrow, false⟩ R
      ⟨rest, c.inArrow, false⟩) :
    Takes (arrowBody g false params) ⟨ps, c, false⟩ R ⟨rest, c, false⟩ :=
  .withContext (.withFreshLabels body)

theorem takes_arrowAfterItems {start : Nat} {items : List Element} {names : List String}
    (looks : items.map Element.unplaced = names.map fun name => .item 0 (.ident name))
    (bound : ∀ name ∈ names, MayBind name) {arrow : Expr}
    (body : Takes (arrowBody g false (names.map .ident)) ⟨ps, c, false⟩
      (fun e : Expr => e.unplaced = arrow) ⟨rest, c, false⟩)
    (ends : ∀ op, next? rest ≠ some (.binary op)) :
    Takes (arrowAfterItems g start false items none) ⟨⟨.arrow, n⟩ :: ps, c, m⟩
      (fun e : Expr => e.unplaced = arrow) ⟨rest, c, false⟩ := by
  refine .bind (.expect .arrow) fun _ _ => (takes_coverParams looks bound).step ?_
  refine body.bind fun e looks => ?_
  split
  · refine .bind .demandToken fun _ _ => Takes.token?.step ?_
    dsimp only
    split
    case h_1 op here => exact absurd here (ends op)
    case h_2 => exact .pure looks
  · exact .pure looks

theorem phrase_arrowOf {heritage : Parse Expr} {names : List String} {arrow : Expr}
    (head : Enclosed (element g) Element.unplaced { c with includeIn := true } .closeParen ps
      (names.map fun name => .item 0 (.ident name)) (⟨.arrow, false⟩ :: later))
    (bound : ∀ name ∈ names, MayBind name)
    (body : Takes (arrowBody g false (names.map .ident)) ⟨later, c, false⟩
      (fun e : Expr => e.unplaced = arrow) ⟨rest, c, false⟩)
    (shorter : rest.length < later.length) (ends : ∀ op, next? rest ≠ some (.binary op)) :
    Phrase true (operand g heritage) Expr.unplaced c (⟨.openParen, n⟩ :: ps) arrow rest := by
  refine ⟨takes_parenOperand fun start mayBeArrow known => ?_, ?_⟩
  · refine (takes_parenItems head).bind ?_
    rintro ⟨items, comma⟩ ⟨looks, rfl⟩
    refine (Takes.at?_self _).step (Takes.afterNewline.step ?_)
    simp only [List.head?_cons, Option.any_some, Bool.false_eq_true, if_false, known rfl, if_true]
    exact takes_arrowAfterItems looks bound body ends
  · have := head.shorter
    simp only [List.length_cons] at *
    omega

theorem unplacedPatterns_idents (names : List String) :
    unplacedPatterns (names.map .ident) = names.map .ident := by
  rw [unplacedPatterns_eq, List.map_map]
  exact List.map_congr_left fun _ _ => rfl

theorem takes_arrowValue {names : List String}
    (value : Phrase false g.assignment Expr.unplaced c.inArrow ps e rest)
    (starts : next? ps ≠ some .openBrace) :
    Takes (arrowBody g false (names.map .ident)) ⟨ps, c, false⟩
      (fun e' : Expr => e'.unplaced = .arrow false (names.map .ident) e) ⟨rest, c, false⟩ := by
  refine takes_arrowBody ((Takes.at?_other starts).step (value.takes.bind fun e' looks => ?_))
  exact .pure (by rw [Expr.unplaced, looks, unplacedPatterns_idents])

theorem takes_arrowBlock {names : List String} {body : List Stmt}
    (block : Takes (functionBlock g false (names.map .ident)) ⟨ps, c.inArrow, false⟩
      (·.map Stmt.unplaced = body) ⟨rest, c.inArrow, false⟩)
    (starts : next? ps = some .openBrace) :
    Takes (arrowBody g false (names.map .ident)) ⟨ps, c, false⟩
      (fun e' : Expr => e'.unplaced = .arrowBlock false (names.map .ident) body) ⟨rest, c, false⟩ := by
  have brace : (next? ps == some Token.openBrace) = true := beq_iff_eq.2 starts
  refine takes_arrowBody ((Takes.at? _).step ?_)
  dsimp only
  rw [brace]
  refine block.bind fun body' looks => .pure ?_
  rw [Expr.unplaced, unplacedPatterns_idents, unplacedStmts_eq, looks]

variable {α β : Type}

inductive Sequence (p : Parse α) (look : α → β) (fits : List Piece → β → Prop) (c : Context)
    (rest : List Piece) : List Piece → List β → Prop
  | done : Sequence p look fits c rest rest []
  | next {ps later : List Piece} {b : β} {bs : List β} : fits ps b →
      Phrase false p look c ps b later → Sequence p look fits c rest later bs →
      Sequence p look fits c rest ps (b :: bs)

theorem Sequence.length_le {p : Parse α} {look : α → β} {fits : List Piece → β → Prop} {bs : List β}
    (sequence : Sequence p look fits c rest ps bs) : rest.length ≤ ps.length := by
  induction sequence with
  | done => exact Nat.le_refl _
  | next _ one _ ih => exact Nat.le_of_lt (Nat.lt_of_le_of_lt ih one.shorter)

theorem isUseStrict_unplaced (s : Stmt) : isUseStrict s.unplaced = isUseStrict s := by
  cases s with
  | expr e => cases e <;> rfl
  | _ => rfl

def InBlock (ps : List Piece) (s : Stmt) : Prop :=
  next? ps ≠ some .closeBrace ∧ isUseStrict s = false

theorem loops_block {body : List Stmt} {k : Bool}
    (sequence : Sequence (g.statement true) Stmt.unplaced InBlock c (⟨.closeBrace, k⟩ :: rest) ps
      body) : ∀ b : BlockState, b.useStrict = none →
    Loops (blockStep g false) b ⟨ps, c, false⟩
      (fun result => result.1.map Stmt.unplaced = b.statements.reverse.map Stmt.unplaced ++ body ∧
        result.2 = none) ⟨rest, c, false⟩ := by
  induction sequence with
  | done =>
      intro b none
      refine .done (Takes.atEnd.step ((Takes.eat .closeBrace).step (.pure ⟨_, rfl, ?_, none⟩)))
      simp
  | @next ps later s body inside one _ ih =>
      intro b none
      refine .next (u := ⟨later, c, false⟩) (Takes.atEnd.step ?_) one.shorter
      rw [one.ne_nil]
      refine (Takes.eat_other inside.1).step (.bind .place fun start _ => one.takes.bind ?_)
      intro s' looks
      have notStrict : isUseStrict s' = false := by rw [← isUseStrict_unplaced, looks, inside.2]
      simp only [notStrict, Bool.and_false, Bool.false_eq_true, if_false, none]
      refine .pure ⟨_, rfl, ?_⟩
      simpa [looks] using ih ⟨s' :: b.statements, b.onlyDirectives && isDirective s', .none⟩ rfl

theorem takes_functionBlock {body : List Stmt} {params : List Pattern}
    (sequence : Sequence (g.statement true) Stmt.unplaced InBlock { c with topLevel := false }
      (⟨.closeBrace, k⟩ :: rest) ps body) :
    Takes (functionBlock g false params) ⟨⟨.openBrace, n⟩ :: ps, c, m⟩ (·.map Stmt.unplaced = body)
      ⟨rest, c, false⟩ := by
  have block : Takes (block g false) ⟨⟨.openBrace, n⟩ :: ps, c, m⟩
      (fun result => result.1.map Stmt.unplaced = body ∧ result.2 = none) ⟨rest, c, false⟩ := by
    have loops := loops_block sequence {} rfl
    rw [block_eq]
    exact .bind (.expect .openBrace) fun _ _ => .withContext (.iterate (by simpa using loops))
  refine block.bind ?_
  rintro ⟨body', useStrict⟩ ⟨looks, none⟩
  obtain rfl : useStrict = .none := none
  exact .pure looks

end Enclose.Script.Parser
