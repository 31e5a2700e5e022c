import Enclose.Proofs.Script.Groups

/-!
# Patterns and statements in a sequence of tokens
-/

namespace Enclose.Script.Parser

variable {m n : Bool} {c : Context} {ps rest later : List Piece} {g : Grammar} {name : String}

theorem takes_boundIdentifier (plain : c.IsPlain) (bound : MayBind name) :
    Takes boundIdentifier ⟨⟨.word name, n⟩ :: ps, c, m⟩ (· = name) ⟨ps, c, false⟩ := by
  refine .bind .place fun start _ => (takes_identifier plain bound.named _ _).step ?_
  refine .bind .getState fun s shown => ?_
  simp only [bound.named.ne "await" (by decide), bound.named.ne "yield" (by decide), beq_eq_false_iff_ne.2, ne_eq,
    not_false_eq_true, Bool.and_false, Bool.or_self, Bool.false_eq_true, if_false, bound.free.1,
    bound.free.2]
  exact .pure rfl

theorem phrase_boundName (plain : c.IsPlain) (bound : MayBind name) :
    Phrase m (bindingTarget g) Pattern.unplaced c (⟨.word name, n⟩ :: ps) (.ident name) ps :=
  ⟨.step .demand ((takes_boundIdentifier plain bound).step (.pure rfl)), Nat.lt_succ_self _⟩

theorem phrase_element {p : Pattern} (one : Phrase m g.binding Pattern.unplaced c ps p rest)
    (ends : next? rest ≠ some (.assign .assign)) :
    Phrase m (bindingElement g) Pattern.unplaced c ps p rest :=
  ⟨one.takes.bind fun _ looks => (Takes.eat_other ends).step (.pure looks), one.shorter⟩

theorem phrase_shorthand (free : IsUnreserved name) (colon : next? ps ≠ some .colon)
    (ends : next? ps ≠ some (.assign .assign)) :
    Phrase m (propertyPattern g) Pattern.unplaced c (⟨.word name, n⟩ :: ps) (.shorthand name none)
      ps := by
  refine ⟨(Takes.eat_other (by simp [next?])).step (.bind .place fun start _ => ?_),
    Nat.lt_succ_self _⟩
  refine (takes_propertyKey (.word name)).step ((Takes.eat_other colon).step ?_)
  refine (Takes.eat_other ends).step (.bind .getState fun s shown => ?_)
  rw [shown.context, free.reserves]
  exact .pure rfl

theorem phrase_keyedPattern {t : Token} {key : PropertyKey} {p : Pattern} {k : Bool}
    (isKey : IsKey t key) (one : Phrase false (bindingElement g) Pattern.unplaced c ps p rest) :
    Phrase m (propertyPattern g) Pattern.unplaced c (⟨t, n⟩ :: ⟨.colon, k⟩ :: ps) (.keyed key p)
      rest := by
  have notEllipsis : t ≠ .ellipsis := by
    rintro rfl
    cases isKey
  refine ⟨(Takes.eat_other (by simp [next?, notEllipsis])).step (.bind .place fun start _ => ?_), ?_⟩
  · refine (takes_propertyKey isKey).step ((Takes.eat .colon).step ?_)
    exact one.takes.bind fun p' looks => .pure (by rw [Pattern.unplaced, isKey.unplaced, looks])
  · have := one.shorter
    simp only [List.length_cons]
    omega

def isRest : Pattern → Bool
  | .rest _ => true
  | _ => false

theorem isRest_unplaced (p : Pattern) : isRest p.unplaced = isRest p := by cases p <;> rfl

theorem takes_checkObjectRest {properties : List (Nat × Pattern)}
    (noRest : ∀ p ∈ properties, isRest p.2 = false) {v : View} :
    Takes (checkObjectRest none properties) v (· = ()) v := by
  induction properties with
  | nil => exact .pure rfl
  | cons first others ih =>
      obtain ⟨start, p⟩ := first
      have first := noRest _ List.mem_cons_self
      have next := ih fun p member => noRest p (.tail _ member)
      cases p with
      | rest => cases first
      | _ => cases others <;> first | exact .pure rfl | exact next

def objectPatternStep (g : Grammar) (s : ObjectPatternState) :
    Parse (ObjectPatternState ⊕ Pattern) := do
  if ← eat .closeBrace then
    let properties := s.properties.reverse
    checkObjectRest s.trailingComma properties
    return .inr (.object (properties.map Prod.snd))
  else
    let start ← place
    let property ← propertyPattern g
    let mut trailingComma := s.trailingComma
    unless ← at? .closeBrace do
      expect .comma
      if ← at? .closeBrace then trailingComma := some (← previousPlace)
    return .inl ⟨(start, property) :: s.properties, trailingComma⟩

theorem objectPattern_eq (g : Grammar) :
    objectPattern g = advance >>= fun _ => iterate (objectPatternStep g) {} := rfl

theorem readsList_objectPattern : ReadsList (propertyPattern g) Pattern.unplaced (isRest · = false) c
    .closeBrace (objectPatternStep g)
    (fun s before => (s.properties.map fun p => p.2.unplaced) = before ∧
      (∀ p ∈ s.properties, isRest p.2 = false) ∧ s.trailingComma = none)
    (fun patterns p => p.unplaced = .object patterns) where
  last := by
    rintro s before ps p n rest ⟨shown, noRest, comma⟩ known starts one
    refine (Takes.eat_other starts).step (.bind .place fun start _ => ?_)
    refine one.takes.bind fun p' looks => (Takes.at?_self _).step (.pure ⟨_, rfl, ?_, ?_, comma⟩)
    · simp [looks, shown]
    · rw [← looks, isRest_unplaced] at known
      exact List.forall_mem_cons.2 ⟨known, noRest⟩
  more := by
    rintro s before ps p n later ⟨shown, noRest, comma⟩ known starts one next
    refine (Takes.eat_other starts).step (.bind .place fun start _ => ?_)
    refine one.takes.bind fun p' looks => (Takes.at?_other (by simp [next?])).step ?_
    refine .bind (.expect .comma) fun _ _ => (Takes.at?_other next).step ?_
    refine .pure ⟨_, rfl, ?_, ?_, comma⟩
    · simp [looks, shown]
    · rw [← looks, isRest_unplaced] at known
      exact List.forall_mem_cons.2 ⟨known, noRest⟩
  done := by
    rintro s before n rest ⟨shown, noRest, comma⟩
    refine (Takes.eat .closeBrace).step ?_
    rw [comma]
    refine (takes_checkObjectRest (by simpa using noRest)).step (.pure ⟨_, rfl, ?_⟩)
    rw [Pattern.unplaced, unplacedPatterns_eq, ← shown]
    simp

theorem phrase_objectPattern {patterns : List Pattern} (noRest : ∀ p ∈ patterns, isRest p = false)
    (enclosed : Enclosed (propertyPattern g) Pattern.unplaced c .closeBrace ps patterns rest) :
    Phrase m (bindingTarget g) Pattern.unplaced c (⟨.openBrace, n⟩ :: ps) (.object patterns) rest := by
  refine ⟨.step .demand ?_, Nat.lt_succ_of_lt enclosed.shorter⟩
  change Takes (objectPattern g) _ _ _
  rw [objectPattern_eq]
  exact .bind .advance fun _ _ =>
    readsList_objectPattern.takes ⟨rfl, by simp, rfl⟩ noRest enclosed

variable {kind : VarKind} {pattern : Pattern} {value : Expr}

def isLoopWord : Option Token → Bool
  | some (.word "in") | some (.word "of") => true
  | _ => false

theorem takes_atInOrOf {v : View} : Takes atInOrOf v (· = isLoopWord (next? v.pieces)) v := by
  refine Takes.token?.step ?_
  unfold isLoopWord
  split <;> exact .pure (by simp_all)

theorem phrase_declarator
    (target : Phrase m (bindingTarget g) Pattern.unplaced c ps pattern
      (⟨.assign .assign, n⟩ :: later))
    (assigned : Phrase false g.assignment Expr.unplaced c later value rest) :
    Phrase m (declarator g kind false) Pattern.unplaced c ps (.defaulted pattern value) rest := by
  refine ⟨.bind .place fun start _ => target.takes.bind fun p looksTarget => ?_, ?_⟩
  · refine takes_atInOrOf.step ((Takes.eat (.assign .assign)).step ?_)
    refine assigned.takes.bind fun value' looks => .pure ?_
    rw [Pattern.unplaced, looksTarget, looks]
  · have := target.shorter
    have := assigned.shorter
    simp only [List.length_cons] at *
    omega

theorem phrase_loopVariable (target : Phrase m (bindingTarget g) Pattern.unplaced c ps pattern rest)
    (ends : next? rest = some (.word "in")) :
    Phrase m (declarator g kind true) Pattern.unplaced c ps pattern rest := by
  refine ⟨.bind .place fun start _ => target.takes.bind fun p looks => ?_, target.shorter⟩
  refine takes_atInOrOf.step ?_
  rw [ends]
  exact .pure looks

theorem takes_declarators {inHead : Bool} {wordStop : Option Nat}
    (one : Phrase false (declarator g kind inHead) Pattern.unplaced
      { c with includeIn := c.includeIn || kind != .var || !inHead } ps pattern rest)
    (starts : next? ps ≠ some .semicolon) (ends : next? rest ≠ some .comma) :
    Takes (declarators g kind inHead wordStop) ⟨ps, c, false⟩
      (fun ds => ∃ start p, ds = [(start, p)] ∧ p.unplaced = pattern) ⟨rest, c, false⟩ := by
  refine .iterate (.done (Takes.atEnd.step ((Takes.at?_other starts).step ?_)))
  simp only [one.ne_nil, Bool.or_self, Bool.false_eq_true, if_false]
  refine .bind .place fun start _ => (Takes.withContext one.takes).bind fun p looks => ?_
  exact (Takes.eat_other ends).step (.pure ⟨_, rfl, start, p, rfl, looks⟩)

theorem phrase_var {k : Bool}
    (one : Phrase false (declarator g kind false) Pattern.unplaced
      { c with includeIn := c.includeIn || kind != .var || !false } ps pattern
      (⟨.semicolon, k⟩ :: rest))
    (starts : next? ps ≠ some .semicolon) {t : Token} :
    Phrase m (varStatement g kind) Stmt.unplaced c (⟨t, n⟩ :: ps) (.var kind [pattern]) rest := by
  refine ⟨.bind .advance fun _ _ => .bind .previousStop fun stop _ => ?_, ?_⟩
  · refine (takes_declarators one starts (by simp [next?])).bind ?_
    rintro _ ⟨start, p, rfl, looks⟩
    refine Takes.step (a := ()) (Takes.eatStatementEnd.step (.pure rfl)) (.pure ?_)
    rw [Stmt.unplaced, unplacedPatterns_eq]
    simp [looks]
  · have := one.shorter
    simp only [List.length_cons] at *
    omega

variable {e : Expr} {s : Stmt} {declares : Bool}

theorem phrase_fullExpression
    (one : Phrase m (expression g) Expr.unplaced { c with includeIn := true } ps e rest) :
    Phrase m (fullExpression g) Expr.unplaced c ps e rest := by
  refine ⟨?_, one.shorter⟩
  rw [fullExpression, withIn]
  exact .withContext one.takes

theorem phrase_expressionStatement {k : Bool}
    (one : Phrase m (expression g) Expr.unplaced { c with includeIn := true } ps e
      (⟨.semicolon, k⟩ :: rest)) :
    Phrase m (expressionStatement g) Stmt.unplaced c ps (.expr e) rest := by
  refine ⟨.bind .place fun start _ => (phrase_fullExpression one).takes.bind fun e' looks => ?_,
    ?_⟩
  · split
    · exact (Takes.eat_other (by simp [next?])).step
        (Takes.eatStatementEnd.step (.pure (by rw [Stmt.unplaced, looks])))
    · exact Takes.eatStatementEnd.step (.pure (by rw [Stmt.unplaced, looks]))
  · have := one.shorter
    simp only [List.length_cons] at *
    omega

def startsStatement (ps : List Piece) : Prop :=
  next? ps = some .openParen ∨
    ∃ name, IsName name ∧ next? ps = some (.word name) ∧ ∀ word, next? ps.tail ≠ some (.word word)

theorem takes_atUsingDeclaration_false {v : View} (noWord : ∀ word, next? v.pieces.tail ≠ some (.word word)) :
    Takes atUsingDeclaration v (· = false) v := by
  refine (Takes.at? _).step ?_
  split
  · refine Takes.newlineAhead.step ?_
    split
    · exact .pure rfl
    · refine Takes.aheadToken?.step ?_
      split
      case h_1 word here => exact absurd here (noWord word)
      case h_2 => exact .pure rfl
  · exact .pure rfl

theorem takes_expressionStatement {R : Stmt → Prop} {v : View} (starts : startsStatement ps)
    (one : Takes (expressionStatement g) ⟨ps, c, m⟩ R v) :
    Takes (statementOrDecl g declares) ⟨ps, c, m⟩ R v := by
  refine Takes.token?.step ?_
  cases ps with
  | nil => rcases starts with here | ⟨_, _, here, _⟩ <;> cases here
  | cons x ps =>
      rcases starts with here | ⟨name, named, here, noWord⟩
      · obtain ⟨t, n⟩ := x
        cases here
        exact Takes.demand.step one
      · obtain ⟨t, n⟩ := x
        cases here
        dsimp only [next?, List.head?_cons, Option.map_some]
        split
        case h_1 same => cases same; exact absurd (by decide) named
        case h_2 same => cases same; exact absurd (by decide) named
        refine Takes.demand.step ?_
        dsimp only
        split
        -- Words that may start a declaration are left: `using`, `async`, and any name at all.
        case h_20 =>
          cases declares with
          | true => exact (takes_atUsingDeclaration_false noWord).step one
          | false => exact one
        case h_21 => exact (takes_atAsyncFunction_false fun _ => noWord).step one
        case h_23 => exact one
        all_goals exact absurd (by decide) named

theorem phrase_expr {k : Bool} (starts : startsStatement ps)
    (one : Phrase m (expression g) Expr.unplaced { c with includeIn := true } ps e
      (⟨.semicolon, k⟩ :: rest)) :
    Phrase m (statementOrDecl g declares) Stmt.unplaced c ps (.expr e) rest :=
  ⟨takes_expressionStatement starts (phrase_expressionStatement one).takes,
    (phrase_expressionStatement one).shorter⟩

theorem phrase_varStatement
    (one : Phrase m (varStatement g .var) Stmt.unplaced c (⟨.word "var", n⟩ :: ps) s rest) :
    Phrase m (statementOrDecl g declares) Stmt.unplaced c (⟨.word "var", n⟩ :: ps) s rest :=
  ⟨Takes.token?.step (Takes.demand.step one.takes), one.shorter⟩

theorem phrase_constStatement
    (one : Phrase m (varStatement g .const) Stmt.unplaced c (⟨.word "const", n⟩ :: ps) s rest) :
    Phrase m (statementOrDecl g true) Stmt.unplaced c (⟨.word "const", n⟩ :: ps) s rest :=
  ⟨Takes.token?.step (Takes.demand.step one.takes), one.shorter⟩

theorem takes_parenthesized {k : Bool}
    (one : Phrase false (expression g) Expr.unplaced { c with includeIn := true } ps e
      (⟨.closeParen, k⟩ :: rest)) :
    Takes (parenthesized g) ⟨⟨.openParen, n⟩ :: ps, c, m⟩ (fun e' : Expr => e'.unplaced = e)
      ⟨rest, c, false⟩ :=
  .bind (.expect .openParen) fun _ _ => (phrase_fullExpression one).takes.bind fun _ looks =>
    .bind (.expect .closeParen) fun _ _ => .pure looks

theorem phrase_if {k l : Bool}
    (test : Phrase false (expression g) Expr.unplaced { c with includeIn := true } ps e
      (⟨.closeParen, k⟩ :: later))
    (body : Phrase false (g.statement false) Stmt.unplaced c later s rest)
    (ends : next? rest ≠ some (.word "else")) :
    Phrase m (statementOrDecl g declares) Stmt.unplaced c
      (⟨.word "if", n⟩ :: ⟨.openParen, l⟩ :: ps) (.ifElse e s none) rest := by
  refine ⟨Takes.token?.step (Takes.demand.step ?_), ?_⟩
  · refine .bind .advance fun _ _ => (takes_parenthesized test).bind fun e' looksTest => ?_
    refine body.takes.bind fun s' looks => (Takes.eat_other ends).step (.pure ?_)
    rw [Stmt.unplaced, looksTest, looks]
    rfl
  · have := test.shorter
    have := body.shorter
    simp only [List.length_cons] at *
    omega

theorem phrase_return {k : Bool} {x : Piece} (inside : c.inFunction = true)
    (line : x.newline = false) (starts : x.token ≠ .semicolon ∧ x.token ≠ .closeBrace)
    (value : Phrase false (expression g) Expr.unplaced { c with includeIn := true } (x :: ps) e
      (⟨.semicolon, k⟩ :: rest)) :
    Phrase m (statementOrDecl g declares) Stmt.unplaced c (⟨.word "return", n⟩ :: x :: ps)
      (.return (some e)) rest := by
  refine ⟨Takes.token?.step (Takes.demand.step ?_), ?_⟩
  · refine .bind .place fun start _ => ?_
    have within : Takes (do unless ← inContext (·.inFunction) do complain start .returnOutside)
        ⟨rest, c, false⟩ (fun _ => True) ⟨rest, c, false⟩ := by
      refine (Takes.inContext _).step ?_
      simp only [inside, if_true]
      exact .pure trivial
    refine .andAlways (.bind .advance fun _ _ => Takes.atStatementEnd.step ?_) within
    simp only [line, beq_eq_false_iff_ne.2 starts.1, beq_eq_false_iff_ne.2 starts.2, Bool.or_self,
      Bool.false_eq_true, if_false]
    refine (phrase_fullExpression value).takes.bind fun e' looks => ?_
    refine Takes.step (a := some e') (.pure rfl) (.bind .expectStatementEnd fun _ _ => .pure ?_)
    rw [Stmt.unplaced, unplacedExpr?, looks]
  · have := value.shorter
    simp only [List.length_cons] at *
    omega

def Context.inHead (c : Context) : Context := { c with forHead := true, forAwaitHead := false }

def Context.inLoop (c : Context) : Context := { c with breakAllowed := true, continueAllowed := true }

def isFixed (kind : VarKind) : Bool := kind != .let

theorem takes_varKind? (fixed : isFixed kind) :
    Takes varKind? ⟨⟨.word kind.text, n⟩ :: ps, c, m⟩ (· = some kind)
      ⟨⟨.word kind.text, n⟩ :: ps, c, m⟩ := by
  cases kind with
  | var | const => exact Takes.token?.step (.pure rfl)
  | «let» => cases fixed

theorem takes_forHead {k l : Bool} (fixed : isFixed kind) (plain : c.IsPlain) (bound : MayBind name)
    (object : Phrase false (expression g) Expr.unplaced { c with includeIn := true } ps e rest) :
    Takes (forHead g) ⟨⟨.word kind.text, n⟩ :: ⟨.word name, k⟩ :: ⟨.word "in", l⟩ :: ps, c, m⟩
      (fun loop => ∃ head e', loop = .overKeys head e' ∧
        head.unplaced = .var kind [.ident name] ∧ e'.unplaced = e) ⟨rest, c, false⟩ := by
  have one := @phrase_loopVariable false
    { c with includeIn := c.includeIn || kind != .var || !true } _ (⟨.word "in", l⟩ :: ps) g kind _
    (@phrase_boundName false k _ _ g name plain bound) rfl
  refine (takes_varKind? fixed).step ?_
  cases kind with
  | «let» => cases fixed
  | var | const =>
      refine Takes.step (a := true) (.pure rfl) ?_
      refine (takes_varKind? rfl).step ?_
      refine .bind .advance fun _ _ => .bind .previousStop fun stop _ => ?_
      refine (takes_declarators one (by simp [next?]) (by simp [next?])).bind ?_
      rintro _ ⟨start, p, rfl, looks⟩
      have ident : p = .ident name := by cases p <;> cases looks; rfl
      subst ident
      refine takes_atInOrOf.step (Takes.step (a := ()) (.pure rfl) ?_)
      refine (Takes.at?_other (by simp [next?])).step (.bind .advance fun _ _ => ?_)
      refine (phrase_fullExpression object).takes.bind fun e' looks => ?_
      exact .pure ⟨_, e', rfl, rfl, looks⟩

theorem phrase_forIn {j k l i h : Bool} (fixed : isFixed kind) (plain : c.IsPlain)
    (bound : MayBind name)
    (object : Phrase false (expression g) Expr.unplaced { c.inHead with includeIn := true } ps e
      (⟨.closeParen, j⟩ :: later))
    (body : Phrase false (g.statement false) Stmt.unplaced c.inLoop later s rest) :
    Phrase m (statementOrDecl g declares) Stmt.unplaced c
      (⟨.word "for", n⟩ :: ⟨.openParen, h⟩ :: ⟨.word kind.text, i⟩ :: ⟨.word name, k⟩ ::
        ⟨.word "in", l⟩ :: ps)
      (.forIn (.var kind [.ident name]) e s) rest := by
  refine ⟨Takes.token?.step (Takes.demand.step ?_), ?_⟩
  · refine .bind .advance fun _ _ => .bind .place fun start _ => ?_
    refine (Takes.eat_other (by simp [next?])).step (.bind (.expect .openParen) fun _ _ => ?_)
    have head := takes_forHead (m := false) (n := i) (k := k) (l := l) (c := c.inHead) fixed plain
      bound object
    refine (Takes.withContext head).bind ?_
    rintro _ ⟨head, e', rfl, looksHead, looksObject⟩
    refine .bind (.expect .closeParen) fun _ _ => ?_
    refine (Takes.withContext body.takes).bind fun s' looks => .pure ?_
    rw [Stmt.unplaced, looksHead, looksObject, looks]
  · have := object.shorter
    have := body.shorter
    simp only [List.length_cons] at *
    omega

end Enclose.Script.Parser
