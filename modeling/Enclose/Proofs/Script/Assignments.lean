import Enclose.Proofs.Script.Phrases

/-!
# Conditional expressions, assignments and sequences in a sequence of tokens
-/

namespace Enclose.Script.Parser

variable {m n k : Bool} {c : Context} {ps rest later after : List Piece} {d : Nat}
variable {e test whole : Expr}

theorem takes_conditionalExpr (simple : isArrow e = false)
    (one : Phrase m (grammar (d + 1)).unary Expr.unplaced c ps e later)
    (operators : Operators (grammar d) 0 c e later test after)
    (next : ∀ test' : Expr, test'.unplaced = test → Takes (do
      if ← eat .question then
        let consequent ← withIn true (grammar (d + 1)).assignment
        expect .colon
        return .conditional test' consequent (← (grammar (d + 1)).assignment)
      else return test') ⟨after, c, false⟩ (fun e : Expr => e.unplaced = whole) ⟨rest, c, false⟩) :
    Takes (conditionalExpr (grammar (d + 1))) ⟨ps, c, m⟩ (fun e : Expr => e.unplaced = whole)
      ⟨rest, c, false⟩ := by
  refine .bind .place fun start _ => (Takes.orComplain one.takes).bind fun e' looks => ?_
  rw [← looks, isArrow_unplaced] at simple
  rw [if_neg (Bool.eq_false_iff.1 simple)]
  exact (operators.takes start looks).bind next

theorem phrase_test (simple : isArrow e = false)
    (one : Phrase m (grammar (d + 1)).unary Expr.unplaced c ps e later)
    (operators : Operators (grammar d) 0 c e later test rest) (ends : next? rest ≠ some .question) :
    Phrase m (conditionalExpr (grammar (d + 1))) Expr.unplaced c ps test rest :=
  ⟨takes_conditionalExpr simple one operators fun _ looks =>
      (Takes.eat_other ends).step (.pure looks),
    Nat.lt_of_le_of_lt operators.length_le one.shorter⟩

theorem phrase_conditional {consequent alternate : Expr} {first second : List Piece}
    (simple : isArrow e = false)
    (one : Phrase m (grammar (d + 1)).unary Expr.unplaced c ps e later)
    (operators : Operators (grammar d) 0 c e later test (⟨.question, n⟩ :: first))
    (yes : Phrase false (grammar (d + 1)).assignment Expr.unplaced { c with includeIn := true } first
      consequent (⟨.colon, k⟩ :: second))
    (no : Phrase false (grammar (d + 1)).assignment Expr.unplaced c second alternate rest) :
    Phrase m (conditionalExpr (grammar (d + 1))) Expr.unplaced c ps
      (.conditional test consequent alternate) rest := by
  constructor
  · refine takes_conditionalExpr simple one operators fun test' looks => ?_
    refine (Takes.eat .question).step ((Takes.withContext yes.takes).bind fun yes' looksYes => ?_)
    refine .bind (.expect .colon) fun _ _ => no.takes.bind fun no' looksNo => .pure ?_
    rw [Expr.unplaced, looks, looksYes, looksNo]
  · have := one.shorter
    have := operators.length_le
    have := yes.shorter
    have := no.shorter
    simp only [List.length_cons] at *
    omega

def maySayArrow (ps : List Piece) : Bool := (next? ps).any startsArrow

section
variable (plain : c.IsPlain) {g : Grammar}
include plain

theorem takes_assignmentExpr {R : Expr → Prop}
    (one : Phrase (maySayArrow ps) (conditionalExpr g) Expr.unplaced c ps e later)
    (next : ∀ start e', e'.unplaced = e → Takes
      (if mayBeAssigned e' then afterLeftSide g start e' else pure e') ⟨later, c, false⟩ R
      ⟨rest, c, false⟩) :
    Takes (assignmentExpr g) ⟨ps, c, m⟩ R ⟨rest, c, false⟩ := by
  refine (Takes.inContext _).step (Takes.at? _ |>.step ?_)
  simp only [plain.2.2.1, Bool.false_and, Bool.false_eq_true, if_false]
  cases ps with
  | nil => exact absurd one.shorter (Nat.not_lt_zero _)
  | cons x ps =>
      refine Takes.demand.step (Takes.startArrow _ fun start => ?_)
      exact one.takes.bind fun e' looks => next start e' looks

theorem phrase_value (one : Phrase (maySayArrow ps) (conditionalExpr g) Expr.unplaced c ps e rest)
    (ends : ∀ op, next? rest ≠ some (.assign op)) :
    Phrase m (assignmentExpr g) Expr.unplaced c ps e rest := by
  refine ⟨takes_assignmentExpr plain one fun start e' looks => ?_, one.shorter⟩
  split
  case isTrue =>
    refine Takes.token?.step ?_
    dsimp only
    split
    case h_1 op here => exact absurd here (ends op)
    case h_2 => exact .pure looks
  case isFalse => exact .pure looks

theorem phrase_assign {target : Expr} {key : PropertyKey} {value : Expr}
    (one : Phrase (maySayArrow ps) (conditionalExpr g) Expr.unplaced c ps (.member target key)
      (⟨.assign .assign, n⟩ :: later))
    (assigned : Phrase false g.assignment Expr.unplaced c later value rest) :
    Phrase m (assignmentExpr g) Expr.unplaced c ps
      (.assign .assign (.expr (.member target key)) value) rest := by
  constructor
  · refine takes_assignmentExpr plain one fun start e' looks => ?_
    cases e' <;> cases looks
    rename_i target' key'
    have isTarget : mayBeAssigned (.member target' key') = true := rfl
    rw [if_pos isTarget]
    refine Takes.token?.step ?_
    -- A member is a target as it stands: covering it changes nothing and complains of nothing.
    have covered : Takes (coverTarget start (.member target' key'))
        ⟨⟨.assign .assign, n⟩ :: later, c, false⟩ (· = .expr (.member target' key'))
        ⟨⟨.assign .assign, n⟩ :: later, c, false⟩ :=
      ((Takes.inContext _).step (.pure (Q := (· = ())) rfl)).step (.pure rfl)
    refine covered.step (Takes.advance.bind fun _ _ => assigned.takes.bind fun value' looks => ?_)
    refine .pure ?_
    rw [Expr.unplaced, Pattern.unplaced, looks]
    rfl
  · have := one.shorter
    have := assigned.shorter
    simp only [List.length_cons] at *
    omega

end

theorem phrase_expression {g : Grammar} (one : Phrase m g.assignment Expr.unplaced c ps e rest)
    (ends : next? rest ≠ some .comma) : Phrase m (expression g) Expr.unplaced c ps e rest :=
  ⟨one.takes.bind fun _ looks => (Takes.at?_other ends).step (.pure looks), one.shorter⟩

section
variable {g : Grammar} (arrow : isArrow e = true)
include arrow

theorem isArrow_of_unplaced {e' : Expr} (looks : e'.unplaced = e) : isArrow e' = true := by
  rw [← isArrow_unplaced, looks, arrow]

theorem phrase_arrowOperand (begins : beginsOperand ps)
    (one : Phrase m (operand g (leftSide g)) Expr.unplaced c ps e rest) :
    Phrase m (memberExpr g) Expr.unplaced c ps e rest := by
  refine ⟨takes_memberExpr begins fun start => one.takes.bind fun e' looks => ?_, one.shorter⟩
  rw [if_pos (isArrow_of_unplaced arrow looks)]
  exact .pure looks

theorem phrase_arrowLeft (begins : beginsOperand ps)
    (one : Phrase m g.member Expr.unplaced c ps e rest) :
    Phrase m (leftSide g) Expr.unplaced c ps e rest := by
  refine ⟨.bind .place fun start _ => ?_, one.shorter⟩
  refine (Takes.eat_other (beginsOperand_ne begins rfl)).step ?_
  refine (Takes.eat_other (beginsOperand_ne begins rfl)).step ?_
  refine one.takes.bind fun e' looks => ?_
  rw [if_pos (isArrow_of_unplaced arrow looks)]
  exact .pure looks

theorem phrase_arrowUnary (begins : beginsOperand ps)
    (one : Phrase m (leftSide g) Expr.unplaced c ps e rest) :
    Phrase m (unaryExpr g) Expr.unplaced c ps e rest := by
  refine ⟨takes_unaryExpr begins fun start => one.takes.bind fun e' looks => ?_, one.shorter⟩
  rw [if_pos (isArrow_of_unplaced arrow looks)]
  exact .pure looks

theorem phrase_arrowValue (plain : c.IsPlain)
    (one : Phrase (maySayArrow ps) g.unary Expr.unplaced c ps e rest) :
    Phrase m (assignmentExpr g) Expr.unplaced c ps e rest := by
  have conditional : Phrase (maySayArrow ps) (conditionalExpr g) Expr.unplaced c ps e rest := by
    refine ⟨.bind .place fun start _ => (Takes.orComplain one.takes).bind fun e' looks => ?_,
      one.shorter⟩
    rw [if_pos (isArrow_of_unplaced arrow looks)]
    exact .pure looks
  refine ⟨takes_assignmentExpr plain conditional fun start e' looks => ?_, one.shorter⟩
  have notAssigned : mayBeAssigned e' = false := by
    have known := isArrow_of_unplaced arrow looks
    cases e' <;> first | rfl | exact absurd known Bool.false_ne_true
  rw [if_neg (Bool.eq_false_iff.1 notAssigned)]
  exact .pure looks

theorem phrase_arrow (plain : c.IsPlain) (begins : beginsOperand ps)
    (one : Phrase (maySayArrow ps) (operand (grammar d) (leftSide (grammar d))) Expr.unplaced c ps e
      rest) :
    Phrase m (grammar (d + 3)).assignment Expr.unplaced c ps e rest :=
  phrase_arrowValue (g := grammar (d + 2)) arrow plain <|
    phrase_arrowUnary (g := grammar (d + 1)) arrow begins <|
      phrase_arrowLeft arrow begins (phrase_arrowOperand arrow begins one)

end

end Enclose.Script.Parser
