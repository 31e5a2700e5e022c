import Enclose.Proofs.Bundle.Interference
import Enclose.Proofs.Nesting.Prefix

/-!
# The columns of a report

The two that complain about a text do not measure it alike. The guard counts characters, and its
lines end with a line feed. The parser counts the columns that the characters take on a terminal,
and its lines end with a carriage return as well (`transform_columns`).
-/

namespace Enclose

open Script

def endsLine (source : List Char) (i : Nat) : Bool :=
  source[i]? == some '\n' || (source[i]? == some '\r' && source[i + 1]? != some '\n')

def feedsLine (source : List Char) (i : Nat) : Bool := source[i]? == some '\n'

def lineNumber (ends : Nat → Bool) : Nat → Nat
  | 0 => 1
  | place + 1 => if ends place then lineNumber ends place + 1 else lineNumber ends place

def lineStart (ends : Nat → Bool) : Nat → Nat
  | 0 => 0
  | place + 1 => if ends place then place + 1 else lineStart ends place

def lineBefore (ends : Nat → Bool) (source : List Char) (place : Nat) : List Char :=
  (source.take place).drop (lineStart ends place)

def width (text : List Char) : Nat := text.foldr (fun c n => Unicode.columns c + n) 0

theorem width_append (text more : List Char) : width (text ++ more) = width text + width more := by
  induction text with
  | nil => exact (Nat.zero_add _).symm
  | cons c rest ih =>
      rw [List.cons_append, width, List.foldr_cons, ← width, ih, ← Nat.add_assoc]
      rfl

section

variable {ends : Nat → Bool} {source : List Char}

theorem lineStart_le (within : ∀ i, ends i = true → i < source.length) (place : Nat) :
    lineStart ends place ≤ (source.take place).length := by
  induction place with
  | zero => exact Nat.zero_le _
  | succ place ih =>
      rw [lineStart]
      split
      case isTrue isEnd =>
        have bound := within place isEnd
        rw [List.length_take]
        omega
      case isFalse =>
        refine Nat.le_trans ih ?_
        rw [List.length_take, List.length_take]
        omega

theorem lineBefore_succ (within : ∀ i, ends i = true → i < source.length) (place : Nat) :
    lineBefore ends source (place + 1) =
      if ends place then [] else lineBefore ends source place ++ source[place]?.toList := by
  rw [lineBefore, lineStart]
  split
  case isTrue => exact List.drop_eq_nil_of_le (List.length_take_le _ _)
  case isFalse =>
    rw [List.take_add_one, List.drop_append_of_le_length (lineStart_le within place), lineBefore]

end

theorem lt_of_feedsLine {source : List Char} (i : Nat) (feeds : feedsLine source i = true) :
    i < source.length :=
  (List.getElem?_eq_some_iff.1 (beq_iff_eq.1 feeds)).1

theorem lt_of_endsLine {source : List Char} (i : Nat) (ends : endsLine source i = true) :
    i < source.length := by
  simp only [endsLine, Bool.or_eq_true, Bool.and_eq_true, beq_iff_eq] at ends
  rcases ends with feed | ⟨ret, -⟩
  · exact (List.getElem?_eq_some_iff.1 feed).1
  · exact (List.getElem?_eq_some_iff.1 ret).1

theorem endsLine_cons (c : Char) (source : List Char) (i : Nat) :
    endsLine (c :: source) (i + 1) = endsLine source i := by
  simp [endsLine]

theorem locate_zero (line column : Nat) (source : List Char) :
    locate line column source 0 = (line, column) := by
  rw [locate]

theorem locate_nil (line column place : Nat) : locate line column [] place = (line, column) := by
  cases place <;> rw [locate]
  simp

def StartsPair (c : Char) (rest : List Char) : Prop := c = '\r' ∧ rest.head? = some '\n'

theorem locate_cons {c : Char} {rest : List Char} (single : ¬StartsPair c rest)
    (line column place : Nat) :
    locate line column (c :: rest) (place + 1) =
      if c = '\n' ∨ c = '\r' then locate (line + 1) 1 rest place
      else locate line (column + Unicode.columns c) rest place := by
  have noPair (tail : List Char) (isReturn : c = '\r') (isFeed : rest = '\n' :: tail) : False :=
    single ⟨isReturn, isFeed ▸ rfl⟩
  rw [locate]
  · exact fun tail isReturn isFeed _ => noPair tail isReturn isFeed
  · exact fun tail _ isReturn isFeed _ => noPair tail isReturn isFeed

theorem endsLine_zero {c : Char} {rest : List Char} (single : ¬StartsPair c rest) :
    endsLine (c :: rest) 0 = decide (c = '\n' ∨ c = '\r') := by
  by_cases isReturn : c = '\r'
  · have noFeed : rest[0]? ≠ some '\n' := fun isFeed =>
      single ⟨isReturn, List.head?_eq_getElem? ▸ isFeed⟩
    simp [endsLine, isReturn, noFeed]
  · have noReturn : (c == '\r') = false := beq_eq_false_iff_ne.2 isReturn
    simp [endsLine, isReturn, noReturn]
    rfl

theorem locate_succ (line column : Nat) (source : List Char) (place : Nat) :
    locate line column source (place + 1) =
      if endsLine source place then ((locate line column source place).1 + 1, 1)
      else ((locate line column source place).1,
        (locate line column source place).2 + width source[place]?.toList) := by
  -- Along the recursion of `locate`, which takes a carriage return and its line feed at once.
  fun_induction locate line column source place with
  | case1 line column source =>
      cases source with
      | nil => simp [locate_nil, endsLine, width]
      | cons c rest =>
          by_cases pair : StartsPair c rest
          · obtain ⟨rfl, isFeed⟩ := pair
            obtain ⟨tail, rfl⟩ := List.head?_eq_some_iff.1 isFeed
            simp [locate, endsLine, width, Unicode.columns]
          · simp [locate_cons pair, locate_zero, endsLine_zero pair, width]
  | case2 => simp [locate_nil, endsLine, width]
  | case3 => simp [locate, endsLine]
  | case4 line column rest place ih =>
      rw [endsLine_cons, endsLine_cons, List.getElem?_cons_succ, List.getElem?_cons_succ, ← ih,
        locate]
  | case5 line column c rest place noPair noPair' ends ih =>
      have single : ¬StartsPair c rest := by
        rintro ⟨isReturn, isFeed⟩
        obtain ⟨tail, isFeed⟩ := List.head?_eq_some_iff.1 isFeed
        cases place with
        | zero => exact noPair tail isReturn isFeed rfl
        | succ place => exact noPair' tail place isReturn isFeed rfl
      rw [endsLine_cons, List.getElem?_cons_succ, ← ih, locate_cons single, if_pos ends]
  | case6 line column c rest place noPair noPair' goesOn ih =>
      have single : ¬StartsPair c rest := fun pair => goesOn (.inr pair.1)
      rw [endsLine_cons, List.getElem?_cons_succ, ← ih, locate_cons single, if_neg goesOn]

theorem locate_eq (source : List Char) (place : Nat) :
    locate 1 1 source place =
      (lineNumber (endsLine source) place,
        1 + width (lineBefore (endsLine source) source place)) := by
  induction place with
  | zero => simp [locate_zero, lineNumber, lineBefore, width]
  | succ place ih =>
      rw [locate_succ, ih, lineNumber, lineBefore_succ lt_of_endsLine]
      split
      · rfl
      · rw [width_append, Nat.add_assoc]

theorem lastLine_concat (before : List Char) (c : Char) :
    Nesting.lastLine (before ++ [c]) = if c = '\n' then [] else Nesting.lastLine before ++ [c] := by
  by_cases isFeed : c = '\n' <;> simp [Nesting.lastLine, isFeed]

theorem lastLine_eq (before rest : List Char) :
    1 + before.count '\n' = lineNumber (feedsLine (before ++ rest)) before.length ∧
      Nesting.lastLine before =
        lineBefore (feedsLine (before ++ rest)) (before ++ rest) before.length := by
  induction before using List.reverseRecOn generalizing rest with
  | nil => exact ⟨rfl, rfl⟩
  | append_singleton before c ih =>
      obtain ⟨line, column⟩ := ih (c :: rest)
      have here : (before ++ c :: rest)[before.length]? = some c := by simp
      have feeds : feedsLine (before ++ c :: rest) before.length = (c == '\n') := by
        rw [feedsLine, here]
        rfl
      rw [List.append_assoc, List.singleton_append, List.length_append, List.length_singleton,
        lineNumber, lineBefore_succ lt_of_feedsLine, lastLine_concat, feeds, here, ← line, ← column]
      by_cases isFeed : c = '\n'
      · simp [isFeed, Nat.add_assoc]
      · simp [isFeed]

def guardPlace (source : List Char) (place : Nat) : Nat × Nat :=
  (lineNumber (feedsLine source) place, 1 + (lineBefore (feedsLine source) source place).length)

theorem guardPlace_eq (before rest : List Char) :
    guardPlace (before ++ rest) before.length =
      (1 + before.count '\n', 1 + (Nesting.lastLine before).length) := by
  obtain ⟨line, column⟩ := lastLine_eq before rest
  rw [guardPlace, line, column]

section

variable {f g : Nat → Bool}

theorem lineNumber_le (weaker : ∀ i, f i = true → g i = true) (place : Nat) :
    lineNumber f place ≤ lineNumber g place := by
  induction place with
  | zero => exact Nat.le_refl _
  | succ place ih =>
      rw [lineNumber, lineNumber]
      have here := weaker place
      cases isEnd : f place <;> cases isEnd' : g place <;> simp_all
      omega

/-- Of two ways to end lines, one of which ends more, both tell the same number of a line only if
they have ended the same lines before it. -/
theorem lineNumber_eq_iff (weaker : ∀ i, f i = true → g i = true) (place : Nat) :
    lineNumber g place = lineNumber f place ↔ ∀ i < place, g i = f i := by
  induction place with
  | zero => simp [lineNumber]
  | succ place ih =>
      have bound := lineNumber_le weaker place
      have here := weaker place
      rw [lineNumber, lineNumber, Nat.forall_lt_succ_right, ← ih]
      cases isEnd : f place <;> cases isEnd' : g place <;> simp_all
      omega

theorem lineStart_congr {place : Nat} (same : ∀ i < place, g i = f i) :
    lineStart g place = lineStart f place := by
  induction place with
  | zero => rfl
  | succ place ih =>
      rw [lineStart, lineStart, same place (Nat.lt_succ_self _),
        ih fun i before => same i (Nat.lt_succ_of_lt before)]

end

theorem endsLine_of_feedsLine (source : List Char) (i : Nat) (feeds : feedsLine source i = true) :
    endsLine source i = true := by
  rw [endsLine, ← feedsLine, feeds, Bool.true_or]

theorem endsLine_eq_feedsLine_iff (source : List Char) (i : Nat) :
    endsLine source i = feedsLine source i ↔
      (source[i]? = some '\r' → source[i + 1]? = some '\n') := by
  by_cases isReturn : source[i]? = some '\r'
  · simp [endsLine, feedsLine, isReturn]
  · have noReturn : (source[i]? == some '\r') = false := beq_eq_false_iff_ne.2 isReturn
    simp [endsLine, feedsLine, isReturn, noReturn]

theorem locate_eq_guardPlace_iff (source : List Char) (place : Nat) :
    locate 1 1 source place = guardPlace source place ↔
      (∀ i < place, source[i]? = some '\r' → source[i + 1]? = some '\n') ∧
        width (lineBefore (feedsLine source) source place) =
          (lineBefore (feedsLine source) source place).length := by
  rw [locate_eq, guardPlace, Prod.mk.injEq,
    lineNumber_eq_iff (endsLine_of_feedsLine source)]
  simp only [endsLine_eq_feedsLine_iff]
  refine and_congr_right fun paired => ?_
  have start := lineStart_congr fun i before =>
    (endsLine_eq_feedsLine_iff source i).2 (paired i before)
  rw [lineBefore, start, ← lineBefore]
  exact Nat.add_left_cancel_iff

theorem width_eq_length {text : List Char} (plain : ∀ c ∈ text, 0x20 ≤ c.toNat ∧ c.toNat ≤ 0x7E) :
    width text = text.length := by
  induction text with
  | nil => rfl
  | cons c rest ih =>
      obtain ⟨⟨low, high⟩, plain⟩ := List.forall_mem_cons.1 plain
      have noTab : c ≠ '\t' := by
        rintro rfl
        exact absurd low (by decide)
      have one : Unicode.columns c = 1 := by
        have ascii : c.toNat < 128 := by omega
        have noControl : ¬(c.toNat < 32 || decide (c.toNat = 127)) = true := by
          simp only [Bool.or_eq_true, decide_eq_true_eq]
          omega
        rw [Unicode.columns, if_pos ascii, if_neg noTab, if_neg noControl]
      rw [width, List.foldr_cons, one, ← width, ih plain, List.length_cons, Nat.add_comm]

theorem mem_mergeAdjacent (d : Diagnostic) (ds : List Diagnostic) :
    d ∈ Diagnostic.mergeAdjacent ds ↔ d ∈ ds := by
  fun_induction Diagnostic.mergeAdjacent ds with
  | case1 => rfl
  | case2 e => rfl
  | case3 e rest ih => rw [ih]; simp
  | case4 e f rest other ih => rw [List.mem_cons, ih, List.mem_cons (l := f :: rest)]

theorem mem_arrange (d : Diagnostic) (ds : List Diagnostic) :
    d ∈ Diagnostic.arrange ds ↔ d ∈ ds := by
  rw [Diagnostic.arrange, mem_mergeAdjacent, List.mem_mergeSort]

theorem parse_eq_error {text : List Char} {problems : List Problem}
    (failed : Program.parse text = .error problems) : problems = (Module.parse text).problems := by
  unfold Program.parse at failed
  dsimp only at failed
  split at failed
  · cases failed
  · split at failed
    · cases failed
    · exact (Except.error.inj failed).symm

theorem readProgram_syntaxErrors {text : List Char} {ds : List Diagnostic}
    (failed : readProgram text = .error (.syntaxErrors ds)) :
    ds = Diagnostic.arrange ((Module.parse text).problems.map (·.diagnostic text)) := by
  unfold readProgram at failed
  split at failed
  · cases failed
  · split at failed
    case h_1 => cases failed
    case h_2 problems parsed =>
      rw [← parse_eq_error parsed]
      cases failed
      rfl

theorem readProgram_tooDeep {text : List Char} {d : Diagnostic}
    (failed : readProgram text = .error (.tooDeep d)) : Nesting.check text = .error d := by
  unfold readProgram at failed
  split at failed
  case h_1 deep checked =>
    cases failed
    exact checked
  case h_2 =>
    split at failed <;> cases failed

theorem check_place {text : List Char} {d : Diagnostic} (rejected : Nesting.check text = .error d) :
    ∃ place, text[place]? ∈ [some '(', some '[', some '{'] ∧
      (d.line, d.column) = guardPlace text place := by
  obtain ⟨before, c, after, t, rfl, passed, complaint⟩ :=
    Nesting.scan_eq_error (Nesting.check_eq_error_iff.1 rejected)
  have stops := Nesting.stopsAt_of_step passed complaint
  refine ⟨before.length, ?_, ?_⟩
  · rcases stops.opens with rfl | rfl | rfl <;> simp
  · rw [guardPlace_eq, stops.line, stops.column]

theorem diagnostic_eq (text : List Char) (p : Problem) :
    p.diagnostic text =
      ⟨lineNumber (endsLine text) p.place,
        1 + width (lineBefore (endsLine text) text p.place), p.cause.message⟩ := by
  simp only [Problem.diagnostic, locate_eq]

/-- The guard tells the column of a bracket by the number of the characters before it in its line.
The parser tells that of a problem by the terminal columns that they take, and so by their number
exactly if both are the same, which they are if no character is a tab, wide, without width or out of
sight. For the same place, both say the same exactly if in addition no line before it ends with a
carriage return alone. -/
theorem transform_columns {options : Options} {source : String} {failure : Failure}
    (failed : transform options source = .error failure) :
    (∀ d, failure = .tooDeep d → ∃ place,
      source.toList[place]? ∈ [some '(', some '[', some '{'] ∧
      (d.line, d.column) = guardPlace source.toList place) ∧
    (∀ ds, failure = .syntaxErrors ds →
      (∀ d, d ∈ ds ↔ ∃ p ∈ (Module.parse source.toList).problems, d = p.diagnostic source.toList) ∧
      ∀ p ∈ (Module.parse source.toList).problems,
        let before := lineBefore (endsLine source.toList) source.toList p.place
        let d := p.diagnostic source.toList
        d.line = lineNumber (endsLine source.toList) p.place ∧ d.column = 1 + width before ∧
          (d.column = 1 + before.length ↔ width before = before.length) ∧
          ((∀ c ∈ before, 0x20 ≤ c.toNat ∧ c.toNat ≤ 0x7E) → d.column = 1 + before.length)) ∧
    ∀ place, locate 1 1 source.toList place = guardPlace source.toList place ↔
      (∀ i < place, source.toList[i]? = some '\r' → source.toList[i + 1]? = some '\n') ∧
        width (lineBefore (feedsLine source.toList) source.toList place) =
          (lineBefore (feedsLine source.toList) source.toList place).length := by
  refine ⟨?_, ?_, locate_eq_guardPlace_iff source.toList⟩
  · rintro d rfl
    exact check_place (readProgram_tooDeep ((transform_error_iff (by trivial)).1 failed))
  · rintro ds rfl
    have arranged := readProgram_syntaxErrors ((transform_error_iff (by trivial)).1 failed)
    refine ⟨fun d => ?_, fun p _ => ?_⟩
    · rw [arranged, mem_arrange, List.mem_map]
      exact exists_congr fun p => and_congr_right fun _ => eq_comm
    · simp only [diagnostic_eq, Nat.add_left_cancel_iff, true_and]
      exact width_eq_length

/-- A tab takes four columns. -/
theorem transform_tabbed :
    transform {} "\t)" = .error (.syntaxErrors [⟨1, 5, "Expression expected"⟩]) ∧
      (Module.parse "\t)".toList).problems = [⟨1, .expectedExpression⟩] ∧
      (lineBefore (endsLine "\t)".toList) "\t)".toList 1).length = 1 := by
  decide +kernel

def wideLineSource : String := "/* 漢 */\n a = )"

theorem transform_columns_of_wideLineSource :
    ∃ ds d, transform {} wideLineSource = .error (.syntaxErrors ds) ∧ d ∈ ds ∧
      d.line = 2 ∧ d.column = 1 + " a = ".length := by
  have failed : transform {} wideLineSource =
      .error (.syntaxErrors [⟨2, 6, "Expression expected"⟩]) := by decide +kernel
  have isIn : ⟨13, .expectedExpression⟩ ∈ (Module.parse wideLineSource.toList).problems := by
    decide +kernel
  have before : lineBefore (endsLine wideLineSource.toList) wideLineSource.toList 13 =
      [' ', 'a', ' ', '=', ' '] := by decide +kernel
  obtain ⟨-, reported, -⟩ := transform_columns failed
  obtain ⟨all, each⟩ := reported _ rfl
  obtain ⟨line, -, -, plain⟩ := each _ isIn
  rw [before] at plain
  exact ⟨_, _, failed, (all _).2 ⟨_, isIn, rfl⟩, line.trans (by decide +kernel), plain (by simp)⟩

end Enclose
