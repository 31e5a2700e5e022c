import Enclose.Proofs.Nesting.Document

/-!
# The first bracket that is one too many

The guard never looks ahead and never goes back: what it complains about is a bracket, and the text
up to that bracket decides about every text that starts with it (`check_prefix`).
-/

namespace Enclose.Nesting

namespace Scanner

variable {s t : Scanner} {c : Char} {text : List Char} {d : Diagnostic}

def SamePlace (s t : Scanner) : Prop := t.line = s.line ∧ t.column = s.column

theorem SamePlace.trans {u : Scanner} (first : s.SamePlace t) (second : t.SamePlace u) :
    s.SamePlace u :=
  ⟨second.1.trans first.1, second.2.trans first.2⟩

theorem SamePlace.advance (same : s.SamePlace t) (c : Char) :
    (s.advance c).SamePlace (t.advance c) := by
  unfold Scanner.advance
  split
  · exact ⟨congrArg (· + 1) same.1, rfl⟩
  · exact ⟨same.1, congrArg (· + 1) same.2⟩

theorem SamePlace.along (same : s.SamePlace t) (text : List Char) :
    (s.along text).SamePlace (t.along text) := by
  induction text generalizing s t with
  | nil => exact same
  | cons c rest ih => exact ih (same.advance c)

def opens (c : Char) : Prop := c = '(' ∨ c = '[' ∨ c = '{'

def Reads (s : Scanner) (c : Char) : Except Diagnostic Scanner → Prop
  | .ok t => s.SamePlace t
  | .error d => opens c ∧ d = s.tooDeep

theorem reads_enter (opening : opens c) : s.Reads c s.enter := by
  unfold enter
  split
  · exact ⟨opening, rfl⟩
  · exact ⟨rfl, rfl⟩

theorem reads_enterInterpolation (s : Scanner) : s.Reads '{' s.enterInterpolation := by
  rw [enterInterpolation_eq]
  split
  · exact ⟨rfl, rfl⟩
  · exact ⟨.inr (.inr rfl), rfl⟩

theorem samePlace_leaveBrace (s : Scanner) : s.SamePlace s.leaveBrace := by
  unfold leaveBrace
  split
  · exact ⟨rfl, rfl⟩
  · split <;> exact ⟨rfl, rfl⟩

theorem samePlace_readTemplate (s : Scanner) (c : Char) : s.SamePlace (s.readTemplate c) := by
  unfold readTemplate
  split <;> exact ⟨rfl, rfl⟩

theorem reads_readCode (s : Scanner) (c : Char) : s.Reads c (s.readCode c) := by
  unfold readCode
  split
  case h_1 => exact reads_enter (.inl rfl)
  case h_2 => exact reads_enter (.inr (.inl rfl))
  case h_3 => exact reads_enter (.inr (.inr rfl))
  case h_6 => exact samePlace_leaveBrace s
  all_goals exact ⟨rfl, rfl⟩

theorem reads_read (s : Scanner) (c : Char) : s.Reads c (s.read c) := by
  unfold read
  split
  case h_1 => exact reads_readCode s c
  case h_2 =>
    split
    · exact ⟨rfl, rfl⟩
    · split
      · exact ⟨rfl, rfl⟩
      · exact reads_readCode s c
  case h_3 => split <;> exact ⟨rfl, rfl⟩
  case h_6 => exact samePlace_readTemplate s c
  case h_8 =>
    split
    case isTrue brace =>
      rw [brace]
      exact reads_enterInterpolation s
    case isFalse => exact samePlace_readTemplate s c
  all_goals exact ⟨rfl, rfl⟩

end Scanner

open Scanner

variable {s t : Scanner} {text source : List Char} {d : Diagnostic}

theorem samePlace_of_scan (passed : scan s text = .ok t) : (s.along text).SamePlace t := by
  induction text generalizing s with
  | nil =>
      cases passed
      exact ⟨rfl, rfl⟩
  | cons c rest ih =>
      cases read : s.step c with
      | error d =>
          rw [scan_cons, read] at passed
          cases passed
      | ok u =>
          rw [scan_cons_ok read] at passed
          have here := reads_read (s.advance c) c
          rw [show (s.advance c).read c = .ok u from read] at here
          exact (SamePlace.along here rest).trans (ih passed)

theorem scan_eq_error (stopped : scan s text = .error d) :
    ∃ before c after t, text = before ++ c :: after ∧ scan s before = .ok t ∧
      t.step c = .error d := by
  induction text generalizing s with
  | nil => cases stopped
  | cons c rest ih =>
      cases read : s.step c with
      | error e =>
          rw [scan_cons, read] at stopped
          cases stopped
          exact ⟨[], c, rest, s, rfl, rfl, read⟩
      | ok u =>
          rw [scan_cons_ok read] at stopped
          obtain ⟨before, b, after, t, rfl, passed, complaint⟩ := ih stopped
          exact ⟨c :: before, b, after, t, rfl, (scan_cons_ok read before).trans passed, complaint⟩

theorem check_eq_error_iff : check source = .error d ↔ scan {} source = .error d := by
  unfold check
  cases scan {} source <;> simp [bind, Except.bind, pure, Except.pure]

theorem check_append_of_error (stopped : check source = .error d) (more : List Char) :
    check (source ++ more) = .error d := by
  rw [check_eq_error_iff] at stopped ⊢
  rw [scan_append, stopped]
  rfl

def lastLine (text : List Char) : List Char := (text.reverse.takeWhile (· != '\n')).reverse

structure StopsAt (before : List Char) (bracket : Char) (d : Diagnostic) : Prop where
  opens : bracket = '(' ∨ bracket = '[' ∨ bracket = '{'
  accepted : check before = .ok ()
  rejected : check (before ++ [bracket]) = .error d
  line : d.line = 1 + before.count '\n'
  column : d.column = 1 + (lastLine before).length

theorem stopsAt_of_step {before : List Char} {c : Char} (passed : scan {} before = .ok t)
    (complaint : t.step c = .error d) : StopsAt before c d := by
  have here := reads_read (t.advance c) c
  rw [show (t.advance c).read c = .error d from complaint] at here
  obtain ⟨opening, deep⟩ := here
  have noLineEnd : c ≠ '\n' := by rcases opening with rfl | rfl | rfl <;> decide
  have place := samePlace_of_scan passed
  obtain ⟨line, column⟩ := along_place before
  have moved : t.advance c = { t with column := t.column + 1 } := if_neg noLineEnd
  have rejected : check (before ++ [c]) = .error d := by
    rw [check_eq_error_iff, scan_append_ok passed, scan_cons, complaint]
    rfl
  have accepted : check before = .ok () := by
    rw [check, passed]
    rfl
  refine ⟨opening, accepted, rejected, ?_, ?_⟩
  · rw [deep, moved]
    exact (place.1.trans line).trans (Nat.add_comm _ _)
  · rw [deep, moved, lastLine, List.length_reverse, ← column]
    exact (congrArg (· + 1) place.2).trans (Nat.add_comm _ _)

/-- A text is rejected iff one of its starts is, and then so is every text that starts with it, with
the same complaint. The complaint is about the bracket at which the shortest rejected start ends. -/
theorem check_prefix (source : List Char) :
    ((∃ d, check source = .error d) ↔ ∃ start, start <+: source ∧ ∃ d, check start = .error d) ∧
      ∀ d, check source = .error d →
        (∀ more, check (source ++ more) = .error d) ∧
        ∃ before bracket, StopsAt before bracket d ∧ before ++ [bracket] <+: source ∧
          ∀ start, start <+: source → (∃ e, check start = .error e) →
            before ++ [bracket] <+: start := by
  refine ⟨⟨fun rejected => ⟨source, List.prefix_refl _, rejected⟩, ?_⟩, fun d rejected => ?_⟩
  · rintro ⟨start, ⟨rest, rfl⟩, d, rejected⟩
    exact ⟨d, check_append_of_error rejected rest⟩
  refine ⟨check_append_of_error rejected, ?_⟩
  obtain ⟨before, c, after, t, rfl, passed, complaint⟩ :=
    scan_eq_error (check_eq_error_iff.1 rejected)
  have stops := stopsAt_of_step passed complaint
  have whole : before ++ [c] <+: before ++ c :: after := ⟨after, by simp⟩
  refine ⟨before, c, stops, whole, fun start starts stopped => ?_⟩
  rcases List.prefix_or_prefix_of_prefix whole starts with longer | shorter
  · exact longer
  · rcases List.prefix_concat_iff.1 shorter with same | ⟨rest, within⟩
    · exact same ▸ List.prefix_refl start
    · -- The guard would already have complained about a part of `before`.
      obtain ⟨e, stopped⟩ := stopped
      have again := check_append_of_error stopped rest
      rw [within] at again
      cases stops.accepted.symm.trans again

/-- The cut between the dollar sign and the brace leaves a text that is accepted. -/
example : check (List.replicate 512 '(' ++ "\n `$".toList) = .ok () ∧
    check (List.replicate 512 '(' ++ "\n `$".toList ++ ['{']) =
      .error ⟨2, 4, "nesting exceeds the maximum depth of 512"⟩ := by
  decide +kernel

end Enclose.Nesting
