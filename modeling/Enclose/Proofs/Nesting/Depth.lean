import Enclose.Proofs.Nesting.Passage

/-!
# The count of open brackets

In every state that the guard comes to, the count of open brackets is at most the limit, and each
depth that it remembers for a template is between one and the limit (`bounded_of_scan`). So the guard
could count with an integer and take one away at the end of an interpolation without a look at it:
the count never falls below zero, and never exceeds the limit by more than one (`scan_counts`).
Brackets that close nothing may bring the count below the depths that are remembered, of which there
may be any number (`scan_abandoned`).
-/

namespace Enclose.Nesting

inductive Change where
  | enter
  /-- One less, but not less than none. -/
  | leave
  /-- One less at the end of an interpolation, whatever the count is. -/
  | resume
  deriving DecidableEq

def Change.count : Change → Int → Int
  | enter, n => n + 1
  | leave, n => max 0 (n - 1)
  | resume, n => n - 1

namespace Scanner

def change? (s : Scanner) (c : Char) : Option Change :=
  match s.mode with
  | .code | .slash =>
    if c = '(' ∨ c = '[' ∨ c = '{' then some .enter
    else if c = ')' ∨ c = ']' then some .leave
    else if c = '}' then some (if s.templates.head? = some s.depth then .resume else .leave)
    else none
  | .templateDollar => if c = '{' then some .enter else none
  | _ => none

def lastCount (s : Scanner) (c : Char) : Int :=
  (s.change? c).elim s.depth fun change => change.count s.depth

def Counts (s : Scanner) (c : Char) : Except Diagnostic Scanner → Prop
  | .ok t => (t.depth : Int) = s.lastCount c ∧ s.lastCount c ≤ maxDepth
  | .error _ => s.lastCount c = maxDepth + 1

/-- The count is within the limit, and so are the depths that are remembered, which are not zero.
They need not be in order, and the count may be below them. -/
structure Bounded (s : Scanner) : Prop where
  depth : s.depth ≤ maxDepth
  templates : ∀ resume ∈ s.templates, 1 ≤ resume ∧ resume ≤ maxDepth

def Keeps : Except Diagnostic Scanner → Prop
  | .ok t => t.Bounded
  | .error _ => True

variable {s : Scanner} {c : Char}

theorem Bounded.advance (bounded : s.Bounded) (c : Char) : (s.advance c).Bounded :=
  ⟨by simpa using bounded.depth, by simpa using bounded.templates⟩

theorem Bounded.inMode (bounded : s.Bounded) (mode : Mode) : Bounded { s with mode } :=
  ⟨bounded.depth, bounded.templates⟩

theorem Bounded.leave (bounded : s.Bounded) : s.leave.Bounded :=
  ⟨Nat.le_trans (Nat.sub_le _ _) bounded.depth, bounded.templates⟩

theorem Bounded.leaveBrace (bounded : s.Bounded) : s.leaveBrace.Bounded := by
  unfold Scanner.leaveBrace
  split
  · exact bounded.leave
  · next resume outer templates =>
    split
    · have others := bounded.templates
      rw [templates] at others
      exact ⟨Nat.le_trans (Nat.sub_le _ _) bounded.depth, fun r member => others r (.tail _ member)⟩
    · exact bounded.leave

theorem Bounded.enter (bounded : s.Bounded) : Keeps s.enter := by
  rw [enter_eq]
  split
  · exact ⟨‹_›, bounded.templates⟩
  · trivial

theorem Bounded.enterInterpolation (bounded : s.Bounded) : Keeps s.enterInterpolation := by
  rw [enterInterpolation_eq]
  split
  · next room =>
    refine ⟨room, ?_⟩
    exact List.forall_mem_cons.2 ⟨⟨Nat.succ_pos _, room⟩, bounded.templates⟩
  · trivial

theorem Bounded.readTemplate (bounded : s.Bounded) (c : Char) : (s.readTemplate c).Bounded := by
  unfold Scanner.readTemplate
  split <;> exact bounded.inMode _

theorem Bounded.readCode (bounded : s.Bounded) (c : Char) : Keeps (s.readCode c) := by
  unfold Scanner.readCode
  split
  case h_1 | h_2 | h_3 => exact bounded.enter
  case h_4 | h_5 => exact bounded.leave
  case h_6 => exact bounded.leaveBrace
  all_goals exact bounded.inMode _

theorem Bounded.read (bounded : s.Bounded) (c : Char) : Keeps (s.read c) := by
  unfold Scanner.read
  split
  case h_1 => exact bounded.readCode c
  case h_2 =>
    split
    · exact bounded.inMode _
    · split
      · exact bounded.inMode _
      · exact bounded.readCode c
  case h_3 =>
    split
    · exact bounded.inMode _
    · exact bounded
  case h_6 => exact bounded.readTemplate c
  case h_8 =>
    split
    · exact bounded.enterInterpolation
    · exact bounded.readTemplate c
  all_goals exact bounded.inMode _

theorem Bounded.step (bounded : s.Bounded) (c : Char) : Keeps (s.step c) :=
  (bounded.advance c).read c

end Scanner

open Scanner

theorem bounded_of_scan {s t : Scanner} {text : List Char} (bounded : s.Bounded)
    (passed : scan s text = .ok t) : t.Bounded := by
  induction text generalizing s with
  | nil =>
      cases passed
      exact bounded
  | cons c rest ih =>
      have next := bounded.step c
      cases read : s.step c with
      | error d =>
          rw [scan_cons, read] at passed
          cases passed
      | ok u =>
          rw [read] at next
          exact ih next (scan_cons_ok read rest ▸ passed)

namespace Scanner
variable {s : Scanner} {c : Char}

theorem counts_unchanged {t : Scanner} (bounded : s.Bounded) (unchanged : s.change? c = none)
    (same : t.depth = s.depth) : s.Counts c (.ok t) := by
  have last : s.lastCount c = s.depth := by rw [lastCount, unchanged, Option.elim_none]
  have depth := bounded.depth
  rw [Counts, last, same]
  omega

theorem counts_enter (bounded : s.Bounded) (changes : s.change? c = some .enter) {t : Scanner}
    (deeper : t.depth = s.depth + 1) (d : Diagnostic) :
    s.Counts c (if s.depth < maxDepth then .ok t else .error d) := by
  have last : s.lastCount c = s.depth + 1 := by rw [lastCount, changes, Option.elim_some, Change.count]
  have depth := bounded.depth
  split
  · rw [Counts, last, deeper]
    omega
  · rw [Counts, last]
    omega

theorem counts_leave (bounded : s.Bounded) (changes : s.change? c = some .leave) {t : Scanner}
    (left : t.depth = s.depth - 1) : s.Counts c (.ok t) := by
  have last : s.lastCount c = max 0 ((s.depth : Int) - 1) := by
    rw [lastCount, changes, Option.elim_some, Change.count]
  have depth := bounded.depth
  rw [Counts, last, left]
  omega

/-- Where a template goes on there is a bracket to leave, because its depth was remembered after one
was entered. -/
theorem counts_resume (bounded : s.Bounded) (changes : s.change? c = some .resume)
    (innermost : s.templates.head? = some s.depth) {t : Scanner} (left : t.depth = s.depth - 1) :
    s.Counts c (.ok t) := by
  have last : s.lastCount c = (s.depth : Int) - 1 := by
    rw [lastCount, changes, Option.elim_some, Change.count]
  have remembered := bounded.templates s.depth (List.mem_of_mem_head? innermost)
  rw [Counts, last, left]
  omega

theorem counts_readCode (bounded : s.Bounded) (code : s.mode = .code ∨ s.mode = .slash) (c : Char) :
    s.Counts c (s.readCode c) := by
  have changes : s.change? c =
      if c = '(' ∨ c = '[' ∨ c = '{' then some .enter
      else if c = ')' ∨ c = ']' then some .leave
      else if c = '}' then some (if s.templates.head? = some s.depth then .resume else .leave)
      else none := by
    rcases code with mode | mode <;> simp only [change?, mode]
  unfold readCode
  split
  case h_1 | h_2 | h_3 =>
    rw [enter_eq]
    exact counts_enter bounded (by simp [changes]) rfl _
  case h_4 | h_5 => exact counts_leave bounded (by simp [changes]) rfl
  case h_6 =>
    have closes : s.change? '}' =
        some (if s.templates.head? = some s.depth then .resume else .leave) := by simp [changes]
    -- A brace goes back to a template only at the depth that was remembered last.
    unfold leaveBrace
    split
    case h_1 none =>
      exact counts_leave bounded (by simp [closes, none]) rfl
    case h_2 resume outer templates =>
      split
      case isTrue same =>
        have innermost : s.templates.head? = some s.depth := by rw [templates, ← same, List.head?_cons]
        exact counts_resume bounded (by rw [closes, if_pos innermost]) innermost rfl
      case isFalse other =>
        exact counts_leave bounded (by simp [closes, templates, other]) rfl
  case h_7 | h_8 | h_9 | h_10 => exact counts_unchanged bounded (by simp [changes]) rfl
  case h_11 paren bracket brace closeParen closeBracket closeBrace _ _ _ _ =>
    refine counts_unchanged bounded ?_ rfl
    have opens : ¬(c = '(' ∨ c = '[' ∨ c = '{') := fun same =>
      same.elim paren fun same => same.elim bracket brace
    have closes : ¬(c = ')' ∨ c = ']') := fun same => same.elim closeParen closeBracket
    rw [changes, if_neg opens, if_neg closes, if_neg closeBrace]

theorem counts_readTemplate (bounded : s.Bounded) (unchanged : s.change? c = none) :
    s.Counts c (.ok (s.readTemplate c)) := by
  refine counts_unchanged bounded unchanged ?_
  unfold readTemplate
  split <;> rfl

theorem counts_read (bounded : s.Bounded) (c : Char) : s.Counts c (s.read c) := by
  unfold read
  split
  case h_1 code => exact counts_readCode bounded (.inl code) c
  case h_2 slash =>
    split
    case isTrue opens => exact counts_unchanged bounded (by simp [change?, slash, opens]) rfl
    case isFalse =>
      split
      case isTrue opens => exact counts_unchanged bounded (by simp [change?, slash, opens]) rfl
      case isFalse => exact counts_readCode bounded (.inr slash) c
  case h_6 mode => exact counts_readTemplate bounded (by simp [change?, mode])
  case h_8 mode =>
    split
    case isTrue brace =>
      rw [enterInterpolation_eq]
      exact counts_enter bounded (by simp [change?, mode, brace]) rfl _
    case isFalse other => exact counts_readTemplate bounded (by simp [change?, mode, other])
  case h_3 mode =>
    refine counts_unchanged bounded (by simp [change?, mode]) ?_
    split <;> rfl
  all_goals exact counts_unchanged bounded (by simp [change?, *]) rfl

theorem counts_step (bounded : s.Bounded) (c : Char) : s.Counts c (s.step c) := by
  have change : (s.advance c).change? c = s.change? c := by simp [change?]
  have last : (s.advance c).lastCount c = s.lastCount c := by simp [lastCount, change]
  have counts := counts_read (bounded.advance c) c
  rw [step]
  cases read : (s.advance c).read c with
  | ok t => simpa only [read, Counts, last] using counts
  | error d => simpa only [read, Counts, last] using counts

theorem Counts.within {result : Except Diagnostic Scanner} (counts : s.Counts c result) :
    0 ≤ s.lastCount c ∧ s.lastCount c ≤ maxDepth + 1 := by
  cases result with
  | ok t =>
      obtain ⟨depth, room⟩ := counts
      omega
  | error d =>
      have last : s.lastCount c = maxDepth + 1 := counts
      omega

end Scanner

/-- Wherever the guard stands in a text, its count is within the limit, and so are the depths at which
templates go on, of which none is zero. Whatever character follows, the count stays between zero and one
more than the limit at any moment, also where one is taken away without a look at it. -/
theorem scan_counts {text : List Char} {s : Scanner} (reached : scan {} text = .ok s) :
    s.depth ≤ maxDepth ∧ (∀ resume ∈ s.templates, 1 ≤ resume ∧ resume ≤ maxDepth) ∧
      ∀ c, 0 ≤ s.lastCount c ∧ s.lastCount c ≤ maxDepth + 1 ∧ s.Counts c (s.step c) := by
  have start : Bounded {} := ⟨Nat.zero_le _, List.forall_mem_nil _⟩
  have bounded := bounded_of_scan start reached
  refine ⟨bounded.depth, bounded.templates, fun c => ?_⟩
  have counts := counts_step bounded c
  exact ⟨counts.within.1, counts.within.2, counts⟩

theorem scan_counts_of_strayBrackets :
    ∃ s, scan {} "`$\x7b`$\x7b))".toList = .ok s ∧ s.depth = 0 ∧ s.templates = [2, 1] ∧
      (∀ resume ∈ s.templates, 1 ≤ resume ∧ resume ≤ maxDepth) ∧
      ∀ c, 0 ≤ s.lastCount c ∧ s.lastCount c ≤ maxDepth + 1 ∧ s.Counts c (s.step c) := by
  obtain ⟨-, templates, counts⟩ := @scan_counts "`$\x7b`$\x7b))".toList _ rfl
  exact ⟨_, rfl, rfl, rfl, templates, counts⟩

/-- An interpolation that a stray bracket closes leaves its depth behind. -/
theorem scan_strayInterpolation {s : Scanner} (code : s.mode = .code) (outside : s.depth = 0) :
    ∃ t, scan s ['`', '$', '{', ')'] = .ok t ∧ t.mode = .code ∧ t.depth = 0 ∧
      t.templates = 1 :: s.templates := by
  obtain ⟨line, column, depth, templates, mode⟩ := s
  cases code
  cases outside
  exact ⟨_, rfl, rfl, rfl, rfl⟩

theorem scan_abandoned (n : Nat) :
    ∃ s, scan {} (List.replicate n ['`', '$', '{', ')']).flatten = .ok s ∧ s.mode = .code ∧
      s.depth = 0 ∧ s.templates = List.replicate n 1 := by
  induction n with
  | zero => exact ⟨{}, rfl, rfl, rfl, rfl⟩
  | succ n ih =>
      obtain ⟨s, passed, code, outside, templates⟩ := ih
      obtain ⟨t, more, stays, left, remembered⟩ := scan_strayInterpolation code outside
      refine ⟨t, ?_, stays, left, by rw [remembered, templates, List.replicate_succ]⟩
      rw [List.replicate_succ', List.flatten_append, List.flatten_singleton, scan_append_ok passed, more]

end Enclose.Nesting
