import Enclose.Failure
import Mathlib.Data.List.Basic

/-!
# Reports are read back

A report has a line for each diagnostic, and a line tells the place and the message of its
diagnostic whatever they are, as long as the message stays on its line (`report_roundTrip`).
-/

namespace Enclose

def closedLines? : List Char → Option (List (List Char))
  | [] => some []
  | c :: rest => do
    let lines ← closedLines? rest
    if c = '\n' then return [] :: lines
    else
      match lines with
      | [] => none
      | line :: others => return (c :: line) :: others

theorem closedLines?_append {line : List Char} (within : '\n' ∉ line) (rest : List Char) :
    closedLines? (line ++ '\n' :: rest) = (closedLines? rest).map (line :: ·) := by
  induction line with
  | nil =>
      rw [List.nil_append, closedLines?]
      cases closedLines? rest <;> rfl
  | cons c line ih =>
      simp only [List.mem_cons, not_or] at within
      rw [List.cons_append, closedLines?, ih within.2]
      cases closedLines? rest with
      | none => rfl
      | some lines => exact if_neg (Ne.symm within.1)

theorem closedLines?_eq_some_iff {text : List Char} {lines : List (List Char)} :
    closedLines? text = some lines ↔
      text = lines.flatMap (· ++ ['\n']) ∧ ∀ line ∈ lines, '\n' ∉ line := by
  constructor
  · intro split
    induction text generalizing lines with
    | nil =>
        cases split
        exact ⟨rfl, List.forall_mem_nil _⟩
    | cons c rest ih =>
        obtain ⟨others, closed, step⟩ := Option.bind_eq_some_iff.1 split
        obtain ⟨rfl, within⟩ := ih closed
        split at step
        case isTrue feed =>
          cases step
          exact ⟨by rw [feed]; rfl, List.forall_mem_cons.2 ⟨List.not_mem_nil, within⟩⟩
        case isFalse other =>
          cases others with
          | nil => cases step
          | cons line others =>
              cases step
              obtain ⟨first, others⟩ := List.forall_mem_cons.1 within
              refine ⟨rfl, List.forall_mem_cons.2 ⟨?_, others⟩⟩
              exact List.not_mem_cons_of_ne_of_not_mem (Ne.symm other) first
  · rintro ⟨rfl, within⟩
    induction lines with
    | nil => rfl
    | cons line others ih =>
        obtain ⟨first, within⟩ := List.forall_mem_cons.1 within
        rw [List.flatMap_cons, List.append_assoc, List.singleton_append, closedLines?_append first,
          ih within, Option.map_some]

namespace Diagnostic

def readNumber? (text : List Char) : Option (Nat × List Char) :=
  let digits := text.takeWhile Char.isDigit
  if digits.isEmpty then none
  else some (Nat.ofDigitChars 10 digits 0, text.dropWhile Char.isDigit)

/-- The diagnostic of a line of the form `<stdin>:<line>:<column>: error: <message>`. -/
def readLine? (text : List Char) : Option Diagnostic := do
  let rest ← "<stdin>:".toList.isPrefixOf? text
  let (line, rest) ← readNumber? rest
  let rest ← ":".toList.isPrefixOf? rest
  let (column, rest) ← readNumber? rest
  let message ← ": error: ".toList.isPrefixOf? rest
  return { line, column, message := String.ofList message }

theorem readNumber?_digits (n : Nat) {c : Char} (other : c.isDigit = false) (rest : List Char) :
    readNumber? (Nat.toDigits 10 n ++ c :: rest) = some (n, c :: rest) := by
  have digits : ∀ d ∈ Nat.toDigits 10 n, d.isDigit = true := fun d =>
    Nat.isDigit_of_mem_toDigits (by decide) (by decide)
  have taken : (Nat.toDigits 10 n ++ c :: rest).takeWhile Char.isDigit = Nat.toDigits 10 n := by
    rw [List.takeWhile_append_of_pos digits, List.takeWhile_cons_of_neg (by simp [other]),
      List.append_nil]
  have left : (Nat.toDigits 10 n ++ c :: rest).dropWhile Char.isDigit = c :: rest := by
    rw [List.dropWhile_append_of_pos digits, List.dropWhile_cons_of_neg (by simp [other])]
  have some : (Nat.toDigits 10 n).isEmpty = false := by simp
  rw [readNumber?, taken, left, some, if_neg Bool.false_ne_true, Nat.ofDigitChars_ten_toDigits]

theorem toList_text (d : Diagnostic) :
    d.text.toList = "<stdin>:".toList ++ (Nat.toDigits 10 d.line ++ (":".toList ++
      (Nat.toDigits 10 d.column ++ (": error: ".toList ++ d.message.toList)))) := by
  simp [text, sourceName]

theorem readLine?_text (d : Diagnostic) : readLine? d.text.toList = some d := by
  have skip (start rest : List Char) : start.isPrefixOf? (start ++ rest) = some rest :=
    List.isPrefixOf?_eq_some_iff_append_eq.2 rfl
  have column : readNumber? (Nat.toDigits 10 d.column ++ (": error: ".toList ++ d.message.toList)) =
      some (d.column, ": error: ".toList ++ d.message.toList) :=
    readNumber?_digits d.column (by decide) _
  have line : readNumber? (Nat.toDigits 10 d.line ++ (":".toList ++
      (Nat.toDigits 10 d.column ++ (": error: ".toList ++ d.message.toList)))) =
      some (d.line, ":".toList ++
        (Nat.toDigits 10 d.column ++ (": error: ".toList ++ d.message.toList))) :=
    readNumber?_digits d.line (by decide) _
  simp only [readLine?, toList_text, skip, line, column, Option.bind_eq_bind,
    Option.bind_some, String.ofList_toList]
  rfl

def OnOneLine (d : Diagnostic) : Prop := '\n' ∉ d.message.toList

theorem OnOneLine.text {d : Diagnostic} (within : d.OnOneLine) : '\n' ∉ d.text.toList := by
  have number (n : Nat) : '\n' ∉ Nat.toDigits 10 n := fun member => by
    have digit := Nat.isDigit_of_mem_toDigits (by decide) (by decide) member
    revert digit
    decide
  have signs : '\n' ∉ "<stdin>:".toList ∧ '\n' ∉ ":".toList ∧ '\n' ∉ ": error: ".toList := by decide
  simp only [toList_text, List.mem_append, not_or]
  exact ⟨signs.1, number _, signs.2.1, number _, signs.2.2, within⟩

end Diagnostic

namespace Failure
open Diagnostic

theorem toList_lines (texts : List String) :
    (lines texts).toList = (texts.map String.toList).flatMap (· ++ ['\n']) := by
  induction texts with
  | nil => rfl
  | cons text rest ih =>
      have first : lines (text :: rest) = text ++ "\n" ++ lines rest := rfl
      rw [first, String.toList_append, String.toList_append, ih]
      rfl

variable {ds es : List Diagnostic}

theorem closedLines?_report (within : ∀ d ∈ ds, d.OnOneLine) :
    closedLines? (report (.syntaxErrors ds)).toList = some (ds.map (·.text.toList)) := by
  refine closedLines?_eq_some_iff.2 ⟨?_, ?_⟩
  · rw [report, toList_lines, List.map_map]
    rfl
  · intro line member
    obtain ⟨d, isOne, rfl⟩ := List.mem_map.1 member
    exact (within d isOne).text

theorem report_injective (within : ∀ d ∈ ds, d.OnOneLine) (others : ∀ e ∈ es, e.OnOneLine)
    (same : report (.syntaxErrors ds) = report (.syntaxErrors es)) : ds = es := by
  have lines := closedLines?_report within
  rw [same, closedLines?_report others, Option.some_inj] at lines
  have read := congrArg (List.map readLine?) lines
  simp only [List.map_map, Function.comp_def, readLine?_text] at read
  exact (List.map_injective_iff.2 (fun _ _ => Option.some.inj) read).symm

/-- A report is made of closed lines, one for each diagnostic, which is what is read from it. So the
report tells the diagnostics, and a single one is reported in one way whatever it is about. -/
theorem report_roundTrip (within : ∀ d ∈ ds, d.OnOneLine) :
    (∃ lines, closedLines? (report (.syntaxErrors ds)).toList = some lines ∧
      lines.length = ds.length ∧ lines.map readLine? = ds.map some) ∧
    (∀ es, (∀ e ∈ es, e.OnOneLine) →
      (report (.syntaxErrors ds) = report (.syntaxErrors es) ↔ ds = es)) ∧
    ∀ d, report (.tooDeep d) = report (.syntaxErrors [d]) := by
  refine ⟨⟨_, closedLines?_report within, List.length_map .., ?_⟩, fun es others => ?_, fun _ => rfl⟩
  · rw [List.map_map]
    exact List.map_congr_left fun d _ => readLine?_text d
  · exact ⟨report_injective within others, fun same => same ▸ rfl⟩

def confusing : List Diagnostic :=
  [⟨10, 1, "<stdin>:2:3: error: a"⟩, ⟨0, 907, ""⟩, ⟨10, 1, ": error: "⟩]

theorem report_roundTrip_of_confusing :
    (∀ d ∈ confusing, d.OnOneLine) ∧
      ∃ lines, closedLines? (report (.syntaxErrors confusing)).toList = some lines ∧
        lines.length = 3 ∧ lines.map readLine? = confusing.map some := by
  have within : ∀ d ∈ confusing, d.OnOneLine := by
    simp only [confusing, OnOneLine]
    decide
  exact ⟨within, (report_roundTrip within).1⟩

end Failure

end Enclose
