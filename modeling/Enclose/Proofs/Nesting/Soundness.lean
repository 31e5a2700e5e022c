import Enclose.Proofs.Nesting.Agreement
import Enclose.Proofs.Script.Blocks

/-!
# The guard and the language

As long as each element of a text ends for the guard where it ends for the language, at most 512
brackets and interpolations are open at any point of a text that the guard accepts (`unclosed_le`).
After a comment that a carriage return ends, it accepts any number of them
(`unclosed_of_skippedBraces`).
-/

namespace Enclose.Nesting
open Script Script.Parser

section
variable {goal : Goal} {text : List Char} {elements : List Element} {p : Point}

theorem agrees_of_reads (reads : Reads goal text elements p) {final : Scanner}
    (accepts : scan {} text = .ok final) (agreed : ∀ element ∈ elements, element.Agreed) :
    ∃ s, Agrees s p ∧ scan s p.rest = .ok final := by
  induction reads with
  | start => exact ⟨{}, ⟨.inr (.inl rfl), rfl, rfl, Nat.zero_le _⟩, accepts⟩
  | next _ step ih =>
      simp only [List.forall_mem_append, List.forall_mem_singleton] at agreed
      obtain ⟨s, agrees, rest⟩ := ih agreed.1
      exact agrees_of_shape agrees rest (shape_of_next? step) agreed.2

theorem length_opened_of_shape {p q : Point} {element : Element} (shape : Shape p element q) :
    q.opened.length + element.closes.toNat = p.opened.length + element.opens.toNat := by
  cases shape with
  | opening _ opened => rw [opened]; rfl
  | closing _ opened => rw [opened]; rfl
  | @template _ resumes interpolates _ outer _ _ before after =>
      rw [before, after]
      cases resumes <;> cases interpolates <;> rfl
  | lineComment _ _ _ same => rw [same]; rfl
  | blockComment _ _ same => rw [same]; rfl
  | escape _ _ same => rw [same]; rfl
  | blank _ _ same => rw [same]; rfl
  | string _ _ same => rw [same]; rfl
  | char _ _ _ same => rw [same]; rfl

theorem unclosed_append (elements : List Element) (element : Element) :
    unclosed (elements ++ [element]) =
      unclosed elements + element.opens.toNat - element.closes.toNat := by
  cases opens : element.opens <;> cases closes : element.closes <;>
    simp [unclosed, opens, closes] <;> omega

theorem unclosed_eq (reads : Reads goal text elements p) :
    unclosed elements = p.opened.length := by
  induction reads with
  | start => rfl
  | next _ step ih =>
      have length := length_opened_of_shape (shape_of_next? step)
      rw [unclosed_append]
      omega

/-- **At most 512 brackets and interpolations are open** at any point of a text that the guard
accepts, as long as the elements before it end for the guard where they end for the language. -/
theorem unclosed_le (reads : Reads goal text elements p) (accepts : check text = .ok ())
    (agreed : ∀ element ∈ elements, element.Agreed) : unclosed elements ≤ 512 := by
  have scans : ∃ final, scan {} text = .ok final := by
    cases read : scan {} text with
    | error problem => rw [check, read] at accepts; cases accepts
    | ok final => exact ⟨final, rfl⟩
  obtain ⟨final, scans⟩ := scans
  obtain ⟨s, agrees, _⟩ := agrees_of_reads reads scans agreed
  have fits : s.depth ≤ 512 := agrees.fits
  have depth := agrees.depth
  rw [unclosed_eq reads]
  omega

end

def variedScript : List Char :=
  "#!/bin/node\n<!-- a\n// (\x0D\n--> b\nt = `) $\x7bf([/* \x7b */ '\\\n('])\x7d`".toList

theorem unclosed_le_of_variedScript :
    ∃ elements p, Reads .script variedScript elements p ∧ check variedScript = .ok () ∧
      (∀ element ∈ elements, element.Agreed) ∧ unclosed elements = 3 ∧ unclosed elements ≤ 512 := by
  have reads : Reads .script variedScript (Point.read .script 15 { rest := variedScript }).1 _ :=
    Reads.start.read 15
  have accepts : check variedScript = .ok () := by rfl
  have agreed : ∀ element ∈ (Point.read .script 15 { rest := variedScript }).1, element.Agreed := by
    decide +kernel
  exact ⟨_, _, reads, accepts, agreed, by decide +kernel, unclosed_le reads accepts agreed⟩

def skippedBraces (depth : Nat) : List Char :=
  '/' :: '/' :: '\r' :: (List.replicate depth '{' ++ List.replicate depth '}')

theorem check_skippedBraces (depth : Nat) : check (skippedBraces depth) = .ok () := by
  have line : '\n' ∉ '\r' :: (List.replicate depth '{' ++ List.replicate depth '}') := by
    simp
  rw [check, skippedBraces, scan_lineComment line rfl]
  rfl

theorem reads_braces {goal : Goal} {text rest : List Char} {depth : Nat} {elements : List Element}
    {p : Point} (reads : Reads goal text elements p)
    (here : p.rest = List.replicate depth '{' ++ rest) :
    ∃ q, Reads goal text (elements ++ List.replicate depth (.opening .brace)) q := by
  induction depth generalizing elements p with
  | zero => exact ⟨p, by simpa using reads⟩
  | succ depth ih =>
      obtain ⟨source, opened, start, lineStart⟩ := p
      obtain rfl : source = _ := here
      have brace := reads.next (show Point.next? goal _ = some (.opening .brace, _) from rfl)
      obtain ⟨q, reads⟩ := ih brace rfl
      exact ⟨q, by simpa [List.replicate_succ] using reads⟩

theorem unclosed_skippedBraces (depth : Nat) :
    ∃ elements p, Reads .module (skippedBraces (depth + 1)) elements p ∧
      unclosed elements = depth + 1 := by
  have comment : Reads .module (skippedBraces (depth + 1)) [.lineComment .slashes [] ['\r']]
      { rest := List.replicate (depth + 1) '{' ++ List.replicate (depth + 1) '}'
        start := false } :=
    .next .start rfl
  obtain ⟨q, reads⟩ := reads_braces comment rfl
  refine ⟨_, q, reads, ?_⟩
  simp [unclosed, Element.opens, Element.closes, List.countP_replicate]

theorem unclosed_of_skippedBraces :
    (Module.parse (skippedBraces 513)).clean?.isSome ∧ check (skippedBraces 513) = .ok () ∧
      ∃ elements p, Reads .module (skippedBraces 513) elements p ∧ 512 < unclosed elements := by
  obtain ⟨elements, p, reads, open'⟩ := unclosed_skippedBraces 512
  exact ⟨clean?_of_blocks 512, check_skippedBraces 513, elements, p, reads, by rw [open']; decide⟩

end Enclose.Nesting
