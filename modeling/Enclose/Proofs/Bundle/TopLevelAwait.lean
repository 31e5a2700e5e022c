import Enclose.Proofs.Bundle.Interference
import Enclose.Proofs.Bundle.Pasting

/-!
# Texts that are unsupported

A text is unsupported for what the search for a top-level `await` finds in it, if its format lowers
modules, and for nothing else (`transform_unsupported_iff`).
-/

namespace Enclose.Bundle
open Script

variable {options : Options} {source : String} {program : Program}

theorem ofProgram_isOk (read : readProgram source.toList = .ok program) :
    (Lowered.ofProgram program).isOk := by
  cases program with
  | script s => rfl
  | module m => exact lowerItems_isOk (isNamed_of_clean? (readProgram_module_iff.1 read).2)

theorem bundle_unsupported_iff (read : readProgram source.toList = .ok program) (construct : String) :
    bundle options program = .error (.unsupported construct) ↔
      options.format ≠ .esm ∧ hasTopLevelAwait program = true ∧
        construct = "top-level await is not supported with the \"" ++ options.format.name ++
          "\" output format" := by
  by_cases keeps : options.format = .esm
  · obtain ⟨m, bundled⟩ := bundle_esm keeps program
    simp [bundled, keeps]
  · by_cases waits : hasTopLevelAwait program = true
    · simp [bundle_awaiting keeps waits, keeps, waits, eq_comm]
    · obtain ⟨l, lowered⟩ := ok_of_isOk (ofProgram_isOk read)
      have formed : lower options.format program = .ok l := by
        rw [lower, if_neg waits]
        exact lowered
      rw [bundle_eq_lower keeps, formed]
      constructor
      · intro failed
        exact (finish_fails options l _ failed).elim
      · rintro ⟨-, found, -⟩
        exact absurd found waits

/-- The search is right about a program iff the program waits outside of all functions or has no
accessor of an object literal that waits, and a format that lowers modules finds a text unsupported iff
the search finds something. -/
theorem transform_unsupported_iff (program : Program) (options : Options) (source construct : String) :
    (hasTopLevelAwait program = true ↔
      AwaitsOutside program.parts ∨ AwaitsInAccessor program.parts) ∧
    ((hasTopLevelAwait program = true ↔ AwaitsOutside program.parts) ↔
      (AwaitsInAccessor program.parts → AwaitsOutside program.parts)) ∧
    (transform options source = .error (.unsupported construct) ↔
      options.format ≠ .esm ∧
        (∃ found, readProgram source.toList = .ok found ∧ hasTopLevelAwait found = true) ∧
        construct = "top-level await is not supported with the \"" ++ options.format.name ++
          "\" output format") := by
  have finds := hasTopLevelAwait_iff program
  have other : ¬(Failure.unsupported construct).IsOfText := id
  refine ⟨finds, by rw [finds, or_iff_left_iff_imp], ?_⟩
  rw [transform_error_iff_bundle other]
  constructor
  · rintro ⟨found, read, failed⟩
    obtain ⟨lowers, waits, same⟩ := (bundle_unsupported_iff read construct).1 failed
    exact ⟨lowers, ⟨found, read, waits⟩, same⟩
  · rintro ⟨lowers, ⟨found, read, waits⟩, same⟩
    exact ⟨found, read, (bundle_unsupported_iff read construct).2 ⟨lowers, waits, same⟩⟩

def accessorSource : String := "(\x7b get a() \x7b for await (const b of c); \x7d \x7d);"

/-- A text is refused for what waits in a function only. -/
theorem transform_accessorSource :
    (∃ program, readProgram accessorSource.toList = .ok program ∧ ¬ AwaitsOutside program.parts) ∧
      transform {} accessorSource =
        .error (.unsupported "top-level await is not supported with the \"iife\" output format") := by
  have views : (readProgram accessorSource.toList).toOption.any fun program =>
      program.parts.all (Part.lacks Part.outsideFunctions Part.isAwait 10) := by decide +kernel
  constructor
  · cases read : readProgram accessorSource.toList with
    | error failure =>
        rw [read] at views
        cases views
    | ok program =>
        rw [read] at views
        apply Exists.intro program
        refine ⟨rfl, ?_⟩
        rintro ⟨part, member, waits⟩
        exact Part.not_holds_of_lacks 10 (List.all_eq_true.1 views part member) waits
  · decide +kernel

end Enclose.Bundle
