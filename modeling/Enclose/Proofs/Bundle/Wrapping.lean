import Enclose.Config.Problem
import Enclose.Proofs.Bundle.Filling
import Enclose.Proofs.Bundle.Statements

/-!
# The path that receives a call

With a valid configuration, a program that imports and exports nothing is enclosed iff its global
name is a path of words of which strict code may bind the first (`transform_plain`). The text around
the statements is then read without complaint, and they find their place in it; for any other valid
name it is no module.
-/

namespace Enclose.Bundle
open Script

structure IsBindable (path : List String) : Prop where
  words : ∀ part ∈ path, isWord part.toList = true
  head : ∀ first ∈ path.head?, first ≠ "eval" ∧ first ≠ "arguments"

theorem unbindable_iff {first : String} (named : Identifier.isIdentifier first.toList) :
    unbindableWords.contains first = true ↔ first = "eval" ∨ first = "arguments" := by
  constructor
  · exact restricted_of_unbindable named
  · rintro (rfl | rfl) <;> decide

theorem isPlainPath_iff {path : List String}
    (named : ∀ part ∈ path, Identifier.isIdentifier part.toList) :
    isPlainPath path = true ↔ IsBindable path := by
  have head_iff : path.head?.all (fun first => !unbindableWords.contains first) = true ↔
      ∀ first ∈ path.head?, first ≠ "eval" ∧ first ≠ "arguments" := by
    rw [Option.all_eq_true]
    refine forall₂_congr fun first head => ?_
    have restricted := unbindable_iff (named first (List.mem_of_mem_head? head))
    rw [Bool.not_eq_true', Bool.eq_false_iff, ne_eq, restricted, not_or]
  rw [isPlainPath, Bool.and_eq_true, head_iff, List.all_eq_true]
  exact ⟨fun plain => ⟨plain.1, plain.2⟩, fun bindable => ⟨bindable.1, bindable.2⟩⟩

theorem isGlobalName_of_problems {c : Config} (valid : c.problems = []) :
    Identifier.isGlobalName c.transformation.options.globalName = true := by
  simp only [Config.problems, Config.require, List.append_eq_nil_iff] at valid
  have name := valid.1.1.1.1.2
  simpa using name

def isPlain : Program → Bool
  | .module m => m.items.all fun item => (plainStmt? item).isSome
  | .script _ => true

theorem lowerItems_plain {items : List ModuleItem}
    (plain : ∀ item ∈ items, (plainStmt? item).isSome = true) (k : Nat) :
    lowerItems k items = .ok { body := ownStmts items } := by
  induction items with
  | nil => rfl
  | cons item rest ih =>
      have first := plain item List.mem_cons_self
      have others := ih fun other member => plain other (List.mem_cons_of_mem _ member)
      cases item with
      | stmt s =>
          simp only [lowerItems, lowerItem, bindsImport, Bool.false_eq_true, if_false, others]
          rfl
      | _ => contradiction

theorem ofProgram_plain {program : Program} (plain : isPlain program) :
    ∃ body, Lowered.ofProgram program = .ok { body } := by
  cases program with
  | module m => exact ⟨_, lowerItems_plain (List.all_eq_true.1 plain) 0⟩
  | script s => exact ⟨s.body, rfl⟩

def formed (options : Options) (l : Lowered) : Except Failure (List ModuleItem) :=
  if options.format = .iife then enclose options.globalName l else commonModule l

theorem transform_lowered {options : Options} {source : String} {program : Program} {l : Lowered}
    (read : readProgram source.toList = .ok program) (lowers : options.format ≠ .esm)
    (quiet : hasTopLevelAwait program = false) (lowered : Lowered.ofProgram program = .ok l) :
    transform options source =
      (formed options l).map fun items => Module.print options.minify { items } := by
  have bundled : bundle options program = (formed options l).map fun items => (⟨none, items⟩ : Module) := by
    cases format : options.format with
    | esm => exact absurd format lowers
    | iife =>
        simp only [bundle, format, quiet, lowered, formed, bind, Except.bind]
        cases enclose options.globalName l <;> rfl
    | cjs =>
        simp only [bundle, format, quiet, lowered, formed, bind, Except.bind]
        cases commonModule l <;> rfl
  simp only [transform, read, bind, Except.bind, bundled]
  cases formed options l <;> rfl

theorem enclose_of_isPlainPath {globalName : String} {l : Lowered}
    (plain : isPlainPath (nameParts globalName) = true) (getters : brokenGetter? l = none) :
    enclose globalName l = .ok
      ((assignPath (callOf (opening .iife l ++ (l.imports ++ l.body) ++ closing .iife l))
        (nameParts globalName)).map .stmt) := by
  have filled := fillLast_assignPath (l.imports ++ l.body) (closing .iife l)
    (opening_ne_marker .iife l) (nameParts globalName)
  simp only [enclose, wrapper, plain, if_true, withGetters, getters]
  exact filled

theorem enclose_of_not_isPlainPath {globalName : String} (l : Lowered)
    (valid : Identifier.isGlobalName globalName)
    (notPlain : isPlainPath (nameParts globalName) = false) :
    ∃ reason, enclose globalName l = .error (.internal reason) := by
  have broken := clean?_text (nameParts_named valid) notPlain l
  have reads : wrapper (nameParts globalName) l = Template.read (nameParts globalName) l := by
    unfold wrapper
    exact if_neg (by simp [notPlain])
  obtain ⟨reason, refused⟩ : ∃ reason,
      Template.read (nameParts globalName) l = .error (.internal reason) := by
    unfold Template.read
    simp only [broken]
    exact ⟨_, rfl⟩
  rw [← reads] at refused
  exact ⟨reason, by rw [enclose, refused]; rfl⟩

/-- Statements are enclosed, in the function that is found in the text of the call, iff the valid
global name is a path of words of which strict code may bind the first. -/
theorem transform_plain {c : Config} {source : String} {program : Program} (valid : c.problems = [])
    (iife : c.transformation.options.format = .iife)
    (read : readProgram source.toList = .ok program) (plain : isPlain program)
    (quiet : hasTopLevelAwait program = false) :
    ∃ l, Lowered.ofProgram program = .ok l ∧
      (IsBindable (nameParts c.transformation.options.globalName) →
        (∃ code, transform c.transformation.options source = .ok code) ∧
        ∃ m items, (Module.parse
            (Template.text (nameParts c.transformation.options.globalName) l).toList).clean? = some m ∧
          fillLast l.body m.items = .ok items) ∧
      (¬ IsBindable (nameParts c.transformation.options.globalName) →
        (∃ reason, transform c.transformation.options source = .error (.internal reason)) ∧
        (Module.parse
          (Template.text (nameParts c.transformation.options.globalName) l).toList).clean? = none) := by
  have named := isGlobalName_of_problems valid
  obtain ⟨body, lowered⟩ := ofProgram_plain plain
  rw [transform_lowered read (by rw [iife]; decide) quiet lowered, formed, if_pos iife,
    ← isPlainPath_iff (nameParts_named named)]
  -- There are no getters, so the path alone decides.
  refine ⟨{ body }, lowered, fun bindable => ?_, fun unbindable => ?_⟩
  · obtain ⟨m, items, clean, fills, -⟩ := fillLast_text (l := { body }) bindable nofun body
    rw [enclose_of_isPlainPath bindable rfl]
    exact ⟨⟨_, rfl⟩, m, items, clean, fills⟩
  · have notPlain := Bool.eq_false_iff.2 unbindable
    obtain ⟨reason, fails⟩ := enclose_of_not_isPlainPath { body } named notPlain
    rw [fails]
    exact ⟨⟨reason, rfl⟩, clean?_text (nameParts_named named) notPlain _⟩

def dottedConfig : Config := { transformation := { options := { globalName := "window.lib" } } }

theorem transform_plain_of_dottedConfig :
    dottedConfig.problems = [] ∧
      ∃ code, transform dottedConfig.transformation.options "f();" = .ok code := by
  have valid : dottedConfig.problems = [] := by decide +kernel
  have reads : (readProgram "f();".toList).toOption.any
      (fun program => isPlain program && !hasTopLevelAwait program) = true := by decide +kernel
  obtain ⟨program, read, plain⟩ := (Option.any_eq_true _ _).1 reads
  rw [Bool.and_eq_true, Bool.not_eq_true'] at plain
  have read : readProgram "f();".toList = .ok program := by
    revert read
    cases readProgram "f();".toList <;> rintro ⟨⟩
    rfl
  obtain ⟨l, -, encloses, -⟩ := transform_plain valid rfl read plain.1 plain.2
  exact ⟨valid, (encloses ⟨by decide +kernel, by decide +kernel⟩).1⟩

def restrictedConfig : Config := { transformation := { options := { globalName := "eval" } } }

/-- A valid global name that receives no call, although there is nothing to enclose. -/
theorem transform_restrictedConfig :
    restrictedConfig.problems = [] ∧ restrictedConfig.transformation.options.format = .iife ∧
      (∃ program, readProgram "".toList = .ok program ∧ isPlain program ∧
        hasTopLevelAwait program = false) ∧
      ∃ reason, transform restrictedConfig.transformation.options "" = .error (.internal reason) := by
  have read : readProgram "".toList = .ok (.module { items := [] }) := rfl
  obtain ⟨reason, fails⟩ := @enclose_of_not_isPlainPath "eval" {} (by decide) (by decide)
  refine ⟨by decide +kernel, rfl, ⟨_, read, rfl, rfl⟩, reason, ?_⟩
  rw [transform_lowered read (by decide) rfl rfl]
  change Except.map _ (enclose "eval" {}) = _
  rw [fails]
  rfl

end Enclose.Bundle
