import Enclose.Proofs.Bundle.Exports
import Mathlib.Data.List.Basic

/-!
# The statements of a module are kept

Lowering takes the statement of each item, and no other (`lowerItems_body`). In the output these
statements stand together, in source order, in the scope of the module, after its prologue and its
imports and before the `return` of its exports (`transform_scope`).
-/

namespace Enclose.Bundle
open Script

def ownStmts (items : List ModuleItem) : List Stmt := items.filterMap ownStmt?

theorem lowerItems_body {k : Nat} {items : List ModuleItem} {l : Lowered}
    (h : lowerItems k items = .ok l) : l.body = ownStmts items := by
  rw [lowerItems_collect Lowered.body (fun _ item => (ownStmt? item).toList) rfl (fun _ _ => rfl)
    (fun h => (lowerItem_parts h).body) h, ownStmts, List.filterMap_eq_flatMap_toList]
  conv_rhs => rw [← indexed_map_snd items, List.flatMap_map]

theorem transform_program {options : Options} {source code : String}
    (done : transform options source = .ok code) :
    ∃ program out, readProgram source.toList = .ok program ∧ bundle options program = .ok out ∧
      out.print options.minify = code := by
  simp only [transform, bind_ok_iff, pure, Except.pure, Except.ok.injEq] at done
  obtain ⟨program, read, out, bundled, printed⟩ := done
  exact ⟨program, out, read, bundled, printed⟩

theorem transform_ok {options : Options} {source code : String} {m : Module}
    (read : (Module.parse source.toList).clean? = some m)
    (done : transform options source = .ok code) :
    ∃ out, bundle options (.module m) = .ok out ∧ out.print options.minify = code := by
  obtain ⟨program, out, hp, bundled, printed⟩ := transform_program done
  refine ⟨out, ?_, printed⟩
  unfold readProgram at hp
  split at hp
  · cases hp
  · simp only [Program.parse, read, Except.ok.injEq] at hp
    rwa [hp]

theorem bundle_program {options : Options} {program : Program} {out : Module}
    (lowers : options.format ≠ .esm) (h : bundle options program = .ok out) :
    hasTopLevelAwait program = false ∧ ∃ l, Lowered.ofProgram program = .ok l ∧
      (if options.format = .iife then enclose options.globalName l else commonModule l) =
        .ok out.items := by
  unfold bundle at h
  split at h
  · contradiction
  · simp only [pure, Except.pure] at h
    split at h
    · cases h
    · next quiet =>
      obtain ⟨l, hl, h⟩ := bind_ok_iff.1 h
      refine ⟨by simpa using quiet, l, hl, ?_⟩
      split at h
      all_goals
        rename_i form
        obtain ⟨items, hi, ho⟩ := bind_ok_iff.1 h
        cases ho
        simp only [form, if_true, if_false, hi]

theorem lowered_items {options : Options} {l : Lowered} {items : List ModuleItem}
    (lowers : options.format ≠ .esm)
    (valid : options.format = .iife → Identifier.isGlobalName options.globalName)
    (h : (if options.format = .iife then enclose options.globalName l else commonModule l) =
      .ok items) :
    items = (around options (opening options.format l ++ (l.imports ++ l.body) ++
      closing options.format l)).map .stmt := by
  rw [around]
  cases format : options.format with
  | esm => exact absurd format lowers
  | iife =>
      rw [format, if_pos rfl] at h
      exact enclose_ok (valid format) h
  | cjs =>
      rw [format, if_neg (by decide)] at h
      exact commonModule_ok h

theorem closing_eq {items : List ModuleItem} {l : Lowered} (h : lowerItems 0 items = .ok l)
    (format : Format) :
    closing format l =
      if format = .iife ∧ exportsAny items then [exportsReturn] else [] := by
  cases format <;> simp [closing, returnExports, whereExports, hasExports_eq h, exportsReturn,
    exportsName]

theorem bundle_items {options : Options} {m out : Module} (lowers : options.format ≠ .esm)
    (valid : options.format = .iife → Identifier.isGlobalName options.globalName)
    (h : bundle options (.module m) = .ok out) :
    ∃ l, lowerItems 0 m.items = .ok l ∧
      out.items = (around options (opening options.format l ++ l.imports ++ ownStmts m.items ++
        closing options.format l)).map .stmt := by
  obtain ⟨-, l, lowered, items⟩ := bundle_program lowers h
  refine ⟨l, lowered, ?_⟩
  rw [← lowerItems_body lowered, List.append_assoc (opening _ _)]
  exact lowered_items lowers valid items

/-- The scope of the code for a module: the prologue, the imports, the statements of the module, and
in an enclosing function the `return` of its exports, if it has any. -/
theorem transform_scope {options : Options} {source code : String} {m : Module}
    (read : (Module.parse source.toList).clean? = some m) (lowers : options.format ≠ .esm)
    (valid : options.format = .iife → Identifier.isGlobalName options.globalName)
    (done : transform options source = .ok code) :
    ∃ (l : Lowered) (out : Module), lowerItems 0 m.items = .ok l ∧
      bundle options (.module m) = .ok out ∧ out.print options.minify = code ∧
      scope? options.format out.items =
        some (opening options.format l ++ l.imports ++ ownStmts m.items ++
          if options.format = .iife ∧ exportsAny m.items then [exportsReturn] else []) := by
  obtain ⟨out, bundled, printed⟩ := transform_ok read done
  obtain ⟨l, lowered, items⟩ := bundle_items lowers valid bundled
  refine ⟨l, out, lowered, bundled, printed, ?_⟩
  rw [items, scope?_around lowers, closing_eq lowered]

def markerSource : String :=
  "import { a } from \"m\";\n__BODY__;\nexport const __BODY__ = a;\nexport default class {}"

theorem transform_scope_of_markerSource :
    ∃ (m out : Module) (l : Lowered) (code : String),
      (Module.parse markerSource.toList).clean? = some m ∧
      transform {} markerSource = .ok code ∧ lowerItems 0 m.items = .ok l ∧
      bundle {} (.module m) = .ok out ∧ out.print false = code ∧
      scope? .iife out.items =
        some (opening .iife l ++ l.imports ++ ownStmts m.items ++ [exportsReturn]) := by
  have exports : (Module.parse markerSource.toList).clean?.any (exportsAny ·.items) = true := by
    decide +kernel
  have runs : (transform {} markerSource).isOk := by decide +kernel
  obtain ⟨m, read, exported⟩ := (Option.any_eq_true _ _).1 exports
  obtain ⟨code, done⟩ := ok_of_isOk runs
  obtain ⟨l, out, lowered, bundled, printed, scope⟩ :=
    transform_scope read (by decide) (fun _ => by decide) done
  rw [if_pos ⟨rfl, exported⟩] at scope
  exact ⟨m, out, l, code, read, done, lowered, bundled, printed, scope⟩

end Enclose.Bundle
