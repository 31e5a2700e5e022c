import Enclose.Proofs.Bundle.Items
import Enclose.Transform

/-!
# What the options have an influence on

A text is read before any option is looked at, so that all options agree about the text
(`transform_error_iff`). Putting the code together fails with another cause: the lowering of an item
may be unsupported, and generated code may be broken, which is internal (`bundle_fails`,
`finish_fails`). The whole is `transform_options`.
-/

namespace Enclose

namespace Failure

def IsOfText : Failure → Prop
  | .tooDeep _ | .syntaxErrors _ => True
  | _ => False

def IsUnsupported : Failure → Prop
  | .unsupported _ => True
  | _ => False

def IsInternal : Failure → Prop
  | .internal _ => True
  | _ => False

end Failure

def FailsWith {α : Type} (P : Failure → Prop) (result : Except Failure α) : Prop :=
  ∀ failure, result = .error failure → P failure

namespace FailsWith

variable {α β : Type} {P Q : Failure → Prop} {result : Except Failure α}

theorem ok (a : α) : FailsWith P (.ok a) := fun _ failed => by cases failed

theorem error {failure : Failure} (holds : P failure) : FailsWith P (.error failure : Except _ α) := by
  rintro _ ⟨⟩
  exact holds

theorem bind {next : α → Except Failure β} (first : FailsWith P result)
    (later : ∀ a, FailsWith P (next a)) : FailsWith P (result >>= next) := by
  cases result with
  | error failure => exact .error (first failure rfl)
  | ok a => exact later a

theorem ite {c : Prop} [Decidable c] {other : Except Failure α} (yes : FailsWith P result)
    (no : FailsWith P other) : FailsWith P (if c then result else other) := by
  split
  · exact yes
  · exact no

theorem mono (fails : FailsWith P result) (weaker : ∀ failure, P failure → Q failure) :
    FailsWith Q result :=
  fun failure failed => weaker failure (fails failure failed)

end FailsWith

open Script

theorem readProgram_fails (source : List Char) : FailsWith Failure.IsOfText (readProgram source) := by
  unfold readProgram
  split
  · exact .error trivial
  · split
    · exact .ok _
    · exact .error trivial

namespace Bundle

theorem localExport_fails (s : ExportSpecifier) :
    FailsWith Failure.IsUnsupported (localExport s) := by
  unfold localExport
  split
  · exact .error trivial
  · exact .error trivial
  · exact .ok _

theorem mapM_localExport_fails (specifiers : List ExportSpecifier) :
    FailsWith Failure.IsUnsupported (specifiers.mapM localExport) := by
  induction specifiers with
  | nil => exact .ok _
  | cons s rest ih =>
      rw [List.mapM_cons]
      exact (localExport_fails s).bind fun _ => ih.bind fun _ => .ok _

theorem lowerItem_fails (k : Nat) (item : ModuleItem) :
    FailsWith Failure.IsUnsupported (lowerItem k item) := by
  unfold lowerItem
  split
  case h_4 => exact (mapM_localExport_fails _).bind fun _ => .ok _
  all_goals exact .ok _

theorem lowerItems_fails (k : Nat) (items : List ModuleItem) :
    FailsWith Failure.IsUnsupported (lowerItems k items) := by
  induction items generalizing k with
  | nil => exact .ok _
  | cons item rest ih => exact (lowerItem_fails k item).bind fun _ => (ih _).bind fun _ => .ok _

theorem ofProgram_fails (program : Program) :
    FailsWith Failure.IsUnsupported (Lowered.ofProgram program) := by
  cases program with
  | module m => exact lowerItems_fails 0 m.items
  | script s => exact .ok _

theorem fillMarker_fails (body stmts : List Stmt) :
    FailsWith Failure.IsInternal (fillMarker body stmts) := by
  induction stmts with
  | nil => exact .error trivial
  | cons s rest ih =>
      have goesOn : FailsWith Failure.IsInternal (do return s :: (← fillMarker body rest)) :=
        ih.bind fun _ => .ok _
      unfold fillMarker
      split
      · exact .ite (.ok _) goesOn
      · exact goesOn

theorem fillCall_fails (body : List Stmt) (e : Expr) :
    FailsWith Failure.IsInternal (fillCall body e) := by
  unfold fillCall
  split
  · exact (fillMarker_fails body _).bind fun _ => .ok _
  · exact .error trivial

theorem fillItem_fails (body : List Stmt) (item : ModuleItem) :
    FailsWith Failure.IsInternal (fillItem body item) := by
  unfold fillItem
  split
  case h_4 => exact .error trivial
  all_goals exact (fillCall_fails body _).bind fun _ => .ok _

theorem fillLast_fails (body : List Stmt) (items : List ModuleItem) :
    FailsWith Failure.IsInternal (fillLast body items) := by
  fun_induction fillLast body items with
  | case1 => exact .error trivial
  | case2 item => exact (fillItem_fails body item).bind fun _ => .ok _
  | case3 item rest _ ih => exact ih.bind fun _ => .ok _

theorem withGetters_fails (l : Lowered) (stmts : List Stmt) :
    FailsWith Failure.IsInternal (withGetters l stmts) := by
  intro failure failed
  unfold withGetters brokenGetter? at failed
  cases broken : tableProblem? l.exports with
  | none =>
      rw [broken] at failed
      cases failed
  | some cause =>
      rw [broken] at failed
      cases failed
      trivial

theorem wrapper_fails (path : List String) (l : Lowered) :
    FailsWith Failure.IsInternal (wrapper path l) := by
  unfold wrapper
  split
  · exact (withGetters_fails l _).bind fun _ => .ok _
  · unfold Template.read
    dsimp only
    split
    · exact .ok _
    · exact .error trivial

theorem enclose_fails (globalName : String) (l : Lowered) :
    FailsWith Failure.IsInternal (enclose globalName l) :=
  (wrapper_fails _ l).bind fun _ => fillLast_fails _ _

theorem commonModule_fails (l : Lowered) : FailsWith Failure.IsInternal (commonModule l) :=
  (withGetters_fails l _).bind fun _ => (fillMarker_fails _ _).bind fun _ => .ok _

def lower (format : Format) (program : Program) : Except Failure Lowered := do
  if hasTopLevelAwait program then
    throw <| .unsupported <|
      "top-level await is not supported with the \"" ++ format.name ++ "\" output format"
  Lowered.ofProgram program

def finish (options : Options) (l : Lowered) : Except Failure Module := do
  let items ←
    if options.format = .iife then enclose options.globalName l else commonModule l
  return { items }

theorem bundle_eq_lower {options : Options} (lowers : options.format ≠ .esm) (program : Program) :
    bundle options program = lower options.format program >>= finish options := by
  unfold bundle lower finish
  split
  case h_1 form => exact absurd form lowers
  case h_2 =>
    by_cases waits : hasTopLevelAwait program = true
    · rw [if_pos waits, if_pos waits]
      rfl
    · rw [if_neg waits, if_neg waits]

theorem bundle_esm {options : Options} (keeps : options.format = .esm) (program : Program) :
    ∃ m, bundle options program = .ok m := by
  unfold bundle
  rw [keeps]
  cases program with
  | module m => exact ⟨m, rfl⟩
  | script s => exact ⟨_, rfl⟩

theorem lower_fails (format : Format) (program : Program) :
    FailsWith Failure.IsUnsupported (lower format program) := by
  unfold lower
  split
  · exact .error trivial
  · exact ofProgram_fails program

theorem lower_isOk (format format' : Format) (program : Program) :
    (lower format program).isOk = (lower format' program).isOk := by
  unfold lower
  split <;> rfl

theorem finish_fails (options : Options) (l : Lowered) :
    FailsWith Failure.IsInternal (finish options l) := by
  unfold finish
  exact .ite ((enclose_fails options.globalName l).bind fun _ => .ok _)
    ((commonModule_fails l).bind fun _ => .ok _)

theorem bundle_fails (options : Options) (program : Program) :
    FailsWith (fun failure => ¬failure.IsOfText) (bundle options program) := by
  have apart : ∀ failure : Failure, failure.IsUnsupported ∨ failure.IsInternal →
      ¬failure.IsOfText := by
    rintro (_ | _ | _ | _ | _) (other | other) ofText <;> first | exact other | exact ofText
  by_cases keeps : options.format = .esm
  · obtain ⟨m, bundled⟩ := bundle_esm keeps program
    rw [bundled]
    exact .ok m
  · rw [bundle_eq_lower keeps]
    exact ((lower_fails _ program).mono fun _ h => apart _ (.inl h)).bind fun l =>
      (finish_fails options l).mono fun _ h => apart _ (.inr h)

theorem bundle_isUnsupported_iff {options : Options} (lowers : options.format ≠ .esm)
    (program : Program) :
    (∃ failure, bundle options program = .error failure ∧ failure.IsUnsupported) ↔
      (lower .iife program).isOk = false := by
  rw [bundle_eq_lower lowers, lower_isOk .iife options.format]
  cases lowered : lower options.format program with
  | error failure =>
      exact iff_of_true ⟨failure, rfl, lower_fails _ program failure lowered⟩ rfl
  | ok l =>
      refine iff_of_false ?_ (by simp [Except.isOk, Except.toBool])
      rintro ⟨failure, failed, unsupported⟩
      have internal := finish_fails options l failure failed
      cases failure <;> first | exact unsupported | exact internal

end Bundle

open Enclose.Bundle

variable {source : String} {options : Options} {failure : Failure}

theorem transform_eq (options : Options) (source : String) :
    transform options source = readProgram source.toList >>= fun program =>
      (bundle options program).map fun m => m.print options.minify := rfl

theorem transform_error_iff (ofText : failure.IsOfText) :
    transform options source = .error failure ↔ readProgram source.toList = .error failure := by
  rw [transform_eq]
  cases read : readProgram source.toList with
  | error other => simp [bind, Except.bind]
  | ok program =>
      refine iff_of_false ?_ (by simp)
      intro failed
      cases bundled : bundle options program with
      | ok m => simp [bind, Except.bind, bundled, Except.map] at failed
      | error other =>
          obtain rfl : other = failure := by simpa [bind, Except.bind, bundled, Except.map] using failed
          exact bundle_fails options program other bundled ofText

theorem transform_error_iff_bundle (other : ¬failure.IsOfText) :
    transform options source = .error failure ↔
      ∃ program, readProgram source.toList = .ok program ∧ bundle options program = .error failure := by
  rw [transform_eq]
  cases read : readProgram source.toList with
  | error cause =>
      refine iff_of_false (fun failed => ?_) (by simp)
      cases failed
      exact other (readProgram_fails _ failure read)
  | ok program =>
      cases bundled : bundle options program <;> simp [bind, Except.bind, bundled, Except.map]

theorem transform_tooDeep {d : Diagnostic} (deep : Nesting.check source.toList = .error d) :
    transform options source = .error (.tooDeep d) := by
  have ofText : (Failure.tooDeep d).IsOfText := trivial
  rw [transform_error_iff ofText, readProgram, deep]

def IsUnsupportedIn (options : Options) (source : String) : Prop :=
  ∃ construct, transform options source = .error (.unsupported construct)

theorem isUnsupportedIn_iff (lowers : options.format ≠ .esm) :
    IsUnsupportedIn options source ↔
      ∃ program, readProgram source.toList = .ok program ∧ (lower .iife program).isOk = false := by
  have other (construct : String) : ¬(Failure.unsupported construct).IsOfText := id
  simp only [← bundle_isUnsupported_iff lowers, IsUnsupportedIn,
    transform_error_iff_bundle (other _)]
  constructor
  · rintro ⟨construct, program, read, bundled⟩
    exact ⟨program, read, _, bundled, trivial⟩
  · rintro ⟨program, read, failure, bundled, unsupported⟩
    cases failure with
    | unsupported construct => exact ⟨construct, program, read, bundled⟩
    | _ => cases unsupported

/-- A text is too deep or has syntax errors with all options or with none, in the same words, and it
is too deep before anything else. Nothing else can go wrong in `esm`. What `iife` cannot express is what
`cjs` cannot, whatever the other options. The global name matters to `iife` alone, and the white space to
no failure. -/
theorem transform_options (source : String) :
    (∀ (options options' : Options) (failure : Failure), failure.IsOfText →
      (transform options source = .error failure ↔ transform options' source = .error failure)) ∧
    (∀ (options : Options) (d : Diagnostic), Nesting.check source.toList = .error d →
      transform options source = .error (.tooDeep d)) ∧
    (∀ (options : Options) (failure : Failure), options.format = .esm →
      transform options source = .error failure → failure.IsOfText) ∧
    (∀ options options' : Options, options.format = .iife → options'.format = .cjs →
      (IsUnsupportedIn options source ↔ IsUnsupportedIn options' source)) ∧
    (∀ (options : Options) (name : String), options.format ≠ .iife →
      transform { options with globalName := name } source = transform options source) ∧
    ∀ (options : Options) (minify : Bool) (failure : Failure),
      transform { options with minify } source = .error failure ↔
        transform options source = .error failure := by
  refine ⟨fun options options' failure ofText => ?_, fun options d deep => transform_tooDeep deep,
    fun options failure keeps failed => ?_, fun options options' call common => ?_,
    fun options name other => ?_, fun options minify failure => ?_⟩
  · rw [transform_error_iff ofText, transform_error_iff ofText]
  · by_cases ofText : failure.IsOfText
    · exact ofText
    · obtain ⟨program, -, bundled⟩ := (transform_error_iff_bundle ofText).1 failed
      obtain ⟨m, fine⟩ := bundle_esm keeps program
      rw [fine] at bundled
      cases bundled
  · rw [isUnsupportedIn_iff (by simp [call]), isUnsupportedIn_iff (by simp [common])]
  -- No other format looks at the name.
  · rcases options with ⟨_ | _ | _, _, _⟩
    · exact absurd rfl other
    · rfl
    · rfl
  · by_cases ofText : failure.IsOfText
    · rw [transform_error_iff ofText, transform_error_iff ofText]
    · rw [transform_error_iff_bundle ofText, transform_error_iff_bundle ofText]
      rfl

end Enclose
