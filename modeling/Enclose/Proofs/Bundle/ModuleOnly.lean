import Enclose.Proofs.Bundle.Awaiting
import Enclose.Proofs.Bundle.Requires

/-!
# What only a module may hold

Besides imports and exports, these are an `import.meta`, and an `await` outside of functions.
Lowering adds neither (`not_holds_opening`, `not_holds_imports`, `not_holds_closing`). A program that
waits outside of functions is refused, and the code for any other one has an `import.meta` in it iff
the program has (`transform_moduleOnly`).
-/

namespace Enclose.Script.Part

def isImportMeta : Part → Bool
  | expr .importMeta => true
  | _ => false

/-- Whether a part, other than an import or an export, may only stand in a module. An `await` may
also stand in a function. -/
def isModuleOnly (part : Part) : Bool := part.isAwait || part.isImportMeta

end Enclose.Script.Part

namespace Enclose.Bundle
open Script
open Script.Part (everywhere outsideFunctions isAwait isImportMeta isModuleOnly holds_iff
  not_holds_of_lacks children)

section
variable {enters property : Part → Bool}

theorem not_holds_of_children {whole : Part} (plain : property whole = false)
    (others : ∀ child ∈ whole.children, ¬ child.Holds enters property) :
    ¬ whole.Holds enters property := by
  rw [holds_iff]
  rintro (found | ⟨-, child, member, found⟩)
  · rw [plain] at found
    contradiction
  · exact others child member found

end

theorem not_holds_getter (e : Export) :
    ¬ (Part.property (.keyed 0 (.string (.ofText e.name)) 0 (.arrow false [] e.getter.expr))).Holds
      everywhere isModuleOnly := by
  refine not_holds_of_lacks 6 ?_
  cases e.getter with
  | own name => rfl
  | whole k => rfl
  | default k => rfl
  | member k property =>
      rw [Getter.expr]
      split <;> rfl

theorem not_holds_getterTable (exports : List Export) :
    ¬ (Part.expr (getterTable exports)).Holds everywhere isModuleOnly := by
  refine not_holds_of_children rfl fun child member => ?_
  obtain ⟨e, -, rfl⟩ : ∃ e ∈ exports, Part.property (.keyed 0 (.string (.ofText e.name)) 0
      (.arrow false [] e.getter.expr)) = child := by
    simpa [getterTable, Expr.objectOf, children, Expr.children] using member
  exact not_holds_getter e

theorem not_holds_exportCall (exports : List Export) :
    ¬ (Part.stmt (.call (.ident "__export") [.ident exportsName, getterTable exports])).Holds
      everywhere isModuleOnly := by
  refine not_holds_of_children rfl (List.forall_mem_singleton.2 ?_)
  refine not_holds_of_children rfl (List.forall_mem_cons.2 ⟨?_, List.forall_mem_cons.2 ⟨?_, ?_⟩⟩)
  · exact not_holds_of_lacks 1 rfl
  · exact not_holds_of_lacks 2 rfl
  · refine List.forall_mem_singleton.2 (not_holds_of_children rfl (List.forall_mem_singleton.2 ?_))
    exact not_holds_getterTable exports

theorem not_holds_helpers (l : Lowered) :
    ∀ s ∈ helpers l, ¬ (Part.stmt s).Holds everywhere isModuleOnly := by
  intro s member
  simp only [helpers, List.mem_append, List.mem_ite_nil_right, List.mem_ite_nil_left,
    List.mem_singleton] at member
  rcases member with ((⟨_, rfl⟩ | ⟨_, rfl⟩) | ⟨_, rfl⟩) | ⟨_, rfl⟩ <;>
    exact not_holds_of_lacks 14 rfl

theorem not_holds_opening (format : Format) (l : Lowered) :
    ∀ s ∈ opening format l, ¬ (Part.stmt s).Holds everywhere isModuleOnly := by
  have object : ∀ s ∈ exportsObject l, ¬ (Part.stmt s).Holds everywhere isModuleOnly := by
    intro s member
    simp only [exportsObject, List.mem_ite_nil_right, List.mem_ite_nil_left, List.mem_cons,
      List.not_mem_nil, or_false] at member
    rcases member with ⟨_, rfl | rfl | ⟨_, rfl⟩⟩
    · exact not_holds_of_lacks 4 rfl
    · exact not_holds_of_lacks 8 rfl
    · exact not_holds_exportCall l.exports
  have start : ∀ s ∈ prologue l, ¬ (Part.stmt s).Holds everywhere isModuleOnly :=
    List.forall_mem_append.2 ⟨not_holds_helpers l, object⟩
  cases format with
  | iife => exact start
  | esm => exact start
  | cjs =>
      refine List.forall_mem_append.2 ⟨start, fun s member => ?_⟩
      simp only [assignExports, whereExports, List.mem_ite_nil_right, List.mem_singleton] at member
      obtain ⟨_, rfl⟩ := member
      exact not_holds_of_lacks 6 rfl

theorem not_holds_closing (format : Format) (l : Lowered) :
    ∀ s ∈ closing format l, ¬ (Part.stmt s).Holds everywhere isModuleOnly := by
  intro s member
  cases format with
  | iife =>
      simp only [closing, returnExports, whereExports, List.mem_ite_nil_right,
        List.mem_singleton] at member
      obtain ⟨_, rfl⟩ := member
      exact not_holds_of_lacks 3 rfl
  | cjs => contradiction
  | esm => contradiction

theorem not_holds_importStmts (k : Nat) (specifiers : List ImportSpecifier) (source : StringLit) :
    ∀ s ∈ importStmts k specifiers source, ¬ (Part.stmt s).Holds everywhere isModuleOnly := by
  unfold importStmts
  split
  · exact List.forall_mem_singleton.2 (not_holds_of_lacks 5 rfl)
  · refine List.forall_mem_cons.2 ⟨not_holds_of_lacks 7 rfl, ?_⟩
    refine List.forall_mem_append.2 ⟨fun s member => ?_, ?_⟩
    · obtain ⟨specifier, -, h⟩ := List.mem_filterMap.1 member
      obtain ⟨binding, rfl | rfl⟩ := wholeImport?_eq_some h <;>
        exact not_holds_of_lacks 7 rfl
    · split
      · exact fun _ member => absurd member List.not_mem_nil
      · refine List.forall_mem_singleton.2 (not_holds_of_children rfl
          (List.forall_mem_singleton.2 (not_holds_of_children rfl
            (List.forall_mem_cons.2 ⟨not_holds_of_children rfl fun child member => ?_,
              List.forall_mem_singleton.2 (not_holds_of_lacks 1 rfl)⟩))))
        obtain ⟨pattern, named, rfl⟩ := List.mem_map.1 member
        obtain ⟨specifier, -, h⟩ := List.mem_filterMap.1 named
        refine not_holds_of_lacks 3 ?_
        -- The key is a name or a string, and never an expression.
        unfold namedImport? at h
        split at h
        · cases h; rfl
        · split at h
          · cases h
          · next imported binding _ =>
            cases h
            cases imported <;> rfl
        · cases h

theorem not_holds_loadingStmts (k : Nat) (item : ModuleItem) :
    ∀ s ∈ loadingStmts k item, ¬ (Part.stmt s).Holds everywhere isModuleOnly := by
  unfold loadingStmts
  split
  · exact not_holds_importStmts k _ _
  · exact List.forall_mem_singleton.2 (not_holds_of_lacks 7 rfl)
  · exact List.forall_mem_singleton.2 (not_holds_of_lacks 7 rfl)
  · exact fun _ member => absurd member List.not_mem_nil

theorem lowerItems_imports {k : Nat} {items : List ModuleItem} {l : Lowered}
    (h : lowerItems k items = .ok l) :
    l.imports = (indexed items).flatMap fun (i, item) => loadingStmts (k + i) item :=
  lowerItems_collect Lowered.imports loadingStmts rfl (fun _ _ => rfl)
    (fun h => (lowerItem_parts h).imports) h

theorem not_holds_imports {program : Program} {l : Lowered}
    (h : Lowered.ofProgram program = .ok l) :
    ∀ s ∈ l.imports, ¬ (Part.stmt s).Holds everywhere isModuleOnly := by
  cases program with
  | script text =>
      cases h
      exact fun _ member => absurd member List.not_mem_nil
  | module m =>
      rw [lowerItems_imports h]
      intro s member
      obtain ⟨⟨i, item⟩, -, among⟩ := List.mem_flatMap.1 member
      exact not_holds_loadingStmts _ item s among

structure Sought (enters property : Part → Bool) : Prop where
  enters : ∀ part, part.isFunction = false → enters part
  only : ∀ part, property part → part.isModuleOnly

theorem sought_isImportMeta : Sought everywhere isImportMeta :=
  ⟨fun _ _ => rfl, fun _ found => by simp [isModuleOnly, found]⟩

theorem sought_isAwait : Sought outsideFunctions isAwait :=
  ⟨fun _ outside => by simp [outside], fun _ found => by simp [isModuleOnly, found]⟩

namespace Sought

variable {enters property : Part → Bool} (sought : Sought enters property)
include sought

theorem absent {whole : Part} (h : ¬ whole.Holds everywhere isModuleOnly) :
    ¬ whole.Holds enters property :=
  fun found => h (found.mono (fun _ _ => rfl) sought.only)

theorem holds_iff_children {whole : Part} (plain : whole.isModuleOnly = false)
    (outside : whole.isFunction = false) :
    whole.Holds enters property ↔ ∃ child ∈ whole.children, child.Holds enters property := by
  have other : ¬ property whole := fun found => by
    rw [sought.only whole found] at plain
    contradiction
  rw [holds_iff]
  simp [other, sought.enters whole outside]

theorem holds_iff_child {whole child : Part} (plain : whole.isModuleOnly = false)
    (outside : whole.isFunction = false) (single : whole.children = [child]) :
    whole.Holds enters property ↔ child.Holds enters property := by
  rw [sought.holds_iff_children plain outside, single]
  simp

theorem holds_expr_iff (value : Expr) :
    (Part.stmt (.expr value)).Holds enters property ↔ (Part.expr value).Holds enters property :=
  sought.holds_iff_child rfl rfl rfl

theorem holds_declareVar_iff (name : String) (value : Expr) :
    (Part.stmt (.declareVar name value)).Holds enters property ↔
      (Part.expr value).Holds enters property := by
  have target : ¬ (Part.pattern (.ident name)).Holds enters property :=
    sought.absent (not_holds_of_lacks 1 rfl)
  rw [sought.holds_iff_child rfl rfl rfl, sought.holds_iff_children rfl rfl]
  simp [children, Pattern.children, target]

theorem holds_assignTo_iff {target : Expr} (plain : ¬ (Part.expr target).Holds enters property)
    (value : Expr) :
    (Part.stmt (.expr (.assignTo target value))).Holds enters property ↔
      (Part.expr value).Holds enters property := by
  rw [holds_expr_iff sought, sought.holds_iff_children rfl rfl]
  unfold Expr.assignTo
  split
  · next name =>
    have bound : ¬ (Part.pattern (.ident name)).Holds enters property :=
      sought.absent (not_holds_of_lacks 1 rfl)
    simp [children, Expr.children, bound]
  · have bound : ¬ (Part.pattern (.expr target)).Holds enters property := by
      rw [sought.holds_iff_child rfl rfl rfl]
      exact plain
    simp [children, Expr.children, bound]

end Sought

theorem holds_importMeta_iff (whole : Part) (plain : whole.isImportMeta = false) :
    whole.Holds everywhere isImportMeta ↔
      ∃ child ∈ whole.children, child.Holds everywhere isImportMeta := by
  rw [holds_iff]
  simp [plain]

theorem holds_importMeta_ownStmt? (item : ModuleItem) :
    (∃ s ∈ ownStmt? item, (Part.stmt s).Holds everywhere isImportMeta) ↔
      (Part.item item).Holds everywhere isImportMeta := by
  rw [holds_importMeta_iff (.item item) rfl]
  cases item with
  | stmt s => simp [ownStmt?, children, ModuleItem.children]
  | exportDecl s => simp [ownStmt?, children, ModuleItem.children]
  | exportFunction f =>
      rcases f with ⟨name, isAsync, isGenerator, params, body⟩
      simp [ownStmt?, children, ModuleItem.children, holds_importMeta_iff (.stmt (.function _)) rfl,
        holds_importMeta_iff (.function _) rfl, Stmt.children, Function.children]
  | exportClass c =>
      rcases c with ⟨name, heritage, members⟩
      simp [ownStmt?, children, ModuleItem.children, holds_importMeta_iff (.stmt (.class _)) rfl,
        holds_importMeta_iff (.class _) rfl, Stmt.children, Class.children]
  | exportDefault value =>
      simp [ownStmt?, children, ModuleItem.children, sought_isImportMeta.holds_declareVar_iff]
  | _ => simp [ownStmt?, children, ModuleItem.children]

theorem holds_importMeta_body {program : Program} {l : Lowered}
    (h : Lowered.ofProgram program = .ok l) :
    (∃ s ∈ l.body, (Part.stmt s).Holds everywhere isImportMeta) ↔
      ∃ part ∈ program.parts, part.Holds everywhere isImportMeta := by
  cases program with
  | script text =>
      cases h
      simp [Program.parts]
  | module m =>
      rw [lowerItems_body h]
      constructor
      · rintro ⟨s, member, found⟩
        obtain ⟨item, among, own⟩ := List.mem_filterMap.1 member
        exact ⟨_, List.mem_map_of_mem among, (holds_importMeta_ownStmt? item).1 ⟨s, own, found⟩⟩
      · rintro ⟨_, member, found⟩
        obtain ⟨item, among, rfl⟩ := List.mem_map.1 member
        obtain ⟨s, own, found⟩ := (holds_importMeta_ownStmt? item).2 found
        exact ⟨s, List.mem_filterMap.2 ⟨item, among, own⟩, found⟩

theorem awaits_ownStmt? {item : ModuleItem} {s : Stmt} (own : ownStmt? item = some s)
    (quiet : awaitsItem item = false) : awaitsStmt s = false := by
  cases item with
  | stmt s' => cases own; exact quiet
  | exportDecl s' => cases own; exact quiet
  | exportFunction f => rcases f; cases own; rfl
  | exportClass c => rcases c; cases own; exact quiet
  | exportDefault value =>
      cases own
      simpa [Stmt.declareVar, Stmt.declare, awaitsStmt, awaitsPattern, awaitsItem] using quiet
  | _ => cases own

theorem awaits_body {program : Program} {l : Lowered} (h : Lowered.ofProgram program = .ok l)
    (quiet : hasTopLevelAwait program = false) : ∀ s ∈ l.body, awaitsStmt s = false := by
  cases program with
  | script text =>
      cases h
      simpa [hasTopLevelAwait] using quiet
  | module m =>
      rw [lowerItems_body h]
      intro s member
      obtain ⟨item, among, own⟩ := List.mem_filterMap.1 member
      exact awaits_ownStmt? own (by simpa using List.any_eq_false.1 quiet item among)

section
variable {enters property : Part → Bool} (sought : Sought enters property)
include sought

theorem Sought.not_holds_orNewObject {target : Expr}
    (plain : ¬ (Part.expr target).Holds enters property) :
    ¬ (Part.expr (orNewObject target)).Holds enters property := by
  have object : ¬ (Part.expr (.object [])).Holds enters property :=
    sought.absent (not_holds_of_lacks 1 rfl)
  rw [sought.holds_iff_children rfl rfl]
  simp [orNewObject, children, Expr.children, plain, object]

theorem Sought.not_holds_dot {target : Expr} (plain : ¬ (Part.expr target).Holds enters property)
    (name : String) : ¬ (Part.expr (.dot target name)).Holds enters property := by
  have key : ¬ (Part.key (.ident name)).Holds enters property :=
    sought.absent (not_holds_of_lacks 1 rfl)
  rw [sought.holds_iff_children rfl rfl]
  simp [Expr.dot, children, Expr.children, plain, key]

theorem Sought.holds_assignRest (value : Expr) {target : Expr}
    (plain : ¬ (Part.expr target).Holds enters property) (parts : List String) :
    (∃ s ∈ assignRest value target parts, (Part.stmt s).Holds enters property) ↔
      (Part.expr value).Holds enters property := by
  induction parts generalizing target with
  | nil => simp [assignRest, sought.holds_assignTo_iff plain]
  | cons part rest ih =>
      simp [assignRest, sought.holds_assignTo_iff plain, sought.not_holds_orNewObject plain,
        ih (sought.not_holds_dot plain part)]

theorem Sought.holds_assignPath (value : Expr) (path : List String) :
    (∃ s ∈ assignPath value path, (Part.stmt s).Holds enters property) ↔
      (Part.expr value).Holds enters property := by
  rcases path with _ | ⟨name, _ | ⟨part, rest⟩⟩
  · simp [assignPath, sought.holds_expr_iff]
  · simp [assignPath, sought.holds_declareVar_iff]
  · have plain : ¬ (Part.expr (.ident name)).Holds enters property :=
      sought.absent (not_holds_of_lacks 1 rfl)
    simp [assignPath, sought.holds_declareVar_iff, sought.not_holds_orNewObject plain,
      sought.holds_assignRest value (sought.not_holds_dot plain part) rest]

end

theorem holds_importMeta_around (options : Options) (scope : List Stmt) :
    (∃ s ∈ around options scope, (Part.stmt s).Holds everywhere isImportMeta) ↔
      ∃ s ∈ scope, (Part.stmt s).Holds everywhere isImportMeta := by
  unfold around
  split
  · rw [sought_isImportMeta.holds_assignPath]
    rw [callOf, Expr.callWith, holds_importMeta_iff (.expr (.call _ _)) rfl]
    simp only [children, Expr.children, List.map_nil, List.mem_singleton, exists_eq_left]
    rw [holds_importMeta_iff (.expr (.paren _)) rfl]
    simp only [children, Expr.children, List.mem_singleton, exists_eq_left]
    rw [holds_importMeta_iff (.expr (.arrowBlock _ _ _)) rfl]
    simp [children, Expr.children]
  · exact Iff.rfl

def UsesImportMeta (parts : List Part) : Prop := ∃ part ∈ parts, part.Holds everywhere isImportMeta

theorem bundle_awaiting {options : Options} (lowers : options.format ≠ .esm) {program : Program}
    (waits : hasTopLevelAwait program = true) :
    bundle options program =
      .error (.unsupported ("top-level await is not supported with the \"" ++
        options.format.name ++ "\" output format")) := by
  unfold bundle
  split
  · contradiction
  · rw [waits]
    rfl

theorem holds_scope_iff {program : Program} {l : Lowered} {enters property : Part → Bool}
    (sought : Sought enters property) (lowered : Lowered.ofProgram program = .ok l)
    (format : Format) :
    (∃ s ∈ opening format l ++ (l.imports ++ l.body) ++ closing format l,
        (Part.stmt s).Holds enters property) ↔
      ∃ s ∈ l.body, (Part.stmt s).Holds enters property := by
  constructor
  · rintro ⟨s, member, found⟩
    simp only [List.mem_append] at member
    rcases member with (started | imported | own) | ended
    · exact absurd found (sought.absent (not_holds_opening format l s started))
    · exact absurd found (sought.absent (not_holds_imports lowered s imported))
    · exact ⟨s, own, found⟩
    · exact absurd found (sought.absent (not_holds_closing format l s ended))
  · rintro ⟨s, own, found⟩
    exact ⟨s, by simp [own], found⟩

theorem not_holds_isAwait_around (options : Options) {scope : List Stmt}
    (quiet : ¬ ∃ s ∈ scope, (Part.stmt s).Holds outsideFunctions isAwait) :
    ¬ ∃ s ∈ around options scope, (Part.stmt s).Holds outsideFunctions isAwait := by
  unfold around
  split
  · rw [sought_isAwait.holds_assignPath]
    exact not_holds_of_lacks 3 rfl
  · exact quiet

theorem exists_stmt_iff (stmts : List Stmt) (enters property : Part → Bool) :
    (∃ part ∈ stmts.map Part.stmt, part.Holds enters property) ↔
      ∃ s ∈ stmts, (Part.stmt s).Holds enters property := by
  simp

theorem bundle_moduleOnly {options : Options} {program : Program} {out : Module}
    (lowers : options.format ≠ .esm)
    (valid : options.format = .iife → Identifier.isGlobalName options.globalName)
    (h : bundle options program = .ok out) :
    ∃ stmts scope : List Stmt,
      out.items = stmts.map .stmt ∧ scope? options.format out.items = some scope ∧
      ¬ AwaitsOutside (stmts.map .stmt) ∧ ¬ AwaitsOutside (scope.map .stmt) ∧
      (UsesImportMeta (stmts.map .stmt) ↔ UsesImportMeta program.parts) := by
  obtain ⟨quiet, l, lowered, items⟩ := bundle_program lowers h
  have items := lowered_items lowers valid items
  have scopeQuiet : ¬ AwaitsOutside ((opening options.format l ++ (l.imports ++ l.body) ++
      closing options.format l).map .stmt) := by
    rw [AwaitsOutside, exists_stmt_iff, holds_scope_iff sought_isAwait lowered]
    rintro ⟨s, own, found⟩
    have silent : (Part.stmt s).awaits = false := awaits_body lowered quiet s own
    exact Part.not_holds_isAwait silent found
  refine ⟨_, _, items, by rw [items, scope?_around lowers], ?_, scopeQuiet, ?_⟩
  · rw [AwaitsOutside, exists_stmt_iff] at scopeQuiet ⊢
    exact not_holds_isAwait_around options scopeQuiet
  · rw [UsesImportMeta, exists_stmt_iff, holds_importMeta_around,
      holds_scope_iff sought_isImportMeta lowered, holds_importMeta_body lowered]
    exact Iff.rfl

/-- A program that waits outside of functions is refused. Code that comes of another one has neither
imports nor exports in it and waits in functions only, other than the one that encloses the module;
there is an `import.meta` in it iff there is one in the source. -/
theorem transform_moduleOnly {options : Options} (source : String) (lowers : options.format ≠ .esm)
    (valid : options.format = .iife → Identifier.isGlobalName options.globalName) :
    (∀ program, readProgram source.toList = .ok program → AwaitsOutside program.parts →
      transform options source =
        .error (.unsupported ("top-level await is not supported with the \"" ++
          options.format.name ++ "\" output format"))) ∧
      ∀ code, transform options source = .ok code →
        ∃ (program : Program) (out : Module) (stmts scope : List Stmt),
          readProgram source.toList = .ok program ∧ bundle options program = .ok out ∧
          out.print options.minify = code ∧ out.items = stmts.map .stmt ∧
          scope? options.format out.items = some scope ∧
          ¬ AwaitsOutside (stmts.map .stmt) ∧ ¬ AwaitsOutside (scope.map .stmt) ∧
          (UsesImportMeta (stmts.map .stmt) ↔ UsesImportMeta program.parts) := by
  constructor
  · intro program read waits
    rw [transform, read]
    have refused := bundle_awaiting lowers (hasTopLevelAwait_of_awaitsOutside waits)
    simp [bind, Except.bind, refused]
  · intro code done
    obtain ⟨program, out, read, bundled, printed⟩ := transform_program done
    obtain ⟨stmts, scope, found⟩ := bundle_moduleOnly lowers valid bundled
    exact ⟨program, out, stmts, scope, read, bundled, printed, found⟩

def waitingSource : String :=
  "import a from \"a\"; export async function f() \x7b for await (const b of await a) b; \x7d"

theorem transform_moduleOnly_of_waitingSource :
    ∃ (program : Program) (out : Module) (stmts scope : List Stmt) (code : String),
      readProgram waitingSource.toList = .ok program ∧
      transform { format := .cjs } waitingSource = .ok code ∧
      bundle { format := .cjs } program = .ok out ∧
      out.print false = code ∧ out.items = stmts.map .stmt ∧ scope? .cjs out.items = some scope ∧
      ¬ AwaitsOutside (stmts.map .stmt) ∧ ¬ AwaitsOutside (scope.map .stmt) ∧
      (UsesImportMeta (stmts.map .stmt) ↔ UsesImportMeta program.parts) := by
  have runs : (transform { format := .cjs } waitingSource).isOk := by decide +kernel
  obtain ⟨code, done⟩ := ok_of_isOk runs
  obtain ⟨program, out, stmts, scope, read, bundled, printed, items, found, quiet⟩ :=
    (transform_moduleOnly waitingSource (by decide) (by decide)).2 code done
  exact ⟨program, out, stmts, scope, code, read, done, bundled, printed, items, found, quiet⟩

def metaSource : String := "console.log(import.meta.url);"

theorem transform_metaSource :
    ∃ (program : Program) (out : Module) (stmts : List Stmt) (code : String),
      readProgram metaSource.toList = .ok program ∧ transform {} metaSource = .ok code ∧
      bundle {} program = .ok out ∧ out.print false = code ∧ out.items = stmts.map .stmt ∧
      UsesImportMeta (stmts.map .stmt) := by
  have runs : (transform {} metaSource).isOk := by decide +kernel
  have asks : ((readProgram metaSource.toList).toOption.any fun program =>
      program.parts.any (Part.finds everywhere isImportMeta 7)) = true := by decide +kernel
  obtain ⟨code, done⟩ := ok_of_isOk runs
  obtain ⟨program, out, read, bundled, printed⟩ := transform_program done
  obtain ⟨stmts, _, items, -, -, -, kept⟩ := bundle_moduleOnly (by decide) (by decide) bundled
  rw [read] at asks
  obtain ⟨part, member, found⟩ := List.any_eq_true.1 asks
  exact ⟨program, out, stmts, code, read, done, bundled, printed, items,
    kept.2 ⟨part, member, Part.holds_of_finds found⟩⟩

end Enclose.Bundle
