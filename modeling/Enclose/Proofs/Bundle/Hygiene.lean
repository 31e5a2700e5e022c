import Enclose.Proofs.Bundle.Requires
import Mathlib.Data.List.Nodup
import Mathlib.Data.List.Perm.Basic

/-!
# Names in the scope of a lowered module

The names that the scope declares are those of the module, with `__default` for a default export
without a name, and those that lowering gives to helpers, to the object of the exports and to
imports (`scopeNames_perm`). All of these start with two underscores, and they differ from each
other. So no name is declared twice iff the module declares none of the latter
(`transform_declares`).
-/

namespace Enclose.Bundle
open Script

mutual

def varNames : Stmt → List String
  | .var .var declarators => boundNamesOf declarators
  | .block body => varNamesOf body
  | .ifElse _ consequent alternate => varNames consequent ++ varNames? alternate
  | .for head _ _ body | .forIn head _ body | .forOf _ head _ body =>
    headVarNames head ++ varNames body
  | .while _ body | .doWhile body _ | .with _ body | .labelled _ body => varNames body
  | .switch _ cases => caseVarNames cases
  | .try body _ handler finalizer =>
    varNamesOf body ++ varNames? handler ++ varNames? finalizer
  | _ => []

def varNames? : Option Stmt → List String
  | none => []
  | some s => varNames s

def varNamesOf : List Stmt → List String
  | [] => []
  | s :: rest => varNames s ++ varNamesOf rest

def caseVarNames : List SwitchCase → List String
  | [] => []
  | .mk _ body :: rest => varNamesOf body ++ caseVarNames rest

def headVarNames : ForHead → List String
  | .var .var declarators => boundNamesOf declarators
  | _ => []

end

/-- The names that a statement declares in the scope that it stands in. Other declarations than
`var` belong to the innermost block around them. -/
def scopeNames : Stmt → List String
  | .var _ declarators => boundNamesOf declarators
  | .function (.mk name _ _ _ _) => name.toList
  | .class (.mk name _ _) => name.toList
  | .labelled _ body => scopeNames body
  | s => varNames s

def declaredIn (stmts : List Stmt) : List String := stmts.flatMap scopeNames

theorem declaredIn_append (first second : List Stmt) :
    declaredIn (first ++ second) = declaredIn first ++ declaredIn second :=
  List.flatMap_append

def importedBinding : ImportSpecifier → String
  | .default binding | .namespace binding | .named _ binding => binding

/-- The names that an item declares at the top level of its module, and `none` for a default export
without a name. -/
def itemBindings : ModuleItem → List (Option String)
  | .stmt s | .exportDecl s => (scopeNames s).map some
  | .import _ specifiers _ => specifiers.map fun s => some (importedBinding s)
  | .exportFunction (.mk name _ _ _ _) => [name]
  | .exportClass (.mk name _ _) => [name]
  | .exportDefault _ => [none]
  | .exportNamed _ _ | .exportAll _ => []

def topLevelBindings (items : List ModuleItem) : List (Option String) := items.flatMap itemBindings

def helperNames (l : Lowered) : List String :=
  (if l.hasExports then ["__defProp"] else []) ++
    (if l.exports.isEmpty then [] else ["__export"]) ++
    (if l.reExports then ["__reExport"] else []) ++
    (if l.importDefault then ["__importDefault"] else []) ++
    if l.hasExports then ["__exports"] else []

def importNames (items : List ModuleItem) : List String :=
  (List.range (items.countP bindsImport)).map importName

def generatedNames (l : Lowered) (items : List ModuleItem) : List String :=
  helperNames l ++ importNames items ++
    if none ∈ topLevelBindings items then ["__default"] else []

def freeNames (format : Format) (l : Lowered) (items : List ModuleItem) : List String :=
  (if items.any fun item => (dependency? item).isSome then ["require"] else []) ++
    if l.hasExports then "Object" :: if format = .cjs then ["module"] else [] else []

theorem declaredIn_prologue (l : Lowered) : declaredIn (prologue l) = helperNames l := by
  unfold prologue helpers exportsObject helperNames
  cases l.hasExports <;> cases l.exports.isEmpty <;> cases l.reExports <;> cases l.importDefault
  all_goals rfl

theorem declaredIn_opening (format : Format) (l : Lowered) :
    declaredIn (opening format l) = helperNames l := by
  cases format with
  | iife => exact declaredIn_prologue l
  | esm => exact declaredIn_prologue l
  | cjs =>
      rw [opening, declaredIn_append, declaredIn_prologue, assignExports, whereExports]
      split <;> simp [declaredIn, scopeNames, varNames]

theorem declaredIn_closing (format : Format) (l : Lowered) :
    declaredIn (closing format l) = [] := by
  cases format with
  | iife =>
      rw [closing, returnExports, whereExports]
      split <;> rfl
  | cjs => rfl
  | esm => rfl

theorem boundNamesOf_eq (patterns : List Pattern) :
    boundNamesOf patterns = patterns.flatMap boundNames := by
  induction patterns with
  | nil => rfl
  | cons pattern rest ih => rw [boundNamesOf, ih, List.flatMap_cons]

theorem specifiers_perm (k : Nat) (specifiers : List ImportSpecifier) :
    (declaredIn (specifiers.filterMap (wholeImport? k)) ++
      (specifiers.filterMap namedImport?).flatMap boundNames).Perm
      (specifiers.map importedBinding) := by
  induction specifiers with
  | nil => exact .nil
  | cons specifier rest ih =>
      have whole {s : Stmt} (here : wholeImport? k specifier = some s)
          (names : scopeNames s = [importedBinding specifier])
          (other : namedImport? specifier = none) :
          (declaredIn ((specifier :: rest).filterMap (wholeImport? k)) ++
            ((specifier :: rest).filterMap namedImport?).flatMap boundNames).Perm
            ((specifier :: rest).map importedBinding) := by
        rw [List.filterMap_cons_some here, List.filterMap_cons_none other, declaredIn,
          List.flatMap_cons, names]
        exact ih.cons _
      have named {p : Pattern} (here : namedImport? specifier = some p)
          (names : boundNames p = [importedBinding specifier])
          (other : wholeImport? k specifier = none) :
          (declaredIn ((specifier :: rest).filterMap (wholeImport? k)) ++
            ((specifier :: rest).filterMap namedImport?).flatMap boundNames).Perm
            ((specifier :: rest).map importedBinding) := by
        rw [List.filterMap_cons_some here, List.filterMap_cons_none other, List.flatMap_cons, names]
        exact List.perm_middle.trans (ih.cons _)
      -- A specifier has a declaration of its own or a place in the last one, and never both.
      rcases specifier with binding | binding | ⟨_ | imported, binding⟩
      · exact whole rfl rfl rfl
      · exact whole rfl rfl rfl
      · exact named rfl rfl rfl
      · cases taken : imported.isDefault with
        | true =>
            exact whole (by simp [wholeImport?, taken]; rfl) rfl (by simp [namedImport?, taken])
        | false =>
            exact named (by simp [namedImport?, taken]; rfl) rfl (by simp [wholeImport?, taken])

def importLocals : ModuleItem → List String
  | .import _ specifiers _ => specifiers.map importedBinding
  | _ => []

theorem declaredIn_importStmts (k : Nat) (specifiers : List ImportSpecifier) (source : StringLit) :
    (declaredIn (importStmts k specifiers source)).Perm
      ((if specifiers.isEmpty then [] else [importName k]) ++ specifiers.map importedBinding) := by
  have named (patterns : List Pattern) (value : Expr) :
      declaredIn (if patterns.isEmpty then [] else [.declare .const (.object patterns) value]) =
        patterns.flatMap boundNames := by
    cases patterns with
    | nil => rfl
    | cons pattern rest => simp [declaredIn, scopeNames, Stmt.declare, boundNamesOf_eq, boundNames]
  unfold importStmts
  split
  · next empty =>
    rw [List.isEmpty_iff.1 empty]
    exact .nil
  · rw [List.cons_append, declaredIn, List.flatMap_cons]
    refine List.Perm.cons _ ?_
    rw [← declaredIn, declaredIn_append, named]
    exact specifiers_perm k specifiers

theorem declaredIn_loadingStmts (k : Nat) (item : ModuleItem) :
    (declaredIn (loadingStmts k item)).Perm
      ((if bindsImport item then [importName k] else []) ++ importLocals item) := by
  cases item with
  | «import» phase specifiers source =>
      have start := declaredIn_importStmts k specifiers source
      cases specifiers with
      | nil => exact start
      | cons first rest => exact start
  | exportNamed specifiers source => cases source <;> exact .refl _
  | _ => exact .refl _

theorem declaredIn_imports {k : Nat} {items : List ModuleItem} {l : Lowered}
    (h : lowerItems k items = .ok l) :
    (declaredIn l.imports).Perm
      ((List.range' k (items.countP bindsImport)).map importName ++
        items.flatMap importLocals) := by
  induction items generalizing k l with
  | nil => cases h; exact .nil
  | cons item rest ih =>
      obtain ⟨first, others, hf, ho, rfl⟩ := lowerItems_cons_ok.1 h
      have names : (List.range' k ((item :: rest).countP bindsImport)).map importName =
          (if bindsImport item then [importName k] else []) ++
            (List.range' (k + if bindsImport item then 1 else 0)
              (rest.countP bindsImport)).map importName := by
        cases binds : bindsImport item <;> simp [binds, List.range'_succ]
      rw [Lowered.imports_append, declaredIn_append, (lowerItem_parts hf).imports, names,
        List.flatMap_cons]
      refine ((declaredIn_loadingStmts k item).append (ih ho)).trans ?_
      simp only [List.append_assoc]
      exact (List.perm_append_comm_assoc _ _ _).append_left _

theorem itemBindings_getD (item : ModuleItem) :
    (itemBindings item).map (·.getD "__default") =
      importLocals item ++ declaredIn (ownStmt? item).toList := by
  cases item with
  | exportFunction f =>
      rcases f with ⟨name, isAsync, isGenerator, params, body⟩
      rfl
  | exportClass c =>
      rcases c with ⟨name, heritage, members⟩
      rfl
  | _ => simp [itemBindings, importLocals, ownStmt?, declaredIn, scopeNames, boundNamesOf,
      boundNames, Function.comp_def, Stmt.declareVar, Stmt.declare]

theorem topLevelBindings_getD (items : List ModuleItem) :
    (items.flatMap importLocals ++ declaredIn (ownStmts items)).Perm
      ((topLevelBindings items).map (·.getD "__default")) := by
  have own : declaredIn (ownStmts items) =
      items.flatMap fun item => declaredIn (ownStmt? item).toList := by
    rw [ownStmts, List.filterMap_eq_flatMap_toList, declaredIn, List.flatMap_assoc]
    rfl
  simp only [own, topLevelBindings, List.map_flatMap, itemBindings_getD]
  exact List.flatMap_append_perm _ _ _

theorem scopeNames_perm {items : List ModuleItem} {l : Lowered} (h : lowerItems 0 items = .ok l)
    (format : Format) :
    (declaredIn (opening format l ++ l.imports ++ ownStmts items ++ closing format l)).Perm
      (helperNames l ++ importNames items ++
        (topLevelBindings items).map (·.getD "__default")) := by
  simp only [declaredIn_append, declaredIn_opening, declaredIn_closing, List.append_nil,
    List.append_assoc]
  refine List.Perm.append_left _ ?_
  refine ((declaredIn_imports h).append_right _).trans ?_
  rw [List.append_assoc, importNames, List.range_eq_range']
  exact (topLevelBindings_getD items).append_left _

theorem importName_starts (k : Nat) : "__import_".toList <+: (importName k).toList := by
  rw [importName, String.toList_append]
  exact List.prefix_append _ _

theorem mem_helperNames {l : Lowered} {name : String} (h : name ∈ helperNames l) :
    name ∈ ["__defProp", "__export", "__reExport", "__importDefault", "__exports"] := by
  simp only [helperNames, List.mem_append, List.mem_ite_nil_right, List.mem_ite_nil_left,
    List.mem_singleton] at h
  rcases h with (((⟨_, rfl⟩ | ⟨_, rfl⟩) | ⟨_, rfl⟩) | ⟨_, rfl⟩) | ⟨_, rfl⟩ <;> decide

theorem nodup_helperNames (l : Lowered) : (helperNames l).Nodup := by
  unfold helperNames
  cases l.hasExports <;> cases l.exports.isEmpty <;> cases l.reExports <;> cases l.importDefault
  all_goals decide

theorem not_mem_added {name : String} (apart : ¬ "__import_".toList <+: name.toList)
    (other : name ∉ ["__defProp", "__export", "__reExport", "__importDefault", "__exports"])
    (l : Lowered) (items : List ModuleItem) : name ∉ helperNames l ++ importNames items := by
  intro member
  rcases List.mem_append.1 member with helper | imported
  · exact other (mem_helperNames helper)
  · obtain ⟨k, -, rfl⟩ := List.mem_map.1 imported
    exact apart (importName_starts k)

theorem nodup_added (l : Lowered) (items : List ModuleItem) :
    (helperNames l ++ importNames items).Nodup := by
  refine List.Nodup.append (nodup_helperNames l)
    (List.nodup_range.map fun _ _ => importName_injective) ?_
  intro name helper imported
  obtain ⟨k, -, rfl⟩ := List.mem_map.1 imported
  have shape := importName_starts k
  have among := mem_helperNames helper
  simp only [List.mem_cons, List.not_mem_nil, or_false] at among
  rcases among with same | same | same | same | same <;>
    (rw [same] at shape; revert shape; decide)

theorem nodup_map_getD {names : List (Option String)} (distinct : names.Nodup) (standIn : String) :
    (names.map (·.getD standIn)).Nodup ↔ (none ∈ names → some standIn ∉ names) := by
  constructor
  · intro nodup unnamed named
    have same := List.inj_on_of_nodup_map nodup unnamed named rfl
    cases same
  · intro apart
    refine distinct.map_on fun first hf second hs same => ?_
    rcases first with _ | first <;> rcases second with _ | second
    · rfl
    · cases same
      exact absurd hs (apart hf)
    · cases same
      exact absurd hf (apart hs)
    · cases same
      rfl

section
variable {items : List ModuleItem} {l : Lowered} {scope : List String}
  (names : scope.Perm (helperNames l ++ importNames items ++
    (topLevelBindings items).map (·.getD "__default")))
include names

theorem nodup_scope_iff (distinct : (topLevelBindings items).Nodup) :
    scope.Nodup ↔
      ∀ name, some name ∈ topLevelBindings items → name ∉ generatedNames l items := by
  have default : "__default" ∉ helperNames l ++ importNames items :=
    not_mem_added (by decide) (by decide) l items
  rw [names.nodup_iff, List.nodup_append', nodup_map_getD distinct]
  constructor
  · rintro ⟨-, unnamed, apart⟩ name declared generated
    rcases List.mem_append.1 generated with added | anonymous
    · exact apart added (List.mem_map.2 ⟨some name, declared, rfl⟩)
    · simp only [List.mem_ite_nil_right, List.mem_singleton] at anonymous
      obtain ⟨present, rfl⟩ := anonymous
      exact unnamed present declared
  · intro apart
    refine ⟨nodup_added l items, fun unnamed named => ?_, fun name added declared => ?_⟩
    · exact apart _ named (by simp [generatedNames, unnamed])
    · obtain ⟨_ | own, among, rfl⟩ := List.mem_map.1 declared
      · exact default added
      · exact apart own among (List.mem_append_left _ added)

theorem mem_scope_iff {name : String} (free : name ∈ ["require", "Object", "module"]) :
    name ∈ scope ↔ some name ∈ topLevelBindings items := by
  have added : name ∉ helperNames l ++ importNames items := by
    simp only [List.mem_cons, List.not_mem_nil, or_false] at free
    rcases free with rfl | rfl | rfl <;> exact not_mem_added (by decide) (by decide) l items
  have other : "__default" ≠ name := by
    rintro rfl
    revert free
    decide
  rw [names.mem_iff, List.mem_append, or_iff_right added, List.mem_map]
  constructor
  · rintro ⟨_ | own, declared, rfl⟩
    · exact absurd rfl other
    · exact declared
  · exact fun declared => ⟨some name, declared, rfl⟩

end

theorem mem_freeNames {format : Format} {l : Lowered} {items : List ModuleItem} {name : String}
    (h : name ∈ freeNames format l items) : name ∈ ["require", "Object", "module"] := by
  simp only [freeNames, List.mem_append, List.mem_ite_nil_right, List.mem_cons, List.not_mem_nil,
    or_false] at h
  rcases h with ⟨_, rfl⟩ | ⟨_, rfl | ⟨_, rfl⟩⟩ <;> decide

/-- In the scope of the code for a module that declares no name twice, no name is declared twice and
none is declared that the added code refers to outside of the scope iff the module declares none of
the names that are added and none of those that the added code refers to. -/
theorem transform_declares {options : Options} {source code : String} {m : Module}
    (read : (Module.parse source.toList).clean? = some m) (lowers : options.format ≠ .esm)
    (valid : options.format = .iife → Identifier.isGlobalName options.globalName)
    (done : transform options source = .ok code)
    (distinct : (topLevelBindings m.items).Nodup) :
    ∃ (l : Lowered) (out : Module) (scope : List Stmt), lowerItems 0 m.items = .ok l ∧
      bundle options (.module m) = .ok out ∧ out.print options.minify = code ∧
      scope? options.format out.items = some scope ∧
      ((declaredIn scope).Nodup ↔
        ∀ name, some name ∈ topLevelBindings m.items → name ∉ generatedNames l m.items) ∧
      ((∀ name ∈ freeNames options.format l m.items, name ∉ declaredIn scope) ↔
        ∀ name, some name ∈ topLevelBindings m.items →
          name ∉ freeNames options.format l m.items) := by
  obtain ⟨out, bundled, printed⟩ := transform_ok read done
  obtain ⟨l, lowered, items⟩ := bundle_items lowers valid bundled
  have names := scopeNames_perm lowered options.format
  refine ⟨l, out, _, lowered, bundled, printed, by rw [items, scope?_around lowers],
    nodup_scope_iff names distinct, ?_⟩
  constructor
  · exact fun apart name declared free =>
      apart name free ((mem_scope_iff names (mem_freeNames free)).2 declared)
  · exact fun apart name free declared =>
      apart name ((mem_scope_iff names (mem_freeNames free)).1 declared) free

def politeSource : String :=
  "import a, \x7b b as c \x7d from \"m\"; export * from \"n\"; " ++
    "for (var d of a) \x7b var e = c; \x7d export default () => d + e;"

theorem transform_declares_of_politeSource :
    ∃ (m out : Module) (scope : List Stmt) (code : String),
      (Module.parse politeSource.toList).clean? = some m ∧
      topLevelBindings m.items = [some "a", some "c", some "d", some "e", none] ∧
      transform {} politeSource = .ok code ∧ bundle {} (.module m) = .ok out ∧
      out.print false = code ∧ scope? .iife out.items = some scope ∧ (declaredIn scope).Nodup ∧
      "require" ∉ declaredIn scope ∧ "Object" ∉ declaredIn scope := by
  have names : ((Module.parse politeSource.toList).clean?.bind fun m =>
      (lowerItems 0 m.items).toOption.map fun l =>
        (topLevelBindings m.items, generatedNames l m.items, freeNames .iife l m.items)) =
      some ([some "a", some "c", some "d", some "e", none],
        ["__defProp", "__export", "__reExport", "__importDefault", "__exports", "__import_0",
          "__default"],
        ["require", "Object"]) := by decide +kernel
  have runs : (transform {} politeSource).isOk := by decide +kernel
  obtain ⟨m, read, names⟩ := Option.bind_eq_some_iff.1 names
  obtain ⟨l', lowered', names⟩ := Option.map_eq_some_iff.1 names
  obtain ⟨same, generated, free'⟩ : _ ∧ _ ∧ _ := by simpa only [Prod.mk.injEq] using names
  obtain ⟨code, done⟩ := ok_of_isOk runs
  obtain ⟨l, out, scope, lowered, bundled, printed, found, nodup, free⟩ :=
    transform_declares read (by decide) (fun _ => by decide) done (by rw [same]; decide)
  rw [lowered] at lowered'
  cases lowered'
  rw [same, generated] at nodup
  rw [same, free'] at free
  have apart := free.2 (by simp)
  exact ⟨m, out, scope, code, read, same, done, bundled, printed, found, nodup.2 (by simp),
    apart _ (by simp), apart _ (by simp)⟩

def exportsSource : String := "const __exports = 1; export \x7b __exports as a \x7d;"

theorem transform_exportsSource :
    ∃ (m out : Module) (scope : List Stmt) (code : String),
      (Module.parse exportsSource.toList).clean? = some m ∧
      topLevelBindings m.items = [some "__exports"] ∧ transform {} exportsSource = .ok code ∧
      bundle {} (.module m) = .ok out ∧ out.print false = code ∧
      scope? .iife out.items = some scope ∧ ¬ (declaredIn scope).Nodup := by
  have names : ((Module.parse exportsSource.toList).clean?.bind fun m =>
      (bundle {} (.module m)).toOption.bind fun out => (scope? .iife out.items).map fun scope =>
        (topLevelBindings m.items, declaredIn scope)) =
      some ([some "__exports"], ["__defProp", "__export", "__exports", "__exports"]) := by
    decide +kernel
  have runs : (transform {} exportsSource).isOk := by decide +kernel
  obtain ⟨m, read, names⟩ := Option.bind_eq_some_iff.1 names
  obtain ⟨code, done⟩ := ok_of_isOk runs
  obtain ⟨out, bundled, printed⟩ := transform_ok read done
  rw [bundled] at names
  obtain ⟨scope, found, names⟩ := Option.map_eq_some_iff.1 names
  obtain ⟨bindings, declared⟩ := Prod.mk.injEq _ _ _ _ ▸ names
  exact ⟨m, out, scope, code, read, bindings, done, bundled, printed, found, by
    rw [declared]; decide⟩

end Enclose.Bundle
