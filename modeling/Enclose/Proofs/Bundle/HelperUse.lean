import Enclose.Proofs.Bundle.Exports
import Enclose.Proofs.Bundle.References

/-!
# Helpers are there where they are used

The opening starts with definitions that stand in a fixed order, each of which reads only those before
it (`not_reads_definition`), and a definition is there iff its name was added (`mem_opening_iff`). The
added code is read with the variables of the module left out of it (`Lowered.unnamed`): the names in it are
those that lowering put there (`reads_addedStmts`), and each added one is among them
(`reads_of_mem_helperNames`). So a definition is there iff something else reads it, and stands before all
that does (`bundle_helpers`).
-/

namespace Enclose.Bundle
open Script
open Script.Part (AnyReads everywhere reads)

/-! ## Definitions -/

def helperDefinitions : List (String × Stmt) :=
  [ ("__defProp", definePropertyHelper), ("__export", exportHelper), ("__reExport", reExportHelper),
    ("__importDefault", importDefaultHelper), ("__exports", .declareVar "__exports" (.object [])) ]

def definitionsOf (l : Lowered) : List (String × Stmt) :=
  helperDefinitions.filter fun helper => decide (helper.1 ∈ helperNames l)

def addedStmts (format : Format) (l : Lowered) : List Stmt :=
  opening format l ++ l.imports ++ closing format l

section
variable {l : Lowered} {format : Format} {name : String} {helper : String × Stmt}

theorem prologue_eq_definitions (l : Lowered) :
    prologue l = (definitionsOf l).map Prod.snd ++ (exportsObject l).tail := by
  unfold prologue helpers exportsObject definitionsOf helperNames
  cases l.hasExports <;> cases l.exports.isEmpty <;> cases l.reExports <;> cases l.importDefault
  all_goals rfl

theorem opening_eq_definitions (format : Format) (l : Lowered) :
    ∃ rest, opening format l = (definitionsOf l).map Prod.snd ++ rest := by
  cases format with
  | iife => exact ⟨_, prologue_eq_definitions l⟩
  | esm => exact ⟨_, prologue_eq_definitions l⟩
  | cjs => exact ⟨_, by rw [opening, prologue_eq_definitions, List.append_assoc]⟩

theorem scopeNames_of_mem (member : helper ∈ helperDefinitions) : scopeNames helper.2 = [helper.1] := by
  have all : ∀ helper ∈ helperDefinitions, scopeNames helper.2 = [helper.1] := by
    simp only [helperDefinitions, List.forall_mem_cons]
    exact ⟨rfl, rfl, rfl, rfl, rfl, List.forall_mem_nil _⟩
  exact all helper member

theorem mem_opening_iff (member : helper ∈ helperDefinitions) :
    helper.2 ∈ opening format l ↔ helper.1 ∈ helperNames l := by
  constructor
  · intro inside
    rw [← declaredIn_opening format l]
    apply List.mem_flatMap.2
    exact ⟨helper.2, inside, by simp [scopeNames_of_mem member]⟩
  · intro added
    obtain ⟨rest, whole⟩ := opening_eq_definitions format l
    rw [whole]
    apply List.mem_append_left
    apply List.mem_map_of_mem
    exact List.mem_filter.2 ⟨member, decide_eq_true added⟩

theorem reads_definition (member : helper ∈ helperDefinitions)
    (h : (Part.stmt helper.2).Holds everywhere (reads name)) :
    name = "Object" ∨ name = "__defProp" ∧ helper.1 ≠ "__defProp" ∨ name ∈ localNames := by
  simp only [helperDefinitions, List.mem_cons, List.not_mem_nil, or_false] at member
  rcases member with rfl | rfl | rfl | rfl | rfl
  · exact .inl (reads_definePropertyHelper.1 h)
  · rcases reads_exportHelper h with same | inside
    · exact .inr (.inl ⟨same, by decide⟩)
    · exact .inr (.inr inside)
  · rcases reads_reExportHelper h with same | same | inside
    · exact .inl same
    · exact .inr (.inl ⟨same, by decide⟩)
    · exact .inr (.inr inside)
  · exact .inr (.inr (reads_importDefaultHelper h))
  · simp [Part.holds_reads_iff, Part.children, Stmt.children, Pattern.children, Expr.children,
      Stmt.declareVar, Stmt.declare, reads] at h

theorem not_reads_definition {other : String × Stmt} (among : other ∈ helperDefinitions)
    (member : helper ∈ helperDefinitions)
    (first : helper.1 = "__defProp" → other.1 = "__defProp") :
    ¬ (Part.stmt other.2).Holds everywhere (reads helper.1) := by
  have apart : ∀ name ∈ helperDefinitions.map Prod.fst, name ≠ "Object" ∧ name ∉ localNames := by
    decide
  obtain ⟨free, inside⟩ := apart _ (List.mem_map_of_mem member)
  intro found
  rcases reads_definition among found with same | ⟨same, different⟩ | bound
  · exact free same
  · exact different (first same)
  · exact inside bound

theorem helperDefinitions_pairwise :
    helperDefinitions.Pairwise fun _ later => later.1 ≠ "__defProp" := by
  simp [helperDefinitions]

theorem opening_split (member : helper ∈ helperDefinitions) (inside : helper.2 ∈ opening format l) :
    ∃ before after, opening format l = before ++ helper.2 :: after ∧
      ∀ s ∈ before ++ [helper.2], ¬ (Part.stmt s).Holds everywhere (reads helper.1) := by
  have there : helper ∈ definitionsOf l :=
    List.mem_filter.2 ⟨member, decide_eq_true ((mem_opening_iff member).1 inside)⟩
  -- The definitions that are there keep their order, in which only the first is read by others.
  have ordered := helperDefinitions_pairwise.filter fun helper => decide (helper.1 ∈ helperNames l)
  obtain ⟨before, after, split⟩ := List.append_of_mem there
  obtain ⟨rest, whole⟩ := opening_eq_definitions format l
  refine ⟨before.map Prod.snd, after.map Prod.snd ++ rest, by simp [whole, split], ?_⟩
  change (definitionsOf l).Pairwise _ at ordered
  rw [split] at ordered
  intro s among
  rcases List.mem_append.1 among with earlier | self
  · obtain ⟨other, early, rfl⟩ := List.mem_map.1 earlier
    have known : other ∈ definitionsOf l := by simp [split, early]
    apply not_reads_definition (List.mem_filter.1 known).1 member
    intro same
    exact absurd same ((List.pairwise_append.1 ordered).2.2 other early helper List.mem_cons_self)
  · obtain rfl := List.mem_singleton.1 self
    exact not_reads_definition member member id

/-! ## Names that lowering puts there -/

def Getter.unnamed : Getter → Getter
  | .own _ => .own ""
  | getter => getter

/-- The variables of the module that the exports read are left without names, so that the added code
reads only names that lowering put there. -/
def Lowered.unnamed (l : Lowered) : Lowered :=
  { l with exports := l.exports.map fun e => { e with getter := e.getter.unnamed } }

theorem isEmpty_unnamed (l : Lowered) : l.unnamed.exports.isEmpty = l.exports.isEmpty :=
  List.isEmpty_map

theorem hasExports_unnamed (l : Lowered) : l.unnamed.hasExports = l.hasExports := by
  rw [Lowered.hasExports, isEmpty_unnamed]
  rfl

theorem helperNames_unnamed (l : Lowered) : helperNames l.unnamed = helperNames l := by
  rw [helperNames, hasExports_unnamed, isEmpty_unnamed]
  rfl

theorem helpers_unnamed (l : Lowered) : helpers l.unnamed = helpers l := by
  rw [helpers, hasExports_unnamed, isEmpty_unnamed]
  rfl

theorem whereExports_unnamed (l : Lowered) (s : Stmt) :
    whereExports l.unnamed s = whereExports l s := by
  rw [whereExports, hasExports_unnamed]
  rfl

theorem readsWithin_unnamed {items : List ModuleItem} (within : l.ReadsWithin items) :
    l.unnamed.ReadsWithin items := by
  intro e member
  obtain ⟨original, among, rfl⟩ := List.mem_map.1 member
  have kept := within original among
  cases getter : original.getter with
  | own name => trivial
  | whole k => simpa [getter, Getter.unnamed, Lowered.unnamed] using kept
  | default k => simpa [getter, Getter.unnamed, Lowered.unnamed] using kept
  | member k property => simpa [getter, Getter.unnamed, Lowered.unnamed] using kept

theorem reads_getter_iff (getter : Getter) (named : name ≠ "") :
    (Part.expr getter.expr).Holds everywhere (reads name) ↔
      (Part.expr getter.unnamed.expr).Holds everywhere (reads name) ∨ getter = .own name := by
  cases getter with
  | own other =>
      have own (other : String) :
          (Part.expr (Getter.own other).expr).Holds everywhere (reads name) ↔ name = other := by
        simp [Getter.expr, Part.holds_reads_iff, Part.children, Expr.children, reads]
      rw [Getter.unnamed, own, own, or_iff_right named, Getter.own.injEq, eq_comm]
  | whole | default | member => simp [Getter.unnamed]

theorem reads_addedStmts (format : Format) (l : Lowered) (named : name ≠ "") :
    AnyReads name ((addedStmts format l).map .stmt) ↔
      AnyReads name ((addedStmts format l.unnamed).map .stmt) ∨
        ∃ e ∈ l.exports, e.getter = .own name := by
  -- Only the table of the getters changes; the rest depends on whether there are exports.
  have object : AnyReads name ((exportsObject l).map .stmt) ↔
      AnyReads name ((exportsObject l.unnamed).map .stmt) ∨ ∃ e ∈ l.exports, e.getter = .own name := by
    have filled {e : Export} (member : e ∈ l.exports) : l.exports.isEmpty = false :=
      List.isEmpty_eq_false_iff_exists_mem.2 ⟨e, member⟩
    rw [reads_exportsObject, reads_exportsObject, hasExports_unnamed, isEmpty_unnamed]
    constructor
    · rintro (mark | ⟨filled, same | ⟨e, member, found⟩⟩)
      · exact .inl (.inl mark)
      · exact .inl (.inr ⟨filled, .inl same⟩)
      · rcases (reads_getter_iff e.getter named).1 found with found | own
        · exact .inl (.inr ⟨filled, .inr ⟨_, List.mem_map_of_mem member, found⟩⟩)
        · exact .inr ⟨e, member, own⟩
    · rintro ((mark | ⟨filled, same | ⟨_, member, found⟩⟩) | ⟨e, member, own⟩)
      · exact .inl mark
      · exact .inr ⟨filled, .inl same⟩
      · obtain ⟨e, among, rfl⟩ := List.mem_map.1 member
        exact .inr ⟨filled, .inr ⟨e, among, (reads_getter_iff e.getter named).2 (.inl found)⟩⟩
      · exact .inr ⟨filled member,
          .inr ⟨e, member, (reads_getter_iff e.getter named).2 (.inr own)⟩⟩
  have imports : l.unnamed.imports = l.imports := rfl
  cases format <;>
    simp only [addedStmts, opening, closing, prologue, assignExports, returnExports, helpers_unnamed,
      whereExports_unnamed, imports, List.map_append, Part.anyReads_append, object, or_assoc,
      or_left_comm, or_comm]

def otherNames : List String := "" :: ["require", "Object", "module"] ++ localNames

theorem mem_added_of_reads {items : List ModuleItem} (lowered : lowerItems 0 items = .ok l)
    (h : AnyReads name ((addedStmts format l.unnamed).map .stmt)) (other : name ∉ otherNames) :
    name ∈ helperNames l ++ importNames items := by
  have origin : Origin format l.unnamed items name := by
    rw [addedStmts, List.map_append, List.map_append, Part.anyReads_append, Part.anyReads_append] at h
    rcases h with (start | loading) | stop
    · exact .ofOpening (readsWithin_unnamed (readsWithin lowered)) start
    · exact .ofImports lowered rfl rfl loading
    · exact .ofClosing stop
  cases origin with
  | outside free => exact absurd (List.mem_append_left _ (.tail _ (mem_freeNames free))) other
  | helper added => exact List.mem_append_left _ (helperNames_unnamed l ▸ added)
  | loaded added => exact List.mem_append_right _ added
  | bound inside => exact absurd (List.mem_append_right _ inside) other
  | module member own =>
      obtain ⟨original, -, rfl⟩ := List.mem_map.1 member
      cases getter : original.getter with
      | own read =>
          have empty : "" = name := by simpa [getter, Getter.unnamed] using own
          exact absurd (empty ▸ List.mem_cons_self) other
      | whole | default | member => simp [getter, Getter.unnamed] at own

/-! ## Added names are read -/

structure FlagsRead (l : Lowered) : Prop where
  reExports : l.reExports → AnyReads "__reExport" (l.imports.map .stmt)
  importDefault : l.importDefault →
    AnyReads "__importDefault" (l.imports.map .stmt) ∨ ∃ e ∈ l.exports, e.takesDefault

theorem FlagsRead.append {first second : Lowered} (one : FlagsRead first) (two : FlagsRead second) :
    FlagsRead (first ++ second) where
  reExports := by
    intro all
    rw [Lowered.reExports_append, Bool.or_eq_true] at all
    rw [Lowered.imports_append, List.map_append, Part.anyReads_append]
    exact all.imp one.reExports two.reExports
  importDefault := by
    intro taken
    rw [importDefault_append, Bool.or_eq_true] at taken
    rw [Lowered.imports_append, List.map_append, Part.anyReads_append, Lowered.exports_append]
    rcases taken with here | later
    · rcases one.importDefault here with read | ⟨e, member, takes⟩
      · exact .inl (.inl read)
      · exact .inr ⟨e, List.mem_append_left _ member, takes⟩
    · rcases two.importDefault later with read | ⟨e, member, takes⟩
      · exact .inl (.inr read)
      · exact .inr ⟨e, List.mem_append_right _ member, takes⟩

section
attribute [local simp] Part.holds_reads_iff Part.children Stmt.children Expr.children Element.children
  Pattern.children reads Stmt.declareConst Stmt.declare Stmt.call Expr.callWith

theorem wholeImport?_of_isDefault {k : Nat} {specifier : ImportSpecifier}
    (taken : specifier.isDefault) :
    ∃ binding, wholeImport? k specifier = some (.declareConst binding (importedDefault k)) := by
  cases specifier with
  | default binding => exact ⟨binding, rfl⟩
  | «namespace» binding => cases taken
  | named imported binding => exact ⟨binding, if_pos taken⟩

theorem importStmts_reads {k : Nat} {specifiers : List ImportSpecifier} (source : StringLit)
    (taken : specifiers.any (·.isDefault)) :
    AnyReads "__importDefault" ((importStmts k specifiers source).map .stmt) := by
  obtain ⟨specifier, among, isDefault⟩ := List.any_eq_true.1 taken
  obtain ⟨binding, whole⟩ := wholeImport?_of_isDefault (k := k) isDefault
  have filled : ¬ specifiers.isEmpty := by
    intro empty
    rw [List.isEmpty_iff.1 empty] at among
    cases among
  refine ⟨.stmt (.declareConst binding (importedDefault k)), ?_, ?_⟩
  · apply List.mem_map_of_mem
    rw [importStmts, if_neg filled]
    apply List.mem_append_left
    apply List.mem_cons_of_mem
    exact List.mem_filterMap.2 ⟨specifier, among, whole⟩
  · simp [importedDefault, importDefaultName]

theorem flagsRead_of_false (all : l.reExports = false) (taken : l.importDefault = false) :
    FlagsRead l where
  reExports asked := absurd (all.symm.trans asked) Bool.false_ne_true
  importDefault asked := absurd (taken.symm.trans asked) Bool.false_ne_true

theorem flagsRead_lowerItem {k : Nat} {item : ModuleItem} (lowered : lowerItem k item = .ok l) :
    FlagsRead l := by
  cases item with
  | «import» phase specifiers source =>
      cases lowered
      constructor
      · exact fun all => absurd all Bool.false_ne_true
      · exact fun taken => .inl (importStmts_reads source taken)
  | exportNamed specifiers source =>
      cases source with
      | none =>
          obtain ⟨es, -, rfl⟩ := lowerItem_exportList_ok lowered
          exact flagsRead_of_false rfl rfl
      | some source =>
          cases lowered
          constructor
          · exact fun all => absurd all Bool.false_ne_true
          · exact fun taken => .inr (List.any_eq_true.1 taken)
  | exportAll source =>
      cases lowered
      constructor
      · exact fun _ => by simp
      · exact fun taken => absurd taken Bool.false_ne_true
  | stmt | exportDecl | exportFunction | exportClass | exportDefault =>
      cases lowered
      exact flagsRead_of_false rfl rfl

end

theorem flagsRead {k : Nat} {items : List ModuleItem} (lowered : lowerItems k items = .ok l) :
    FlagsRead l :=
  lowerItems_induction (flagsRead_of_false rfl rfl) FlagsRead.append flagsRead_lowerItem lowered

theorem reads_of_takesDefault {e : Export} (takes : e.takesDefault) :
    (Part.expr e.getter.unnamed.expr).Holds everywhere (reads "__importDefault") := by
  unfold Export.takesDefault at takes
  split at takes
  · next k getter =>
    simp [getter, Getter.unnamed, Getter.expr, importedDefault, Expr.callWith, importDefaultName,
      Part.holds_reads_iff, Part.children, Expr.children, reads]
  · cases takes

theorem reads_of_mem_helperNames {items : List ModuleItem} (lowered : lowerItems 0 items = .ok l)
    (format : Format) (added : name ∈ helperNames l) :
    AnyReads name ((addedStmts format l.unnamed).map .stmt) := by
  have flags := flagsRead lowered
  have loading (h : AnyReads name (l.imports.map .stmt)) :
      AnyReads name ((addedStmts format l.unnamed).map .stmt) := by
    rw [addedStmts, List.map_append, List.map_append, Part.anyReads_append, Part.anyReads_append]
    exact .inl (.inr h)
  have object (h : l.hasExports ∧ (name = "__defProp" ∨ name = "__exports") ∨
      l.exports.isEmpty = false ∧ (name = "__export" ∨
        ∃ e ∈ l.unnamed.exports, (Part.expr e.getter.expr).Holds everywhere (reads name))) :
      AnyReads name ((addedStmts format l.unnamed).map .stmt) := by
    rw [← hasExports_unnamed, ← isEmpty_unnamed] at h
    have start := reads_exportsObject.2 h
    cases format <;>
      simp only [addedStmts, opening, prologue, List.map_append, Part.anyReads_append, start, true_or,
        or_true]
  rcases mem_helperNames_iff.1 added with
    ⟨same, exports⟩ | ⟨same, filled⟩ | ⟨rfl, all⟩ | ⟨rfl, taken⟩ | ⟨same, exports⟩
  · exact object (.inl ⟨exports, .inl same⟩)
  · exact object (.inr ⟨filled, .inl same⟩)
  · exact loading (flags.reExports all)
  · rcases flags.importDefault taken with read | ⟨e, member, takes⟩
    · exact loading read
    · have filled : l.exports.isEmpty = false := List.isEmpty_eq_false_iff_exists_mem.2 ⟨e, member⟩
      exact object (.inr ⟨filled,
        .inr ⟨_, List.mem_map_of_mem member, reads_of_takesDefault takes⟩⟩)
  · exact object (.inl ⟨exports, .inr same⟩)

/-! ## The stand-in for a default export -/

def exportedVariables : ModuleItem → List String
  | .exportDecl declaration => declaredNames declaration
  | .exportNamed specifiers none => specifiers.filterMap fun
    | .named original _ => some original.text
    | .namespace _ => none
  | .exportFunction (.mk name _ _ _ _) => name.toList
  | .exportClass (.mk name _ _) => name.toList
  | _ => []

def asVariable : Writing (Option String) where
  own name := some name
  whole _ := none
  default _ := none
  member _ _ := none

theorem entriesOf_asVariable {k : Nat} {item : ModuleItem} {entry : String × Option String}
    (member : entry ∈ entriesOf asVariable k item) (named : entry.2 = some name) :
    name ∈ exportedVariables item ∨ none ∈ itemBindings item ∧ name = "__default" := by
  have stands (own : Option String) (same : own.getD "__default" = name) :
      name ∈ own.toList ∨ none ∈ [own] ∧ name = "__default" := by
    cases own with
    | none => exact .inr ⟨List.mem_cons_self, same.symm⟩
    | some own => exact .inl (by simpa using same.symm)
  -- Only what has no name of its own is read under that of the stand-in.
  cases item with
  | exportDecl declaration =>
      obtain ⟨own, declared, rfl⟩ := List.mem_map.1 member
      obtain rfl := Option.some.inj named
      exact .inl declared
  | exportNamed specifiers source =>
      cases source with
      | none =>
          obtain ⟨s, among, here⟩ := List.mem_filterMap.1 member
          cases s with
          | «namespace» exported => cases here
          | named original exported =>
              cases here
              obtain rfl := Option.some.inj named
              exact .inl (List.mem_filterMap.2 ⟨_, among, rfl⟩)
      | some source =>
          obtain ⟨s, -, rfl⟩ := List.mem_map.1 member
          cases s with
          | «namespace» exported => cases named
          | named original exported =>
              simp only [foreignEntry, asVariable] at named
              split at named <;> cases named
  | exportFunction f =>
      rcases f with ⟨own, isAsync, isGenerator, params, body⟩
      obtain rfl := List.mem_singleton.1 member
      exact stands own (Option.some.inj named)
  | exportClass c =>
      rcases c with ⟨own, heritage, members⟩
      obtain rfl := List.mem_singleton.1 member
      exact stands own (Option.some.inj named)
  | exportDefault value =>
      obtain rfl := List.mem_singleton.1 member
      exact .inr ⟨List.mem_cons_self, (Option.some.inj named).symm⟩
  | stmt | «import» | exportAll => cases member

theorem ownStmt?_of_unnamed {item : ModuleItem} (unnamed : none ∈ itemBindings item) :
    ∃ s, ownStmt? item = some s ∧ scopeNames s = ["__default"] := by
  cases item with
  | exportFunction f =>
      rcases f with ⟨own, isAsync, isGenerator, params, body⟩
      obtain rfl := List.mem_singleton.1 unnamed
      exact ⟨_, rfl, rfl⟩
  | exportClass c =>
      rcases c with ⟨own, heritage, members⟩
      obtain rfl := List.mem_singleton.1 unnamed
      exact ⟨_, rfl, rfl⟩
  | exportDefault value => exact ⟨_, rfl, rfl⟩
  | stmt s => simp [itemBindings] at unnamed
  | exportDecl s => simp [itemBindings] at unnamed
  | «import» phase specifiers source => simp [itemBindings] at unnamed
  | exportNamed | exportAll => cases unnamed

/-! ## The output -/

/-- What stands around the statements of a module, and in front of them, fits together in a scope. -/
structure HelpersFit (format : Format) (items : List ModuleItem) (l : Lowered) (scope : List Stmt) :
    Prop where
  /-- A helper is defined, or the object for the exports declared, iff something else reads it. -/
  used : ∀ helper ∈ helperDefinitions, helper.2 ∈ opening format l ↔
    ∃ s ∈ addedStmts format l.unnamed, s ≠ helper.2 ∧ (Part.stmt s).Holds everywhere (reads helper.1)
  first : ∀ helper ∈ helperDefinitions, helper.2 ∈ opening format l →
    ∃ before after, scope = before ++ helper.2 :: after ∧
      ∀ s ∈ before ++ [helper.2], ¬ (Part.stmt s).Holds everywhere (reads helper.1)
  loaded : ∀ k, AnyReads (importName k) ((addedStmts format l.unnamed).map .stmt) →
    importName k ∈ (l.imports.filterMap requireBinding?).map Prod.fst
  /-- The stand-in for the default export is read for an item that declares it, unless the module
  itself names it. -/
  standIn : AnyReads "__default" ((addedStmts format l).map .stmt) →
    ∃ item ∈ items, "__default" ∈ exportedVariables item ∨ none ∈ itemBindings item
  declared : ∀ item ∈ items, none ∈ itemBindings item →
    ∃ s ∈ ownStmts items, ownStmt? item = some s ∧ scopeNames s = ["__default"]

theorem helpersFit {items : List ModuleItem} (lowered : lowerItems 0 items = .ok l) (format : Format) :
    HelpersFit format items l (opening format l ++ l.imports ++ ownStmts items ++ closing format l) where
  used := by
    intro helper member
    rw [mem_opening_iff member]
    constructor
    · intro added
      obtain ⟨_, inside, found⟩ := reads_of_mem_helperNames lowered format added
      obtain ⟨s, among, rfl⟩ := List.mem_map.1 inside
      refine ⟨s, among, ?_, found⟩
      -- What reads the name is not its definition, which never reads it.
      rintro rfl
      exact not_reads_definition member member id found
    · rintro ⟨s, among, -, found⟩
      have apart : ∀ name ∈ helperDefinitions.map Prod.fst,
          ¬ "__import_".toList <+: name.toList ∧ name ∉ otherNames := by decide
      obtain ⟨starts, other⟩ := apart _ (List.mem_map_of_mem member)
      have added := mem_added_of_reads lowered ⟨_, List.mem_map_of_mem among, found⟩ other
      apply (List.mem_append.1 added).resolve_right
      intro imported
      obtain ⟨k, -, same⟩ := List.mem_map.1 imported
      exact starts (same ▸ importName_starts k)
  first := by
    intro helper member inside
    obtain ⟨before, after, split, quiet⟩ := opening_split member inside
    refine ⟨before, after ++ l.imports ++ ownStmts items ++ closing format l, ?_, quiet⟩
    simp [split]
  loaded := by
    intro k found
    have apart : ∀ name ∈ helperDefinitions.map Prod.fst ++ otherNames,
        ¬ "__import_".toList <+: name.toList := by decide
    have other : importName k ∉ otherNames := fun inside =>
      apart _ (List.mem_append_right _ inside) (importName_starts k)
    rw [bindingNames_imports lowered]
    apply (List.mem_append.1 (mem_added_of_reads lowered found other)).resolve_left
    intro helper
    exact apart _ (List.mem_append_left _ (mem_helperNames helper)) (importName_starts k)
  standIn := by
    intro found
    have absent : "__default" ∉ helperNames l ++ importNames items :=
      not_mem_added (by decide) (by decide) l items
    rcases (reads_addedStmts format l (by decide)).1 found with lowering | ⟨e, member, own⟩
    · exact absurd (mem_added_of_reads lowered lowering (by decide)) absent
    · have entry : e.write asVariable ∈ exportEntries asVariable items := by
        rw [← exports_write asVariable lowered]
        exact List.mem_map_of_mem member
      obtain ⟨⟨k, item⟩, inside, among⟩ := List.mem_flatMap.1 entry
      have whole : item ∈ items := by
        rw [← indexed_map_snd items]
        exact List.mem_map_of_mem inside
      have names : (e.write asVariable).2 = some "__default" := by
        rw [Export.write, own]
        rfl
      exact ⟨item, whole, (entriesOf_asVariable among names).imp_right And.left⟩
  declared := by
    intro item member unnamed
    obtain ⟨s, own, names⟩ := ownStmt?_of_unnamed unnamed
    exact ⟨s, List.mem_filterMap.2 ⟨item, member, own⟩, own, names⟩

end

/-- In the scope of the code for a module, each helper is defined iff the added code uses it, and before
it is used, and the names for imports and for the default export are declared where they are read. -/
theorem bundle_helpers {options : Options} {m out : Module} (lowers : options.format ≠ .esm)
    (valid : options.format = .iife → Identifier.isGlobalName options.globalName)
    (h : bundle options (.module m) = .ok out) :
    ∃ (l : Lowered) (scope : List Stmt), lowerItems 0 m.items = .ok l ∧
      scope? options.format out.items = some scope ∧
      scope = opening options.format l ++ l.imports ++ ownStmts m.items ++ closing options.format l ∧
      HelpersFit options.format m.items l scope := by
  obtain ⟨l, lowered, items⟩ := bundle_items lowers valid h
  refine ⟨l, _, lowered, ?_, rfl, helpersFit lowered options.format⟩
  rw [items, scope?_around lowers]

def helpedModule : Module :=
  { items :=
      [ .import .evaluation [.named none "a"] (.ofText "m"),
        .exportNamed [.named (.ident "default") (some (.ident "b"))] (some (.ofText "n")),
        .exportAll (.ofText "o"),
        .exportDefault (.ident "a") ] }

theorem bundle_helpers_of_helpedModule :
    ∃ (out : Module) (scope : List Stmt),
      bundle { format := .cjs } (.module helpedModule) = .ok out ∧
      scope? .cjs out.items = some scope ∧
      (∀ helper ∈ helperDefinitions, ∃ before after, scope = before ++ helper.2 :: after ∧
        ∀ s ∈ before ++ [helper.2], ¬ (Part.stmt s).Holds everywhere (reads helper.1)) ∧
      ∃ s ∈ ownStmts helpedModule.items, scopeNames s = ["__default"] := by
  have runs : (bundle { format := .cjs } (.module helpedModule)).isOk := by decide +kernel
  have names : (lowerItems 0 helpedModule.items).toOption.map helperNames =
      some (helperDefinitions.map Prod.fst) := by decide +kernel
  obtain ⟨out, bundled⟩ := ok_of_isOk runs
  obtain ⟨l, scope, lowered, found, -, fit⟩ := bundle_helpers (by decide) (fun _ => by decide) bundled
  rw [lowered] at names
  have added : helperNames l = helperDefinitions.map Prod.fst := Option.some.inj names
  refine ⟨out, scope, bundled, found, ?_, ?_⟩
  · intro helper member
    apply fit.first helper member
    rw [mem_opening_iff member, added]
    exact List.mem_map_of_mem member
  · obtain ⟨s, among, -, named⟩ := fit.declared (.exportDefault (.ident "a"))
      (by simp [helpedModule]) List.mem_cons_self
    exact ⟨s, among, named⟩

end Enclose.Bundle
