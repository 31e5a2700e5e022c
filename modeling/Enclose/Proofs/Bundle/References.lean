import Enclose.Proofs.Bundle.Hygiene
import Enclose.Proofs.Script.Part

/-!
# Variables that the added code reads

The code that stands around the statements of a module, and the code that loads other modules, read
what they declare, what the module exports, and nothing else but `require`, `Object` and `module`
(`origin_of_reads`). Each of the three is read where it counts as free (`reads_of_mem_freeNames`).
-/

namespace Enclose.Script.Part

def reads (name : String) : Part → Bool
  | expr (.ident other) | property (.shorthand _ other) => name == other
  | _ => false

def AnyReads (name : String) (parts : List Part) : Prop :=
  ∃ part ∈ parts, part.Holds everywhere (reads name)

variable {name : String}

@[simp] theorem anyReads_nil : ¬ AnyReads name [] := by
  simp [AnyReads]

@[simp] theorem anyReads_cons (part : Part) (parts : List Part) :
    AnyReads name (part :: parts) ↔ part.Holds everywhere (reads name) ∨ AnyReads name parts := by
  simp [AnyReads]

@[simp] theorem anyReads_append (first second : List Part) :
    AnyReads name (first ++ second) ↔ AnyReads name first ∨ AnyReads name second := by
  simp [AnyReads, or_and_right, exists_or]

theorem holds_reads_iff (whole : Part) :
    whole.Holds everywhere (reads name) ↔ whole.reads name ∨ AnyReads name whole.children := by
  rw [holds_iff]
  simp [AnyReads]

end Enclose.Script.Part

namespace Enclose.Bundle
open Script
open Script.Part (AnyReads everywhere reads children holds_reads_iff)

def localNames : List String := ["target", "all", "name", "mod", "key"]

variable {name : String} {l : Lowered}

def Getter.import? : Getter → Option Nat
  | .own _ => none
  | .whole k | .default k | .member k _ => some k

/-! ## Helpers -/

theorem hasExports_of_exports (filled : l.exports.isEmpty = false) : l.hasExports = true := by
  simp [Lowered.hasExports, filled]

theorem hasExports_of_reExports (all : l.reExports = true) : l.hasExports = true := by
  simp [Lowered.hasExports, all]

section

attribute [local simp] holds_reads_iff children Stmt.children Expr.children Element.children
  Pattern.children PropertyKey.children Property.children ForHead.children reads Stmt.declareVar
  Stmt.declare Stmt.declareConst Stmt.call Expr.dot Expr.callWith Expr.objectOf Expr.text
  plainParams

theorem reads_definePropertyHelper :
    (Part.stmt definePropertyHelper).Holds everywhere (reads name) ↔ name = "Object" := by
  simp [definePropertyHelper]

theorem reads_exportHelper (h : (Part.stmt exportHelper).Holds everywhere (reads name)) :
    name = "__defProp" ∨ name ∈ localNames := by
  simp [exportHelper, defineGetter, localNames] at h ⊢
  tauto

theorem reads_reExportHelper (h : (Part.stmt reExportHelper).Holds everywhere (reads name)) :
    name = "Object" ∨ name = "__defProp" ∨ name ∈ localNames := by
  simp [reExportHelper, defineGetter, localNames] at h ⊢
  tauto

theorem reads_importDefaultHelper
    (h : (Part.stmt importDefaultHelper).Holds everywhere (reads name)) : name ∈ localNames := by
  simp [importDefaultHelper, localNames] at h ⊢
  tauto

theorem reads_require {source : StringLit} :
    (Part.expr (require source)).Holds everywhere (reads name) ↔ name = "require" := by
  simp [require]

theorem reads_importedDefault {k : Nat}
    (h : (Part.expr (importedDefault k)).Holds everywhere (reads name)) :
    name = "__importDefault" ∨ name = importName k := by
  simpa [importedDefault, importDefaultName] using h

theorem reads_getter {getter : Getter}
    (h : (Part.expr getter.expr).Holds everywhere (reads name)) :
    getter = .own name ∨ (∃ k, getter = .default k ∧ name = "__importDefault") ∨
      ∃ k ∈ getter.import?, name = importName k := by
  cases getter with
  | own other =>
      have same : name = other := by simpa [Getter.expr] using h
      exact .inl (by rw [same])
  | whole k =>
      have same : name = importName k := by simpa [Getter.expr] using h
      exact .inr (.inr ⟨k, rfl, same⟩)
  | default k =>
      rcases reads_importedDefault h with helper | whole
      · exact .inr (.inl ⟨k, rfl, helper⟩)
      · exact .inr (.inr ⟨k, rfl, whole⟩)
  | member k property =>
      have same : name = importName k := by
        rw [Getter.expr] at h
        split at h <;> simpa using h
      exact .inr (.inr ⟨k, rfl, same⟩)

theorem reads_getterTable {exports : List Export} :
    (Part.expr (getterTable exports)).Holds everywhere (reads name) ↔
      ∃ e ∈ exports, (Part.expr e.getter.expr).Holds everywhere (reads name) := by
  have each : (Part.expr (getterTable exports)).children = exports.map fun e =>
      .property (.keyed 0 (.string (.ofText e.name)) 0 (.arrow false [] e.getter.expr)) := by
    simp only [getterTable, Expr.objectOf, children, Expr.children, List.map_map]
    rfl
  have plain : reads name (Part.expr (getterTable exports)) = false := rfl
  rw [holds_reads_iff, each, plain]
  constructor
  · rintro (here | ⟨_, member, found⟩)
    · contradiction
    · obtain ⟨e, among, rfl⟩ := List.mem_map.1 member
      exact ⟨e, among, by simpa using found⟩
  · rintro ⟨e, among, found⟩
    exact .inr ⟨_, List.mem_map_of_mem among, by simpa using found⟩

theorem reads_wholeImport? {k : Nat} {specifier : ImportSpecifier} {s : Stmt}
    (here : wholeImport? k specifier = some s) (h : (Part.stmt s).Holds everywhere (reads name)) :
    name = importName k ∨ name = "__importDefault" ∧ specifier.isDefault := by
  have value {binding : String} {value : Expr} (same : Stmt.declareConst binding value = s) :
      (Part.expr value).Holds everywhere (reads name) := by
    subst same
    simpa using h
  unfold wholeImport? at here
  split at here
  · have whole := value (Option.some.inj here)
    exact .inl (by simpa using whole)
  · have taken := reads_importedDefault (value (Option.some.inj here))
    exact taken.symm.imp_right fun same => ⟨same, rfl⟩
  · next imported binding =>
    split at here
    · next taken =>
      have read := reads_importedDefault (value (Option.some.inj here))
      exact read.symm.imp_right fun same => ⟨same, taken⟩
    · cases here

theorem not_reads_namedImport? {specifier : ImportSpecifier} {p : Pattern}
    (here : namedImport? specifier = some p) :
    ¬ (Part.pattern p).Holds everywhere (reads name) := by
  unfold namedImport? at here
  split at here
  · cases here
    simp
  · split at here
    · cases here
    · next imported binding _ =>
      cases here
      cases imported <;> simp [ModuleName.key]
  · cases here

theorem reads_importStmts {k : Nat} {specifiers : List ImportSpecifier} {source : StringLit}
    {s : Stmt} (member : s ∈ importStmts k specifiers source)
    (h : (Part.stmt s).Holds everywhere (reads name)) :
    name = "require" ∨ name = importName k ∧ specifiers.isEmpty = false ∨
      name = "__importDefault" ∧ specifiers.any (·.isDefault) := by
  unfold importStmts at member
  split at member
  · obtain rfl := List.mem_singleton.1 member
    exact .inl (reads_require.1 (by simpa using h))
  · next filled =>
    have filled : specifiers.isEmpty = false := by simpa using filled
    rcases List.mem_cons.1 member with rfl | member
    · exact .inl (reads_require.1 (by simpa using h))
    · rcases List.mem_append.1 member with whole | named
      · obtain ⟨specifier, among, here⟩ := List.mem_filterMap.1 whole
        rcases reads_wholeImport? here h with same | ⟨same, taken⟩
        · exact .inr (.inl ⟨same, filled⟩)
        · exact .inr (.inr ⟨same, List.any_eq_true.2 ⟨specifier, among, taken⟩⟩)
      · split at named
        · cases named
        · obtain rfl := List.mem_singleton.1 named
          have patterns :
              ¬ AnyReads name ((specifiers.filterMap namedImport?).map Part.pattern) := by
            rintro ⟨_, member, found⟩
            obtain ⟨p, among, rfl⟩ := List.mem_map.1 member
            obtain ⟨specifier, -, here⟩ := List.mem_filterMap.1 among
            exact not_reads_namedImport? here found
          have same : name = importName k := by simpa [patterns] using h
          exact .inr (.inl ⟨same, filled⟩)

/-! ## Items -/

theorem lowerItem_reads {k : Nat} {item : ModuleItem} (lowered : lowerItem k item = .ok l)
    {s : Stmt} (member : s ∈ l.imports) (h : (Part.stmt s).Holds everywhere (reads name)) :
    name = "require" ∧ (dependency? item).isSome ∨ name = importName k ∧ bindsImport item ∨
      name = "__importDefault" ∧ l.importDefault ∨
      (name = "__reExport" ∨ name = "__exports") ∧ l.reExports := by
  rw [(lowerItem_parts lowered).imports] at member
  cases item with
  | «import» phase specifiers source =>
      cases lowered
      rcases reads_importStmts member h with same | ⟨same, filled⟩ | ⟨same, taken⟩
      · exact .inl ⟨same, rfl⟩
      · exact .inr (.inl ⟨same, by simp [bindsImport, filled]⟩)
      · exact .inr (.inr (.inl ⟨same, taken⟩))
  | exportNamed specifiers source =>
      cases source with
      | none => cases member
      | some source =>
          obtain rfl := List.mem_singleton.1 member
          exact .inl ⟨reads_require.1 (by simpa using h), rfl⟩
  | exportAll source =>
      cases lowered
      obtain rfl := List.mem_singleton.1 member
      have names : name = "__reExport" ∨ name = "__exports" ∨ name = "require" := by
        simpa [require, exportsName] using h
      rcases names with same | same | same
      · exact .inr (.inr (.inr ⟨.inl same, rfl⟩))
      · exact .inr (.inr (.inr ⟨.inr same, rfl⟩))
      · exact .inl ⟨same, rfl⟩
  | _ => cases member

end

theorem importDefault_append (first second : Lowered) :
    (first ++ second).importDefault = (first.importDefault || second.importDefault) :=
  rfl

theorem lowerItems_reads {k : Nat} {items : List ModuleItem} (lowered : lowerItems k items = .ok l)
    {s : Stmt} (member : s ∈ l.imports) (h : (Part.stmt s).Holds everywhere (reads name)) :
    name = "require" ∧ (items.any fun item => (dependency? item).isSome) ∨
      (∃ i < items.countP bindsImport, name = importName (k + i)) ∨
      name = "__importDefault" ∧ l.importDefault ∨
      (name = "__reExport" ∨ name = "__exports") ∧ l.reExports := by
  induction items generalizing k l with
  | nil => cases lowered; cases member
  | cons item rest ih =>
      obtain ⟨first, others, hf, ho, rfl⟩ := lowerItems_cons_ok.1 lowered
      rcases List.mem_append.1 member with here | later
      · rcases lowerItem_reads hf here h with
          ⟨same, loads⟩ | ⟨same, binds⟩ | ⟨same, taken⟩ | ⟨same, all⟩
        · exact .inl ⟨same, by simp [loads]⟩
        · exact .inr (.inl ⟨0, by simp [binds], same⟩)
        · exact .inr (.inr (.inl ⟨same, by simp [importDefault_append, taken]⟩))
        · exact .inr (.inr (.inr ⟨same, by simp [all]⟩))
      · rcases ih ho later with ⟨same, loads⟩ | ⟨i, bound, same⟩ | ⟨same, taken⟩ | ⟨same, all⟩
        · exact .inl ⟨same, by simp only [List.any_cons, loads, Bool.or_true]⟩
        -- The imports of the rest are counted from the item on.
        · refine .inr (.inl ⟨(if bindsImport item then 1 else 0) + i, ?_, ?_⟩)
          · cases binds : bindsImport item <;> simp [binds] <;> omega
          · rw [same, Nat.add_assoc]
        · exact .inr (.inr (.inl ⟨same, by simp [importDefault_append, taken]⟩))
        · exact .inr (.inr (.inr ⟨same, by simp [all]⟩))

/-! ## Getters -/

def Getter.Within (first last : Nat) (importDefault : Bool) : Getter → Prop
  | .own _ => True
  | .default k => (first ≤ k ∧ k < last) ∧ importDefault
  | .whole k | .member k _ => first ≤ k ∧ k < last

theorem Getter.Within.mono {first first' last last' : Nat} {importDefault importDefault' : Bool}
    {getter : Getter} (h : getter.Within first last importDefault) (lower : first' ≤ first)
    (upper : last ≤ last') (taken : importDefault → importDefault') :
    getter.Within first' last' importDefault' := by
  cases getter with
  | own other => trivial
  | default k => exact ⟨⟨Nat.le_trans lower h.1.1, Nat.lt_of_lt_of_le h.1.2 upper⟩, taken h.2⟩
  | whole k => exact ⟨Nat.le_trans lower h.1, Nat.lt_of_lt_of_le h.2 upper⟩
  | member k property => exact ⟨Nat.le_trans lower h.1, Nat.lt_of_lt_of_le h.2 upper⟩

theorem own_of_localExports {specifiers : List ExportSpecifier} {es : List Export}
    (h : specifiers.mapM localExport = .ok es) : ∀ e ∈ es, ∃ own, e.getter = .own own := by
  induction specifiers generalizing es with
  | nil =>
      simp only [List.mapM_nil, pure, Except.pure, Except.ok.injEq] at h
      subst h
      exact fun _ member => absurd member List.not_mem_nil
  | cons s rest ih =>
      simp only [List.mapM_cons, bind_ok_iff, pure, Except.pure, Except.ok.injEq] at h
      obtain ⟨e, he, others, ho, rfl⟩ := h
      refine List.forall_mem_cons.2 ⟨?_, ih ho⟩
      rcases s with exported | ⟨own | lit, exported⟩ <;> cases he
      exact ⟨own, rfl⟩

theorem foreignExport_within (k : Nat) (s : ExportSpecifier) {importDefault : Bool}
    (taken : (foreignExport k s).takesDefault → importDefault) :
    (foreignExport k s).getter.Within k (k + 1) importDefault := by
  have bounds : k ≤ k ∧ k < k + 1 := ⟨Nat.le_refl k, Nat.lt_succ_self k⟩
  rcases s with exported | ⟨original, exported⟩
  · exact bounds
  · have same : (foreignExport k (.named original exported)).getter =
        if original.isDefault then .default k else .member k original.text := rfl
    cases isDefault : original.isDefault with
    | true =>
        rw [isDefault, if_pos rfl] at same
        rw [Export.takesDefault, same] at taken
        rw [same]
        exact ⟨bounds, taken rfl⟩
    | false =>
        rw [isDefault] at same
        rw [same]
        exact bounds

theorem lowerItem_within {k : Nat} {item : ModuleItem} (lowered : lowerItem k item = .ok l) :
    ∀ e ∈ l.exports,
      e.getter.Within k (k + if bindsImport item then 1 else 0) l.importDefault := by
  intro e member
  cases item with
  | exportNamed specifiers source =>
      cases source with
      | none =>
          obtain ⟨es, exported, rfl⟩ := lowerItem_exportList_ok lowered
          obtain ⟨own, same⟩ := own_of_localExports exported e member
          rw [same]
          trivial
      | some source =>
          cases lowered
          obtain ⟨s, among, rfl⟩ := List.mem_map.1 member
          exact foreignExport_within k s fun taken =>
            List.any_eq_true.2 ⟨_, List.mem_map_of_mem among, taken⟩
  | exportDecl declaration =>
      cases lowered
      obtain ⟨own, -, rfl⟩ := List.mem_map.1 member
      trivial
  | exportFunction f => cases lowered; obtain rfl := List.mem_singleton.1 member; trivial
  | exportClass c => cases lowered; obtain rfl := List.mem_singleton.1 member; trivial
  | exportDefault value => cases lowered; obtain rfl := List.mem_singleton.1 member; trivial
  | stmt s => cases lowered; cases member
  | «import» phase specifiers source => cases lowered; cases member
  | exportAll source => cases lowered; cases member

theorem lowerItems_within {k : Nat} {items : List ModuleItem}
    (lowered : lowerItems k items = .ok l) :
    ∀ e ∈ l.exports, e.getter.Within k (k + items.countP bindsImport) l.importDefault := by
  induction items generalizing k l with
  | nil => cases lowered; exact fun _ member => absurd member List.not_mem_nil
  | cons item rest ih =>
      obtain ⟨first, others, hf, ho, rfl⟩ := lowerItems_cons_ok.1 lowered
      have count : (item :: rest).countP bindsImport =
          (if bindsImport item then 1 else 0) + rest.countP bindsImport := by
        rw [List.countP_cons, Nat.add_comm]
      intro e member
      rw [count, importDefault_append, ← Nat.add_assoc]
      rcases List.mem_append.1 member with here | later
      · exact (lowerItem_within hf e here).mono (Nat.le_refl k) (Nat.le_add_right _ _)
          fun taken => by rw [taken, Bool.true_or]
      · exact (ih ho e later).mono (Nat.le_add_right _ _) (Nat.le_refl _)
          fun taken => by rw [taken, Bool.or_true]

def Lowered.ReadsWithin (l : Lowered) (items : List ModuleItem) : Prop :=
  ∀ e ∈ l.exports, e.getter.Within 0 (items.countP bindsImport) l.importDefault

theorem readsWithin {items : List ModuleItem} (lowered : lowerItems 0 items = .ok l) :
    l.ReadsWithin items := by
  have within := lowerItems_within lowered
  rwa [Nat.zero_add] at within

/-! ## All of the added code -/

theorem mem_helperNames_iff :
    name ∈ helperNames l ↔ name = "__defProp" ∧ l.hasExports ∨
      name = "__export" ∧ l.exports.isEmpty = false ∨ name = "__reExport" ∧ l.reExports ∨
      name = "__importDefault" ∧ l.importDefault ∨ name = "__exports" ∧ l.hasExports := by
  simp only [helperNames, List.mem_append, List.mem_ite_nil_right, List.mem_ite_nil_left,
    List.mem_singleton, Bool.not_eq_true]
  tauto

theorem mem_freeNames_iff {format : Format} {items : List ModuleItem} :
    name ∈ freeNames format l items ↔
      name = "require" ∧ (items.any fun item => (dependency? item).isSome) ∨
        l.hasExports ∧ (name = "Object" ∨ name = "module" ∧ format = .cjs) := by
  simp only [freeNames, List.mem_append, List.mem_ite_nil_right, List.mem_cons, List.not_mem_nil,
    or_false]
  tauto

inductive Origin (format : Format) (l : Lowered) (items : List ModuleItem) (name : String) : Prop
  | outside (free : name ∈ freeNames format l items)
  | helper (added : name ∈ helperNames l)
  | loaded (added : name ∈ importNames items)
  | bound (inside : name ∈ localNames)
  | module {e : Export} (member : e ∈ l.exports) (own : e.getter = .own name)

section
variable {format : Format} {items : List ModuleItem}

theorem Origin.ofHelpers (h : AnyReads name ((helpers l).map .stmt)) :
    Origin format l items name := by
  obtain ⟨_, member, found⟩ := h
  obtain ⟨s, among, rfl⟩ := List.mem_map.1 member
  simp only [helpers, List.mem_append, List.mem_ite_nil_right, List.mem_ite_nil_left,
    List.mem_singleton, Bool.not_eq_true] at among
  have object (same : name = "Object") (exports : l.hasExports) : Origin format l items name :=
    .outside (mem_freeNames_iff.2 (.inr ⟨exports, .inl same⟩))
  have define (same : name = "__defProp") (exports : l.hasExports) : Origin format l items name :=
    .helper (mem_helperNames_iff.2 (.inl ⟨same, exports⟩))
  rcases among with ((⟨exports, rfl⟩ | ⟨filled, rfl⟩) | ⟨all, rfl⟩) | ⟨-, rfl⟩
  · exact object (reads_definePropertyHelper.1 found) exports
  · rcases reads_exportHelper found with same | inside
    · exact define same (hasExports_of_exports filled)
    · exact .bound inside
  · rcases reads_reExportHelper found with same | same | inside
    · exact object same (hasExports_of_reExports all)
    · exact define same (hasExports_of_reExports all)
    · exact .bound inside
  · exact .bound (reads_importDefaultHelper found)

theorem Origin.ofGetter (within : l.ReadsWithin items) {e : Export} (member : e ∈ l.exports)
    (h : (Part.expr e.getter.expr).Holds everywhere (reads name)) :
    Origin format l items name := by
  have within := within e member
  have imported {k : Nat} (below : k < items.countP bindsImport) (same : name = importName k) :
      Origin format l items name :=
    .loaded (List.mem_map.2 ⟨k, List.mem_range.2 below, same.symm⟩)
  rcases reads_getter h with own | ⟨k, getter, same⟩ | ⟨k, read, same⟩
  · exact .module member own
  · rw [getter] at within
    exact .helper (mem_helperNames_iff.2 (.inr (.inr (.inr (.inl ⟨same, within.2⟩)))))
  · cases getter : e.getter with
    | own other => rw [getter] at read; cases read
    | whole j => rw [getter] at read within; cases read; exact imported within.2 same
    | default j => rw [getter] at read within; cases read; exact imported within.1.2 same
    | member j property => rw [getter] at read within; cases read; exact imported within.2 same

section
attribute [local simp] holds_reads_iff children Stmt.children Expr.children Element.children
  Pattern.children Property.children PropertyKey.children reads Stmt.declareVar Stmt.declare
  Stmt.call Expr.dot Expr.callWith Expr.objectOf Expr.text Expr.assignTo

theorem reads_exportsObject :
    AnyReads name ((exportsObject l).map .stmt) ↔
      l.hasExports ∧ (name = "__defProp" ∨ name = "__exports") ∨
        l.exports.isEmpty = false ∧ (name = "__export" ∨
          ∃ e ∈ l.exports, (Part.expr e.getter.expr).Holds everywhere (reads name)) := by
  have mark : AnyReads name [.stmt (.declareVar exportsName (.object [])),
      .stmt (.call (.ident "__defProp") [.ident exportsName, .text "__esModule",
        .objectOf [(.ident "value", .bool true)]])] ↔ name = "__defProp" ∨ name = "__exports" := by
    simp [exportsName]
  have fill (table : Expr) : (Part.stmt (.call (.ident "__export") [.ident exportsName, table])).Holds
      everywhere (reads name) ↔
        name = "__export" ∨ name = "__exports" ∨ (Part.expr table).Holds everywhere (reads name) := by
    simp [exportsName]
  rw [← reads_getterTable, exportsObject]
  cases empty : l.exports.isEmpty with
  | true =>
      rw [if_pos rfl]
      by_cases exports : l.hasExports
      · simpa [exports] using mark
      · simp [exports]
  | false =>
      rw [if_pos (hasExports_of_exports empty), if_neg Bool.false_ne_true]
      change AnyReads name ([_, _] ++ [Part.stmt _]) ↔ _
      rw [Part.anyReads_append, mark, Part.anyReads_cons, fill]
      simp only [hasExports_of_exports empty, Part.anyReads_nil, or_false, true_and]
      tauto

theorem Origin.ofExportsObject (within : l.ReadsWithin items)
    (h : AnyReads name ((exportsObject l).map .stmt)) : Origin format l items name := by
  rcases reads_exportsObject.1 h with ⟨exports, same | same⟩ | ⟨filled, same | ⟨e, member, found⟩⟩
  · exact .helper (mem_helperNames_iff.2 (.inl ⟨same, exports⟩))
  · exact .helper (mem_helperNames_iff.2 (.inr (.inr (.inr (.inr ⟨same, exports⟩)))))
  · exact .helper (mem_helperNames_iff.2 (.inr (.inl ⟨same, filled⟩)))
  · exact .ofGetter within member found

theorem reads_whereExports {s : Stmt} (h : AnyReads name ((whereExports l s).map .stmt)) :
    l.hasExports ∧ (Part.stmt s).Holds everywhere (reads name) := by
  unfold whereExports at h
  split at h
  · next exports =>
    rw [List.map_singleton, Part.anyReads_cons] at h
    exact ⟨exports, h.resolve_right Part.anyReads_nil⟩
  · exact absurd h Part.anyReads_nil

theorem Origin.ofOpening (within : l.ReadsWithin items)
    (h : AnyReads name ((opening format l).map .stmt)) : Origin format l items name := by
  have atStart (h : AnyReads name ((prologue l).map .stmt)) : Origin format l items name := by
    rw [prologue, List.map_append, Part.anyReads_append] at h
    exact h.elim .ofHelpers (.ofExportsObject within)
  cases format with
  | iife => exact atStart h
  | esm => exact atStart h
  | cjs =>
      rw [opening, List.map_append, Part.anyReads_append] at h
      refine h.elim atStart fun assigned => ?_
      obtain ⟨exports, found⟩ := reads_whereExports assigned
      have names : name = "module" ∨ name = "__exports" := by simpa [exportsName] using found
      rcases names with same | same
      · exact .outside (mem_freeNames_iff.2 (.inr ⟨exports, .inr ⟨same, rfl⟩⟩))
      · exact .helper (mem_helperNames_iff.2 (.inr (.inr (.inr (.inr ⟨same, exports⟩)))))

theorem Origin.ofClosing (h : AnyReads name ((closing format l).map .stmt)) :
    Origin format l items name := by
  cases format with
  | iife =>
      obtain ⟨exports, found⟩ := reads_whereExports h
      have same : name = "__exports" := by simpa [exportsName] using found
      exact .helper (mem_helperNames_iff.2 (.inr (.inr (.inr (.inr ⟨same, exports⟩)))))
  | cjs => exact absurd h Part.anyReads_nil
  | esm => exact absurd h Part.anyReads_nil

end

theorem Origin.ofImports {original : Lowered} (lowered : lowerItems 0 items = .ok original)
    (reExports : original.reExports = l.reExports)
    (importDefault : original.importDefault = l.importDefault)
    (h : AnyReads name (original.imports.map .stmt)) : Origin format l items name := by
  obtain ⟨_, member, found⟩ := h
  obtain ⟨s, among, rfl⟩ := List.mem_map.1 member
  rcases lowerItems_reads lowered among found with
    ⟨same, loads⟩ | ⟨i, below, same⟩ | ⟨same, taken⟩ | ⟨same | same, all⟩
  · exact .outside (mem_freeNames_iff.2 (.inl ⟨same, loads⟩))
  · rw [Nat.zero_add] at same
    exact .loaded (List.mem_map.2 ⟨i, List.mem_range.2 below, same.symm⟩)
  · rw [importDefault] at taken
    exact .helper (mem_helperNames_iff.2 (.inr (.inr (.inr (.inl ⟨same, taken⟩)))))
  · rw [reExports] at all
    exact .helper (mem_helperNames_iff.2 (.inr (.inr (.inl ⟨same, all⟩))))
  · rw [reExports] at all
    exact .helper (mem_helperNames_iff.2
      (.inr (.inr (.inr (.inr ⟨same, hasExports_of_reExports all⟩)))))

theorem origin_of_reads (lowered : lowerItems 0 items = .ok l)
    (h : AnyReads name ((opening format l ++ l.imports ++ closing format l).map .stmt)) :
    Origin format l items name := by
  rw [List.map_append, List.map_append, Part.anyReads_append, Part.anyReads_append] at h
  rcases h with (start | loading) | stop
  · exact .ofOpening (readsWithin lowered) start
  · exact .ofImports lowered rfl rfl loading
  · exact .ofClosing stop

/-! ## Free names are read -/

section
attribute [local simp] holds_reads_iff children Stmt.children Expr.children Element.children
  Pattern.children PropertyKey.children reads Stmt.declareVar Stmt.declareConst Stmt.declare
  Stmt.call Expr.dot Expr.callWith Expr.text Expr.assignTo

theorem reads_loadingStmts {item : ModuleItem} (loads : (dependency? item).isSome) (k : Nat) :
    AnyReads "require" ((loadingStmts k item).map .stmt) := by
  cases item with
  | «import» phase specifiers source =>
      rw [loadingStmts, importStmts]
      split <;> simp [require]
  | exportNamed specifiers source =>
      cases source with
      | none => cases loads
      | some source => simp [loadingStmts, require]
  | exportAll source => simp [loadingStmts, require]
  | _ => cases loads

theorem reads_imports {k : Nat} (lowered : lowerItems k items = .ok l)
    (loads : items.any fun item => (dependency? item).isSome) :
    AnyReads "require" (l.imports.map .stmt) := by
  induction items generalizing k l with
  | nil => cases loads
  | cons item rest ih =>
      obtain ⟨first, others, hf, ho, rfl⟩ := lowerItems_cons_ok.1 lowered
      rw [Lowered.imports_append, List.map_append, Part.anyReads_append,
        (lowerItem_parts hf).imports]
      rw [List.any_cons, Bool.or_eq_true] at loads
      exact loads.imp (fun here => reads_loadingStmts here k) (ih ho)

theorem reads_prologue (exports : l.hasExports) : AnyReads "Object" ((prologue l).map .stmt) := by
  refine ⟨_, List.mem_map_of_mem ?_, reads_definePropertyHelper.2 rfl⟩
  simp [prologue, helpers, exports]

theorem reads_of_mem_freeNames (lowered : lowerItems 0 items = .ok l)
    (free : name ∈ freeNames format l items) :
    AnyReads name ((opening format l ++ l.imports ++ closing format l).map .stmt) := by
  rw [List.map_append, List.map_append, Part.anyReads_append, Part.anyReads_append]
  rcases mem_freeNames_iff.1 free with ⟨rfl, loads⟩ | ⟨exports, rfl | ⟨rfl, rfl⟩⟩
  · exact .inl (.inr (reads_imports lowered loads))
  · have start := reads_prologue exports
    cases format with
    | iife => exact .inl (.inl start)
    | esm => exact .inl (.inl start)
    | cjs =>
        rw [opening, List.map_append, Part.anyReads_append]
        exact .inl (.inl (.inl start))
  · refine .inl (.inl ?_)
    rw [opening, assignExports, whereExports, if_pos exports]
    simp

end

end

end Enclose.Bundle
