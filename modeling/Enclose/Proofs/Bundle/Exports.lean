import Enclose.Proofs.Bundle.Scope

/-!
# The export table of a module

`exportEntries` reads the entries off the items of a module: an exported name, and where its value
is read. Lowering yields exactly this list (`exports_write`), and there is an object for the exports
iff the list is not empty or all of another module is exported (`hasExports_eq`).
-/

namespace Enclose.Bundle
open Script

structure Writing (γ : Type) where
  own : String → γ
  whole : Nat → γ
  default : Nat → γ
  member : Nat → String → γ

def asText : Writing String where
  own name := name
  whole k := importName k
  default k := "__importDefault(" ++ importName k ++ ")"
  member k property :=
    if Identifier.isIdentifier property.toList then importName k ++ "." ++ property
    else importName k ++ "[" ++ Text.json property ++ "]"

def Getter.write {γ : Type} (w : Writing γ) : Getter → γ
  | own name => w.own name
  | whole k => w.whole k
  | default k => w.default k
  | member k property => w.member k property

theorem Getter.text_eq (getter : Getter) : getter.text = getter.write asText := by
  cases getter <;> rfl

section
variable {γ : Type} (w : Writing γ)

def localExport? : ExportSpecifier → Option (String × γ)
  | .namespace _ => none
  | .named original exported => some ((exported.getD original).text, w.own original.text)

def foreignEntry (k : Nat) : ExportSpecifier → String × γ
  | .namespace exported => (exported.text, w.whole k)
  | .named original exported =>
    ((exported.getD original).text,
      if original.text = "default" then w.default k else w.member k original.text)

def entriesOf (k : Nat) : ModuleItem → List (String × γ)
  | .exportDecl declaration => (declaredNames declaration).map fun name => (name, w.own name)
  | .exportNamed specifiers none => specifiers.filterMap (localExport? w)
  | .exportNamed specifiers (some _) => specifiers.map (foreignEntry w k)
  | .exportFunction (.mk name _ _ _ _) => [("default", w.own (name.getD "__default"))]
  | .exportClass (.mk name _ _) => [("default", w.own (name.getD "__default"))]
  | .exportDefault _ => [("default", w.own "__default")]
  | .stmt _ | .import _ _ _ | .exportAll _ => []

def exportEntries (items : List ModuleItem) : List (String × γ) :=
  (indexed items).flatMap fun (k, item) => entriesOf w k item

def Export.write (e : Export) : String × γ := (e.name, e.getter.write w)

theorem localExport?_eq {s : ExportSpecifier} {e : Export} (h : localExport s = .ok e) :
    localExport? w s = some (e.write w) := by
  rcases s with exported | ⟨name | lit, exported⟩ <;> simp only [localExport] at h
  · cases h
  · cases h
    cases exported <;> rfl
  · cases h

theorem filterMap_localExport? {specifiers : List ExportSpecifier} {es : List Export}
    (h : specifiers.mapM localExport = .ok es) :
    specifiers.filterMap (localExport? w) = es.map (Export.write w) := by
  induction specifiers generalizing es with
  | nil =>
      simp only [List.mapM_nil, pure, Except.pure, Except.ok.injEq] at h
      subst h
      rfl
  | cons s rest ih =>
      simp only [List.mapM_cons, bind_ok_iff, pure, Except.pure, Except.ok.injEq] at h
      obtain ⟨e, he, others, ho, rfl⟩ := h
      rw [List.filterMap_cons_some (localExport?_eq w he), ih ho, List.map_cons]

theorem write_foreignExport (k : Nat) (s : ExportSpecifier) :
    (foreignExport k s).write w = foreignEntry w k s := by
  rcases s with exported | ⟨original, exported⟩
  · rfl
  · simp only [foreignExport, foreignGetter, foreignEntry, Export.write, ModuleName.isDefault,
      beq_iff_eq]
    split <;> rfl

theorem lowerItem_exports {k : Nat} {item : ModuleItem} {l : Lowered}
    (h : lowerItem k item = .ok l) : l.exports.map (Export.write w) = entriesOf w k item := by
  cases item with
  | exportNamed specifiers source =>
      cases source with
      | none =>
          obtain ⟨es, hes, rfl⟩ := lowerItem_exportList_ok h
          exact (filterMap_localExport? w hes).symm
      | some source =>
          cases h
          simp only [entriesOf, List.map_map]
          exact List.map_congr_left fun s _ => write_foreignExport w k s
  | exportDecl declaration =>
      cases h
      simp [entriesOf, Export.write, Getter.write, Function.comp_def]
  | exportFunction f =>
      cases h
      rcases f with ⟨name, isAsync, isGenerator, params, body⟩
      rfl
  | exportClass c =>
      cases h
      rcases c with ⟨name, heritage, members⟩
      rfl
  | stmt s => cases h; rfl
  | «import» phase specifiers source => cases h; rfl
  | exportDefault value => cases h; rfl
  | exportAll source => cases h; rfl

theorem exports_write {items : List ModuleItem} {l : Lowered} (h : lowerItems 0 items = .ok l) :
    l.exports.map (Export.write w) = exportEntries w items := by
  have collected := lowerItems_collect (fun l => l.exports.map (Export.write w)) (entriesOf w) rfl
    (fun a b => by simp) (lowerItem_exports w) h
  simpa only [exportEntries, Nat.zero_add] using collected

end

def exportsAny (items : List ModuleItem) : Bool :=
  !(exportEntries asText items).isEmpty || items.any isExportAll

theorem lowerItems_reExports {k : Nat} {items : List ModuleItem} {l : Lowered}
    (h : lowerItems k items = .ok l) : l.reExports = items.any isExportAll := by
  induction items generalizing k l with
  | nil => cases h; rfl
  | cons item rest ih =>
      obtain ⟨first, others, hf, ho, rfl⟩ := lowerItems_cons_ok.1 h
      rw [Lowered.reExports_append, (lowerItem_parts hf).reExports, ih ho, List.any_cons]

theorem hasExports_eq {items : List ModuleItem} {l : Lowered} (h : lowerItems 0 items = .ok l) :
    l.hasExports = exportsAny items := by
  rw [exportsAny, ← lowerItems_reExports h, ← exports_write asText h, List.isEmpty_map]
  rfl

def exportsReturn : Stmt := .return (some (.ident "__exports"))

end Enclose.Bundle
