import Enclose.Bundle.Lowered

/-!
# What the items of a module add to its lowered form

An item is lowered with the number of items before it that bind an import, and adds the statements
that it says (`lowerItem_parts`). Whatever a view of a lowered module collects from its parts, it
collects item by item, each at that number (`lowerItems_collect`).
-/

namespace Enclose.Bundle
open Script

theorem bind_ok_iff {α β : Type} {first : Except Failure α} {next : α → Except Failure β}
    {result : β} :
    first >>= next = .ok result ↔ ∃ a, first = .ok a ∧ next a = .ok result := by
  rcases first with failure | a <;> simp [bind, Except.bind]

theorem ok_of_isOk {α : Type} {result : Except Failure α} (h : result.isOk) :
    ∃ a, result = .ok a := by
  cases result with
  | error failure => cases h
  | ok a => exact ⟨a, rfl⟩

/-- The statement that an item leaves in the code of the module: a statement or a declaration as it
is, a default export with the name `__default` if it has none of its own. -/
def ownStmt? : ModuleItem → Option Stmt
  | .stmt s => some s
  | .exportDecl declaration => some declaration
  | .exportFunction (.mk name isAsync isGenerator params body) =>
    some (.function (.mk (some (name.getD "__default")) isAsync isGenerator params body))
  | .exportClass (.mk name heritage members) =>
    some (.class (.mk (some (name.getD "__default")) heritage members))
  | .exportDefault value => some (.declareVar "__default" value)
  | .import _ _ _ | .exportNamed _ _ | .exportAll _ => none

def loadingStmts (k : Nat) : ModuleItem → List Stmt
  | .import _ specifiers source => importStmts k specifiers source
  | .exportNamed _ (some source) => [.declareVar (importName k) (require source)]
  | .exportAll source => [.call (.ident "__reExport") [.ident exportsName, require source]]
  | _ => []

def isExportAll : ModuleItem → Bool
  | .exportAll _ => true
  | _ => false

structure Parts (k : Nat) (item : ModuleItem) (l : Lowered) : Prop where
  imports : l.imports = loadingStmts k item
  body : l.body = (ownStmt? item).toList
  reExports : l.reExports = isExportAll item

theorem lowerItem_exportList_ok {k : Nat} {specifiers : List ExportSpecifier} {l : Lowered}
    (h : lowerItem k (.exportNamed specifiers none) = .ok l) :
    ∃ es, specifiers.mapM localExport = .ok es ∧ { exports := es } = l := by
  simpa only [lowerItem, bind_ok_iff, pure, Except.pure, Except.ok.injEq] using h

theorem lowerItem_parts {k : Nat} {item : ModuleItem} {l : Lowered}
    (h : lowerItem k item = .ok l) : Parts k item l := by
  cases item with
  | exportNamed specifiers source =>
      cases source with
      | none =>
          obtain ⟨es, -, rfl⟩ := lowerItem_exportList_ok h
          exact ⟨rfl, rfl, rfl⟩
      | some source => cases h; exact ⟨rfl, rfl, rfl⟩
  | exportFunction f =>
      cases h
      rcases f with ⟨name, isAsync, isGenerator, params, body⟩
      exact ⟨rfl, rfl, rfl⟩
  | exportClass c =>
      cases h
      rcases c with ⟨name, heritage, members⟩
      exact ⟨rfl, rfl, rfl⟩
  | stmt s => cases h; exact ⟨rfl, rfl, rfl⟩
  | «import» phase specifiers source => cases h; exact ⟨rfl, rfl, rfl⟩
  | exportDecl declaration => cases h; exact ⟨rfl, rfl, rfl⟩
  | exportDefault value => cases h; exact ⟨rfl, rfl, rfl⟩
  | exportAll source => cases h; exact ⟨rfl, rfl, rfl⟩

/-- The items of a module, each with the number of items before it that bind an import. -/
def indexed (items : List ModuleItem) : List (Nat × ModuleItem) :=
  items.zipIdx.map fun (item, i) => ((items.take i).countP bindsImport, item)

@[simp] theorem indexed_nil : indexed [] = [] := rfl

theorem indexed_cons (item : ModuleItem) (rest : List ModuleItem) :
    indexed (item :: rest) =
      (0, item) :: (indexed rest).map fun (k, other) =>
        (k + if bindsImport item then 1 else 0, other) := by
  simp only [indexed, List.zipIdx_cons, List.map_cons, List.take_zero, List.countP_nil,
    List.map_map]
  rw [List.zipIdx_succ, List.map_map]
  congr 1
  apply List.map_congr_left
  rintro ⟨other, i⟩ _
  simp [List.countP_cons]

theorem indexed_map_snd (items : List ModuleItem) : (indexed items).map Prod.snd = items := by
  simp [indexed, Function.comp_def]

theorem lowerItems_cons_ok {k : Nat} {item : ModuleItem} {rest : List ModuleItem} {l : Lowered} :
    lowerItems k (item :: rest) = .ok l ↔
      ∃ first others, lowerItem k item = .ok first ∧
        lowerItems (k + if bindsImport item then 1 else 0) rest = .ok others ∧
        first ++ others = l := by
  have next : (if bindsImport item then k + 1 else k) = k + if bindsImport item then 1 else 0 := by
    split <;> rfl
  simp [lowerItems, bind_ok_iff, next, pure, Except.pure]

theorem lowerItems_induction {motive : Lowered → Prop} (empty : motive {})
    (append : ∀ {a b}, motive a → motive b → motive (a ++ b))
    (single : ∀ {k item l}, lowerItem k item = .ok l → motive l)
    {k : Nat} {items : List ModuleItem} {l : Lowered} (h : lowerItems k items = .ok l) : motive l := by
  induction items generalizing k l with
  | nil => cases h; exact empty
  | cons item rest ih =>
      obtain ⟨first, others, hf, ho, rfl⟩ := lowerItems_cons_ok.1 h
      exact append (single hf) (ih ho)

theorem lowerItems_collect {α : Type} (view : Lowered → List α) (part : Nat → ModuleItem → List α)
    (empty : view {} = []) (append : ∀ a b, view (a ++ b) = view a ++ view b)
    (single : ∀ {k item l}, lowerItem k item = .ok l → view l = part k item)
    {k : Nat} {items : List ModuleItem} {l : Lowered} (h : lowerItems k items = .ok l) :
    view l = (indexed items).flatMap fun (i, item) => part (k + i) item := by
  induction items generalizing k l with
  | nil =>
      simp only [lowerItems, Except.ok.injEq] at h
      rw [← h, empty, indexed_nil, List.flatMap_nil]
  | cons item rest ih =>
      obtain ⟨first, others, hf, ho, rfl⟩ := lowerItems_cons_ok.1 h
      rw [append, single hf, ih ho, indexed_cons, List.flatMap_cons, List.flatMap_map]
      simp only [Nat.add_zero, Nat.add_assoc, Nat.add_comm (if bindsImport item then 1 else 0)]

end Enclose.Bundle
