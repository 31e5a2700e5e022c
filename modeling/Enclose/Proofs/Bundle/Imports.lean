import Enclose.Proofs.Bundle.Hygiene
import Enclose.Proofs.Bundle.Pasting

/-!
# What an import declares

The statements for an import are read back as constants, each with the value that it is given
(`constants?`). The first binds the imported module to the name that the import is counted by; the others
declare one constant for each specifier and nothing else (`importStmts_constants`). The name is bound by no
other import, and the text of the statements is read as the statements (`imports_constants`).
-/

namespace Enclose.Bundle
open Script

/-- A constant, and the value that it is given: that of an expression, or of a property of it. -/
structure Constant where
  name : String
  value : Expr
  property : Option String

def constants? : Stmt → Option (List Constant)
  | .var .const [.defaulted (.ident name) value] => some [⟨name, value, none⟩]
  | .var .const [.defaulted (.object properties) value] =>
    properties.mapM fun p => (taken? p).map fun taken => ⟨taken.2, value, some taken.1⟩
  | _ => none

def specified (k : Nat) : ImportSpecifier → Constant
  | .namespace binding => ⟨binding, .ident (importName k), none⟩
  | .default binding => ⟨binding, importedDefault k, none⟩
  | .named none binding => ⟨binding, .ident (importName k), some binding⟩
  | .named (some imported) binding =>
    if imported.text = "default" then ⟨binding, importedDefault k, none⟩
    else ⟨binding, .ident (importName k), some imported.text⟩

variable {k : Nat}

theorem mapM_eq_some_of_map {α β : Type} {f : α → Option β} {as : List α} {bs : List β}
    (each : as.map f = bs.map some) : as.mapM f = some bs := by
  induction as generalizing bs with
  | nil =>
      rw [List.map_nil, eq_comm, List.map_eq_nil_iff] at each
      rw [each]
      rfl
  | cons a as ih =>
      cases bs with
      | nil => cases each
      | cons b bs =>
          obtain ⟨first, others⟩ := List.cons.inj each
          simp [first, ih others]

theorem constants?_wholeImport? {s : ImportSpecifier} (whole : namedImport? s = none) :
    ∃ declaration, wholeImport? k s = some declaration ∧
      constants? declaration = some [specified k s] := by
  cases s with
  | «namespace» binding => exact ⟨_, rfl, rfl⟩
  | default binding => exact ⟨_, rfl, rfl⟩
  | named imported binding =>
      cases imported with
      | none => cases whole
      | some imported =>
          by_cases taken : imported.isDefault
          · have text : imported.text = "default" := by simpa [ModuleName.isDefault] using taken
            refine ⟨.declareConst binding (importedDefault k), ?_, ?_⟩
            · simp [wholeImport?, taken]
            · simp [specified, text, Stmt.declareConst, Stmt.declare, constants?]
          · simp [namedImport?, taken] at whole

theorem keyName?_key (name : ModuleName) : keyName? name.key = some name.text := by
  cases name <;> rfl

theorem taken?_namedImport? {s : ImportSpecifier} {p : Pattern} (named : namedImport? s = some p) :
    wholeImport? k s = none ∧ ((taken? p).map fun taken =>
      (⟨taken.2, .ident (importName k), some taken.1⟩ : Constant)) = some (specified k s) := by
  cases s with
  | «namespace» binding => cases named
  | default binding => cases named
  | named imported binding =>
      cases imported with
      | none =>
          cases named
          exact ⟨rfl, rfl⟩
      | some imported =>
          by_cases taken : imported.isDefault
          · simp [namedImport?, taken] at named
          · have text : imported.text ≠ "default" := by simpa [ModuleName.isDefault] using taken
            simp only [namedImport?, taken, Bool.false_eq_true, if_false, Option.some.injEq] at named
            subst named
            constructor
            · simp [wholeImport?, taken]
            · rw [specified, if_neg text, taken?, keyName?_key]
              rfl

theorem specified_perm (k : Nat) (specifiers : List ImportSpecifier) :
    ∃ whole named : List Constant,
      (specifiers.filterMap (wholeImport? k)).map constants? = whole.map (fun c => some [c]) ∧
      (specifiers.filterMap namedImport?).map (fun p => (taken? p).map fun taken =>
        ⟨taken.2, .ident (importName k), some taken.1⟩) = named.map some ∧
      (whole ++ named).Perm (specifiers.map (specified k)) := by
  -- Each specifier goes to one of the two lists.
  induction specifiers with
  | nil => exact ⟨[], [], rfl, rfl, .nil⟩
  | cons s rest ih =>
      obtain ⟨whole, named, wholes, nameds, perm⟩ := ih
      cases pattern : namedImport? s with
      | none =>
          obtain ⟨declaration, here, constants⟩ := constants?_wholeImport? (k := k) pattern
          refine ⟨specified k s :: whole, named, ?_, ?_, perm.cons _⟩
          · rw [List.filterMap_cons_some here, List.map_cons, constants, wholes, List.map_cons]
          · rw [List.filterMap_cons_none pattern, nameds]
      | some p =>
          obtain ⟨other, constant⟩ := taken?_namedImport? (k := k) pattern
          refine ⟨whole, specified k s :: named, ?_, ?_, List.perm_middle.trans (perm.cons _)⟩
          · rw [List.filterMap_cons_none other, wholes]
          · rw [List.filterMap_cons_some pattern, List.map_cons, constant, nameds, List.map_cons]

theorem importStmts_constants {specifiers : List ImportSpecifier} (source : StringLit)
    (filled : specifiers ≠ []) :
    ∃ (others : List Stmt) (groups : List (List Constant)),
      importStmts k specifiers source = .declareConst (importName k) (require source) :: others ∧
      others.map constants? = groups.map some ∧
      groups.flatten.Perm (specifiers.map (specified k)) := by
  obtain ⟨whole, named, wholes, nameds, perm⟩ := specified_perm k specifiers
  rw [importStmts, if_neg (by simpa using filled)]
  -- If no specifier takes a property, the last declaration is left out.
  cases patterns : specifiers.filterMap namedImport? with
  | nil =>
      rw [patterns] at nameds
      obtain rfl := List.map_eq_nil_iff.1 nameds.symm
      refine ⟨specifiers.filterMap (wholeImport? k), whole.map ([·]), by simp, ?_, ?_⟩
      · rw [wholes, List.map_map]
        rfl
      · simpa [← List.flatMap_def] using perm
  | cons p rest =>
      have last : constants? (.declare .const (.object (p :: rest)) (.ident (importName k))) =
          some named := by
        rw [patterns] at nameds
        exact mapM_eq_some_of_map nameds
      refine ⟨specifiers.filterMap (wholeImport? k) ++
        [.declare .const (.object (p :: rest)) (.ident (importName k))], whole.map ([·]) ++ [named],
        by simp, ?_, ?_⟩
      · simp [wholes, last, Function.comp_def]
      · simpa [← List.flatMap_def] using perm

theorem count_importName {items : List ModuleItem} {l : Lowered} (lowered : lowerItems 0 items = .ok l)
    (bound : k < items.countP bindsImport) :
    (declaredIn l.imports).count (importName k) =
      1 + (items.flatMap importLocals).count (importName k) := by
  have once : ((List.range' 0 (items.countP bindsImport)).map importName).count (importName k) = 1 := by
    apply List.count_eq_one_of_mem
    · exact List.Nodup.map (fun _ _ => importName_injective) List.nodup_range'
    · exact List.mem_map_of_mem (by simpa using bound)
  rw [(declaredIn_imports lowered).count_eq, List.count_append, once]

theorem lt_countP_of_mem_indexed {items : List ModuleItem} {item : ModuleItem}
    (member : (k, item) ∈ indexed items) (binds : bindsImport item) :
    k < items.countP bindsImport := by
  obtain ⟨⟨other, i⟩, among, same⟩ := List.mem_map.1 member
  obtain ⟨rfl, rfl⟩ := Prod.mk.inj same
  have found : items[i]? = some other := List.mk_mem_zipIdx_iff_getElem?.1 among
  obtain ⟨inside, here⟩ := List.getElem?_eq_some_iff.1 found
  have later : 0 < (items.drop i).countP bindsImport := by
    apply List.countP_pos_iff.2
    exact ⟨other, by simp [List.drop_eq_getElem_cons inside, here], binds⟩
  have all := @List.countP_append _ bindsImport (items.take i) (items.drop i)
  rw [List.take_append_drop] at all
  show (items.take i).countP bindsImport < items.countP bindsImport
  omega

theorem loadingStmts_infix {items : List ModuleItem} {l : Lowered} {item : ModuleItem}
    (lowered : lowerItems 0 items = .ok l) (member : (k, item) ∈ indexed items) :
    loadingStmts k item <:+: l.imports := by
  have hoisted := lowerItems_imports lowered
  simp only [Nat.zero_add] at hoisted
  rw [hoisted, List.flatMap_def]
  apply List.infix_of_mem_flatten
  exact List.mem_map_of_mem (f := fun entry : Nat × ModuleItem => loadingStmts entry.1 entry.2) member

/-- Each import that has specifiers declares a constant for the imported module, and then one constant
for each specifier. Nothing else in front of the module declares the first, but for a local with its name. -/
theorem imports_constants {input : List Char} {m : Module}
    (clean : (Module.parse input).clean? = some m) :
    ∃ l, lowerItems 0 m.items = .ok l ∧
      ∀ k phase specifiers source,
        (k, .import phase specifiers source) ∈ indexed m.items → specifiers ≠ [] →
        ∃ (before others after : List Stmt) (groups : List (List Constant)),
          l.imports = before ++ (.declareConst (importName k) (require source) :: others) ++ after ∧
          ReadsAs (importText k specifiers source)
            (.declareConst (importName k) (require source) :: others) ∧
          stmtsRequires (.declareConst (importName k) (require source) :: others) = [source.value] ∧
          others.map constants? = groups.map some ∧
          groups.flatten.Perm (specifiers.map (specified k)) ∧
          (declaredIn l.imports).count (importName k) =
            1 + (m.items.flatMap importLocals).count (importName k) := by
  have names := isNamed_of_clean? clean
  obtain ⟨l, lowered⟩ := ok_of_isOk (@lowerItems_isOk 0 m.items names)
  refine ⟨l, lowered, ?_⟩
  intro k phase specifiers source member filled
  obtain ⟨others, groups, stmts, each, perm⟩ := importStmts_constants (k := k) source filled
  have own : ModuleItem.import phase specifiers source ∈ m.items := by
    rw [← indexed_map_snd m.items]
    exact List.mem_map_of_mem member
  have written : ReadsAs (loadingText k (.import phase specifiers source)) _ :=
    readsAs_loadingText (names _ own)
  have loads := stmtsRequires_importStmts k specifiers source
  obtain ⟨before, after, hoisted⟩ := loadingStmts_infix lowered member
  have same : loadingStmts k (.import phase specifiers source) = _ := stmts
  rw [same] at written hoisted
  rw [stmts] at loads
  have binds : bindsImport (.import phase specifiers source) := by simpa [bindsImport] using filled
  refine ⟨before, others, after, groups, hoisted.symm, written, loads, each, perm, ?_⟩
  exact count_importName lowered (lt_countP_of_mem_indexed member binds)

def mixedSource : String :=
  "import * as n from 'n'; import d, \x7b a, default as b, c as e, \"x y\" as f, " ++
    "\"default\" as g \x7d from 'm';"

def mixedSpecifiers : List ImportSpecifier :=
  [ .default "d", .named none "a", .named (some (.ident "default")) "b", .named (some (.ident "c")) "e",
    .named (some (.string ⟨"x y", "\"x y\""⟩)) "f",
    .named (some (.string ⟨"default", "\"default\""⟩)) "g" ]

def isMixedImport : Nat × ModuleItem → Bool
  | (k, .import .evaluation specifiers source) =>
    decide (k = 1 ∧ specifiers = mixedSpecifiers ∧ source.value = "m")
  | _ => false

theorem imports_constants_of_mixedSource :
    ∃ (m : Module) (l : Lowered) (source : StringLit) (before others after : List Stmt)
      (groups : List (List Constant)),
      (Module.parse mixedSource.toList).clean? = some m ∧ lowerItems 0 m.items = .ok l ∧
      l.imports = before ++ (.declareConst "__import_1" (require source) :: others) ++ after ∧
      stmtsRequires (.declareConst "__import_1" (require source) :: others) = ["m"] ∧
      others.map constants? = groups.map some ∧
      groups.flatten.Perm
        [ ⟨"d", importedDefault 1, none⟩, ⟨"a", .ident "__import_1", some "a"⟩,
          ⟨"b", importedDefault 1, none⟩, ⟨"e", .ident "__import_1", some "c"⟩,
          ⟨"f", .ident "__import_1", some "x y"⟩, ⟨"g", importedDefault 1, none⟩ ] := by
  have views : (Module.parse mixedSource.toList).clean?.any fun m =>
      (indexed m.items).any isMixedImport := by decide +kernel
  obtain ⟨m, clean, views⟩ := (Option.any_eq_true _ _).1 views
  obtain ⟨entry, member, view⟩ := List.any_eq_true.1 views
  unfold isMixedImport at view
  split at view
  · next k specifiers source =>
    obtain ⟨rfl, rfl, value⟩ := of_decide_eq_true view
    obtain ⟨l, lowered, each⟩ := imports_constants clean
    obtain ⟨before, others, after, groups, hoisted, -, loads, constants, perm, -⟩ :=
      each 1 _ _ _ member (by decide)
    refine ⟨m, l, source, before, others, after, groups, clean, lowered, hoisted, ?_, constants, perm⟩
    rw [← value]
    exact loads
  · cases view

end Enclose.Bundle
