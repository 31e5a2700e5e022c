import Enclose.Proofs.Bundle.Exports
import Enclose.Proofs.Bundle.ModuleOnly
import Enclose.Proofs.Bundle.Snippets
import Enclose.Proofs.Bundle.Wrapping

/-!
# Names of a module in the code around it

The names that a module exports are pasted into the text around its statements, as the names of
variables or of properties. For a module without complaints there is code iff all of them can be
pasted (`transform_pastes`). Then each text is read as the statements that are meant, and the
properties that the code reads are those that the module names.
-/

namespace Enclose.Bundle
open Script Script.Parser

/-- Whether a name can be pasted as an expression: that of a variable is no word that strict code
reserves, unless it has a value, and that of a property has only characters of words if it passes for
an identifier. -/
def asPasted : Writing Bool where
  own name := (valueOf? name).isSome || decide (IsName name)
  whole _ := true
  default _ := true
  member _ property := !Identifier.isIdentifier property.toList || isWord property.toList

def asSpelled : Writing Bool where
  own name := isWord name.toList
  whole _ := true
  default _ := true
  member _ _ := true

theorem Getter.isWritten_eq {g : Getter} (spelled : g.write asSpelled = true) :
    g.isWritten = g.write asPasted := by
  cases g with
  | own name =>
      have word : isWord name.toList = true := spelled
      rw [isWritten, word, Bool.true_and]
      rfl
  | whole | default | member => rfl

theorem Getter.problem?_own_isNone (next name : String) :
    (problem? next (.own name)).isNone = asPasted.own name := by
  by_cases named : IsName name
  · have pasted : asPasted.own name = true := by simp [asPasted, named]
    have ne (word : String) (member : word ∈ alwaysReserved ++ complainedWords ++ ["await"]) :
        (name == word) = false := beq_false_of_ne (named.ne word member)
    have others (words : List String)
        (subset : words ⊆ alwaysReserved ++ complainedWords ++ ["await"]) :
        words.contains name = false := by
      simpa using fun member => named (subset member)
    simp only [problem?, pasted, ne "await" (by decide), ne "let" (by decide),
      ne "static" (by decide), ne "super" (by decide), ne "import" (by decide),
      ne "function" (by decide), ne "class" (by decide), ne "yield" (by decide),
      others ["this", "null", "true", "false"] (by decide),
      others (alwaysReserved ++ strictReserved) (by decide), Bool.or_false, Bool.false_eq_true,
      if_false, Option.isNone_none]
  · have each : ∀ word ∈ alwaysReserved ++ complainedWords ++ ["await"],
        (problem? "" (.own word)).isNone = asPasted.own word := by decide +kernel
    rw [← each name (not_not.1 named)]
    simp only [problem?]
    split_ifs <;> rfl

theorem Getter.problem?_eq_none_iff {g : Getter} (next : String) :
    g.problem? next = none ↔ g.write asPasted = true := by
  cases g with
  | whole | default => exact ⟨fun _ => rfl, fun _ => rfl⟩
  | member k property =>
      by_cases named : Identifier.isIdentifier property.toList
      · have ne : property.toList ≠ [] := by
          intro empty
          rw [empty] at named
          cases named
        simp [problem?, write, asPasted, named, strayCharacter?_eq_none_iff ne]
      · simp [problem?, write, asPasted, named]
  | own name =>
      rw [← Option.isNone_iff_eq_none, problem?_own_isNone]
      rfl

theorem tableProblem?_eq_none_iff (exports : List Export) :
    tableProblem? exports = none ↔ ∀ e ∈ exports, e.getter.write asPasted = true := by
  induction exports with
  | nil => exact ⟨fun _ => List.forall_mem_nil _, fun _ => rfl⟩
  | cons e others ih =>
      rw [tableProblem?, Option.or_eq_none_iff, Getter.problem?_eq_none_iff, ih,
        List.forall_mem_cons]

def pastes (items : List ModuleItem) : Bool := (exportEntries asPasted items).all Prod.snd

section
variable {k : Nat} {item : ModuleItem} {items : List ModuleItem} {l : Lowered}

theorem pastes_iff (lowered : lowerItems 0 items = .ok l) :
    pastes items = true ↔ ∀ e ∈ l.exports, e.getter.write asPasted = true := by
  rw [pastes, ← exports_write asPasted lowered, List.all_map, List.all_eq_true]
  rfl

theorem entriesOf_isSpelled (named : item.IsNamed) : ∀ e ∈ entriesOf asSpelled k item, e.2 = true := by
  have own (name : Option String) (words : ∀ own ∈ name, isWord own.toList) :
      isWord (name.getD "__default").toList = true := by
    cases name with
    | none => decide
    | some name => exact words name rfl
  cases item with
  | exportDecl declaration =>
      intro e member
      obtain ⟨name, declared, rfl⟩ := List.mem_map.1 member
      exact named name declared
  | exportNamed specifiers source =>
      intro e member
      cases source with
      | none =>
          obtain ⟨s, inside, entry⟩ := List.mem_filterMap.1 member
          obtain ⟨name, exported, rfl, word⟩ := named s inside
          cases entry
          exact word
      | some source =>
          obtain ⟨s, inside, rfl⟩ := List.mem_map.1 member
          rcases s with exported | ⟨original, exported⟩
          · rfl
          · simp only [foreignEntry]
            split <;> rfl
  | exportFunction f =>
      rcases f with ⟨name, isAsync, isGenerator, params, body⟩
      exact List.forall_mem_singleton.2 (own name named)
  | exportClass c =>
      rcases c with ⟨name, heritage, members⟩
      exact List.forall_mem_singleton.2 (own name named)
  | exportDefault value => exact List.forall_mem_singleton.2 (own none (by simp))
  | stmt | «import» | exportAll => exact List.forall_mem_nil _

theorem exports_isSpelled (named : ∀ item ∈ items, item.IsNamed) (lowered : lowerItems 0 items = .ok l) :
    ∀ e ∈ l.exports, e.getter.write asSpelled = true := by
  intro e member
  have entry : e.write asSpelled ∈ exportEntries asSpelled items := by
    rw [← exports_write asSpelled lowered]
    exact List.mem_map_of_mem member
  obtain ⟨⟨k, item⟩, inside, among⟩ := List.mem_flatMap.1 entry
  have own : item ∈ items := by
    rw [← indexed_map_snd items]
    exact List.mem_map_of_mem inside
  exact entriesOf_isSpelled (named item own) _ among

theorem exports_isWritten (named : ∀ item ∈ items, item.IsNamed)
    (lowered : lowerItems 0 items = .ok l) (pasted : pastes items) :
    ∀ e ∈ l.exports, e.getter.isWritten := by
  intro e member
  rw [Getter.isWritten_eq (exports_isSpelled named lowered e member)]
  exact (pastes_iff lowered).1 pasted e member

theorem mapM_localExport_isOk {specifiers : List ExportSpecifier} (own : ∀ s ∈ specifiers, s.IsOwn) :
    (specifiers.mapM localExport).isOk := by
  induction specifiers with
  | nil => rfl
  | cons s rest ih =>
      obtain ⟨name, exported, rfl, -⟩ := own _ List.mem_cons_self
      obtain ⟨others, all⟩ := ok_of_isOk (ih fun other member => own other (.tail _ member))
      rw [List.mapM_cons, all]
      rfl

theorem lowerItem_isOk (named : item.IsNamed) : (lowerItem k item).isOk := by
  cases item with
  | exportNamed specifiers source =>
      cases source with
      | some source => rfl
      | none =>
          obtain ⟨es, all⟩ := ok_of_isOk (mapM_localExport_isOk named)
          rw [lowerItem, all]
          rfl
  | stmt | «import» | exportDecl | exportFunction | exportClass | exportDefault | exportAll => rfl

theorem lowerItems_isOk (named : ∀ item ∈ items, item.IsNamed) : (lowerItems k items).isOk := by
  induction items generalizing k with
  | nil => rfl
  | cons item rest ih =>
      obtain ⟨first, one⟩ := ok_of_isOk (@lowerItem_isOk k item (named item List.mem_cons_self))
      obtain ⟨others, all⟩ := ok_of_isOk (@ih (if bindsImport item then k + 1 else k)
        fun other member => named other (.tail _ member))
      rw [lowerItems, one]
      simp only [bind, Except.bind, all]
      rfl

theorem formed_isOk {options : Options} (lowered : lowerItems 0 items = .ok l)
    (plain : isPlainPath (nameParts options.globalName)) (pasted : pastes items) :
    (formed options l).isOk := by
  have getters : brokenGetter? l = none := by
    rw [brokenGetter?, Option.map_eq_none_iff, tableProblem?_eq_none_iff]
    exact (pastes_iff lowered).1 pasted
  rw [formed]
  split
  · rw [enclose_of_isPlainPath plain getters]
    rfl
  · have filled := fillMarker_first (l.imports ++ l.body) [] (opening_ne_marker .cjs l)
    have common : commonModule l = do
        return (← fillMarker (l.imports ++ l.body) (opening .cjs l ++ [markerStmt])).map .stmt := by
      simp only [commonModule, withGetters, getters]
      rfl
    rw [common, filled]
    rfl

theorem formed_fails {options : Options} (lowered : lowerItems 0 items = .ok l)
    (plain : isPlainPath (nameParts options.globalName)) (broken : pastes items = false) :
    ∃ reason, formed options l = .error (.internal reason) := by
  obtain ⟨cause, problem⟩ : ∃ cause, tableProblem? l.exports = some cause := by
    rw [← Option.ne_none_iff_exists']
    intro none
    rw [(pastes_iff lowered).2 ((tableProblem?_eq_none_iff _).1 none)] at broken
    cases broken
  have getters (stmts : List Stmt) : withGetters l stmts =
      .error (.internal ("generated code failed to parse: " ++ cause.message)) := by
    simp only [withGetters, brokenGetter?, problem, Option.map_some]
  refine ⟨"generated code failed to parse: " ++ cause.message, ?_⟩
  rw [formed]
  split
  · rw [enclose, wrapper, if_pos plain, getters]
    rfl
  · rw [commonModule, getters]
    rfl

end

def keyName? : PropertyKey → Option String
  | .ident name => some name
  | .string lit => some lit.value
  | .computed (.string lit) => some lit.value
  | _ => none

def access? : Expr → Option (String × String)
  | .member (.ident object) key => (keyName? key).map (object, ·)
  | _ => none

def asAccess : Writing (Option (String × String)) where
  own _ := none
  whole _ := none
  default _ := none
  member k property := some (importName k, property)

theorem Getter.access?_read (g : Getter) : access? g.read = g.write asAccess := by
  cases g with
  | own name =>
      cases value : valueOf? name with
      | none =>
          rw [read, value]
          rfl
      | some e =>
          rw [read, value, Option.getD_some]
          unfold valueOf? at value
          split at value <;> cases value <;> rfl
  | whole | default => rfl
  | member k property =>
      simp only [read, expr]
      split <;> rfl

def readBack? : Property → Option (String × Option (String × String))
  | .keyed _ key _ (.arrow _ _ value) => (keyName? key).map (·, access? value)
  | _ => none

theorem readBack?_getterEntry (e : Export) : readBack? (getterEntry e) = some (e.write asAccess) := by
  rw [getterEntry, readBack?, Getter.access?_read]
  rfl

def taken? : Pattern → Option (String × String)
  | .keyed key (.ident binding) => (keyName? key).map (·, binding)
  | .shorthand name none => some (name, name)
  | _ => none

def takenBy : Stmt → List (Option (String × String))
  | .var _ [.defaulted (.object properties) _] => properties.map taken?
  | _ => []

def imported? : ImportSpecifier → Option (String × String)
  | .named none binding => some (binding, binding)
  | .named (some imported) binding =>
    if imported.text = "default" then none else some (imported.text, binding)
  | .namespace _ | .default _ => none

def importedBy : ModuleItem → List (String × String)
  | .import _ specifiers _ => specifiers.filterMap imported?
  | _ => []

theorem map_taken?_namedImport? (s : ImportSpecifier) :
    (namedImport? s).map taken? = (imported? s).map some := by
  cases s with
  | «namespace» | default => rfl
  | named imported binding =>
      cases imported with
      | none => rfl
      | some name =>
          simp only [namedImport?, imported?, ModuleName.isDefault, beq_iff_eq]
          split
          · rfl
          · cases name <;> rfl

theorem takenBy_wholeImport? {k : Nat} {specifier : ImportSpecifier} {s : Stmt}
    (whole : wholeImport? k specifier = some s) : takenBy s = [] := by
  obtain ⟨binding, rfl | rfl⟩ := wholeImport?_eq_some whole <;> rfl

theorem takenBy_loadingStmts (k : Nat) (item : ModuleItem) :
    (loadingStmts k item).flatMap takenBy = (importedBy item).map some := by
  cases item with
  | «import» phase specifiers source =>
      have named : (specifiers.filterMap namedImport?).map taken? =
          (specifiers.filterMap imported?).map some := by
        rw [List.map_filterMap, List.map_filterMap]
        exact List.filterMap_congr fun s _ => map_taken?_namedImport? s
      have whole : (specifiers.filterMap (wholeImport? k)).flatMap takenBy = [] := by
        rw [List.flatMap_eq_nil_iff]
        intro s member
        obtain ⟨specifier, -, made⟩ := List.mem_filterMap.1 member
        exact takenBy_wholeImport? made
      rw [loadingStmts, importedBy, ← named, importStmts]
      split
      case isTrue bare =>
        rw [List.isEmpty_iff.1 bare]
        rfl
      case isFalse =>
        rw [List.cons_append, List.flatMap_cons, List.flatMap_append, whole]
        cases specifiers.filterMap namedImport? with
        | nil => rfl
        | cons first others => simp [takenBy, Stmt.declareConst, Stmt.declare]
  | exportNamed specifiers source => cases source <;> rfl
  | stmt | exportDecl | exportFunction | exportClass | exportDefault | exportAll => rfl

def stubText : ModuleItem → String
  | .exportFunction _ => "function __default() \x7b\x7d"
  | .exportClass _ => "class __default \x7b\x7d"
  | .exportDefault _ => "var __default = 0;"
  | _ => ""

/-- Whether an item is the declaration of the default export, as it is before it gets its body, its
members or its value. -/
def isStub : ModuleItem → Bool
  | .stmt (.function (.mk name false false [] [])) => name == some defaultName
  | .stmt (.class (.mk name none [])) => name == some defaultName
  | .stmt (.var .var [.defaulted (.ident name) _]) => name == defaultName
  | _ => false

def readsStub (item : ModuleItem) : Bool :=
  (Module.parse (stubText item).toList).clean?.any fun m =>
    m.items.all isStub && m.items.length == if (stubText item).isEmpty then 0 else 1

theorem readsStub_eq (item : ModuleItem) : readsStub item = true := by
  cases item with
  | exportFunction f =>
      change readsStub (.exportFunction (.mk none false false [] [])) = true
      decide +kernel
  | exportClass c =>
      change readsStub (.exportClass (.mk none none [])) = true
      decide +kernel
  | exportDefault value =>
      change readsStub (.exportDefault .this) = true
      decide +kernel
  | stmt | «import» | exportNamed | exportDecl | exportAll =>
      change readsStub (.stmt .empty) = true
      decide +kernel

structure IsAsciiName (name : String) : Prop where
  identifier : Identifier.isIdentifier name.toList
  ascii : name.toList.all fun c => decide (c.toNat < 128)
  free : name ≠ "eval" ∧ name ≠ "arguments"

theorem isWord_of_ascii {name : List Char} (identifier : Identifier.isIdentifier name)
    (ascii : ∀ c ∈ name, c.toNat < 128) : isWord name := by
  cases name with
  | nil => cases identifier
  | cons c rest =>
      simp only [Identifier.isIdentifier, Bool.and_eq_true, List.all_eq_true] at identifier
      rw [isWord, Bool.and_eq_true, List.all_eq_true]
      exact ⟨isWordStart_of_ascii identifier.1.1 (ascii c List.mem_cons_self), fun d member =>
        isWordPart_of_ascii (identifier.1.2 d member) (ascii d (.tail _ member))⟩

theorem isPlainPath_of_ascii {path : List String} (named : ∀ part ∈ path, IsAsciiName part) :
    isPlainPath path := by
  refine (isPlainPath_iff fun part member => (named part member).identifier).2 ⟨?_, ?_⟩
  · intro part member
    obtain ⟨identifier, ascii, -⟩ := named part member
    exact isWord_of_ascii identifier (by simpa using ascii)
  · exact fun first head => (named first (List.mem_of_mem_head? head)).free

theorem readProgram_module_iff {source : List Char} {m : Module} :
    readProgram source = .ok (.module m) ↔
      Nesting.check source = .ok () ∧ (Module.parse source).clean? = some m := by
  unfold readProgram
  cases shallow : Nesting.check source with
  | error d => simp
  | ok =>
      simp only [Program.parse, true_and]
      cases clean : (Module.parse source).clean? with
      | some found => simp
      | none => cases (ScriptText.parse source).clean? <;> simp

/-- The texts that are put around the statements of a module are read as they are meant, with the
place for the statements in them. -/
structure AroundIsRead (path : List String) (items : List ModuleItem) (l : Lowered) : Prop where
  prologue : readPrologue l = prologue l ↔
    ∀ e ∈ l.exports, ∀ name, e.getter = .own name → valueOf? name = none
  call : ∃ m filled, (Module.parse (Template.text path l).toList).clean? = some m ∧
    fillLast (l.imports ++ l.body) m.items = .ok filled ∧ filled.map ModuleItem.unplaced =
      (assignPath (callOf (readPrologue l ++ (l.imports ++ l.body).map Stmt.unplaced ++
        returnExports l)) path).map .stmt
  common : ∃ m stmts filled, (Module.parse (commonText l).toList).clean? = some m ∧
    m.items = stmts.map .stmt ∧ fillMarker (l.imports ++ l.body) stmts = .ok filled ∧
    filled.map Stmt.unplaced =
      readPrologue l ++ assignExports l ++ (l.imports ++ l.body).map Stmt.unplaced
  table : l.exports.map (readBack? ∘ getterEntry) = (exportEntries asAccess items).map some

/-- There is code for a module iff all names that it exports can be pasted. Each text that is made
for an import or an export is then read, and so are those around its statements, and the names of
properties in them are those in the module. -/
theorem transform_pastes {options : Options} {source : String} {m : Module}
    (read : readProgram source.toList = .ok (.module m))
    (quiet : hasTopLevelAwait (.module m) = false) (lowers : options.format ≠ .esm)
    (named : ∀ part ∈ nameParts options.globalName, IsAsciiName part) :
    ∃ l, lowerItems 0 m.items = .ok l ∧
      ((∃ code, transform options source = .ok code) ↔ pastes m.items) ∧
      (¬ pastes m.items → ∃ reason, transform options source = .error (.internal reason)) ∧
      (∀ entry ∈ indexed m.items,
        ReadsAs (loadingText entry.1 entry.2) (loadingStmts entry.1 entry.2) ∧
        (loadingStmts entry.1 entry.2).flatMap takenBy = (importedBy entry.2).map some ∧
        readsStub entry.2) ∧
      l.imports = ((indexed m.items).flatMap fun entry => loadingStmts entry.1 entry.2) ∧
      (pastes m.items → AroundIsRead (nameParts options.globalName) m.items l) := by
  have names := isNamed_of_clean? (readProgram_module_iff.1 read).2
  have plain := isPlainPath_of_ascii named
  obtain ⟨l, lowered⟩ := ok_of_isOk (@lowerItems_isOk 0 m.items names)
  have result := transform_lowered read lowers quiet lowered
  refine ⟨l, lowered, ?_, fun broken => ?_, fun entry member => ?_, ?_, fun pasted => ?_⟩
  -- The getters decide whether there is code; all other texts are read whatever the names are.
  · refine ⟨fun ⟨code, done⟩ => by_contra fun broken => ?_, fun pasted => ?_⟩
    · obtain ⟨reason, fails⟩ := formed_fails lowered plain (Bool.eq_false_iff.2 broken)
      rw [result, fails] at done
      cases done
    · obtain ⟨items, forms⟩ := ok_of_isOk (formed_isOk lowered plain pasted)
      rw [result, forms]
      exact ⟨_, rfl⟩
  · obtain ⟨reason, fails⟩ := formed_fails lowered plain (Bool.eq_false_iff.2 broken)
    rw [result, fails]
    exact ⟨reason, rfl⟩
  · have own : entry.2 ∈ m.items := by
      rw [← indexed_map_snd m.items]
      exact List.mem_map_of_mem member
    exact ⟨readsAs_loadingText (names _ own), takenBy_loadingStmts _ _, readsStub_eq _⟩
  · have imports := lowerItems_imports lowered
    simpa only [Nat.zero_add] using imports
  · have written := exports_isWritten names lowered pasted
    refine ⟨readPrologue_eq_iff, fillLast_text plain written _, fillMarker_commonText written _, ?_⟩
    rw [← exports_write asAccess lowered, List.map_map]
    exact List.map_congr_left fun e _ => readBack?_getterEntry e

def pastedSource : String :=
  "import d, \x7b \"a-b\" as x, if as y \x7d from \"m\"; export default () => d + x + y; " ++
    "export \x7b \"q r\" as z, \"ünï\" as \"\", default as w, class \x7d from \"n\"; export * from \"o\";"

theorem transform_pastes_of_pastedSource :
    ∃ (m : Module) (l : Lowered) (code : String),
      readProgram pastedSource.toList = .ok (.module m) ∧ lowerItems 0 m.items = .ok l ∧
      transform dottedConfig.transformation.options pastedSource = .ok code ∧
      AroundIsRead ["window", "lib"] m.items l ∧
      exportEntries asAccess m.items =
        [("default", none), ("z", some ("__import_1", "q r")), ("", some ("__import_1", "ünï")),
          ("w", none), ("class", some ("__import_1", "class"))] := by
  have views : (Module.parse pastedSource.toList).clean?.any fun m =>
      !hasTopLevelAwait (.module m) && pastes m.items &&
        exportEntries asAccess m.items ==
          [("default", none), ("z", some ("__import_1", "q r")), ("", some ("__import_1", "ünï")),
            ("w", none), ("class", some ("__import_1", "class"))] := by decide +kernel
  obtain ⟨m, clean, views⟩ := (Option.any_eq_true _ _).1 views
  simp only [Bool.and_eq_true, Bool.not_eq_true', beq_iff_eq] at views
  obtain ⟨⟨quiet, pasted⟩, accesses⟩ := views
  have read := readProgram_module_iff.2 ⟨by decide +kernel, clean⟩
  have path : nameParts dottedConfig.transformation.options.globalName = ["window", "lib"] := by
    decide +kernel
  have named : ∀ part ∈ ["window", "lib"], IsAsciiName part := by
    refine List.forall_mem_cons.2 ⟨?_, List.forall_mem_singleton.2 ?_⟩
    all_goals exact ⟨by decide +kernel, by decide +kernel, by decide⟩
  obtain ⟨l, lowered, iff, -, -, -, around⟩ :=
    @transform_pastes dottedConfig.transformation.options _ _ read quiet (by decide) (by rwa [path])
  obtain ⟨code, done⟩ := iff.2 pasted
  rw [path] at around
  exact ⟨m, l, code, read, lowered, done, around pasted, accesses⟩

def superscriptSource : String := "export \x7b \"a²\" as x \x7d from 'm';"

/-- No code is made for a name that passes for an identifier and is no word. -/
theorem transform_superscriptSource :
    (∃ m, readProgram superscriptSource.toList = .ok (.module m) ∧
      hasTopLevelAwait (.module m) = false) ∧
      (∀ part ∈ nameParts ({} : Options).globalName, IsAsciiName part) ∧
      transform {} superscriptSource =
        .error (.internal "generated code failed to parse: Unexpected character '²'") := by
  have views : (Module.parse superscriptSource.toList).clean?.any fun m =>
      !hasTopLevelAwait (.module m) := by decide +kernel
  obtain ⟨m, clean, quiet⟩ := (Option.any_eq_true _ _).1 views
  have fails : transform {} superscriptSource =
      .error (.internal "generated code failed to parse: Unexpected character '²'") := by
    decide +kernel
  refine ⟨⟨m, readProgram_module_iff.2 ⟨by decide +kernel, clean⟩, by simpa using quiet⟩, ?_, fails⟩
  have path : nameParts ({} : Options).globalName = ["exports"] := by decide +kernel
  rw [path]
  exact List.forall_mem_singleton.2 ⟨by decide +kernel, by decide +kernel, by decide⟩

end Enclose.Bundle
