import Enclose.Proofs.Bundle.Items
import Enclose.Proofs.Bundle.Templates
import Enclose.Proofs.Script.ItemNames

/-!
# Snippets of generated code

What an import or an export adds to a module is read from a text into which the names of the module
are pasted. Whatever these names are, the text is read as the statements that are meant
(`readsAs_loadingText`).
-/

namespace Enclose.Bundle
open Script Enclose.Script.Parser

def calledText (callee arg : String) : String := callee ++ "(" ++ arg ++ ")"

def requireText (source : StringLit) : String := calledText "require" (Text.json source.value)

def keyText : ModuleName → String
  | .ident name => name
  | .string lit => Text.json lit.value

def declarationText (kind : VarKind) (target value : String) : String :=
  kind.text ++ " " ++ target ++ " = " ++ value ++ ";\n"

def importedDefaultText (k : Nat) : String := calledText importDefaultName (importName k)

def wholeImportText? (k : Nat) : ImportSpecifier → Option String
  | .namespace binding => some (declarationText .const binding (importName k))
  | .default binding => some (declarationText .const binding (importedDefaultText k))
  | .named imported binding =>
    if imported.any (·.isDefault) then
      some (declarationText .const binding (importedDefaultText k))
    else none

def namedImportText? : ImportSpecifier → Option String
  | .named none binding => some binding
  | .named (some imported) binding =>
    if imported.isDefault then none else some (keyText imported ++ ": " ++ binding)
  | _ => none

def importText (k : Nat) (specifiers : List ImportSpecifier) (source : StringLit) : String :=
  if specifiers.isEmpty then requireText source ++ ";"
  else
    let named := specifiers.filterMap namedImportText?
    declarationText .const (importName k) (requireText source) ++
      String.join (specifiers.filterMap (wholeImportText? k)) ++
      if named.isEmpty then ""
      else declarationText .const ("\x7b " ++ ", ".intercalate named ++ " \x7d") (importName k)

def loadingText (k : Nat) : ModuleItem → String
  | .import _ specifiers source => importText k specifiers source
  | .exportNamed _ (some source) => "var " ++ importName k ++ " = " ++ requireText source ++ ";"
  | .exportAll source => "__reExport(__exports, " ++ requireText source ++ ");"
  | _ => ""

theorem writesExpr_require (source : StringLit) : WritesExpr (requireText source) (require source) :=
  .call (.ident (by decide)) (.string source.value)

theorem forall₂_filterMap {α β γ : Type} {f : α → Option β} {g : α → Option γ} {R : β → γ → Prop}
    {elements : List α} (related : ∀ a ∈ elements, Option.Rel R (f a) (g a)) :
    List.Forall₂ R (elements.filterMap f) (elements.filterMap g) := by
  induction elements with
  | nil => exact .nil
  | cons a others ih =>
      have tail := ih fun b member => related b (.tail _ member)
      have head := related a List.mem_cons_self
      cases first : f a with
      | none =>
          rw [first] at head
          cases second : g a with
          | none => rwa [List.filterMap_cons_none first, List.filterMap_cons_none second]
          | some => rw [second] at head; cases head
      | some b =>
          rw [first] at head
          cases second : g a with
          | none => rw [second] at head; cases head
          | some c =>
              rw [second] at head
              cases head with
              | some holds =>
                  rw [List.filterMap_cons_some first, List.filterMap_cons_some second]
                  exact .cons holds tail

theorem writes_join {texts : List String} {stmts : List Stmt}
    (written : List.Forall₂ (fun text s => WritesStmts true text [s]) texts stmts) :
    WritesStmts true (String.join texts) stmts := by
  induction written with
  | nil => exact .nil
  | @cons text s texts stmts first _ ih =>
      rw [String.join_cons]
      exact .append first ih

theorem writes_wholeImport? {k : Nat} {s : ImportSpecifier} (named : s.IsNamed) :
    Option.Rel (fun text s => WritesStmts true text [s]) (wholeImportText? k s) (wholeImport? k s) := by
  have imported : WritesExpr (importName k) (.ident (importName k)) := .ident (importName_isWord k)
  cases s with
  | «namespace» binding => exact .some (.declare .const rfl (.ident named.2) imported)
  | default binding => exact .some (.declare .const rfl (.ident named.2) (writesExpr_importedDefault k))
  | named imported binding =>
      cases imported with
      | none => exact .none
      | some name =>
          simp only [wholeImportText?, wholeImport?, Option.any_some]
          split
          · exact .some (.declare .const rfl (.ident named.2.2) (writesExpr_importedDefault k))
          · exact .none

theorem writes_namedImport? {s : ImportSpecifier} (named : s.IsNamed) :
    Option.Rel WritesPattern (namedImportText? s) (namedImport? s) := by
  cases s with
  | «namespace» | default => exact .none
  | named imported binding =>
      cases imported with
      | none => exact .some (.shorthand named.2)
      | some name =>
          simp only [namedImportText?, namedImport?]
          split
          · exact .none
          refine .some (.keyed (fun newline rest us ends others => ?_) (.ident named.2.2))
          cases name with
          | ident name => exact .word named.1 ends others
          | string lit => exact .string lit.value others

theorem writes_importStmts {k : Nat} {specifiers : List ImportSpecifier} (source : StringLit)
    (named : ∀ s ∈ specifiers, s.IsNamed) :
    ∃ ended, WritesStmts ended (importText k specifiers source) (importStmts k specifiers source) := by
  have required := writesExpr_require source
  have names := forall₂_filterMap fun s member => writes_namedImport? (named s member)
  have wholes := writes_join (forall₂_filterMap fun s member => writes_wholeImport? (k := k) (named s member))
  unfold importText importStmts
  by_cases bare : specifiers.isEmpty
  · rw [if_pos bare, if_pos bare]
    exact ⟨false, .expr required⟩
  · rw [if_neg bare, if_neg bare]
    have binding : WritesStmts true _ [_] :=
      .declare .const rfl (.ident (importName_isWord k)) required
    refine ⟨true, .append (.append binding wholes) ?_⟩
    generalize specifiers.filterMap namedImportText? = texts at names ⊢
    generalize specifiers.filterMap namedImport? = patterns at names ⊢
    cases names with
    | nil => exact .nil
    | cons first others =>
        exact .declare .const rfl (.object (.cons first others) (List.cons_ne_nil _ _))
          (.ident (importName_isWord k))

theorem ident_importName_isWorded (k : Nat) : (Expr.ident (importName k)).isWorded :=
  decide_eq_true (importName_mayBind k).1

theorem require_isWorded (source : StringLit) : (require source).isWorded := by
  have name : IsName "require" := by decide
  simp [require, Expr.callWith, Expr.text, Expr.isWorded, Expr.strength, Expr.mayBeCalled,
    areWordedElements, Element.isWorded, name]

theorem wholeImport?_isWorded {k : Nat} {specifier : ImportSpecifier} {s : Stmt}
    (named : specifier.IsNamed) (whole : wholeImport? k specifier = some s) :
    s.isWorded ∧ s.isFree := by
  have bound {binding : String} (mayBind : MayBind binding) {value : Expr} (worded : value.isWorded) :
      (Stmt.declareConst binding value).isWorded ∧ (Stmt.declareConst binding value).isFree :=
    ⟨declare_isWorded rfl rfl (decide_eq_true mayBind) worded, rfl⟩
  cases specifier with
  | «namespace» binding =>
      cases whole
      exact bound named.1 (ident_importName_isWorded k)
  | default binding =>
      cases whole
      exact bound named.1 (importedDefault_isWorded k)
  | named imported binding =>
      cases imported with
      | none => cases whole
      | some name =>
          simp only [wholeImport?, Option.any_some] at whole
          split at whole <;> cases whole
          exact bound named.2.1 (importedDefault_isWorded k)

theorem namedImport?_isWorded {specifier : ImportSpecifier} {p : Pattern} (named : specifier.IsNamed)
    (bound : namedImport? specifier = some p) : p.isProperty ∧ p.isWorded := by
  cases specifier with
  | «namespace» | default => cases bound
  | named imported binding =>
      cases imported with
      | none =>
          cases bound
          exact ⟨rfl, decide_eq_true named.1⟩
      | some name =>
          simp only [namedImport?] at bound
          split at bound <;> cases bound
          refine ⟨?_, decide_eq_true named.2.1⟩
          cases name <;> rfl

theorem areWordedPatterns_of_all {patterns : List Pattern} (all : ∀ p ∈ patterns, p.isWorded) :
    areWordedPatterns patterns := by
  induction patterns with
  | nil => rfl
  | cons p others ih =>
      rw [areWordedPatterns, all p List.mem_cons_self, ih fun q member => all q (.tail _ member)]
      rfl

theorem areWordedStmts_of_all {stmts : List Stmt} (all : ∀ s ∈ stmts, s.isWorded) :
    areWordedStmts stmts := by
  induction stmts with
  | nil => rfl
  | cons s others ih =>
      rw [areWordedStmts, all s List.mem_cons_self, ih fun t member => all t (.tail _ member)]
      rfl

theorem importStmts_isWorded {k : Nat} {specifiers : List ImportSpecifier} (source : StringLit)
    (named : ∀ s ∈ specifiers, s.IsNamed) :
    ∀ s ∈ importStmts k specifiers source, s.isWorded ∧ s.isFree := by
  unfold importStmts
  by_cases bare : specifiers.isEmpty
  · rw [if_pos bare]
    have leads : leadsStatement ((require source).wording ++ [loose .semicolon]) := rfl
    exact List.forall_mem_singleton.2 ⟨by simp [Stmt.isWorded, require_isWorded, leads], rfl⟩
  · rw [if_neg bare]
    refine List.forall_mem_append.2 ⟨List.forall_mem_cons.2 ⟨?_, ?_⟩, ?_⟩
    · exact ⟨declare_isWorded rfl rfl (decide_eq_true (importName_mayBind k)) (require_isWorded source), rfl⟩
    · intro s member
      obtain ⟨specifier, inside, whole⟩ := List.mem_filterMap.1 member
      exact wholeImport?_isWorded (named specifier inside) whole
    · split
      · exact List.forall_mem_nil _
      · have properties : ∀ p ∈ specifiers.filterMap namedImport?, p.isProperty ∧ p.isWorded := by
          intro p member
          obtain ⟨specifier, inside, bound⟩ := List.mem_filterMap.1 member
          exact namedImport?_isWorded (named specifier inside) bound
        refine List.forall_mem_singleton.2 ⟨declare_isWorded rfl rfl ?_ (ident_importName_isWorded k), rfl⟩
        rw [Pattern.isWorded, Bool.and_eq_true, List.all_eq_true]
        exact ⟨fun p member => (properties p member).1,
          areWordedPatterns_of_all fun p member => (properties p member).2⟩

theorem writes_reExport (source : StringLit) :
    WritesStmts false ("__reExport(__exports, " ++ requireText source ++ ");")
      [.call (.ident "__reExport") [.ident exportsName, require source]] := by
  intro rest us others
  have closed : Writes false ([')', ';'] ++ rest) ([loose .closeParen, loose .semicolon] ++ us) :=
    .fixed (by decide) others
  have whole : Writes true ("__reExport(__exports, ".toList ++ _)
      ([loose (.word "__reExport"), loose .openParen, loose (.word "__exports"), loose .comma] ++ _) :=
    .fixed (by decide) (writesExpr_require source false _ _ (endsWord_cons _ (by decide)) closed)
  simpa [stmtsWording, Stmt.call, Stmt.wording, Expr.callWith, Expr.wording, elementsWording,
    Element.wording, exportsName] using whole

theorem reExport_isWorded (source : StringLit) :
    (Stmt.call (.ident "__reExport") [.ident exportsName, require source]).isWorded := by
  have names : IsName "__reExport" ∧ IsName exportsName := by decide
  simp [Stmt.call, Stmt.isWorded, Expr.callWith, Expr.isWorded, Expr.strength, Expr.mayBeCalled,
    areWordedElements, Element.isWorded, Expr.wording, leadsStatement, loose, names,
    require_isWorded]

theorem writes_loadingText {k : Nat} {item : ModuleItem} (named : item.IsNamed) :
    ∃ ended, WritesStmts ended (loadingText k item) (loadingStmts k item) := by
  cases item with
  | «import» phase specifiers source => exact writes_importStmts source named
  | exportNamed specifiers source =>
      cases source with
      | none => exact ⟨true, .nil⟩
      | some source =>
          exact ⟨false, .declare .var rfl (.ident (importName_isWord k)) (writesExpr_require source)⟩
  | exportAll source => exact ⟨false, writes_reExport source⟩
  | stmt | exportDecl | exportFunction | exportClass | exportDefault => exact ⟨true, .nil⟩

theorem loadingStmts_isWorded {k : Nat} {item : ModuleItem} (named : item.IsNamed) :
    ∀ s ∈ loadingStmts k item, s.isWorded ∧ s.isFree := by
  cases item with
  | «import» phase specifiers source => exact importStmts_isWorded source named
  | exportNamed specifiers source =>
      cases source with
      | none => exact List.forall_mem_nil _
      | some source =>
          exact List.forall_mem_singleton.2
            ⟨declareVar_isWorded (importName_mayBind k) (require_isWorded source), rfl⟩
  | exportAll source => exact List.forall_mem_singleton.2 ⟨reExport_isWorded source, rfl⟩
  | stmt | exportDecl | exportFunction | exportClass | exportDefault => exact List.forall_mem_nil _

theorem readsAs_loadingText {k : Nat} {item : ModuleItem} (named : item.IsNamed) :
    ReadsAs (loadingText k item) (loadingStmts k item) := by
  obtain ⟨ended, written⟩ := writes_loadingText (k := k) named
  have worded := loadingStmts_isWorded (k := k) named
  exact readsAs_of_writes written (areWordedStmts_of_all fun s member => (worded s member).1)
    fun s member => (worded s member).2

end Enclose.Bundle
