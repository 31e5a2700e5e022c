import Enclose.Proofs.Bundle.Path
import Enclose.Proofs.Script.Written

/-!
# Templates of generated code

The text around the statements of a module is read, without complaint, as the statements that are
put there: as the call whose result a path receives (`readsAs_text`), or as the beginning of a
module that assigns its exports to `module.exports` (`readsAs_commonText`).
-/

namespace Enclose.Bundle
open Script Script.Parser Script.Lexer

/-- A text is read as a module of statements, up to the places in these. -/
def ReadsAs (text : String) (stmts : List Stmt) : Prop :=
  ∃ m, (Module.parse text.toList).clean? = some m ∧
    m.items.map ModuleItem.unplaced = stmts.map .stmt

theorem readsAs_of_writes {ended : Bool} {text : String} {stmts : List Stmt}
    (writes : WritesStmts ended text stmts) (worded : areWordedStmts stmts)
    (free : ∀ s ∈ stmts, s.isFree) : ReadsAs text stmts :=
  clean?_of_writes writes.whole worded free

/-! ## Names -/

theorem isWordPart_of_isDigit {c : Char} (digit : c.isDigit) : isWordPart c = true := by
  simp only [Char.isDigit, Bool.and_eq_true, decide_eq_true_eq] at digit
  exact forall_char_between (isWordPart · = true) 48 10 (by decide) digit.1
    (Nat.lt_succ_of_le digit.2)

theorem importName_isWord (k : Nat) : isWord (importName k).toList = true := by
  have start : "__import_".toList = '_' :: "_import_".toList := by decide
  have parts : "_import_".toList.all isWordPart = true := by decide
  rw [importName, String.toList_append, start, List.cons_append, isWord, Bool.and_eq_true,
    List.all_append, Bool.and_eq_true]
  refine ⟨by decide, parts, ?_⟩
  simp only [Nat.toString_eq_repr, Nat.toList_repr, List.all_eq_true]
  exact fun c member => isWordPart_of_isDigit (Nat.isDigit_of_mem_toDigits (by decide) (by decide) member)

theorem mayBind_of_underscore {name : String} (starts : name.toList.head? = some '_') :
    MayBind name := by
  have ne (word : String) (other : word.toList.head? ≠ some '_') : name ≠ word := by
    rintro rfl
    exact other starts
  have reserved : ∀ word ∈ alwaysReserved ++ complainedWords ++ ["await"],
      word.toList.head? ≠ some '_' := by decide
  refine ⟨fun member => reserved name member starts, ne _ (by decide), ne _ (by decide)⟩

theorem importName_mayBind (k : Nat) : MayBind (importName k) :=
  mayBind_of_underscore (by simp [importName])

/-! ## Paths -/

inductive IsPath : Expr → Prop
  | ident {name : String} : MayBind name → IsPath (.ident name)
  | dot {e : Expr} {part : String} : IsPath e → IsPath (.dot e part)

namespace IsPath

variable {e : Expr}

theorem strength (path : IsPath e) : e.strength = 15 := by cases path <;> rfl

theorem isWorded (path : IsPath e) : e.isWorded := by
  induction path with
  | ident bound => exact decide_eq_true bound.1
  | dot path ih => simp [Expr.dot, Expr.isWorded, PropertyKey.isWorded, ih, path.strength]

theorem wording_eq (path : IsPath e) : ∃ name ts, IsName name ∧
    e.wording = loose (.word name) :: ts ∧ ∀ t ∈ ts.head?, t = loose .dot := by
  induction path with
  | @ident name bound => exact ⟨name, [], bound.1, rfl, nofun⟩
  | @dot e part path ih =>
      obtain ⟨name, ts, named, wording, next⟩ := ih
      refine ⟨name, ts ++ [loose .dot, loose (.word part)], named, ?_, ?_⟩
      · simp [Expr.dot, Expr.wording, PropertyKey.memberWording, wording]
      · cases ts with
        | nil => simp [loose]
        | cons => simpa using next

theorem assignTo_isWorded {part : String} {value : Expr} (path : IsPath e) (worded : value.isWorded) :
    (Stmt.expr (.assignTo (.dot e part) value)).isWorded := by
  obtain ⟨name, ts, named, wording, next⟩ := path.wording_eq
  have leads : leadsStatement ((Expr.assignTo (.dot e part) value).wording ++ [loose .semicolon]) := by
    cases ts with
    | nil => simp [Expr.assignTo, Expr.dot, Expr.wording, Pattern.wording, wording,
        PropertyKey.memberWording, leadsStatement, loose, named]
    | cons t ts =>
        obtain rfl := next t rfl
        simp [Expr.assignTo, Expr.dot, Expr.wording, Pattern.wording, wording,
          PropertyKey.memberWording, leadsStatement, loose, named]
  rw [Stmt.isWorded, leads, Bool.and_true]
  simp [Expr.assignTo, Expr.dot, Expr.isWorded, Pattern.isMember, Pattern.isWorded,
    PropertyKey.isWorded, path.isWorded, path.strength, worded]

theorem orNewObject_isWorded (path : IsPath e) : (orNewObject e).isWorded := by
  have precedence : BinaryOp.logicalOr.precedence < 14 ∧ BinaryOp.logicalOr.isRegular := by decide
  have object : (Expr.object []).strength = 15 := rfl
  simp only [orNewObject, Expr.isWorded, path.isWorded, path.strength, areWordedProperties, object,
    precedence.2, Bool.true_and, Bool.and_eq_true, decide_eq_true_eq]
  omega

end IsPath

/-! ## Getters -/

def Getter.isWritten : Getter → Bool
  | .own name => isWord name.toList && ((valueOf? name).isSome || decide (IsName name))
  | .member _ property => !Identifier.isIdentifier property.toList || isWord property.toList
  | .whole _ | .default _ => true

def Getter.isSpelled : Getter → Bool
  | .own name => isWord name.toList
  | .member _ property => !Identifier.isIdentifier property.toList || isWord property.toList
  | .whole _ | .default _ => true

theorem Getter.isSpelled_of_isWritten {g : Getter} (written : g.isWritten) : g.isSpelled := by
  cases g with
  | own name =>
      rw [isWritten, Bool.and_eq_true] at written
      exact written.1
  | whole | default | member => exact written

/-- The expression as which the text of a getter is read. -/
def Getter.read (g : Getter) : Expr :=
  match g with
  | .own name => (valueOf? name).getD (.ident name)
  | .whole _ | .default _ | .member _ _ => g.expr

theorem Getter.read_eq_iff {g : Getter} :
    g.read = g.expr ↔ ∀ name, g = .own name → valueOf? name = none := by
  cases g with
  | own name =>
      simp only [read, expr, own.injEq, forall_eq']
      cases value : valueOf? name with
      | none => simp
      | some e =>
          unfold valueOf? at value
          split at value <;> cases value <;> simp
  | whole | default | member => simp [read]

theorem writesExpr_importedDefault (k : Nat) :
    WritesExpr (importDefaultName ++ "(" ++ importName k ++ ")") (importedDefault k) :=
  .call (.ident (by decide)) (.ident (importName_isWord k))

theorem Getter.writes {g : Getter} (spelled : g.isSpelled) : WritesExpr g.text g.read := by
  cases g with
  | own name =>
      cases value : valueOf? name with
      | none =>
          rw [read, value]
          exact .ident spelled
      | some e =>
          intro newline rest us ends others
          rw [read, value, Option.getD_some, wording_of_valueOf? value]
          exact .word spelled ends others
  | whole k => exact .ident (importName_isWord k)
  | default k => exact writesExpr_importedDefault k
  | member k property =>
      simp only [isSpelled, Bool.or_eq_true, Bool.not_eq_true'] at spelled
      by_cases named : Identifier.isIdentifier property.toList
      · have word : isWord property.toList = true := by simpa [named] using spelled
        simp only [text, read, expr, if_pos named]
        exact .dot (.ident (importName_isWord k)) word
      · simp only [text, read, expr, if_neg named]
        exact .index (.ident (importName_isWord k)) (.string property)

theorem importedDefault_isWorded (k : Nat) : (importedDefault k).isWorded := by
  have helper : IsName importDefaultName ∧ importDefaultName ≠ "async" := by decide
  have imported : IsName (importName k) := (importName_mayBind k).1
  simp [importedDefault, Expr.callWith, Expr.isWorded, areWordedElements, Element.isWorded,
    Expr.strength, Expr.mayBeCalled, imported, helper]

theorem Getter.read_isWorded {g : Getter} (written : g.isWritten) : g.read.isWorded := by
  have imported (k : Nat) : IsName (importName k) := (importName_mayBind k).1
  cases g with
  | own name =>
      simp only [isWritten, Bool.and_eq_true] at written
      cases value : valueOf? name with
      | none =>
          rw [value] at written
          rw [read, value]
          exact written.2
      | some e =>
          rw [read, value]
          exact isWorded_of_valueOf? value
  | whole k => exact decide_eq_true (imported k)
  | default k => exact importedDefault_isWorded k
  | member k property =>
      by_cases named : Identifier.isIdentifier property.toList
      · simp [read, expr, if_pos named, Expr.dot, Expr.isWorded, PropertyKey.isWorded, Expr.strength, imported]
      · simp [read, expr, if_neg named, Expr.text, Expr.isWorded, PropertyKey.isWorded, Expr.strength, imported]

/-- The expression of a getter is no object, which would be taken for the body of a function. -/
theorem Getter.read_leads (g : Getter) :
    g.read.wording.head?.all fun p => p.token != .openBrace := by
  cases g with
  | own name =>
      cases value : valueOf? name with
      | none =>
          rw [read, value]
          rfl
      | some e =>
          rw [read, value, Option.getD_some, wording_of_valueOf? value]
          rfl
  | whole | default => rfl
  | member k property =>
      by_cases named : Identifier.isIdentifier property.toList
      · rw [read, expr, if_pos named]
        rfl
      · rw [read, expr, if_neg named]
        rfl

/-! ## The table of the getters -/

def entryText (e : Export) : String := "  " ++ Text.json e.name ++ ": () => " ++ e.getter.text

def getterEntry (e : Export) : Property :=
  .keyed 0 (.string (.ofText e.name)) 0 (.arrow false [] e.getter.read)

section
variable {exports : List Export} {rest : List Char} {us : List Piece}

theorem writes_entry {e : Export} (spelled : e.getter.isSpelled) (ends : EndsWord rest)
    (others : Writes false rest us) (newline : Bool) :
    Writes newline ((entryText e).toList ++ rest) ((getterEntry e).wording ++ us) := by
  have getter := Getter.writes spelled false rest us ends others
  have arrow : Writes false (": () => ".toList ++ (e.getter.text.toList ++ rest))
      ([loose .colon, loose .openParen, loose .closeParen, tied .arrow] ++
        (e.getter.read.wording ++ us)) :=
    .fixed (by decide) getter
  have indent : spellsFixed newline "  ".toList [] newline := by cases newline <;> decide
  have whole : Writes newline ("  ".toList ++ _) ([] ++ _) := .fixed indent (.string e.name arrow)
  simpa [entryText, getterEntry, Property.wording, PropertyKey.wording, Expr.wording,
    patternsWording] using whole

theorem writes_entries (spelled : ∀ e ∈ exports, e.getter.isSpelled) (some : exports ≠ [])
    (ends : EndsWord rest) (others : Writes false rest us) (newline : Bool) :
    Writes newline ((",\n".intercalate (exports.map entryText)).toList ++ rest)
      (propertiesWording (exports.map getterEntry) ++ us) := by
  induction exports generalizing newline with
  | nil => contradiction
  | cons e exports ih =>
      have head := spelled e List.mem_cons_self
      cases exports with
      | nil => simpa [propertiesWording] using writes_entry head ends others newline
      | cons e' exports =>
          have tail := ih (fun e member => spelled e (.tail _ member)) (List.cons_ne_nil _ _) true
          have comma : Writes false ([',', '\n'] ++ _) ([loose .comma] ++ _) :=
            .fixed (by decide) tail
          have whole := writes_entry head (endsWord_cons _ (by decide)) comma newline
          simpa [propertiesWording, String.toList_intercalate, List.intercalate_cons_cons] using whole

end

/-! ## The prologue -/

section
variable {l : Lowered}

theorem writes_helpers (l : Lowered) : WritesStmts true (Template.helpers l) (helpers l) := by
  unfold Template.helpers helpers
  refine .append (.append (.append ?define ?getters) ?reExport) ?importDefault
  case define =>
    refine .ite (fun _ => .fixed ?_) fun _ => .nil
    rw [String.toList_ofList]
    decide +kernel
  case getters =>
    refine .ite (fun _ => .nil) fun _ => .fixed ?_
    simp only [String.toList_append]
    repeat rw [String.toList_ofList]
    decide +kernel
  case reExport =>
    refine .ite (fun _ => .fixed ?_) fun _ => .nil
    simp only [String.toList_append]
    repeat rw [String.toList_ofList]
    decide +kernel
  case importDefault =>
    refine .ite (fun _ => .fixed ?_) fun _ => .nil
    rw [String.toList_ofList]
    decide +kernel

def exportTable (exports : List Export) : Stmt :=
  .call (.ident "__export") [.ident exportsName, .object (exports.map getterEntry)]

def readObject (l : Lowered) : List Stmt :=
  if l.hasExports then
    .declareVar exportsName (.object []) ::
      .call (.ident "__defProp")
        [.ident exportsName, .text "__esModule", .objectOf [(.ident "value", .bool true)]] ::
      if l.exports.isEmpty then [] else [exportTable l.exports]
  else []

def readPrologue (l : Lowered) : List Stmt := helpers l ++ readObject l

/-- The prologue is read as it is meant, unless an export is a variable with a name such as `this`,
which is read as a value. -/
theorem readPrologue_eq_iff {l : Lowered} : readPrologue l = prologue l ↔
    ∀ e ∈ l.exports, ∀ name, e.getter = .own name → valueOf? name = none := by
  have entries : (l.exports.map getterEntry = l.exports.map fun e =>
      .keyed 0 (.string (.ofText e.name)) 0 (.arrow false [] e.getter.expr)) ↔
        ∀ e ∈ l.exports, ∀ name, e.getter = .own name → valueOf? name = none := by
    simp [List.map_inj_left, getterEntry, Getter.read_eq_iff]
  rw [← entries, readPrologue, prologue, List.append_cancel_left_eq, readObject, exportsObject]
  by_cases none : l.exports = []
  · simp [none]
  · have exporting : l.hasExports = true := by simp [Lowered.hasExports, none]
    simp [exporting, none, exportTable, getterTable, Expr.objectOf, Expr.callWith, Stmt.call,
      Function.comp_def]

def objectText : String :=
  "var __exports = \x7b\x7d;\n" ++ "__defProp(__exports, \"__esModule\", \x7b value: true \x7d);\n"

def tableText (exports : List Export) : String :=
  "__export(__exports, \x7b\n" ++ ",\n".intercalate (exports.map entryText) ++ "\n\x7d);\n"

theorem exportsObject_eq (some : l.exports ≠ []) :
    Template.exportsObject l = objectText ++ tableText l.exports := by
  have has : l.hasExports = true := by simp [Lowered.hasExports, some]
  rw [Template.exportsObject, if_pos has, if_neg (by simpa using some)]
  rfl

theorem writes_exportTable {exports : List Export} (spelled : ∀ e ∈ exports, e.getter.isSpelled)
    (some : exports ≠ []) : WritesStmts true (tableText exports) [exportTable exports] := by
  intro rest us others
  unfold tableText
  have closed : Writes false (['\n', '}', ')', ';', '\n'] ++ rest)
      ([loose .closeBrace, loose .closeParen, loose .semicolon] ++ us) :=
    .fixed (by decide) others
  have entries := writes_entries spelled some (endsWord_cons _ (by decide)) closed true
  have whole : Writes true ("__export(__exports, \x7b\n".toList ++ _)
      ([loose (.word "__export"), loose .openParen, loose (.word "__exports"), loose .comma,
        loose .openBrace] ++ _) :=
    .fixed (by decide) entries
  simpa [stmtsWording, exportTable, Stmt.call, Stmt.wording, Expr.callWith, Expr.wording,
    elementsWording, Element.wording, exportsName] using whole

theorem writes_readObject (written : ∀ e ∈ l.exports, e.getter.isWritten) :
    WritesStmts true (Template.exportsObject l) (readObject l) := by
  unfold Template.exportsObject readObject
  refine .ite (fun _ => ?_) fun _ => .nil
  rw [String.append_assoc]
  refine .append (.fixed (by rw [String.toList_ofList]; decide +kernel)) (.append (.fixed (by rw [String.toList_ofList]; decide +kernel)) ?_)
  refine .ite (fun _ => .nil) fun some => ?_
  exact writes_exportTable (fun e member => Getter.isSpelled_of_isWritten (written e member))
    (by simpa using some)

theorem writes_readPrologue (written : ∀ e ∈ l.exports, e.getter.isWritten) :
    WritesStmts true (Template.helpers l ++ Template.exportsObject l) (readPrologue l) :=
  .append (writes_helpers l) (writes_readObject written)

theorem areWordedProperties_getters {exports : List Export}
    (written : ∀ e ∈ exports, e.getter.isWritten) :
    areWordedProperties (exports.map getterEntry) := by
  induction exports with
  | nil => rfl
  | cons e exports ih =>
      have head := written e List.mem_cons_self
      have value : e.getter.read.isWorded := Getter.read_isWorded head
      have leads := Getter.read_leads e.getter
      have tail := ih fun e member => written e (.tail _ member)
      rw [List.map_cons, areWordedProperties, tail, Bool.and_true]
      simp only [getterEntry, Property.isWorded, PropertyKey.isNamed, Expr.isWorded,
        areWordedPatterns, value, leads]
      rfl

theorem exportTable_isWorded {exports : List Export} (written : ∀ e ∈ exports, e.getter.isWritten) :
    (exportTable exports).isWorded := by
  have names : IsName "__export" ∧ IsName exportsName := by decide
  have entries := areWordedProperties_getters written
  simp [exportTable, Stmt.call, Stmt.isWorded, Expr.callWith, Expr.isWorded, Expr.strength,
    Expr.mayBeCalled, areWordedElements, Element.isWorded, entries, names,
    Expr.wording, leadsStatement, loose]

theorem readPrologue_isWorded (written : ∀ e ∈ l.exports, e.getter.isWritten) :
    areWordedStmts (readPrologue l) := by
  have helpers : areWordedStmts (helpers l) := by
    simp only [Bundle.helpers, areWordedStmts_append, Bool.and_eq_true]
    refine ⟨⟨⟨?_, ?_⟩, ?_⟩, ?_⟩
    all_goals split <;> decide
  have object : areWordedStmts (readObject l) := by
    unfold readObject
    split
    case isTrue =>
      have table : areWordedStmts (if l.exports.isEmpty then [] else [exportTable l.exports]) := by
        split
        · rfl
        · rw [areWordedStmts, exportTable_isWorded written]
          rfl
      rw [areWordedStmts, areWordedStmts, Bool.and_eq_true, Bool.and_eq_true]
      exact ⟨by decide, by decide, table⟩
    case isFalse => rfl
  rw [readPrologue, areWordedStmts_append, helpers, object]
  rfl

theorem readPrologue_isFree (l : Lowered) : ∀ s ∈ readPrologue l, s.isFree := by
  have helpers : ∀ s ∈ helpers l, s.isFree := by
    simp only [Bundle.helpers, List.forall_mem_append]
    refine ⟨⟨⟨?_, ?_⟩, ?_⟩, ?_⟩
    all_goals split <;> decide
  have object : ∀ s ∈ readObject l, s.isFree := by
    unfold readObject
    split
    case isTrue =>
      refine List.forall_mem_cons.2 ⟨rfl, List.forall_mem_cons.2 ⟨rfl, ?_⟩⟩
      split <;> simp [exportTable, Stmt.call, Stmt.isFree]
    case isFalse => exact List.forall_mem_nil _
  exact List.forall_mem_append.2 ⟨helpers, object⟩

end

/-! ## The call -/

def callText (body : String) : String := "(() => \x7b\n" ++ body ++ "\x7d)()"

theorem writesExpr_callOf {body : String} {stmts : List Stmt} (written : WritesStmts true body stmts) :
    WritesExpr (callText body) (callOf stmts) := by
  intro newline rest us _ others
  have closed : Writes true (['}', ')', '(', ')'] ++ rest)
      ([loose .closeBrace, loose .closeParen, loose .openParen, loose .closeParen] ++ us) :=
    .fixed (by decide) others
  have opens : spellsFixed newline "(() => \x7b\n".toList [loose .openParen, loose .openParen,
      loose .closeParen, tied .arrow, loose .openBrace] true := by cases newline <;> decide
  have whole : Writes newline ("(() => \x7b\n".toList ++ _) ([_, _, _, _, _] ++ _) :=
    .fixed opens (written _ _ closed)
  simpa [callText, callOf, Expr.callWith, Expr.wording, elementsWording, patternsWording] using whole

theorem callOf_isWorded {stmts : List Stmt} (worded : areWordedStmts stmts) :
    (callOf stmts).isWorded := by
  simp [callOf, Expr.callWith, Expr.isWorded, isObject, Expr.strength, Expr.mayBeCalled,
    areWordedElements, areWordedPatterns, worded]

/-! ## The path that receives a value -/

theorem declare_isWorded {kind : VarKind} {p : Pattern} {value : Expr} (fixed : isFixed kind)
    (binding : p.isBinding) (bound : p.isWorded) (worded : value.isWorded) :
    (Stmt.declare kind p value).isWorded := by
  simp [Stmt.declare, Stmt.isWorded, Pattern.isDeclarator, areWordedPatterns, Pattern.isWorded,
    fixed, binding, bound, worded]

theorem declareVar_isWorded {name : String} {value : Expr} (bound : MayBind name)
    (worded : value.isWorded) : (Stmt.declareVar name value).isWorded :=
  declare_isWorded rfl rfl (decide_eq_true bound) worded

theorem assignRest_isWorded {value e : Expr} {parts : List String} (worded : value.isWorded)
    (path : IsPath e) (part : String) : areWordedStmts (assignRest value (.dot e part) parts) := by
  induction parts generalizing e part with
  | nil => rw [assignRest, areWordedStmts, path.assignTo_isWorded worded]; rfl
  | cons next parts ih =>
      have object := (@IsPath.dot e part path).orNewObject_isWorded
      rw [assignRest, areWordedStmts, path.assignTo_isWorded object, ih path.dot next]
      rfl

theorem assignPath_isWorded {value : Expr} {path : List String} (worded : value.isWorded)
    (leads : leadsStatement (value.wording ++ [loose .semicolon]))
    (bound : ∀ first ∈ path.head?, MayBind first) : areWordedStmts (assignPath value path) := by
  match path with
  | [] => simp [assignPath, areWordedStmts, Stmt.isWorded, worded, leads]
  | [name] =>
      rw [assignPath, areWordedStmts, declareVar_isWorded (bound name rfl) worded]
      rfl
  | name :: part :: rest =>
      have first := IsPath.ident (bound name rfl)
      rw [assignPath, areWordedStmts, declareVar_isWorded (bound name rfl) first.orNewObject_isWorded,
        assignRest_isWorded worded first part]
      rfl

theorem assignRest_isFree (value : Expr) (target : Expr) (parts : List String) :
    ∀ s ∈ assignRest value target parts, s.isFree := by
  induction parts generalizing target with
  | nil => simp [assignRest, Stmt.isFree]
  | cons part parts ih => exact List.forall_mem_cons.2 ⟨rfl, ih _⟩

theorem assignPath_isFree (value : Expr) (path : List String) :
    ∀ s ∈ assignPath value path, s.isFree := by
  match path with
  | [] | [_] => simp [assignPath, Stmt.isFree, Stmt.declareVar, Stmt.declare]
  | name :: part :: rest => exact List.forall_mem_cons.2 ⟨rfl, assignRest_isFree _ _ _⟩

/-! ## The text in front of a value -/

theorem writesExpr_orNewObject {text : String} {e : Expr} (written : WritesExpr text e) :
    WritesExpr (text ++ " || \x7b\x7d") (orNewObject e) := by
  intro newline rest us ends others
  have object : Writes false ([' ', '|', '|', ' ', '{', '}'] ++ rest)
      ([loose (.binary .logicalOr), loose .openBrace, loose .closeBrace] ++ us) :=
    .fixed (by decide) others
  have whole := written newline _ _ (endsWord_cons _ (by decide)) object
  simpa [orNewObject, Expr.wording, propertiesWording] using whole

theorem writes_assignRest {text path : String} {value e : Expr} {parts : List String}
    (written : WritesExpr text value) (here : WritesExpr path e)
    (words : ∀ part ∈ parts, isWord part.toList) :
    WritesStmts true (Template.head.opening path path parts ++ (text ++ ";\n"))
      (assignRest value e parts) := by
  induction parts generalizing path e with
  | nil =>
      rw [Template.head.opening, ← String.append_assoc]
      exact .assign here written
  | cons part parts ih =>
      have next := ih (here.dot (words part List.mem_cons_self)) fun part member => words part (.tail _ member)
      have object : path ++ " = " ++ path ++ " || \x7b\x7d;\n" =
          path ++ " = " ++ (path ++ " || \x7b\x7d") ++ ";\n" := by
        simp [← String.toList_inj]
      rw [Template.head.opening, String.append_assoc, object]
      exact .append (.assign here (writesExpr_orNewObject here)) next

theorem writes_assignPath {text : String} {value : Expr} {path : List String}
    (written : WritesExpr text value) (words : ∀ part ∈ path, isWord part.toList) :
    WritesStmts true (Template.head path ++ (text ++ ";\n")) (assignPath value path) := by
  match path with
  | [] =>
      rw [Template.head, String.empty_append]
      exact .expr written
  | [name] =>
      have declared : Template.head [name] ++ (text ++ ";\n") =
          VarKind.var.text ++ " " ++ name ++ " = " ++ text ++ ";\n" := by
        simp [Template.head, Template.head.opening, VarKind.text, ← String.toList_inj]
      rw [declared]
      exact .declare .var rfl (.ident (words name List.mem_cons_self)) written
  | name :: part :: rest =>
      have word := words name List.mem_cons_self
      have first : WritesExpr name (.ident name) := .ident word
      have words' : ∀ part ∈ rest, isWord part.toList := fun part member => words part (by simp [member])
      have next := writes_assignRest written (first.dot (words part (by simp))) words'
      have declared : Template.head (name :: part :: rest) ++ (text ++ ";\n") =
          VarKind.var.text ++ " " ++ name ++ " = " ++ (name ++ " || \x7b\x7d") ++ ";\n" ++
            (Template.head.opening (name ++ "." ++ part) (name ++ "." ++ part) rest ++ (text ++ ";\n")) := by
        simp [Template.head, Template.head.opening, VarKind.text, ← String.toList_inj]
      rw [declared]
      exact .append (.declare .var rfl (.ident word) (writesExpr_orNewObject first)) next

/-! ## The whole text -/

section
variable {l : Lowered} {path : List String}

theorem mayBind_of_isPlainPath (plain : isPlainPath path) : ∀ first ∈ path.head?, MayBind first := by
  intro first head
  have reserved : ∀ word ∈ alwaysReserved ++ complainedWords ++ ["await", "eval", "arguments"],
      unbindableWords.contains word = true := by decide
  simp only [isPlainPath, Bool.and_eq_true, Option.all_eq_true, Bool.not_eq_true'] at plain
  have free := plain.2 first head
  have ne (word : String)
      (member : word ∈ alwaysReserved ++ complainedWords ++ ["await", "eval", "arguments"]) : first ≠ word := by
    rintro rfl
    rw [reserved first member] at free
    cases free
  refine ⟨fun member => ne first ?_ rfl, ne _ (by decide), ne _ (by decide)⟩
  simp only [List.mem_append, List.mem_cons, List.not_mem_nil, or_false] at member ⊢
  exact member.imp_right .inl

def enclosedText (l : Lowered) : String :=
  Template.helpers l ++ Template.exportsObject l ++ (marker ++ ";\n" ++
    if l.hasExports then "return __exports;\n" else "")

def enclosedRead (l : Lowered) : List Stmt := readPrologue l ++ markerStmt :: returnExports l

theorem text_eq (path : List String) (l : Lowered) :
    Template.text path l = Template.head path ++ (callText (enclosedText l) ++ ";\n") := by
  simp [Template.text, callText, enclosedText, ← String.toList_inj]

theorem writes_marker : WritesStmts true (marker ++ ";\n") [markerStmt] := by
  refine .fixed ?_
  rw [marker, String.toList_append]
  repeat rw [String.toList_ofList]
  decide

theorem writes_enclosedText (written : ∀ e ∈ l.exports, e.getter.isWritten) :
    WritesStmts true (enclosedText l) (enclosedRead l) := by
  have returned : WritesStmts true (if l.hasExports then "return __exports;\n" else "")
      (returnExports l) :=
    .ite (fun _ => .fixed (by rw [String.toList_ofList]; decide +kernel)) fun _ => .nil
  exact .append (writes_readPrologue written) (.append writes_marker returned)

theorem enclosedRead_isWorded (written : ∀ e ∈ l.exports, e.getter.isWritten) :
    areWordedStmts (enclosedRead l) := by
  have returned : areWordedStmts (returnExports l) := by
    unfold returnExports whereExports
    split <;> decide
  have marked : markerStmt.isWorded := by decide
  rw [enclosedRead, areWordedStmts_append, readPrologue_isWorded written, areWordedStmts, marked, returned]
  rfl

theorem readsAs_text (plain : isPlainPath path) (written : ∀ e ∈ l.exports, e.getter.isWritten) :
    ReadsAs (Template.text path l) (assignPath (callOf (enclosedRead l)) path) := by
  have words : ∀ part ∈ path, isWord part.toList = true := by
    simp only [isPlainPath, Bool.and_eq_true, List.all_eq_true] at plain
    exact plain.1
  have call := writesExpr_callOf (writes_enclosedText written)
  have worded := callOf_isWorded (enclosedRead_isWorded written)
  exact readsAs_of_writes (text_eq path l ▸ writes_assignPath call words)
    (assignPath_isWorded worded rfl (mayBind_of_isPlainPath plain)) (assignPath_isFree _ path)

def commonText (l : Lowered) : String :=
  Template.helpers l ++ Template.exportsObject l ++
    (if l.hasExports then "module.exports = __exports;\n" else "") ++ (marker ++ ";\n")

theorem readsAs_commonText (written : ∀ e ∈ l.exports, e.getter.isWritten) :
    ReadsAs (commonText l) (readPrologue l ++ assignExports l ++ [markerStmt]) := by
  have assigned : WritesStmts true (if l.hasExports then "module.exports = __exports;\n" else "")
      (assignExports l) :=
    .ite (fun _ => .fixed (by rw [String.toList_ofList]; decide +kernel)) fun _ => .nil
  have worded : areWordedStmts (assignExports l) ∧ markerStmt.isWorded := by
    refine ⟨?_, by decide⟩
    unfold assignExports whereExports
    split <;> decide
  refine readsAs_of_writes (.append (.append (writes_readPrologue written) assigned) writes_marker) ?_ ?_
  · rw [areWordedStmts_append, areWordedStmts_append, readPrologue_isWorded written, worded.1, areWordedStmts,
      worded.2]
    rfl
  · simp only [List.forall_mem_append]
    refine ⟨⟨readPrologue_isFree l, ?_⟩, by decide⟩
    unfold assignExports whereExports
    split <;> decide

end

end Enclose.Bundle
