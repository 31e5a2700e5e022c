import Enclose.Proofs.Bundle.Pasting
import Enclose.Proofs.Script.Lexed

/-!
# Quoted names in generated code

A name that is no word is quoted before it is pasted. The lexer reads any quoted text as one string
with that text for its value, and goes on right after it. So other names in the place of the quoted
ones change the strings of generated code and no other token (`requoted_lexed`).
-/

namespace Enclose.Script
open Enclose.Script.Parser

section
variable (f : String → String)

def StringLit.requoted (lit : StringLit) : StringLit := .ofText (f lit.value)

def Token.requoted : Token → Token
  | .string lit => .string (lit.requoted f)
  | t => t

def Parser.Piece.requoted (p : Piece) : Piece := { p with token := p.token.requoted f }

def ModuleName.requoted : ModuleName → ModuleName
  | .ident name => .ident name
  | .string lit => .string (lit.requoted f)

def ImportSpecifier.requoted : ImportSpecifier → ImportSpecifier
  | .named imported binding => .named (imported.map (·.requoted f)) binding
  | s => s

def ExportSpecifier.requoted : ExportSpecifier → ExportSpecifier
  | .namespace exported => .namespace (exported.requoted f)
  | .named original exported => .named (original.requoted f) (exported.map (·.requoted f))

def ModuleItem.requoted : ModuleItem → ModuleItem
  | .import phase specifiers source =>
    .import phase (specifiers.map (·.requoted f)) (source.requoted f)
  | .exportNamed specifiers source =>
    .exportNamed (specifiers.map (·.requoted f)) (source.map (·.requoted f))
  | .exportAll source => .exportAll (source.requoted f)
  | item => item

end

variable {f : String → String}

theorem ImportSpecifier.isNamed_requoted {s : ImportSpecifier} (named : s.IsNamed) :
    (s.requoted f).IsNamed := by
  rcases s with binding | binding | ⟨imported, binding⟩
  · exact named
  · exact named
  · rcases imported with - | (name | lit)
    · exact named
    · exact named
    · exact ⟨trivial, named.2⟩

theorem ModuleItem.isNamed_requoted {item : ModuleItem} (named : item.IsNamed) :
    (item.requoted f).IsNamed := by
  cases item with
  | «import» phase specifiers source =>
      exact List.forall_mem_map.2 fun s member => ImportSpecifier.isNamed_requoted (named s member)
  | exportNamed specifiers source =>
      cases source with
      | none =>
          refine List.forall_mem_map.2 fun s member => ?_
          obtain ⟨name, exported, rfl, word⟩ := named s member
          exact ⟨name, exported.map (·.requoted f), rfl, word⟩
      | some source => trivial
  | exportAll source => trivial
  | stmt | exportDecl | exportFunction | exportClass | exportDefault => exact named

def Requotes (f : String → String) (ts us : List Piece) : Prop := us = ts.map (·.requoted f)

theorem Requotes.append {ts us ts' us' : List Piece} (first : Requotes f ts us)
    (second : Requotes f ts' us') : Requotes f (ts ++ ts') (us ++ us') := by
  rw [Requotes, first, second, List.map_append]

theorem requotes_comma : Requotes f [loose .comma] [loose .comma] := rfl

theorem requotes_patterns {ps qs : List Pattern}
    (each : List.Forall₂ (fun p q => Requotes f p.wording q.wording) ps qs) :
    Requotes f (patternsWording ps) (patternsWording qs) := by
  induction each with
  | nil => rfl
  | @cons p q ps qs first others ih =>
      refine first.append ?_
      cases others with
      | nil => rfl
      | cons => exact requotes_comma.append ih

theorem requotes_properties {ps qs : List Property}
    (each : List.Forall₂ (fun p q => Requotes f p.wording q.wording) ps qs) :
    Requotes f (propertiesWording ps) (propertiesWording qs) := by
  induction each with
  | nil => rfl
  | @cons p q ps qs first others ih =>
      refine first.append ?_
      cases others with
      | nil => rfl
      | cons => exact requotes_comma.append ih

theorem requotes_stmts {ss rs : List Stmt}
    (each : List.Forall₂ (fun s r => Requotes f s.wording r.wording) ss rs) :
    Requotes f (stmtsWording ss) (stmtsWording rs) := by
  induction each with
  | nil => rfl
  | cons first _ ih => exact first.append ih

end Enclose.Script

namespace Enclose.Bundle
open Script Enclose.Script.Parser

variable {f : String → String} {k : Nat}

def KeepsDefault (f : String → String) : Prop := ∀ name, f name = "default" ↔ name = "default"

theorem isDefault_requoted (keeps : KeepsDefault f) (name : ModuleName) :
    (name.requoted f).isDefault = name.isDefault := by
  cases name with
  | ident => rfl
  | string lit =>
      rw [Bool.eq_iff_iff]
      simp only [ModuleName.isDefault, ModuleName.text, ModuleName.requoted, beq_iff_eq]
      exact keeps lit.value

theorem requotes_wholeImport? (keeps : KeepsDefault f) (s : ImportSpecifier) :
    Option.Rel (fun s r => Requotes f s.wording r.wording) (wholeImport? k s)
      (wholeImport? k (s.requoted f)) := by
  rcases s with binding | binding | ⟨imported, binding⟩
  · exact .some rfl
  · exact .some rfl
  · cases imported with
    | none => exact .none
    | some name =>
        simp only [wholeImport?, ImportSpecifier.requoted, Option.map_some, Option.any_some,
          isDefault_requoted keeps]
        split
        · exact .some rfl
        · exact .none

theorem requotes_namedImport? (keeps : KeepsDefault f) (s : ImportSpecifier) :
    Option.Rel (fun p q => Requotes f p.wording q.wording) (namedImport? s)
      (namedImport? (s.requoted f)) := by
  rcases s with binding | binding | ⟨imported, binding⟩
  · exact .none
  · exact .none
  · cases imported with
    | none => exact .some rfl
    | some name =>
        simp only [namedImport?, ImportSpecifier.requoted, Option.map_some, isDefault_requoted keeps]
        split
        · exact .none
        · cases name <;> exact .some rfl

theorem requotes_importStmts (keeps : KeepsDefault f) (specifiers : List ImportSpecifier)
    (source : StringLit) :
    Requotes f (stmtsWording (importStmts k specifiers source))
      (stmtsWording (importStmts k (specifiers.map (·.requoted f)) (source.requoted f))) := by
  have wholes : Requotes f (stmtsWording (specifiers.filterMap (wholeImport? k)))
      (stmtsWording ((specifiers.map (·.requoted f)).filterMap (wholeImport? k))) := by
    rw [List.filterMap_map]
    exact requotes_stmts (forall₂_filterMap fun s _ => requotes_wholeImport? keeps s)
  have names : List.Forall₂ (fun p q => Requotes f p.wording q.wording)
      (specifiers.filterMap namedImport?)
      ((specifiers.map (·.requoted f)).filterMap namedImport?) := by
    rw [List.filterMap_map]
    exact forall₂_filterMap fun s _ => requotes_namedImport? keeps s
  unfold importStmts
  rw [List.isEmpty_map]
  split
  case isTrue => rfl
  case isFalse =>
    have required : Requotes f (Stmt.declareConst (importName k) (require source)).wording
        (Stmt.declareConst (importName k) (require (source.requoted f))).wording := rfl
    simp only [stmtsWording_append]
    refine (required.append wholes).append ?_
    -- There are as many patterns as before, so the last declaration is in both texts or in neither.
    generalize specifiers.filterMap namedImport? = patterns at names ⊢
    generalize (specifiers.map (·.requoted f)).filterMap namedImport? = others at names ⊢
    cases names with
    | nil => rfl
    | cons first rest =>
        have opened : Requotes f [loose (.word "const"), loose .openBrace]
            [loose (.word "const"), loose .openBrace] := rfl
        have closed : Requotes f
            [loose .closeBrace, loose (.assign .assign), loose (.word (importName k)),
              loose .semicolon]
            [loose .closeBrace, loose (.assign .assign), loose (.word (importName k)),
              loose .semicolon] := rfl
        have whole := opened.append ((requotes_patterns (.cons first rest)).append closed)
        simpa [stmtsWording, Stmt.declare, Stmt.wording, patternsWording, Pattern.wording, Expr.wording,
          VarKind.text] using whole

theorem requotes_loadingStmts (keeps : KeepsDefault f) (item : ModuleItem) :
    Requotes f (stmtsWording (loadingStmts k item)) (stmtsWording (loadingStmts k (item.requoted f))) := by
  cases item with
  | «import» phase specifiers source => exact requotes_importStmts keeps specifiers source
  | exportNamed specifiers source => cases source <;> rfl
  | exportAll source => rfl
  | stmt | exportDecl | exportFunction | exportClass | exportDefault => rfl

/-- No name becomes an identifier, which would not be quoted as the name of a property. -/
def KeepsQuotes (f : String → String) : Prop :=
  ∀ name, Identifier.isIdentifier (f name).toList → Identifier.isIdentifier name.toList

def Getter.requoted (f : String → String) : Getter → Getter
  | .member k property =>
    .member k (if Identifier.isIdentifier property.toList then property else f property)
  | g => g

def Export.requoted (f : String → String) (e : Export) : Export :=
  ⟨f e.name, e.getter.requoted f⟩

theorem Getter.isSpelled_requoted (keeps : KeepsQuotes f) (g : Getter) :
    (g.requoted f).isSpelled = g.isSpelled := by
  cases g with
  | own | whole | default => rfl
  | member k property =>
      by_cases named : Identifier.isIdentifier property.toList
      · rw [requoted, if_pos named]
      · have unnamed : Identifier.isIdentifier (f property).toList = false :=
          Bool.eq_false_iff.2 fun named' => named (keeps property named')
        simp [requoted, isSpelled, named, unnamed]

theorem requotes_read (keeps : KeepsQuotes f) (g : Getter) :
    Requotes f g.read.wording (g.requoted f).read.wording := by
  cases g with
  | own name =>
      change Requotes f (Getter.own name).read.wording (Getter.own name).read.wording
      cases value : valueOf? name with
      | none =>
          rw [Getter.read, value]
          rfl
      | some e =>
          rw [Getter.read, value, Option.getD_some, wording_of_valueOf? value]
          rfl
  | whole | default => rfl
  | member k property =>
      by_cases named : Identifier.isIdentifier property.toList
      · simp only [Getter.requoted, if_pos named, Getter.read, Getter.expr]
        rfl
      · have unnamed : ¬Identifier.isIdentifier (f property).toList := fun named' =>
          named (keeps property named')
        simp only [Getter.requoted, if_neg named, if_neg unnamed, Getter.read, Getter.expr]
        rfl

theorem requotes_exportTable (keeps : KeepsQuotes f) (exports : List Export) :
    Requotes f (stmtsWording [exportTable exports])
      (stmtsWording [exportTable (exports.map (·.requoted f))]) := by
  have entry (e : Export) : Requotes f (getterEntry e).wording (getterEntry (e.requoted f)).wording := by
    have value := requotes_read keeps e.getter
    rw [Requotes] at value
    simp only [getterEntry, Export.requoted, Property.wording, Expr.wording, value]
    rfl
  have entries : Requotes f (propertiesWording (exports.map getterEntry))
      (propertiesWording ((exports.map (·.requoted f)).map getterEntry)) := by
    refine requotes_properties ?_
    rw [List.map_map, List.forall₂_map_left_iff, List.forall₂_map_right_iff, List.forall₂_same]
    exact fun e _ => entry e
  have opened : Requotes f
      [loose (.word "__export"), loose .openParen, loose (.word exportsName), loose .comma,
        loose .openBrace]
      [loose (.word "__export"), loose .openParen, loose (.word exportsName), loose .comma,
        loose .openBrace] := rfl
  have closed : Requotes f [loose .closeBrace, loose .closeParen, loose .semicolon]
      [loose .closeBrace, loose .closeParen, loose .semicolon] := rfl
  have whole := opened.append (entries.append closed)
  simpa [exportTable, stmtsWording, Stmt.call, Stmt.wording, Expr.callWith, Expr.wording,
    elementsWording, Element.wording] using whole

theorem Getter.passes {g : Getter} (spelled : g.isSpelled) : Passes g.text.toList := by
  have imported (k : Nat) : Passes (importName k).toList := passes_word (importName_isWord k)
  cases g with
  | own name => exact passes_word spelled
  | whole k => exact imported k
  | default k =>
      intro rest ends gap
      have closing : HasGap (')' :: rest) := .mark (by decide) gap
      have opening : HasGap ('(' :: ((importName k).toList ++ ')' :: rest)) :=
        .mark (by decide) (imported k _ (endsWord_cons _ (by decide)) closing)
      have whole := opening.word (by decide : isWord importDefaultName.toList)
        (endsWord_cons _ (by decide))
      simpa [text] using whole
  | member k property =>
      by_cases named : Identifier.isIdentifier property.toList
      · have word : isWord property.toList = true := by simpa [isSpelled, named] using spelled
        simpa [text, named] using passes_member (imported k) named word
      · intro rest ends gap
        have closing : HasGap (']' :: rest) := .mark (by decide) gap
        have opening : HasGap ('[' :: ((Text.json property).toList ++ ']' :: rest)) :=
          .mark (by decide) (.string property closing)
        simpa [text, named] using imported k _ (endsWord_cons _ (by decide)) opening

theorem Getter.hasGap {g : Getter} (own : g.write asSpelled = true) (unspelled : ¬g.isSpelled)
    (rest : List Char) : HasGap (g.text.toList ++ rest) := by
  cases g with
  | own name => exact (unspelled own).elim
  | whole | default => exact (unspelled rfl).elim
  | member k property =>
      simp only [isSpelled, Bool.or_eq_true, Bool.not_eq_true', not_or, Bool.not_eq_false,
        Bool.not_eq_true] at unspelled
      obtain ⟨named, noWord⟩ := unspelled
      have gap := hasGap_member named (HasGap.strayName named noWord rest)
      have whole := gap.word (importName_isWord k) (endsWord_cons _ (by decide))
      simpa [text, named] using whole

theorem hasGap_entry {e : Export} {rest : List Char} (gap : HasGap (e.getter.text.toList ++ rest)) :
    HasGap ((entryText e).toList ++ rest) := by
  have arrow : HasGap ('=' :: '>' :: ' ' :: (e.getter.text.toList ++ rest)) :=
    .sign (by decide) (fun newline => by cases newline <;> rfl) rfl ⟨rfl, Token.noConfusion⟩
      (.blank (by decide) gap)
  have closing : HasGap (')' :: ' ' :: '=' :: '>' :: ' ' :: (e.getter.text.toList ++ rest)) :=
    .mark (by decide) (.blank (by decide) arrow)
  have opening : HasGap ('(' :: ')' :: ' ' :: '=' :: '>' :: ' ' :: (e.getter.text.toList ++ rest)) :=
    .mark (by decide) closing
  have colon : HasGap (':' :: ' ' :: '(' :: ')' :: ' ' :: '=' :: '>' :: ' ' ::
      (e.getter.text.toList ++ rest)) := .mark (by decide) (.blank (by decide) opening)
  have whole : HasGap (' ' :: ' ' :: ((Text.json e.name).toList ++ _)) :=
    .blank (by decide) (.blank (by decide) (.string e.name colon))
  simpa [entryText] using whole

theorem hasGap_entries {exports : List Export}
    (own : ∀ e ∈ exports, e.getter.write asSpelled = true)
    (unspelled : ∃ e ∈ exports, ¬e.getter.isSpelled) (rest : List Char) :
    HasGap ((",\n".intercalate (exports.map entryText)).toList ++ rest) := by
  induction exports with
  | nil => simp at unspelled
  | cons e exports ih =>
      have first := own e List.mem_cons_self
      by_cases spelled : e.getter.isSpelled
      · obtain ⟨other, isOther, bad⟩ := unspelled
        have later : other ∈ exports := by
          rcases List.mem_cons.1 isOther with rfl | later
          · exact (bad spelled).elim
          · exact later
        cases exports with
        | nil => cases later
        | cons e' exports =>
            have gap := ih (fun e member => own e (.tail _ member)) ⟨other, later, bad⟩
            have comma : HasGap (',' :: '\n' :: _) := .mark (by decide) (.blank (by decide) gap)
            have whole := hasGap_entry (Getter.passes spelled _ (endsWord_cons _ (by decide)) comma)
            simpa [String.toList_intercalate, List.intercalate_cons_cons] using whole
      · cases exports with
        | nil => simpa using hasGap_entry (Getter.hasGap first spelled rest)
        | cons e' exports =>
            have whole := hasGap_entry (Getter.hasGap first spelled
              (",\n".toList ++ ((",\n".intercalate ((e' :: exports).map entryText)).toList ++ rest)))
            simpa [String.toList_intercalate, List.intercalate_cons_cons] using whole

theorem hasGap_tableText {exports : List Export}
    (own : ∀ e ∈ exports, e.getter.write asSpelled = true)
    (unspelled : ∃ e ∈ exports, ¬e.getter.isSpelled) (rest : List Char) :
    HasGap ((tableText exports).toList ++ rest) := by
  unfold tableText
  have brace : HasGap ('{' :: '\n' :: ((",\n".intercalate (exports.map entryText)).toList ++
      ("\n\x7d);\n".toList ++ rest))) :=
    .mark (by decide) (.blank (by decide) (hasGap_entries own unspelled _))
  have comma : HasGap (',' :: ' ' :: '{' :: _) := .mark (by decide) (.blank (by decide) brace)
  have object : HasGap ("__exports".toList ++ _) :=
    comma.word (by decide) (endsWord_cons _ (by decide))
  have opening : HasGap ('(' :: ("__exports".toList ++ _)) := .mark (by decide) object
  have whole : HasGap ("__export".toList ++ _) :=
    opening.word (by decide) (endsWord_cons _ (by decide))
  simpa using whole

theorem lexed_loadingText_requoted (keeps : KeepsDefault f) {item : ModuleItem}
    (named : item.IsNamed) (setting : Lexer.Setting) :
    ∃ ts, lexed setting (loadingText k item).toList = some ts ∧
      lexed setting (loadingText k (item.requoted f)).toList = some (ts.map (·.requoted f)) := by
  obtain ⟨ended, written⟩ := writes_loadingText (k := k) named
  obtain ⟨endedToo, requoted⟩ := writes_loadingText (k := k) (ModuleItem.isNamed_requoted (f := f) named)
  refine ⟨_, lexed_of_writes written.whole setting, ?_⟩
  rw [lexed_of_writes requoted.whole, requotes_loadingStmts keeps item, List.map_map, List.map_map]
  rfl

theorem lexed_tableText {exports : List Export} (spelled : ∀ e ∈ exports, e.getter.isSpelled)
    (some : exports ≠ []) (setting : Lexer.Setting) {rest : List Char} {us : List Piece}
    (spells : Spells true rest us) :
    lexed setting ((tableText exports).toList ++ rest) =
      .some ((stmtsWording [exportTable exports]).map Piece.token ++ us.map Piece.token) := by
  have after : Writes true rest us := ⟨us, spells, .refl us⟩
  rw [lexed_of_writes (writes_exportTable spelled some rest us after), List.map_append]

theorem lexed_tableText_requoted (keeps : KeepsQuotes f) {exports : List Export}
    (own : ∀ e ∈ exports, e.getter.write asSpelled = true) (some : exports ≠ [])
    (setting : Lexer.Setting) {rest : List Char} {us : List Piece} (spells : Spells true rest us) :
    let ts? := lexed setting (tableText exports).toList
    (ts?.isSome ↔ ∀ e ∈ exports, e.getter.isSpelled) ∧
    lexed setting ((tableText exports).toList ++ rest) = ts?.map (· ++ us.map Piece.token) ∧
    lexed setting ((tableText (exports.map (·.requoted f))).toList ++ rest) =
      ts?.map fun ts => ts.map (·.requoted f) ++ us.map Piece.token := by
  intro ts?
  by_cases spelled : ∀ e ∈ exports, e.getter.isSpelled
  · have requoted : ∀ e ∈ exports.map (·.requoted f), e.getter.isSpelled :=
      List.forall_mem_map.2 fun e member =>
        (Getter.isSpelled_requoted keeps e.getter).trans (spelled e member)
    have tokens : ts? = .some ((stmtsWording [exportTable exports]).map Piece.token) :=
      lexed_of_writes (writes_exportTable spelled some).whole setting
    rw [tokens]
    refine ⟨iff_of_true rfl spelled, lexed_tableText spelled some setting spells, ?_⟩
    rw [lexed_tableText requoted (by simpa using some) setting spells, requotes_exportTable keeps,
      Option.map_some, List.map_map, List.map_map]
    rfl
  -- A name that is pasted without quotes stays, and so does the gap in it.
  · have unspelled : ∃ e ∈ exports, ¬e.getter.isSpelled := by simpa using spelled
    obtain ⟨e, isExport, bad⟩ := unspelled
    have ownToo : ∀ e ∈ exports.map (·.requoted f), e.getter.write asSpelled = true :=
      List.forall_mem_map.2 fun e member => by
        have word := own e member
        cases getter : e.getter <;> simp_all [Export.requoted, Getter.requoted, Getter.write, asSpelled]
    have badToo : ∃ e ∈ exports.map (·.requoted f), ¬e.getter.isSpelled :=
      ⟨_, List.mem_map_of_mem isExport, (Getter.isSpelled_requoted keeps e.getter).symm ▸ bad⟩
    have none : ts? = .none := by
      have gap := hasGap_tableText own ⟨e, isExport, bad⟩ []
      rw [List.append_nil] at gap
      exact lexed_of_hasGap gap setting
    rw [none]
    exact ⟨iff_of_false (by simp) spelled,
      lexed_of_hasGap (hasGap_tableText own ⟨e, isExport, bad⟩ rest) setting,
      lexed_of_hasGap (hasGap_tableText ownToo badToo rest) setting⟩

/-- A quoted text is read as one string, and reading goes on right after it. So in the texts that are
made for the imports of a module and for the table of its exports, quoted names may be anything:
other names in their place change these strings and no other token, nor what follows the table. The
name `default` is not quoted in an import. The table has tokens at all only if the names in it that
are not quoted are words. -/
theorem requoted_lexed :
    (∀ setting newline place value rest,
      Lexer.readNext setting newline ⟨(Text.json value).toList ++ rest, place⟩ =
        ⟨.ok (some (.string ⟨value, Text.json value⟩)), place, newline, [],
          ⟨rest, place + (Text.json value).toList.length⟩⟩) ∧
    ∀ text m, (Module.parse text).clean? = some m →
      (∀ f, KeepsDefault f → ∀ k, ∀ item ∈ m.items,
        (∀ setting, ∃ ts, lexed setting (loadingText k item).toList = some ts ∧
          lexed setting (loadingText k (item.requoted f)).toList =
            some (ts.map (·.requoted f))) ∧
        ReadsAs (loadingText k (item.requoted f)) (loadingStmts k (item.requoted f))) ∧
      ∀ l, lowerItems 0 m.items = .ok l → l.exports ≠ [] →
        Template.exportsObject l = objectText ++ tableText l.exports ∧
        ∀ f, KeepsQuotes f → ∀ setting rest us, Spells true rest us →
          let ts? := lexed setting (tableText l.exports).toList
          (ts?.isSome ↔ ∀ e ∈ l.exports, e.getter.isSpelled) ∧
          lexed setting ((tableText l.exports).toList ++ rest) =
            ts?.map (· ++ us.map Piece.token) ∧
          lexed setting ((tableText (l.exports.map (·.requoted f))).toList ++ rest) =
            ts?.map fun ts => ts.map (·.requoted f) ++ us.map Piece.token := by
  refine ⟨readNext_json, fun text m clean => ?_⟩
  have named := isNamed_of_clean? clean
  refine ⟨fun f keeps k item isItem => ⟨?imports, ?reading⟩, ?exports⟩
  case imports => exact lexed_loadingText_requoted keeps (named item isItem)
  case reading => exact readsAs_loadingText (ModuleItem.isNamed_requoted (named item isItem))
  case exports =>
    intro l lowered some
    have own := exports_isSpelled named lowered
    exact ⟨exportsObject_eq some, fun f keeps setting rest us spells =>
      lexed_tableText_requoted keeps own some setting spells⟩

def breakout : String := "\"\x7d); evil(\"\u2028\\\n"

def brokenOut (name : String) : String := if name = "default" then name else breakout

def quotedSource : String :=
  "import \x7b \"a-b\" as x \x7d from \"m\"; export \x7b x as \"q r\" \x7d; " ++
    "export \x7b \"c d\" as y \x7d from \"n\";"

theorem requoted_lexed_of_breakout :
    let setting : Lexer.Setting := ⟨true, true, fun _ => false⟩
    (Lexer.readNext setting false ⟨(Text.json breakout).toList ++ ['"'], 0⟩).cursor.rest = ['"'] ∧
    ∃ (m : Module) (l : Lowered) (item : ModuleItem) (loading table : List Token),
      (Module.parse quotedSource.toList).clean? = some m ∧ lowerItems 0 m.items = .ok l ∧
      item ∈ m.items ∧
      loadingText 0 item =
        "const __import_0 = require(\"m\");\nconst \x7b \"a-b\": x \x7d = __import_0;\n" ∧
      lexed setting (loadingText 0 (item.requoted brokenOut)).toList =
        some (loading.map (·.requoted brokenOut)) ∧
      l.exports = [⟨"q r", .own "x"⟩, ⟨"y", .member 1 "c d"⟩] ∧
      lexed setting (tableText (l.exports.map (·.requoted brokenOut))).toList =
        some (table.map (·.requoted brokenOut)) := by
  intro setting
  obtain ⟨reads, quotes⟩ := requoted_lexed
  have views : (Module.parse quotedSource.toList).clean?.any fun m =>
      (lowerItems 0 m.items).toOption.any (fun l =>
        l.exports == [⟨"q r", .own "x"⟩, ⟨"y", .member 1 "c d"⟩]) &&
      m.items.any fun item => loadingText 0 item ==
        "const __import_0 = require(\"m\");\nconst \x7b \"a-b\": x \x7d = __import_0;\n" := by
    decide +kernel
  obtain ⟨m, clean, views⟩ := (Option.any_eq_true _ _).1 views
  obtain ⟨lowers, imports⟩ := Bool.and_eq_true_iff.1 views
  obtain ⟨l, lowered, exports⟩ := (Option.any_eq_true _ _).1 lowers
  obtain ⟨item, isItem, text⟩ := List.any_eq_true.1 imports
  rw [beq_iff_eq] at exports text
  have lowered : lowerItems 0 m.items = .ok l := by
    cases made : lowerItems 0 m.items <;> simp_all [Except.toOption]
  have keepsDefault : KeepsDefault brokenOut := by
    intro name
    by_cases same : name = "default"
    · simp [brokenOut, same]
    · rw [brokenOut, if_neg same]
      exact iff_of_false (by decide) same
  have keepsQuotes : KeepsQuotes brokenOut := by
    intro name named
    by_cases same : name = "default"
    · rwa [brokenOut, if_pos same] at named
    · rw [brokenOut, if_neg same] at named
      exact absurd named (by decide)
  obtain ⟨loads, tables⟩ := quotes quotedSource.toList m clean
  obtain ⟨loading, -, requotedLoading⟩ := (loads brokenOut keepsDefault 0 item isItem).1 setting
  obtain ⟨-, table⟩ := tables l lowered (by simp [exports])
  obtain ⟨has, -, requotedTable⟩ := table brokenOut keepsQuotes setting [] [] (.nil true)
  obtain ⟨ts, tokens⟩ := Option.isSome_iff_exists.1 (has.2 (by simp [exports, Getter.isSpelled]; decide))
  rw [List.append_nil, tokens, Option.map_some, List.map_nil, List.append_nil] at requotedTable
  exact ⟨by rw [reads], m, l, item, loading, ts, clean, lowered, isItem, text, requotedLoading,
    exports, requotedTable⟩

end Enclose.Bundle
