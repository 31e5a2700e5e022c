import Enclose.Proofs.Script.RoundTrip
import Mathlib.Data.List.Forall2

/-!
# Texts that spell wordings

A text is put together from fixed text, names and strings. Each part adds its tokens to the wording
of the text after it.
-/

namespace Enclose.Script
open Enclose.Script.Parser Lexer

/-- A text spells a wording; the first argument says whether a line starts with the text. -/
def Writes (newline : Bool) (text : List Char) (ts : List Piece) : Prop :=
  ∃ ps, Spells newline text ps ∧ Laid ts ps []

def fitsWording : List Piece → List Piece → Bool
  | [], [] => true
  | t :: ts, p :: ps => t.token == p.token && (!p.newline || t.newline) && fitsWording ts ps
  | _, _ => false

theorem laid_of_fits {ts ps us rest : List Piece} (fits : fitsWording ts ps) (laid : Laid us rest []) :
    Laid (ts ++ us) (ps ++ rest) [] := by
  induction ts generalizing ps with
  | nil =>
      cases ps with
      | nil => exact laid
      | cons => cases fits
  | cons t ts ih =>
      cases ps with
      | nil => cases fits
      | cons p ps =>
          obtain ⟨t, a⟩ := t
          obtain ⟨t', n⟩ := p
          simp only [fitsWording, Bool.and_eq_true, beq_iff_eq, Bool.or_eq_true,
            Bool.not_eq_true'] at fits
          obtain ⟨⟨rfl, line⟩, fits⟩ := fits
          refine .cons (fun broken => ?_) (ih fits)
          rcases line with unbroken | loose
          · rw [unbroken] at broken
            cases broken
          · exact loose

/-- Whether a fixed text, to which other text may be joined, spells a wording, and whether a line
starts after it. -/
def spellsFixed (newline : Bool) (text : List Char) (ts : List Piece) (ended : Bool) : Bool :=
  match fixedPieces newline text.length text with
  | some (ps, ended') => ended' == ended && fitsWording ts ps
  | none => false

def marks : List (List Char × Token) :=
  [(['('], .openParen), ([')'], .closeParen), (['['], .openBracket), ([']'], .closeBracket),
    ([':', ' '], .colon), ([',', ' '], .comma), (['{', ' '], .openBrace), ([' ', '}'], .closeBrace)]

theorem spellsFixed_mark {text : List Char} {t : Token} (mark : (text, t) ∈ marks) (newline : Bool) :
    spellsFixed newline text [loose t] false := by
  have all : ∀ m ∈ marks, ∀ newline, spellsFixed newline m.1 [loose m.2] false := by
    decide +kernel
  exact all _ mark newline

namespace Writes

variable {newline : Bool} {rest : List Char} {us : List Piece} {name : String}

theorem nil : Writes newline [] [] := ⟨[], .nil newline, .nil⟩

theorem word (word : isWord name.toList) (ends : EndsWord rest) (others : Writes false rest us) :
    Writes newline (name.toList ++ rest) (loose (.word name) :: us) := by
  obtain ⟨ps, spells, laid⟩ := others
  exact ⟨_, .word word ends spells, .cons (fun _ => rfl) laid⟩

theorem member (word : isWord name.toList) (ends : EndsWord rest) (others : Writes false rest us) :
    Writes newline ('.' :: (name.toList ++ rest)) (loose .dot :: loose (.word name) :: us) := by
  obtain ⟨ps, spells, laid⟩ := others
  have named := @Spells.word false _ _ _ word ends spells
  cases chars : name.toList with
  | nil => simp [chars, isWord] at word
  | cons c others =>
      rw [chars] at named word
      have start : isWordStart c = true := by
        rw [isWord, Bool.and_eq_true] at word
        exact word.1
      exact ⟨_, .dot start named, .cons (fun _ => rfl) (.cons (fun _ => rfl) laid)⟩

theorem string (text : String) (others : Writes false rest us) :
    Writes newline ((Text.json text).toList ++ rest) (loose (.string (.ofText text)) :: us) := by
  obtain ⟨ps, spells, laid⟩ := others
  exact ⟨_, .string text spells, .cons (fun _ => rfl) laid⟩

theorem fixed {text : List Char} {ts : List Piece} {ended : Bool}
    (spells : spellsFixed newline text ts ended) (others : Writes ended rest us) :
    Writes newline (text ++ rest) (ts ++ us) := by
  unfold spellsFixed at spells
  split at spells
  case h_1 ps ended' read =>
    rw [Bool.and_eq_true, beq_iff_eq] at spells
    obtain ⟨rfl, fits⟩ := spells
    obtain ⟨qs, others, laid⟩ := others
    exact ⟨_, .fixed read others, laid_of_fits fits laid⟩
  case h_2 => cases spells

end Writes

def WritesExpr (text : String) (e : Expr) : Prop :=
  ∀ newline rest us, EndsWord rest → Writes false rest us →
    Writes newline (text.toList ++ rest) (e.wording ++ us)

def WritesPattern (text : String) (p : Pattern) : Prop :=
  ∀ newline rest us, EndsWord rest → Writes false rest us →
    Writes newline (text.toList ++ rest) (p.wording ++ us)

def WritesStmts (ended : Bool) (text : String) (stmts : List Stmt) : Prop :=
  ∀ rest us, Writes ended rest us → Writes true (text.toList ++ rest) (stmtsWording stmts ++ us)

def stmtEnd (ended : Bool) : String := if ended then ";\n" else ";"

theorem stmtsWording_append (first second : List Stmt) :
    stmtsWording (first ++ second) = stmtsWording first ++ stmtsWording second := by
  induction first with
  | nil => rfl
  | cons s first ih => rw [List.cons_append, stmtsWording, ih, stmtsWording, List.append_assoc]

theorem areWordedStmts_append (first second : List Stmt) :
    areWordedStmts (first ++ second) = (areWordedStmts first && areWordedStmts second) := by
  induction first with
  | nil => rfl
  | cons s first ih => rw [List.cons_append, areWordedStmts, ih, areWordedStmts, Bool.and_assoc]

namespace WritesExpr

variable {text inner name : String} {e e' : Expr}

theorem ident (word : isWord name.toList) : WritesExpr name (.ident name) :=
  fun _ _ _ ends others => .word word ends others

theorem string (value : String) : WritesExpr (Text.json value) (.text value) :=
  fun _ _ _ _ others => .string value others

theorem dot (object : WritesExpr text e) (word : isWord name.toList) :
    WritesExpr (text ++ "." ++ name) (.dot e name) := by
  intro newline rest us ends others
  have whole := object newline _ _ (endsWord_cons _ (by decide)) (@Writes.member false _ _ _ word ends others)
  simpa [Expr.dot, Expr.wording, PropertyKey.memberWording] using whole

theorem bracketed (opening closing : List Char) (first last : Token) (newline : Bool) {rest : List Char}
    {us : List Piece} (outer : WritesExpr text e) (within : WritesExpr inner e')
    (opens : (opening, first) ∈ marks) (closes : (closing, last) ∈ marks)
    (starts : ∀ rest, EndsWord (opening ++ rest)) (ends : ∀ rest, EndsWord (closing ++ rest)) (others : Writes false rest us) :
    Writes newline (text.toList ++ (opening ++ (inner.toList ++ (closing ++ rest))))
      (e.wording ++ loose first :: (e'.wording ++ loose last :: us)) :=
  outer _ _ _ (starts _) (.fixed (spellsFixed_mark opens false)
    (within _ _ _ (ends _) (.fixed (spellsFixed_mark closes false) others)))

theorem call (callee : WritesExpr text e) (arg : WritesExpr inner e') :
    WritesExpr (text ++ "(" ++ inner ++ ")") (.callWith e [e']) := by
  intro newline rest us _ others
  have whole := bracketed ['('] [')'] .openParen .closeParen newline callee arg
    (by simp [marks]) (by simp [marks]) (fun _ => endsWord_cons _ (by decide))
    (fun _ => endsWord_cons _ (by decide)) others
  simpa [Expr.callWith, Expr.wording, elementsWording, Element.wording] using whole

theorem index (object : WritesExpr text e) (key : WritesExpr inner e') :
    WritesExpr (text ++ "[" ++ inner ++ "]") (.member e (.computed e')) := by
  intro newline rest us _ others
  have whole := bracketed ['['] [']'] .openBracket .closeBracket newline object key
    (by simp [marks]) (by simp [marks]) (fun _ => endsWord_cons _ (by decide))
    (fun _ => endsWord_cons _ (by decide)) others
  simpa [Expr.wording, PropertyKey.memberWording] using whole

end WritesExpr

namespace WritesPattern

theorem ident {name : String} (word : isWord name.toList) : WritesPattern name (.ident name) :=
  fun _ _ _ ends others => .word word ends others

theorem shorthand {name : String} (word : isWord name.toList) :
    WritesPattern name (.shorthand name none) :=
  fun _ _ _ ends others => .word word ends others

theorem keyed {keyText text : String} {key : PropertyKey} {p : Pattern}
    (writtenKey : ∀ newline rest us, EndsWord rest → Writes false rest us →
      Writes newline (keyText.toList ++ rest) (key.wording ++ us)) (value : WritesPattern text p) :
    WritesPattern (keyText ++ ": " ++ text) (.keyed key p) := by
  intro newline rest us ends others
  have colon : Writes false ([':', ' '] ++ _) ([loose .colon] ++ _) :=
    .fixed (spellsFixed_mark (by simp [marks]) false) (value false _ _ ends others)
  have whole := writtenKey newline _ _ (endsWord_cons _ (by decide)) colon
  simpa [Pattern.wording] using whole

theorem properties {texts : List String} {ps : List Pattern}
    (written : List.Forall₂ WritesPattern texts ps) (some : ps ≠ []) {rest : List Char} {us : List Piece}
    (ends : EndsWord rest) (others : Writes false rest us) :
    Writes false ((", ".intercalate texts).toList ++ rest) (patternsWording ps ++ us) := by
  induction written with
  | nil => contradiction
  | @cons text p texts ps first written ih =>
      cases written with
      | nil => simpa [patternsWording] using first false rest us ends others
      | cons second written =>
          have comma : Writes false ([',', ' '] ++ _) ([loose .comma] ++ _) :=
            .fixed (spellsFixed_mark (by simp [marks]) false) (ih (List.cons_ne_nil _ _))
          have whole := first false _ _ (endsWord_cons _ (by decide)) comma
          simpa [patternsWording, String.toList_intercalate, List.intercalate_cons_cons] using whole

theorem object {texts : List String} {ps : List Pattern}
    (written : List.Forall₂ WritesPattern texts ps) (some : ps ≠ []) :
    WritesPattern ("\x7b " ++ ", ".intercalate texts ++ " \x7d") (.object ps) := by
  intro newline rest us _ others
  have closed : Writes false ([' ', '}'] ++ rest) ([loose .closeBrace] ++ us) :=
    .fixed (spellsFixed_mark (by simp [marks]) false) others
  have opened : Writes newline (['{', ' '] ++ _) ([loose .openBrace] ++ _) :=
    .fixed (spellsFixed_mark (by simp [marks]) newline) (properties written some (endsWord_cons _ (by decide)) closed)
  simpa [Pattern.wording] using opened

end WritesPattern

namespace WritesStmts

variable {ended : Bool} {text others : String} {first second : List Stmt}

theorem nil : WritesStmts true "" [] := fun _ _ written => written

theorem whole (written : WritesStmts ended text first) :
    Writes true text.toList (stmtsWording first) := by
  have alone := written [] [] ⟨[], .nil ended, .nil⟩
  rwa [List.append_nil, List.append_nil] at alone

theorem append (head : WritesStmts true text first) (tail : WritesStmts ended others second) :
    WritesStmts ended (text ++ others) (first ++ second) := by
  intro rest us written
  rw [String.toList_append, stmtsWording_append, List.append_assoc, List.append_assoc]
  exact head _ _ (tail _ _ written)

theorem ite {c : Prop} [Decidable c] (yes : c → WritesStmts ended text first)
    (no : ¬ c → WritesStmts ended others second) :
    WritesStmts ended (if c then text else others) (if c then first else second) := by
  by_cases h : c
  · rw [if_pos h, if_pos h]
    exact yes h
  · rw [if_neg h, if_neg h]
    exact no h

theorem fixed {s : Stmt} (spells : spellsFixed true text.toList s.wording ended) :
    WritesStmts ended text [s] := by
  intro rest us written
  rw [stmtsWording, stmtsWording, List.append_nil]
  exact .fixed spells written

variable {target : String} {e value : Expr}

theorem writes_stmtEnd {rest : List Char} {us : List Piece} (others : Writes ended rest us) :
    Writes false ((stmtEnd ended).toList ++ rest) (loose .semicolon :: us) := by
  have spells : spellsFixed false (stmtEnd ended).toList [loose .semicolon] ended := by
    cases ended <;> decide
  exact .fixed spells others

theorem endsWord_stmtEnd (ended : Bool) (rest : List Char) :
    EndsWord ((stmtEnd ended).toList ++ rest) := by
  cases ended <;> exact endsWord_cons _ (by decide)

theorem writes_value {rest : List Char} {us : List Piece} (written : WritesExpr text value)
    (others : Writes ended rest us) :
    Writes false ([' ', '=', ' '] ++ (text.toList ++ ((stmtEnd ended).toList ++ rest)))
      ([loose (.assign .assign)] ++ (value.wording ++ loose .semicolon :: us)) :=
  .fixed (by decide)
    (written false _ _ (endsWord_stmtEnd ended rest) (writes_stmtEnd others))

theorem declare (kind : VarKind) {p : Pattern} (fixed : isFixed kind) (bound : WritesPattern target p)
    (written : WritesExpr text value) :
    WritesStmts ended (kind.text ++ " " ++ target ++ " = " ++ text ++ stmtEnd ended)
      [.declare kind p value] := by
  intro rest us others
  have named := bound false _ _ (endsWord_cons _ (by decide)) (writes_value written others)
  have keyword : spellsFixed true (kind.text ++ " ").toList [loose (.word kind.text)] false := by
    cases kind <;> first | contradiction | decide
  have whole := Writes.fixed keyword named
  simpa [stmtsWording, Stmt.declare, Stmt.wording, patternsWording, Pattern.wording] using whole

theorem assign (writtenTarget : WritesExpr target e) (written : WritesExpr text value) :
    WritesStmts ended (target ++ " = " ++ text ++ stmtEnd ended) [.expr (.assignTo e value)] := by
  intro rest us others
  have whole := writtenTarget true _ _ (endsWord_cons _ (by decide)) (writes_value written others)
  have wording : (Expr.assignTo e value).wording =
      e.wording ++ loose (.assign .assign) :: value.wording := by cases e <;> rfl
  simpa [stmtsWording, Stmt.wording, wording] using whole

theorem expr (written : WritesExpr text value) :
    WritesStmts ended (text ++ stmtEnd ended) [.expr value] := by
  intro rest us others
  have whole := written true _ _ (endsWord_stmtEnd ended rest) (writes_stmtEnd others)
  simpa [stmtsWording, Stmt.wording] using whole

end WritesStmts

theorem clean?_of_writes {text : List Char} {body : List Stmt}
    (writes : Writes true text (stmtsWording body)) (worded : areWordedStmts body) (free : ∀ s ∈ body, s.isFree) :
    ∃ m, (Module.parse text).clean? = some m ∧
      m.items.map ModuleItem.unplaced = body.map .stmt := by
  obtain ⟨ps, spells, laid⟩ := writes
  exact clean?_of_wording spells laid worded free

end Enclose.Script
