import Enclose.Proofs.Script.Written

/-!
# Reading a text to its end

The tokens of a text are those that the lexer reads one after the other, if it has nothing to
complain about. A text that spells tokens has these (`lexed_of_spells`), and one with a gap has none
(`lexed_of_hasGap`). A quoted text is one token, whatever is in it (`readNext_json`).
-/

namespace Enclose.Script.Parser
open Lexer

def lexedFrom (setting : Setting) : Nat → Bool → Cursor → Option (List Token)
  | 0, _, _ => none
  | fuel + 1, newline, cursor =>
    let reading := readNext setting newline cursor
    match reading.problems, reading.result with
    | [], .ok none => some []
    | [], .ok (some token) => (lexedFrom setting fuel false reading.cursor).map (token :: ·)
    | _, _ => none

def lexed (setting : Setting) (text : List Char) : Option (List Token) :=
  lexedFrom setting (text.length + 1) true ⟨text, 0⟩

theorem lexedFrom_of_spells {newline : Bool} {text : List Char} {ps : List Piece}
    (spells : Spells newline text ps) (setting : Setting) {fuel : Nat} (enough : text.length < fuel)
    (place : Nat) :
    lexedFrom setting fuel newline ⟨text, place⟩ = some (ps.map Piece.token) := by
  induction spells generalizing fuel place with
  | ended reads =>
      obtain ⟨fuel, rfl⟩ := Nat.exists_eq_succ_of_ne_zero (Nat.ne_zero_of_lt enough)
      obtain ⟨start, ended, stop, read⟩ := reads setting place
      simp [lexedFrom, read]
  | next reads shorter _ ih =>
      obtain ⟨fuel, rfl⟩ := Nat.exists_eq_succ_of_ne_zero (Nat.ne_zero_of_lt enough)
      obtain ⟨start, stop, read⟩ := reads setting place
      simp [lexedFrom, read, ih (by omega : _ < fuel) stop]

theorem lexed_of_spells {text : List Char} {ps : List Piece} (spells : Spells true text ps)
    (setting : Setting) : lexed setting text = some (ps.map Piece.token) :=
  lexedFrom_of_spells spells setting (Nat.lt_succ_self _) 0

theorem readNext_json (setting : Setting) (newline : Bool) (place : Nat) (value : String)
    (rest : List Char) :
    readNext setting newline ⟨(Text.json value).toList ++ rest, place⟩ =
      ⟨.ok (some (.string ⟨value, Text.json value⟩)), place, newline, [],
        ⟨rest, place + (Text.json value).toList.length⟩⟩ := by
  have token := readToken_json setting place value rest
  rw [json_toList] at token ⊢
  generalize (value.toList.map Text.jsonPart).flatMap String.toList ++ ['"'] = letters at token ⊢
  have solid := skipBlank_solid newline place setting.isModule (by decide) (by decide)
    (refusal?_eq_none (by decide : '"' ∉ refusedStarts) newline (letters ++ rest))
  rw [List.cons_append] at token ⊢
  simp only [readNext, solid, token, Except.map]
  rfl

theorem lexedFrom_of_unreadable {cursor : Cursor} (unreadable : Unreadable cursor)
    (setting : Setting) (fuel : Nat) (newline : Bool) :
    lexedFrom setting fuel newline cursor = none := by
  induction unreadable generalizing fuel newline with
  | here fails =>
      obtain ⟨p, fails⟩ := fails setting newline
      cases fuel with
      | zero => rfl
      | succ fuel => simp [lexedFrom, fails]
  | later _ result next _ ih =>
      cases fuel with
      | zero => rfl
      | succ fuel =>
          simp only [lexedFrom, result setting newline, next setting newline, ih, Option.map_none]
          split <;> simp_all

theorem lexed_of_hasGap {text : List Char} (gap : HasGap text) (setting : Setting) :
    lexed setting text = none :=
  lexedFrom_of_unreadable (gap 0) setting _ true

theorem HasGap.string (value : String) {rest : List Char} (gap : HasGap rest) :
    HasGap ((Text.json value).toList ++ rest) := by
  intro place
  have read := fun setting newline => readNext_json setting newline place value rest
  have ordinary : IsOrdinary (.string ⟨value, Text.json value⟩) := ⟨rfl, Token.noConfusion⟩
  refine .later ordinary (fun setting newline => ?_) (fun setting newline => ?_)
    (gap (place + (Text.json value).toList.length))
  · exact congrArg Reading.result (read setting newline)
  · exact congrArg Reading.cursor (read setting newline)

end Enclose.Script.Parser

namespace Enclose.Script
open Enclose.Script.Parser

theorem Laid.tokens {ts ps rest : List Piece} (laid : Laid ts ps rest) :
    ps.map Piece.token = ts.map Piece.token ++ rest.map Piece.token := by
  induction laid with
  | nil => rfl
  | cons _ _ ih => rw [List.map_cons, ih, List.map_cons, List.cons_append]

theorem Laid.refl (ps : List Piece) : Laid ps ps [] := by
  induction ps with
  | nil => exact .nil
  | cons p ps ih => exact .cons id ih

theorem lexed_of_writes {text : List Char} {ts : List Piece} (writes : Writes true text ts)
    (setting : Lexer.Setting) : lexed setting text = some (ts.map Piece.token) := by
  obtain ⟨ps, spells, laid⟩ := writes
  rw [lexed_of_spells spells, laid.tokens, List.map_nil, List.append_nil]

end Enclose.Script
