import Enclose.Proofs.Script.Tokens
import Enclose.Script.Build

/-!
# Texts as sequences of tokens

A text spells a sequence of tokens if the lexer reads them one after the other, whatever the parser
knows about the text around them. Each token comes with the information whether a line ended before
it.
-/

namespace Enclose.Script.Parser
open Lexer

structure Piece where
  token : Token
  newline : Bool

def ReadsPiece (newline : Bool) (text : List Char) (p : Piece) (rest : List Char) : Prop :=
  ∀ setting place, ∃ start stop, readNext setting newline ⟨text, place⟩ =
    ⟨.ok (some p.token), start, p.newline, [], ⟨rest, stop⟩⟩

def ReadsEnd (newline : Bool) (text : List Char) : Prop :=
  ∀ setting place, ∃ start ended stop, readNext setting newline ⟨text, place⟩ =
    ⟨.ok none, start, ended, [], ⟨[], stop⟩⟩

/-- The tokens of a text; the first argument says whether a line starts with it. -/
inductive Spells : Bool → List Char → List Piece → Prop
  | ended {newline : Bool} {text : List Char} : ReadsEnd newline text → Spells newline text []
  | next {newline : Bool} {text rest : List Char} {p : Piece} {ps : List Piece} :
      ReadsPiece newline text p rest → rest.length < text.length → Spells false rest ps →
      Spells newline text (p :: ps)

namespace Spells

variable {newline : Bool} {text rest : List Char} {ps : List Piece}

theorem nil (newline : Bool) : Spells newline [] [] :=
  .ended fun _ place => ⟨place, newline, place, rfl⟩

theorem length_le (spells : Spells newline text ps) : ps.length ≤ text.length := by
  induction spells with
  | ended _ => exact Nat.zero_le _
  | next _ shorter _ ih => exact Nat.lt_of_le_of_lt ih shorter

theorem readNext_of_blank {c : Char} (blank : isBlank c) {setting : Setting} {place : Nat}
    {token : Option Token} {start : Nat} {ended : Bool} {problems : List Problem} {cursor : Cursor}
    (read : readNext setting (newline || isLineEnd c) ⟨rest, place + 1⟩ =
      ⟨.ok token, start, ended, problems, cursor⟩) :
    readNext setting newline ⟨c :: rest, place⟩ = ⟨.ok token, start, ended, problems, cursor⟩ := by
  rw [← read]
  simp only [readNext, skipBlank_blank newline place setting.isModule blank] at read ⊢
  split
  · simp [*] at read
  · rfl

theorem blank {c : Char} (blank : isBlank c) (spells : Spells (newline || isLineEnd c) rest ps) :
    Spells newline (c :: rest) ps := by
  cases spells with
  | ended reads =>
      refine .ended fun setting place => ?_
      obtain ⟨start, ended, stop, read⟩ := reads setting (place + 1)
      exact ⟨start, ended, stop, readNext_of_blank blank read⟩
  | next reads shorter others =>
      refine .next (fun setting place => ?_) (Nat.lt_succ_of_lt shorter) others
      obtain ⟨start, stop, read⟩ := reads setting (place + 1)
      exact ⟨start, stop, readNext_of_blank blank read⟩

theorem solid {c : Char} {after : List Char} {token : Token} (solid : isBlank c = false)
    (notSlash : c ≠ '/') (kept : refusal? newline (c :: rest) = none)
    (read : ∀ setting place, ∃ stop,
      readToken setting ⟨c :: rest, place⟩ = ⟨.ok token, ⟨after, stop⟩, []⟩)
    (shorter : after.length ≤ rest.length) (spells : Spells false after ps) :
    Spells newline (c :: rest) (⟨token, newline⟩ :: ps) := by
  refine .next (fun setting place => ?_) (Nat.lt_succ_of_le shorter) spells
  obtain ⟨stop, read⟩ := read setting place
  refine ⟨place, stop, ?_⟩
  simp [readNext, skipBlank_solid newline place setting.isModule solid notSlash kept, read,
    Except.map]

theorem sign {c : Char} {token : Token} {length : Nat} (starts : StartsSign c)
    (kept : refusal? newline (c :: rest) = none)
    (sign : punctuator? (c :: rest) = some (token, length + 1))
    (spells : Spells false (rest.drop length) ps) :
    Spells newline (c :: rest) (⟨token, newline⟩ :: ps) := by
  have notSlash : c ≠ '/' := by
    rintro rfl
    exact absurd starts (by decide)
  refine solid starts.2.1 notSlash kept
    (fun setting place => ⟨_, readToken_sign setting place starts sign⟩) ?_ spells
  exact (List.drop_sublist length rest).length_le

theorem word {name : String} (word : isWord name.toList) (ends : EndsWord rest)
    (spells : Spells false rest ps) :
    Spells newline (name.toList ++ rest) (⟨.word name, newline⟩ :: ps) := by
  have token (setting place) := readToken_word setting place word ends
  rw [String.ofList_toList] at token
  cases chars : name.toList with
  | nil => simp [chars, isWord] at word
  | cons c w =>
      rw [chars] at word token
      have start : isWordStart c = true := by
        simp only [isWord, Bool.and_eq_true] at word
        exact word.1
      have foreign : IsForeign c := .inr start
      refine solid (isBlank_of_isWordStart start) (foreign.ne '/' (by decide))
        (refusal?_eq_none foreign.kept newline _) (fun setting place => ⟨_, token setting place⟩) ?_
        spells
      simp

theorem dot {c : Char} (start : isWordStart c) (spells : Spells false (c :: rest) ps) :
    Spells newline ('.' :: c :: rest) (⟨.dot, newline⟩ :: ps) := by
  have foreign : IsForeign c := .inr start
  have sign := punctuator?_dot (foreign.ne '.' (by decide)) rest
  have noStart : isWordStart '.' = false := by decide
  refine solid (by decide) (by decide) (refusal?_eq_none (by decide) _ _)
    (fun setting place => ⟨place + 1, ?_⟩) (Nat.le_refl _) spells
  simp [readToken, foreign.not_isDigit, sign, noStart, Cursor.advance]

end Spells

def hexPair (n : Nat) : List Char := [Nat.digitChar (n / 16), Nat.digitChar (n % 16)]

theorem control_escape : ∀ n < 32,
    (if n < 16 then "\\u000" ++ Text.hexDigits n else "\\u00" ++ Text.hexDigits n).toList =
        '\\' :: 'u' :: '0' :: '0' :: hexPair n ∧
      Numeral.digitValue? 16 (Nat.digitChar (n / 16)) = some (n / 16) ∧
      Numeral.digitValue? 16 (Nat.digitChar (n % 16)) = some (n % 16) := by
  decide +kernel

theorem readDigits_limit (radix : Nat) (digits : Digits) (rest : List Char) :
    readDigits radix (some digits.count) digits rest = digits := by
  cases rest <;> simp [readDigits]

theorem readEscape_control {n : Nat} (small : n < 32) (strict : Bool) (rest : List Char) :
    readEscape false strict ('u' :: '0' :: '0' :: (hexPair n ++ rest)) =
      ⟨.ok [Char.ofNat n], 5, []⟩ := by
  obtain ⟨-, high, low⟩ := control_escape n small
  have notSeparator {c : Char} {x : Nat} (digit : Numeral.digitValue? 16 c = some x) : c ≠ '_' := by
    rintro rfl
    cases digit
  have zero : Numeral.digitValue? 16 '0' = some 0 := rfl
  have value : n / 16 * 16 + n % 16 = n := Nat.div_add_mod' n 16
  have limit (digits : Digits) (full : digits.count = 4) :
      readDigits 16 (some 4) digits rest = digits := by
    rw [← full, readDigits_limit]
  have codePoint : isCodePoint n = true := by
    simp only [isCodePoint, decide_eq_true_eq]
    omega
  have notHuge : ¬ 0xFFFFFFFF < n := by omega
  have inRange : ¬ 0x10FFFF < n := by omega
  have kept (change : Problem → Problem) (chars : List Char) :
      (Except.ok chars : Except Problem _).mapError change = .ok chars := rfl
  simp [readEscape, readUnicodeEscape, hexPair, readDigits, zero, high, low, notSeparator high,
    notSeparator low, limit, value, notHuge, inRange, codePoint, separatorProblems, kept]

theorem scanString_skip {quote : Char} {strict : Bool} {start : Nat} {value : List Char}
    {problems : List Problem} (skipped rest : List Char) (place : Nat) :
    scanString quote strict start skipped.length value problems place (skipped ++ rest) =
      scanString quote strict start 0 value problems (place + skipped.length) rest := by
  induction skipped generalizing place with
  | nil => rfl
  | cons c others ih =>
      rw [List.length_cons, List.cons_append, scanString, ih]
      congr 1
      omega

theorem scanString_escape {strict : Bool} {start place : Nat} {value escaped rest : List Char}
    {c : Char} (escape : readEscape false strict (escaped ++ rest) = ⟨.ok [c], escaped.length, []⟩) :
    scanString '"' strict start 0 value [] place ('\\' :: escaped ++ rest) =
      scanString '"' strict start 0 (c :: value) [] (place + ('\\' :: escaped).length) rest := by
  rw [List.cons_append, scanString]
  simp only [escape]
  rw [if_neg (by decide), if_neg (by decide), if_true, List.map_nil, List.append_nil,
    scanString_skip]
  congr 1
  simp
  omega

theorem scanString_jsonPart (c : Char) (strict : Bool) (start : Nat) (value : List Char)
    (place : Nat) (rest : List Char) :
    scanString '"' strict start 0 value [] place ((Text.jsonPart c).toList ++ rest) =
      scanString '"' strict start 0 (c :: value) [] (place + (Text.jsonPart c).toList.length) rest := by
  unfold Text.jsonPart
  split
  case h_8 notQuote notBackslash _ _ notLineFeed notReturn _ =>
    by_cases small : c.toNat < 32
    · have text : (if c.toNat < 16 then "\\u000" ++ Text.hexDigits c.toNat
          else if c.toNat < 32 then "\\u00" ++ Text.hexDigits c.toNat
          else String.singleton c).toList = '\\' :: ('u' :: '0' :: '0' :: hexPair c.toNat) := by
        rw [← (control_escape c.toNat small).1, if_pos small]
      rw [text]
      refine scanString_escape ?_
      have escape := readEscape_control small strict rest
      rwa [Char.ofNat_toNat] at escape
    · rw [if_neg (by omega), if_neg small, String.toList_singleton, List.singleton_append,
        scanString, if_neg notQuote, if_neg (not_or.2 ⟨notLineFeed, notReturn⟩), if_neg notBackslash]
      rfl
  all_goals exact scanString_escape rfl

theorem scanString_json (text : List Char) (strict : Bool) (start : Nat) (value : List Char)
    (place : Nat) (rest : List Char) :
    scanString '"' strict start 0 value [] place
        ((text.map Text.jsonPart).flatMap String.toList ++ '"' :: rest) =
      ⟨.ok (value.reverse ++ text),
        ⟨rest, place + ((text.map Text.jsonPart).flatMap String.toList).length + 1⟩, []⟩ := by
  induction text generalizing value place with
  | nil => simp [scanString]
  | cons c others ih =>
      simp only [List.map_cons, List.flatMap_cons, List.append_assoc]
      rw [scanString_jsonPart, ih]
      simp
      omega

theorem json_toList (text : String) : (Text.json text).toList =
    '"' :: ((text.toList.map Text.jsonPart).flatMap String.toList ++ ['"']) := by
  simp [Text.json, String.toList_join]

theorem readToken_json (setting : Setting) (place : Nat) (text : String) (rest : List Char) :
    readToken setting ⟨(Text.json text).toList ++ rest, place⟩ =
      ⟨.ok (.string (.ofText text)), ⟨rest, place + (Text.json text).toList.length⟩, []⟩ := by
  have scan := scanString_json text.toList setting.strict place [] (place + 1) rest
  have raw : (Text.json text).toList = '"' :: _ := json_toList text
  generalize body : (text.toList.map Text.jsonPart).flatMap String.toList = letters at scan raw
  have stop : place + 1 + letters.length + 1 = place + (Text.json text).toList.length := by
    simp [raw]
    omega
  have written : Cursor.upTo ⟨(Text.json text).toList ++ rest, place⟩
      ⟨rest, place + (Text.json text).toList.length⟩ = Text.json text := by
    simp only [Cursor.upTo, Nat.add_sub_cancel_left, List.take_left', String.ofList_toList]
  have reads : readToken setting ⟨(Text.json text).toList ++ rest, place⟩ =
      readString setting.strict '"' ⟨(Text.json text).toList ++ rest, place⟩ := by
    rw [readToken, raw]
    rfl
  have dropped : ((Text.json text).toList ++ rest).drop 1 = letters ++ '"' :: rest := by simp [raw]
  simp only [reads, readString, dropped, scan, Scan.map, Except.map, stop, written,
    List.reverse_nil, List.nil_append, String.ofList_toList]
  rfl

theorem Spells.string {newline : Bool} {rest : List Char} {ps : List Piece} (text : String)
    (spells : Spells false rest ps) :
    Spells newline ((Text.json text).toList ++ rest)
      (⟨.string (.ofText text), newline⟩ :: ps) := by
  have token (setting place) := readToken_json setting place text rest
  rw [json_toList] at token ⊢
  refine .solid (by decide) (by decide) (refusal?_eq_none (by decide) _ _)
    (fun setting place => ⟨_, token setting place⟩) ?_ spells
  simp
  omega

/-- A sign at the start of a text and the text after it, for the signs that no text which follows
makes longer. -/
def sign? : List Char → Option (Token × List Char)
  | '(' :: rest => some (.openParen, rest)
  | ')' :: rest => some (.closeParen, rest)
  | '[' :: rest => some (.openBracket, rest)
  | ']' :: rest => some (.closeBracket, rest)
  | '{' :: rest => some (.openBrace, rest)
  | '}' :: rest => some (.closeBrace, rest)
  | ',' :: rest => some (.comma, rest)
  | ';' :: rest => some (.semicolon, rest)
  | ':' :: rest => some (.colon, rest)
  | '?' :: ' ' :: rest => some (.question, ' ' :: rest)
  | '!' :: '=' :: '=' :: rest => some (.binary .strictNotEqual, rest)
  | '!' :: 'O' :: rest => some (.bang, 'O' :: rest)
  | '=' :: '>' :: rest => some (.arrow, rest)
  | '=' :: ' ' :: rest => some (.assign .assign, ' ' :: rest)
  | '|' :: '|' :: ' ' :: rest => some (.binary .logicalOr, ' ' :: rest)
  | '&' :: '&' :: ' ' :: rest => some (.binary .logicalAnd, ' ' :: rest)
  | '.' :: c :: rest => if isWordStart c then some (.dot, c :: rest) else none
  | _ => none

theorem refusal?_inLine {c : Char} (ne : c ≠ '<') (rest : List Char) :
    refusal? false (c :: rest) = none := by
  unfold refusal?
  split
  case h_1 h =>
    cases h
    exact absurd rfl ne
  case h_2 => rfl
  case h_3 => rfl

theorem Spells.sign? {newline : Bool} {text after rest : List Char} {token : Token}
    {ps : List Piece} (read : sign? text = some (token, after))
    (kept : newline = true → ∀ c ∈ text.head?, c ∉ refusedStarts)
    (spells : Spells false (after ++ rest) ps) :
    Spells newline (text ++ rest) (⟨token, newline⟩ :: ps) := by
  have kept {c : Char} {others : List Char} (head : text.head? = some c) (notTag : c ≠ '<') :
      refusal? newline (c :: others) = none := by
    cases newline with
    | true => exact refusal?_eq_none (kept rfl c head) _ _
    | false => exact refusal?_inLine notTag _
  unfold Parser.sign? at read
  split at read
  case h_17 =>
    split at read <;> cases read
    exact .dot ‹_› spells
  case h_18 => cases read
  all_goals
    cases read
    exact .sign (by decide) (kept rfl (by decide)) rfl spells

def isLetter (c : Char) : Bool := c.isAlpha || c == '_'

theorem jsonPart_of_isLetter {c : Char} (letter : isLetter c) :
    Text.jsonPart c = String.singleton c := by
  unfold Text.jsonPart
  split
  case h_8 =>
    have large : 32 ≤ c.toNat := by
      refine Nat.le_of_not_lt fun small => ?_
      have control := forall_char_between (isLetter · = false) 0 32 (by decide +kernel)
        (Nat.zero_le c.toNat) (by omega)
      rw [letter] at control
      cases control
    rw [if_neg (by omega), if_neg (by omega)]
  all_goals cases letter

theorem json_of_letters {letters : List Char} (plain : letters.all isLetter) :
    (Text.json (String.ofList letters)).toList = '"' :: (letters ++ ['"']) := by
  have parts : (letters.map Text.jsonPart).flatMap String.toList = letters := by
    induction letters with
    | nil => rfl
    | cons c letters ih =>
        rw [List.all_cons, Bool.and_eq_true] at plain
        simp [jsonPart_of_isLetter plain.1, ih plain.2]
  rw [json_toList, String.toList_ofList, parts]

def quoted? : List Char → Option (String × List Char)
  | '"' :: rest =>
    match rest.dropWhile isLetter with
    | '"' :: after => some (String.ofList (rest.takeWhile isLetter), after)
    | _ => none
  | _ => none

theorem Spells.quoted? {newline : Bool} {text after rest : List Char} {value : String}
    {ps : List Piece} (read : quoted? text = some (value, after))
    (spells : Spells false (after ++ rest) ps) :
    Spells newline (text ++ rest) (⟨.string (.ofText value), newline⟩ :: ps) := by
  unfold Parser.quoted? at read
  split at read
  case h_1 letters =>
    split at read
    case h_1 closed =>
      cases read
      have whole := List.takeWhile_append_dropWhile (p := isLetter) (l := letters)
      have string := @Spells.string newline _ _ (String.ofList (letters.takeWhile isLetter)) spells
      rw [json_of_letters List.all_takeWhile] at string
      rw [closed] at whole
      generalize letters.takeWhile isLetter = word at whole string ⊢
      subst whole
      simpa using string
    case h_2 => cases read
  case h_2 => cases read

/-- The tokens of a text of words, strings and signs to which other text may be joined, and whether
a line ends after the last of them. -/
def fixedPieces (newline : Bool) : Nat → List Char → Option (List Piece × Bool)
  | _, [] => some ([], newline)
  | 0, _ => none
  | fuel + 1, c :: rest =>
    if isBlank c then fixedPieces (newline || isLineEnd c) fuel rest
    else if isWordStart c then
      let after := rest.dropWhile isWordPart
      if after.head?.all (· == '\\') then none
      else
        (fixedPieces false fuel after).map fun (ps, ended) =>
          (⟨.word (String.ofList (c :: rest.takeWhile isWordPart)), newline⟩ :: ps, ended)
    else if newline && refusedStarts.contains c then none
    else
      match sign? (c :: rest), quoted? (c :: rest) with
      | some (token, after), _ =>
        (fixedPieces false fuel after).map fun (ps, ended) => (⟨token, newline⟩ :: ps, ended)
      | none, some (value, after) =>
        (fixedPieces false fuel after).map fun (ps, ended) =>
          (⟨.string (.ofText value), newline⟩ :: ps, ended)
      | none, none => none

theorem Spells.fixed {newline ended : Bool} {fuel : Nat} {text rest : List Char}
    {ps others : List Piece} (fixed : fixedPieces newline fuel text = some (ps, ended))
    (spells : Spells ended rest others) : Spells newline (text ++ rest) (ps ++ others) := by
  induction fuel generalizing newline text ps with
  | zero =>
      cases text with
      | nil => cases fixed; exact spells
      | cons c text => cases fixed
  | succ fuel ih =>
      cases text with
      | nil => cases fixed; exact spells
      | cons c text =>
          simp only [fixedPieces] at fixed
          split at fixed
          case isTrue blank => exact .blank blank (ih fixed)
          split at fixed
          case isTrue start =>
            split at fixed
            case isTrue => cases fixed
            rename_i boundary
            obtain ⟨⟨ps, ended⟩, read, same⟩ := Option.map_eq_some_iff.1 fixed
            cases same
            -- A word goes on as far as it can. It ends inside `text`, unless `rest` begins a new
            -- token.
            have word : isWord (String.ofList (c :: text.takeWhile isWordPart)).toList = true := by
              rw [String.toList_ofList, isWord, start, Bool.true_and]
              exact List.all_takeWhile
            have ends : EndsWord (text.dropWhile isWordPart ++ rest) := by
              cases after : text.dropWhile isWordPart with
              | nil => simp [after] at boundary
              | cons d others =>
                  rintro _ ⟨⟩
                  have stop := List.head?_dropWhile_not isWordPart text
                  rw [after] at stop
                  exact ⟨stop, by simpa [after] using boundary⟩
            have spelled := @Spells.word newline _ _ _ word ends (ih read)
            rw [String.toList_ofList, List.cons_append, ← List.append_assoc,
              List.takeWhile_append_dropWhile] at spelled
            exact spelled
          split at fixed
          case isTrue => cases fixed
          rename_i kept
          split at fixed
          case h_1 token after _ sign =>
            obtain ⟨⟨ps, ended⟩, read, same⟩ := Option.map_eq_some_iff.1 fixed
            cases same
            refine .sign? sign ?_ (ih read)
            rintro rfl d ⟨⟩ refused
            simp [refused] at kept
          case h_2 value after _ quoted =>
            obtain ⟨⟨ps, ended⟩, read, same⟩ := Option.map_eq_some_iff.1 fixed
            cases same
            exact .quoted? quoted (ih read)
          case h_3 => cases fixed

end Enclose.Script.Parser
