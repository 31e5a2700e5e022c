import Enclose.Proofs.Script.Tokens

/-!
# The words of a text without complaints

A word that the lexer reads without complaint has the letters of one, also where some of them are
escaped (`isWord_of_scanWord`). As long as the parser has nothing to complain about, the tokens that
it looks at are therefore words of such letters or no words (`State.IsSpelled`).
-/

namespace Enclose.Script.Lexer
open Enclose.Script.Parser

def Scan.Gives {α : Type} (s : Scan α) (P : α → Prop) : Prop :=
  ∀ a, s.result = .ok a → s.problems = [] → P a

theorem Scan.Gives.andThen {α β : Type} {s : Scan α} {next : α → Cursor → Scan β} {P : β → Prop}
    (gives : ∀ a cursor, s.result = .ok a → s.problems = [] → (next a cursor).Gives P) :
    (s.andThen next).Gives P := by
  intro b
  unfold Scan.andThen
  cases result : s.result with
  | error p => nofun
  | ok a =>
      intro ok clean
      obtain ⟨first, second⟩ := List.append_eq_nil_iff.1 clean
      exact gives a s.cursor result first b ok second

theorem isWord_append {letters : List Char} {c : Char} (word : isWord letters) (part : isWordPart c) :
    isWord (letters ++ [c]) := by
  cases letters with
  | nil => cases word
  | cons d letters =>
      simp only [isWord, Bool.and_eq_true, List.cons_append, List.all_append, List.all_cons,
        List.all_nil, Bool.and_true] at word ⊢
      exact ⟨word.1, word.2, part⟩

theorem readUnicodeEscape_ok {rest chars : List Char}
    (ok : (readUnicodeEscape rest).result = .ok chars) :
    ∃ c others, chars = c :: others ∧ (others = [] ∨ c = '\\') := by
  have text (braced : Bool) (body : List Char) (value consumed : Nat) :
      ∃ c others, (if isCodePoint value then ([Char.ofNat value], consumed)
        else surrogateText braced body).1 = c :: others ∧ (others = [] ∨ c = '\\') := by
    split
    · exact ⟨_, [], rfl, .inl rfl⟩
    · unfold surrogateText
      cases braced <;> exact ⟨'\\', _, rfl, .inr rfl⟩
  unfold readUnicodeEscape at ok
  extract_lets braced body first digits problems shape stop range at ok
  have stands := text braced body digits.value digits.consumed
  by_cases wrong : (if braced then digits.count = 0 else digits.count ≠ 4) ∨ 0xFFFFFFFF < digits.value
  · rw [if_pos wrong] at ok
    cases ok
  rw [if_neg wrong] at ok
  split at ok
  case isTrue => cases ok
  dsimp only at ok
  generalize (if isCodePoint digits.value then _ else _ : List Char × Nat) = given at ok stands
  split at ok
  case isTrue =>
    cases ok
    exact stands
  split at ok
  case isTrue =>
    cases ok
    exact stands
  case isFalse => cases ok

theorem scanWord_clean {skip : Nat} {escaped : Bool} {letters : List Char}
    {problems : List Problem} {place : Nat} {text : List Char}
    (clean : (scanWord skip escaped letters problems place text).problems = []) : problems = [] := by
  fun_induction scanWord skip escaped letters problems place text with
  | case1 => exact clean
  | case2 _ _ _ _ _ _ _ ih => exact ih clean
  | case3 _ _ _ _ _ _ _ ih => exact ih clean
  | case4 => exact (List.append_eq_nil_iff.1 clean).1
  | case5 escaped letters problems place digits escape before chars result fits problems' _ ih =>
      have later := ih clean
      simp only [problems', before] at later
      split at later <;> simp_all
  | case6 => exact clean
  | case7 => exact clean

theorem isWord_of_scanWord {skip : Nat} {escaped : Bool} {letters : List Char}
    {problems : List Problem} {place : Nat} {text : List Char}
    (begun : isWord letters.reverse ∨
      letters = [] ∧ skip = 0 ∧ ∃ c rest, text = c :: rest ∧ (isWordStart c ∨ c = '\\')) :
    (scanWord skip escaped letters problems place text).Gives fun w => isWord w.1 := by
  fun_induction scanWord skip escaped letters problems place text with
  | case1 =>
      rintro _ ⟨⟩ -
      obtain word | ⟨-, -, c, rest, ⟨⟩, -⟩ := begun
      exact word
  | case2 _ _ _ _ _ _ _ ih =>
      obtain word | ⟨-, none, -⟩ := begun
      · exact ih (.inl word)
      · cases none
  | case3 escaped letters problems place c rest part ih =>
      refine ih (.inl ?_)
      rw [List.reverse_cons]
      obtain word | ⟨rfl, -, _, _, ⟨⟩, start | rfl⟩ := begun
      · exact isWord_append word part
      · simpa [isWord] using start
      · exact absurd part (by decide)
  | case4 => rintro _ ⟨⟩
  | case5 escaped letters problems place digits escape before chars result fits problems' _ ih =>
      intro w ok clean
      have later := scanWord_clean clean
      obtain ⟨c, others, rfl, alone⟩ := readUnicodeEscape_ok result
      -- A letter that does not fit is complained of, also where it is escaped.
      have fit : fits c = true := by
        by_cases fit : fits c = true
        · exact fit
        · simp [problems', fit] at later
      -- An escape that is no character stands for its own text, and the `\` it starts with never
      -- fits.
      have notEscape : c ≠ '\\' := by
        rintro rfl
        simp only [fits] at fit
        split at fit <;> exact absurd fit (by decide)
      obtain rfl : others = [] := alone.resolve_right notEscape
      refine ih (.inl ?_) w ok clean
      rw [List.reverse_append, List.reverse_reverse]
      obtain word | ⟨rfl, -⟩ := begun
      · have part : isWordPart c = true := by
          cases letters with
          | nil => cases word
          | cons => exact fit
        exact isWord_append word part
      · have start : isWordStart c = true := fit
        simpa [isWord] using start
  | case6 => rintro _ ⟨⟩
  | case7 escaped letters problems place c rest noPart noEscape =>
      rintro _ ⟨⟩ -
      obtain word | ⟨rfl, -, _, _, ⟨⟩, start | rfl⟩ := begun
      · exact word
      · exact absurd (isWordPart_of_isWordStart start) noPart
      · exact absurd rfl noEscape

end Enclose.Script.Lexer

namespace Enclose.Script

def Token.IsSpelled : Token → Prop
  | .word name => isWord name.toList
  | _ => True

namespace Lexer

variable {cursor start : Cursor}

theorem Scan.Gives.prepend {α : Type} {s : Scan α} {P : α → Prop} (gives : s.Gives P)
    (problems : List Problem) : Scan.Gives { s with problems := problems ++ s.problems } P :=
  fun a ok clean => gives a ok (List.append_eq_nil_iff.1 clean).2

theorem Scan.Gives.map {α β : Type} {s : Scan α} {P : β → Prop} {f : α → β} (all : ∀ a, P (f a)) :
    (s.map f).Gives P := by
  intro b ok
  unfold Scan.map at ok
  cases result : s.result with
  | error p =>
      rw [result] at ok
      cases ok
  | ok a =>
      rw [result] at ok
      cases ok
      exact fun _ => all a

theorem endNumber_gives (start stop : Cursor) : (endNumber start stop).Gives Token.IsSpelled := by
  unfold endNumber
  split
  · nofun
  · rintro _ ⟨⟩ -
    trivial

theorem readRadixNumber_gives (radix : Nat) (cursor : Cursor) :
    (readRadixNumber radix cursor).Gives Token.IsSpelled := by
  refine .andThen fun digits stop _ _ => ?_
  split
  · rintro _ ⟨⟩ -
    trivial
  · exact endNumber_gives _ _

theorem readExponent_gives (start cursor : Cursor) :
    (readExponent start cursor).Gives Token.IsSpelled := by
  unfold readExponent
  split
  case h_1 | h_2 =>
    split
    · nofun
    · exact .andThen fun _ _ _ _ => endNumber_gives _ _
  case h_3 => exact endNumber_gives _ _

theorem readFraction_gives (start cursor : Cursor) :
    (readFraction start cursor).Gives Token.IsSpelled := by
  unfold readFraction
  split
  · exact (readExponent_gives _ _).prepend _
  · exact readExponent_gives _ _

theorem readDecimal_gives (strict : Bool) (cursor : Cursor) :
    (readDecimal strict cursor).Gives Token.IsSpelled := by
  refine .andThen fun digits stop _ _ => ?_
  dsimp only
  split
  · rintro _ ⟨⟩ -
    trivial
  split
  · split
    · exact (readFraction_gives _ _).prepend _
    · split
      · exact (endNumber_gives _ _).prepend _
      · exact endNumber_gives _ _
  · exact readFraction_gives _ _

theorem readNumber_gives (strict : Bool) (cursor : Cursor) :
    (readNumber strict cursor).Gives Token.IsSpelled := by
  unfold readNumber
  split
  all_goals first
    | exact readRadixNumber_gives _ _
    | exact readFraction_gives _ _
    | exact readDecimal_gives _ _

theorem readString_gives (strict : Bool) (quote : Char) (cursor : Cursor) :
    (readString strict quote cursor).Gives Token.IsSpelled :=
  .map fun _ => trivial

theorem punctuator?_isSpelled {text : List Char} {token : Token} {length : Nat}
    (sign : punctuator? text = some (token, length)) : token.IsSpelled := by
  unfold punctuator? at sign
  split at sign <;> cases sign <;> trivial

theorem readRegex_gives (cursor : Cursor) : (readRegex cursor).Gives Token.IsSpelled := by
  unfold readRegex
  split
  · nofun
  · dsimp only
    split
    · exact .map fun _ => trivial
    · rintro _ ⟨⟩ -
      trivial

theorem readWord_gives {reserved : String → Bool} {cursor : Cursor} {c : Char} {rest : List Char}
    (here : cursor.rest = c :: rest) (starts : isWordStart c ∨ c = '\\') :
    (readWord reserved cursor).Gives Token.IsSpelled := by
  refine .andThen fun letters stop ok clean => ?_
  have word : isWord letters.1 :=
    isWord_of_scanWord (.inr ⟨rfl, rfl, c, rest, here, starts⟩) letters ok clean
  dsimp only
  split
  · nofun
  · rintro _ ⟨⟩ -
    rwa [Token.IsSpelled, String.toList_ofList]

theorem readToken_gives (setting : Setting) (cursor : Cursor) :
    (readToken setting cursor).Gives Token.IsSpelled := by
  unfold readToken
  split
  case h_1 => nofun
  case h_2 c rest here =>
    split
    case isTrue => exact readString_gives _ _ _
    split
    case isTrue => exact readNumber_gives _ _
    split
    case isTrue starts => exact readWord_gives here (by simpa using starts)
    split
    case h_1 token length sign =>
      rintro _ ⟨⟩ -
      exact punctuator?_isSpelled sign
    case h_2 => nofun

theorem readNext_isSpelled {setting : Setting} {newline : Bool} {cursor : Cursor} {token : Token}
    (result : (readNext setting newline cursor).result = .ok (some token))
    (clean : (readNext setting newline cursor).problems = []) : token.IsSpelled := by
  unfold readNext at result clean
  dsimp only at result clean
  cases failure : (skipBlank setting.isModule .space { newline } cursor.place cursor.rest).1.failure with
  | some p =>
      rw [failure] at result
      cases result
  | none =>
      simp only [failure] at result clean
      split at result
      case isTrue => cases result
      case isFalse more =>
        simp only [if_neg more] at clean
        cases read : (readToken setting
            (skipBlank setting.isModule .space { newline } cursor.place cursor.rest).2).result with
        | error p =>
            rw [read] at result
            cases result
        | ok token =>
            rw [read] at result
            cases result
            exact readToken_gives _ _ token read (List.append_eq_nil_iff.1 clean).2

end Lexer

namespace Parser

def Slot.IsSpelled (slot : Slot) : Prop := ∀ l, slot = .token l → l.token.IsSpelled

namespace State

variable {s t : State}

structure IsSpelled (s : State) : Prop where
  current : s.current.IsSpelled
  ahead : s.ahead.IsSpelled

theorem read_isSpelled (clean : s.read.2.problems = []) : s.read.1.IsSpelled := by
  rintro l here
  unfold read at here clean
  split at here
  case h_1 slash regex =>
    cases result : (Lexer.readRegex slash).result with
    | ok token =>
        simp only [regex, result] at here clean
        cases here
        exact Lexer.readRegex_gives _ token result (by simpa using (List.append_eq_nil_iff.1 clean).1)
    | error => simp only [result] at here; cases here
  case h_2 regex =>
    dsimp only at here
    split at here
    case h_1 token result =>
      simp only [regex, result] at here clean
      cases here
      exact Lexer.readNext_isSpelled result (by simpa using (List.append_eq_nil_iff.1 clean).1)
    case h_2 => cases here
    case h_3 => cases here

theorem IsSpelled.leads (spelled : s.IsSpelled) (leads : s.Leads t) : t.IsSpelled := by
  induction leads with
  | stay same => exact ⟨same.current ▸ spelled.current, same.ahead ▸ spelled.ahead⟩
  | trans _ _ first second => exact second (first spelled)
  | @read s _ _ clean =>
      obtain ⟨-, ahead, -⟩ := s.read_frame
      exact ⟨read_isSpelled clean, ahead ▸ spelled.ahead⟩
  | @readAhead s _ _ clean =>
      obtain ⟨current, -, -⟩ := s.read_frame
      exact ⟨current ▸ spelled.current, read_isSpelled clean⟩
  | shift => exact ⟨spelled.ahead, nofun⟩
  | take | rereadSlash | openTemplate => exact ⟨nofun, spelled.ahead⟩
  | template _ _ current ahead => exact ⟨current ▸ spelled.current, ahead ▸ spelled.ahead⟩

end State

end Parser

end Enclose.Script
