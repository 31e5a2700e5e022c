import Enclose.Identifier
import Enclose.Proofs.Script.Reading

/-!
# Text that starts with blank characters, words and signs

How the next token is read from a text whose first characters are known. A character of a name that
is no character of a word is no token and belongs to none (`HasGap.stray`, `HasGap.strayName`).
-/

namespace Enclose.Script.Parser
open Lexer

theorem forall_char_between (P : Char → Prop) (low count : Nat)
    (all : ∀ n < count, P (Char.ofNat (low + n))) {c : Char} (above : low ≤ c.toNat)
    (below : c.toNat < low + count) : P c := by
  have here := all (c.toNat - low) (by omega)
  rwa [Nat.add_sub_cancel' above, Char.ofNat_toNat] at here

def Separates (c : Char) : Prop := isWordStart c = false ∧ Identifier.continuesName c = false

instance (c : Char) : Decidable (Separates c) := inferInstanceAs (Decidable (_ ∧ _))

theorem separates_of_isBlank {c : Char} (blank : isBlank c) : Separates c := by
  simp only [isBlank, Bool.or_eq_true, beq_iff_eq, decide_eq_true_eq] at blank
  rcases blank with (((((((((((h | h) | h) | h) | h) | h) | h) | h) | h) | h) | h) | h)
  · subst h; decide +kernel
  · exact forall_char_between Separates 9 5 (by decide +kernel) h.1 (by omega)
  · subst h; decide +kernel
  · subst h; decide +kernel
  · subst h; decide +kernel
  · exact forall_char_between Separates 0x2000 11 (by decide +kernel) h.1 (by omega)
  all_goals subst h; decide +kernel

/-- The first character of a line that may have to be passed over. -/
def refusedStarts : List Char := ['<', '>', '|', '=', '-']

theorem refusal?_eq_none {c : Char} (kept : c ∉ refusedStarts) (lineStart : Bool)
    (rest : List Char) : refusal? lineStart (c :: rest) = none := by
  have markers : conflictMarkers.any (·.isPrefixOf (c :: rest)) = false := by
    rw [List.any_eq_false]
    intro marker member
    -- Each marker starts with a refused character, which `c` is not.
    have first : (conflictMarkers.all fun marker => marker.head?.any refusedStarts.contains) = true := by
      decide +kernel
    have starts := List.all_eq_true.1 first marker member
    obtain ⟨d, head, refused⟩ := (Option.any_eq_true _ _).1 starts
    have refused : d ∈ refusedStarts := List.contains_iff_mem.1 refused
    obtain ⟨others, rfl⟩ := List.head?_eq_some_iff.1 head
    have ne : d ≠ c := fun same => kept (same ▸ refused)
    simp [List.isPrefixOf, ne]
  have arrow : ['-', '-', '>'].isPrefixOf (c :: rest) = false := by
    have ne : '-' ≠ c := fun same => kept (same ▸ by decide)
    simp [List.isPrefixOf, ne]
  unfold refusal?
  split
  case h_1 h =>
    cases h
    exact absurd (by decide) kept
  case h_2 h =>
    cases h
    simp [arrow, markers]
  case h_3 => rfl

variable (setting : Setting) (newline : Bool) (place : Nat)

theorem skipBlank_solid (isModule : Bool) {c : Char} {rest : List Char} (solid : isBlank c = false)
    (notSlash : c ≠ '/') (kept : refusal? newline (c :: rest) = none) :
    skipBlank isModule .space { newline } place (c :: rest) =
      ({ newline }, ⟨c :: rest, place⟩) := by
  unfold skipBlank
  split
  case h_1 h | h_2 h =>
    cases h
    exact absurd rfl notSlash
  case h_3 h =>
    cases h
    simp [solid, kept]
  all_goals contradiction

theorem skipBlank_blank (isModule : Bool) {c : Char} (blank : isBlank c) (rest : List Char) :
    skipBlank isModule .space { newline } place (c :: rest) =
      skipBlank isModule .space { newline := newline || isLineEnd c } (place + 1) rest := by
  rw [skipBlank.eq_def]
  split
  case h_1 h | h_2 h =>
    cases h
    exact absurd blank (by decide)
  case h_3 h =>
    cases h
    simp [blank, Blank.pass]
  all_goals contradiction

theorem readNext_solid {c : Char} {rest : List Char} (solid : isBlank c = false)
    (notSlash : c ≠ '/') (kept : refusal? newline (c :: rest) = none) :
    (readNext setting newline ⟨c :: rest, place⟩).result =
        (readToken setting ⟨c :: rest, place⟩).result.map some ∧
      (readNext setting newline ⟨c :: rest, place⟩).cursor =
        (readToken setting ⟨c :: rest, place⟩).cursor := by
  simp [readNext, skipBlank_solid newline place setting.isModule solid notSlash kept]

theorem readNext_blank {c : Char} (blank : isBlank c) (rest : List Char) :
    (readNext setting newline ⟨c :: rest, place⟩).result =
        (readNext setting (newline || isLineEnd c) ⟨rest, place + 1⟩).result ∧
      (readNext setting newline ⟨c :: rest, place⟩).cursor =
        (readNext setting (newline || isLineEnd c) ⟨rest, place + 1⟩).cursor := by
  simp only [readNext, skipBlank_blank newline place setting.isModule blank]
  split
  · exact ⟨rfl, rfl⟩
  · split <;> exact ⟨rfl, rfl⟩

def IsForeign (c : Char) : Prop := 128 ≤ c.toNat ∨ isWordStart c = true

theorem IsForeign.ne {c : Char} (foreign : IsForeign c) (d : Char)
    (sign : d.toNat < 128 ∧ isWordStart d = false) : c ≠ d := by
  rintro rfl
  rcases foreign with large | start
  · omega
  · simp [sign.2] at start

theorem IsForeign.not_isDigit {c : Char} (foreign : IsForeign c) : c.isDigit = false := by
  rw [Bool.eq_false_iff]
  intro digit
  simp only [Char.isDigit, Bool.and_eq_true, decide_eq_true_eq] at digit
  have sign := forall_char_between (fun d => d.toNat < 128 ∧ isWordStart d = false) 48 10
    (by decide +kernel) digit.1 (Nat.lt_succ_of_le digit.2)
  exact foreign.ne c sign rfl

theorem IsForeign.kept {c : Char} (foreign : IsForeign c) : c ∉ refusedStarts := by
  intro refused
  have signs : (refusedStarts.all fun d => decide (d.toNat < 128) && !isWordStart d) = true := by
    decide +kernel
  have sign := List.all_eq_true.1 signs c refused
  exact foreign.ne c (by simpa using sign) rfl

def EndsWord (text : List Char) : Prop := ∀ c ∈ text.head?, isWordPart c = false ∧ c ≠ '\\'

theorem endsWord_cons {c : Char} (rest : List Char)
    (separates : isWordPart c = false ∧ c ≠ '\\') : EndsWord (c :: rest) := by
  rintro _ ⟨⟩
  exact separates

theorem scanWord_append {w rest : List Char} (all : ∀ c ∈ w, isWordPart c = true)
    (ends : EndsWord rest) (escaped : Bool) (letters : List Char) (problems : List Problem) :
    scanWord 0 escaped letters problems place (w ++ rest) =
      ⟨.ok (letters.reverse ++ w, escaped), ⟨rest, place + w.length⟩, problems⟩ := by
  induction w generalizing letters place with
  | nil =>
      cases rest with
      | nil => simp [scanWord]
      | cons c others =>
          obtain ⟨notPart, notEscape⟩ := ends c rfl
          simp [scanWord, notPart, notEscape]
  | cons c w ih =>
      have part : isWordPart c = true := all c List.mem_cons_self
      have others := ih (place + 1) (fun d member => all d (List.mem_cons_of_mem c member))
        (c :: letters)
      rw [List.cons_append, scanWord.eq_def]
      simp [part, others]
      omega

theorem isWordPart_of_isWordStart {c : Char} (start : isWordStart c) : isWordPart c := by
  simp only [isWordStart, Bool.or_eq_true, beq_iff_eq] at start
  rcases start with (rfl | rfl) | start
  · decide
  · decide
  · have continues : Unicode.isIdContinue c = true := by
      unfold Unicode.isIdStart at start
      unfold Unicode.isIdContinue
      split <;> simp_all [Char.isAlphanum]
    simp [isWordPart, continues]

theorem readToken_word {w rest : List Char} (word : isWord w) (ends : EndsWord rest) :
    readToken setting ⟨w ++ rest, place⟩ =
      ⟨.ok (.word (String.ofList w)), ⟨rest, place + w.length⟩, []⟩ := by
  cases w with
  | nil => contradiction
  | cons c w =>
      simp only [isWord, Bool.and_eq_true, List.all_eq_true] at word
      obtain ⟨start, parts⟩ := word
      have foreign : IsForeign c := .inr start
      have noDot : (c == '.') = false := beq_eq_false_iff_ne.2 (foreign.ne '.' (by decide))
      have notQuote : ¬ (c = '"' ∨ c = '\'') := by
        rintro (same | same)
        · exact foreign.ne '"' (by decide) same
        · exact foreign.ne '\'' (by decide) same
      have all : ∀ d ∈ c :: w, isWordPart d = true := by
        intro d member
        rcases List.mem_cons.1 member with rfl | member
        · exact isWordPart_of_isWordStart start
        · exact parts d member
      simp only [readToken, List.cons_append, notQuote, foreign.not_isDigit, noDot, start,
        if_false, Bool.false_and, Bool.or_self, Bool.true_or, if_true, readWord]
      have scan := scanWord_append place all ends false [] []
      simp only [List.cons_append, List.reverse_nil, List.nil_append] at scan
      rw [scan]
      simp [Scan.andThen]

theorem isBlank_of_isWordStart {c : Char} (start : isWordStart c) : isBlank c = false := by
  rw [Bool.eq_false_iff]
  intro blank
  simp [(separates_of_isBlank blank).1] at start

theorem readNext_word {w rest : List Char} (word : isWord w) (ends : EndsWord rest) :
    (readNext setting newline ⟨w ++ rest, place⟩).result =
        .ok (some (.word (String.ofList w))) ∧
      (readNext setting newline ⟨w ++ rest, place⟩).cursor = ⟨rest, place + w.length⟩ := by
  have token := readToken_word setting place word ends
  cases w with
  | nil => contradiction
  | cons c w =>
      have start : isWordStart c = true := by
        simp only [isWord, Bool.and_eq_true] at word
        exact word.1
      have foreign : IsForeign c := .inr start
      obtain ⟨sameResult, sameCursor⟩ := readNext_solid setting newline place
        (isBlank_of_isWordStart start) (foreign.ne '/' (by decide))
        (refusal?_eq_none foreign.kept newline (w ++ rest))
      rw [List.cons_append] at token ⊢
      rw [sameResult, sameCursor, token]
      exact ⟨rfl, rfl⟩

def HasGap (text : List Char) : Prop := ∀ place, Unreadable ⟨text, place⟩

theorem HasGap.blank {c : Char} (blank : isBlank c) {rest : List Char} (gap : HasGap rest) :
    HasGap (c :: rest) := by
  intro place
  have same := fun setting newline => readNext_blank setting newline place blank rest
  cases gap (place + 1) with
  | here fails =>
      refine .here fun setting newline => ?_
      rw [(same setting newline).1]
      exact fails setting _
  | later ordinary result cursor next =>
      refine .later ordinary (fun setting newline => ?_) (fun setting newline => ?_) next
      · rw [(same setting newline).1]
        exact result setting _
      · rw [(same setting newline).2]
        exact cursor setting _

theorem HasGap.token {c : Char} {rest next : List Char} {token : Token} (solid : isBlank c = false)
    (notSlash : c ≠ '/') (kept : ∀ newline, refusal? newline (c :: rest) = none)
    (ordinary : IsOrdinary token)
    (read : ∀ place, ∃ stop, ∀ setting,
      (readToken setting ⟨c :: rest, place⟩).result = .ok token ∧
        (readToken setting ⟨c :: rest, place⟩).cursor = ⟨next, stop⟩)
    (gap : HasGap next) : HasGap (c :: rest) := by
  intro place
  obtain ⟨stop, reads⟩ := read place
  have same := fun setting newline =>
    readNext_solid setting newline place solid notSlash (kept newline)
  refine .later ordinary (fun setting newline => ?_) (fun setting newline => ?_) (gap stop)
  · rw [(same setting newline).1, (reads setting).1]
    rfl
  · rw [(same setting newline).2, (reads setting).2]

theorem HasGap.word {w rest : List Char} (word : isWord w) (ends : EndsWord rest)
    (gap : HasGap rest) : HasGap (w ++ rest) := by
  intro place
  have ordinary : IsOrdinary (.word (String.ofList w)) := ⟨rfl, Token.noConfusion⟩
  exact .later ordinary (fun setting newline => (readNext_word setting newline place word ends).1)
    (fun setting newline => (readNext_word setting newline place word ends).2) (gap _)

def StartsSign (c : Char) : Prop :=
  c.isDigit = false ∧ isBlank c = false ∧ isWordStart c = false ∧
    c ∉ ['/', '"', '\'', '\\', '.']

instance (c : Char) : Decidable (StartsSign c) := inferInstanceAs (Decidable (_ ∧ _))

theorem readToken_sign {c : Char} {rest : List Char} {token : Token} {length : Nat}
    (starts : StartsSign c) (sign : punctuator? (c :: rest) = some (token, length)) :
    readToken setting ⟨c :: rest, place⟩ =
      ⟨.ok token, ⟨(c :: rest).drop length, place + length⟩, []⟩ := by
  obtain ⟨noDigit, -, noStart, others⟩ := starts
  simp only [List.mem_cons, List.not_mem_nil, or_false, not_or] at others
  simp [readToken, noDigit, noStart, others, sign, Cursor.advance]

theorem HasGap.sign {c : Char} {rest : List Char} {token : Token} {length : Nat}
    (starts : StartsSign c) (kept : ∀ newline, refusal? newline (c :: rest) = none)
    (sign : punctuator? (c :: rest) = some (token, length)) (ordinary : IsOrdinary token)
    (gap : HasGap ((c :: rest).drop length)) : HasGap (c :: rest) := by
  have notSlash : c ≠ '/' := by
    rintro rfl
    exact absurd starts (by decide)
  refine .token starts.2.1 notSlash kept ordinary (fun place => ⟨place + length, ?_⟩) gap
  intro setting
  rw [readToken_sign setting place starts sign]
  exact ⟨rfl, rfl⟩

theorem HasGap.mark {c : Char} {rest : List Char}
    (mark : c ∈ ['(', ')', '[', ']', '{', '}', ',', ';', ':']) (gap : HasGap rest) :
    HasGap (c :: rest) := by
  simp only [List.mem_cons, List.not_mem_nil, or_false] at mark
  rcases mark with rfl | rfl | rfl | rfl | rfl | rfl | rfl | rfl | rfl
  all_goals
    exact .sign (by decide) (refusal?_eq_none (by decide) · _) rfl ⟨rfl, Token.noConfusion⟩ gap

theorem punctuator?_dot {c : Char} (ne : c ≠ '.') (rest : List Char) :
    punctuator? ('.' :: c :: rest) = some (.dot, 1) := by
  unfold punctuator?
  split
  case h_10 h =>
    cases h
    exact absurd rfl ne
  case h_11 => rfl
  case h_60 =>
    exact absurd rfl (‹∀ tail, '.' :: c :: rest = '.' :: tail → False› (c :: rest))
  all_goals
    rename_i h
    cases h

theorem HasGap.dot {c : Char} {rest : List Char} (foreign : IsForeign c) (gap : HasGap (c :: rest)) :
    HasGap ('.' :: c :: rest) := by
  have sign := punctuator?_dot (foreign.ne '.' (by decide)) rest
  have ordinary : IsOrdinary .dot := ⟨rfl, Token.noConfusion⟩
  have noStart : isWordStart '.' = false := by decide
  refine .token (by decide) (by decide) (refusal?_eq_none (by decide) · _) ordinary
    (fun place => ⟨place + 1, fun setting => ?_⟩) gap
  simp [readToken, foreign.not_isDigit, sign, noStart, Cursor.advance]

/-- A character of a name, outside of the ASCII range, that starts no word. -/
structure IsStray (c : Char) : Prop where
  large : 128 ≤ c.toNat
  named : Identifier.continuesName c = true
  noStart : isWordStart c = false

theorem punctuator?_eq_none {c : Char} (large : 128 ≤ c.toNat) (rest : List Char) :
    punctuator? (c :: rest) = none := by
  unfold punctuator?
  split <;> first
    | rfl
    | (rename_i h
       cases h
       exact absurd large (by decide))

theorem HasGap.stray {c : Char} (stray : IsStray c) (rest : List Char) : HasGap (c :: rest) := by
  intro place
  have foreign : IsForeign c := .inl stray.large
  have ne (d : Char) (small : d.toNat < 128) : c ≠ d := by
    rintro rfl
    exact absurd stray.large (by omega)
  have solid : isBlank c = false := by
    rw [Bool.eq_false_iff]
    intro blank
    simpa [stray.named] using (separates_of_isBlank blank).2
  refine .here fun setting newline => ?_
  rw [(readNext_solid setting newline place solid (ne '/' (by decide))
    (refusal?_eq_none foreign.kept newline rest)).1]
  simp [readToken, ne '"' (by decide), ne '\'' (by decide), ne '.' (by decide),
    ne '\\' (by decide), foreign.not_isDigit, stray.noStart, punctuator?_eq_none stray.large,
    Except.map]

theorem isWordStart_of_ascii {c : Char} (named : Identifier.startsName c) (ascii : c.toNat < 128) :
    isWordStart c = true :=
  forall_char_between (fun d => Identifier.startsName d → isWordStart d = true) 0 128
    (by decide +kernel) (Nat.zero_le c.toNat) ((Nat.zero_add 128).symm ▸ ascii) named

theorem isWordPart_of_ascii {c : Char} (named : Identifier.continuesName c) (ascii : c.toNat < 128) :
    isWordPart c = true :=
  forall_char_between (fun d => Identifier.continuesName d → isWordPart d = true) 0 128
    (by decide +kernel) (Nat.zero_le c.toNat) ((Nat.zero_add 128).symm ▸ ascii) named

theorem isStray_of_startsName {c : Char} (named : Identifier.startsName c)
    (noStart : isWordStart c = false) : IsStray c := by
  refine ⟨?_, ?_, noStart⟩
  · refine Nat.le_of_not_lt fun small => ?_
    simp [isWordStart_of_ascii named small] at noStart
  · simp only [Identifier.startsName, Bool.or_eq_true] at named
    simp only [Identifier.continuesName, Bool.or_eq_true]
    exact named.imp_right Unicode.isAlphanumeric_of_isAlphabetic

theorem isStray_of_continuesName {c : Char} (named : Identifier.continuesName c)
    (noPart : isWordPart c = false) : IsStray c := by
  refine ⟨?_, named, ?_⟩
  · refine Nat.le_of_not_lt fun small => ?_
    simp [isWordPart_of_ascii named small] at noPart
  · rw [Bool.eq_false_iff]
    intro start
    simp [isWordPart_of_isWordStart start] at noPart

theorem HasGap.strayName {name : List Char} (named : Identifier.isIdentifier name)
    (noWord : isWord name = false) (rest : List Char) : HasGap (name ++ rest) := by
  cases name with
  | nil => contradiction
  | cons c others =>
      simp only [Identifier.isIdentifier, Bool.and_eq_true, List.all_eq_true] at named
      obtain ⟨⟨starts, continues⟩, -⟩ := named
      cases start : isWordStart c with
      | false => exact .stray (isStray_of_startsName starts start) _
      | true =>
          -- The word ends at the first character that is no part of one.
          have stops : (others.find? (!isWordPart ·)).isSome := by
            simpa [isWord, start] using noWord
          obtain ⟨d, found⟩ := Option.isSome_iff_exists.1 stops
          obtain ⟨noPart, before, after, rfl, parts⟩ := List.find?_eq_some_iff_append.1 found
          simp only [Bool.not_eq_eq_eq_not, Bool.not_true, Bool.not_not] at noPart parts
          have stray : IsStray d := isStray_of_continuesName (continues d (by simp)) noPart
          have word : isWord (c :: before) := by simpa [isWord, start] using parts
          have ends : EndsWord (d :: (after ++ rest)) := by
            rintro _ ⟨⟩
            refine ⟨noPart, ?_⟩
            rintro rfl
            exact absurd stray.large (by decide)
          simpa using HasGap.word word ends (.stray stray _)

end Enclose.Script.Parser
