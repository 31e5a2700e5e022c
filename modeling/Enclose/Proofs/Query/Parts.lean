import Enclose.Proofs.Query.Spelling
import Enclose.Proofs.Text.Replacement

/-!
# The parts of a query

A query is cut at bytes that are characters by themselves, so that each part is a text again, and no
part has an influence on another. What is found in two queries joined by `&` is found in the first
of them that has it (`firstValue_append`). A value is not longer than the query, however much of it is
replaced when it is decoded (`length_firstValue_le`).
-/

namespace Enclose.Query

variable {query name value : List Char}

theorem fields_append (first second : List UInt8) :
    fields (first ++ 0x26 :: second) = fields first ++ fields second := by
  rw [fields, splitBytes_append, List.filter_append, List.map_append, ← fields, ← fields]

theorem firstValue_append (first second name : List Char) :
    firstValue (first ++ '&' :: second) name =
      (firstValue first name).or (firstValue second name) := by
  have encoded : Utf8.encode (first ++ '&' :: second) =
      Utf8.encode first ++ 0x26 :: Utf8.encode second := by
    rw [Utf8.encode_append, Utf8.encode_cons]
    rfl
  rw [firstValue, encoded, fields_append, List.find?_append, Option.map_or]
  rfl

def IsPart (part bytes : List UInt8) : Prop :=
  part.Sublist bytes ∧ ∃ text, part = Utf8.encode text

theorem not_mem_utf8EncodeChar {c : Char} {b : UInt8} (ascii : b < 0x80)
    (other : String.utf8EncodeChar c ≠ [b]) : b ∉ String.utf8EncodeChar c :=
  fun isIn => other (Utf8.utf8EncodeChar_of_mem isIn ascii).2

theorem splitBytes_prefix {separator : UInt8} {bytes rest piece : List UInt8}
    {pieces : List (List UInt8)} (whole : separator ∉ bytes)
    (split : splitBytes separator rest = piece :: pieces) :
    splitBytes separator (bytes ++ rest) = (bytes ++ piece) :: pieces := by
  induction bytes with
  | nil => exact split
  | cons b bytes ih =>
      rw [List.mem_cons, not_or] at whole
      rw [List.cons_append, splitBytes_cons (ih whole.2), if_neg (Ne.symm whole.1), List.cons_append]

theorem isPart_of_mem_splitBytes {separator : UInt8} (ascii : separator < 0x80) (text : List Char) :
    ∀ piece ∈ splitBytes separator (Utf8.encode text), IsPart piece (Utf8.encode text) := by
  induction text with
  | nil => exact List.forall_mem_singleton.2 ⟨List.Sublist.refl _, [], rfl⟩
  | cons c rest ih =>
      obtain ⟨first, others, split⟩ :=
        List.exists_cons_of_ne_nil (splitBytes_ne_nil separator (Utf8.encode rest))
      rw [split, List.forall_mem_cons] at ih
      obtain ⟨⟨within, text, rfl⟩, later⟩ := ih
      have wider {piece : List UInt8} (inside : piece.Sublist (Utf8.encode rest)) :
          piece.Sublist (Utf8.encode (c :: rest)) := by
        rw [Utf8.encode_cons]
        exact inside.trans (List.sublist_append_right _ _)
      have goesOn : ∀ piece ∈ others, IsPart piece (Utf8.encode (c :: rest)) :=
        fun piece isIn => ⟨wider (later piece isIn).1, (later piece isIn).2⟩
      by_cases separates : String.utf8EncodeChar c = [separator]
      · have pieces : splitBytes separator (Utf8.encode (c :: rest)) =
            [] :: Utf8.encode text :: others := by
          rw [Utf8.encode_cons, separates, List.singleton_append, splitBytes_cons split, if_pos rfl]
        rw [pieces]
        exact List.forall_mem_cons.2 ⟨⟨List.nil_sublist _, [], rfl⟩,
          List.forall_mem_cons.2 ⟨⟨wider within, text, rfl⟩, goesOn⟩⟩
      · have pieces : splitBytes separator (Utf8.encode (c :: rest)) =
            Utf8.encode (c :: text) :: others := by
          rw [Utf8.encode_cons, Utf8.encode_cons,
            splitBytes_prefix (not_mem_utf8EncodeChar ascii separates) split]
        rw [pieces]
        refine List.forall_mem_cons.2 ⟨⟨?_, c :: text, rfl⟩, goesOn⟩
        rw [Utf8.encode_cons, Utf8.encode_cons]
        exact within.append_left _

theorem isPart_splitField (field : List Char) :
    IsPart (splitField (Utf8.encode field)).2 (Utf8.encode field) := by
  refine ⟨(List.drop_sublist _ _).trans (List.dropWhile_sublist _), ?_⟩
  induction field with
  | nil => exact ⟨[], rfl⟩
  | cons c rest ih =>
      by_cases equals : String.utf8EncodeChar c = [0x3D]
      · refine ⟨rest, ?_⟩
        rw [Utf8.encode_cons, equals]
        rfl
      · obtain ⟨text, same⟩ := ih
        refine ⟨text, ?_⟩
        have passed : ∀ b ∈ String.utf8EncodeChar c, decide (b ≠ 0x3D) = true := fun b isIn =>
          decide_eq_true fun same => not_mem_utf8EncodeChar (by decide) equals (same ▸ isIn)
        rw [← same, splitField, splitField, Utf8.encode_cons, List.dropWhile_append_of_pos passed]

theorem lt_of_hexDigit? {b : UInt8} {d : Nat} (digit : hexDigit? b = some d) : b < 0x80 := by
  simp only [hexDigit?, UInt8.le_iff_toNat_le, UInt8.lt_iff_toNat_lt, UInt8.reduceToNat] at digit ⊢
  split_ifs at digit <;> omega

theorem lt_of_escapedByte? {high low b : UInt8} (escape : escapedByte? high low = some b) :
    high < 0x80 ∧ low < 0x80 := by
  obtain ⟨h, highDigit, escape⟩ := Option.bind_eq_some_iff.1 escape
  obtain ⟨l, lowDigit, -⟩ := Option.bind_eq_some_iff.1 escape
  exact ⟨lt_of_hexDigit? highDigit, lt_of_hexDigit? lowDigit⟩

theorem unescape_percent (bytes : List UInt8) :
    unescape (0x25 :: bytes) = 0x25 :: unescape bytes ∨
      ∃ high low rest b, bytes = high :: low :: rest ∧ high < 0x80 ∧ low < 0x80 ∧
        unescape (0x25 :: bytes) = b :: unescape rest := by
  match bytes with
  | [] | [_] => exact .inl rfl
  | high :: low :: rest =>
      cases escape : escapedByte? high low with
      | none =>
          rw [unescape, escape]
          exact .inl rfl
      | some b =>
          obtain ⟨isHigh, isLow⟩ := lt_of_escapedByte? escape
          refine .inr ⟨high, low, rest, b, rfl, isHigh, isLow, ?_⟩
          rw [unescape, escape]

theorem encode_eq_cons {text : List Char} {b : UInt8} {more : List UInt8} (ascii : b < 0x80)
    (starts : Utf8.encode text = b :: more) :
    ∃ c rest, text = c :: rest ∧ c.utf8Size = 1 ∧ Utf8.encode rest = more := by
  cases text with
  | nil => cases starts
  | cons c rest =>
      obtain ⟨lead, others, encoded, -⟩ := Utf8.utf8EncodeChar_eq_cons c
      rw [Utf8.encode_cons, encoded, List.cons_append, List.cons.injEq] at starts
      obtain ⟨rfl, tail⟩ := starts
      have alone := (Utf8.utf8EncodeChar_of_mem (encoded ▸ List.mem_cons_self) ascii).2
      have size := congrArg List.length alone
      rw [String.length_utf8EncodeChar, List.length_singleton] at size
      rw [encoded, List.cons.injEq] at alone
      rw [alone.2, List.nil_append] at tail
      exact ⟨c, rest, rfl, size, tail⟩

theorem costs_unescape (text : List Char) :
    ∃ n, Utf8.Costs (unescape (Utf8.encode text)) n ∧ n ≤ Utf8.length text := by
  match text with
  | [] => exact ⟨0, .nil, Nat.zero_le _⟩
  | c :: rest =>
      obtain ⟨n, costs, bound⟩ := costs_unescape rest
      have kept (same : unescape (Utf8.encode (c :: rest)) =
          String.utf8EncodeChar c ++ unescape (Utf8.encode rest)) :
          ∃ n, Utf8.Costs (unescape (Utf8.encode (c :: rest))) n ∧ n ≤ Utf8.length (c :: rest) :=
        ⟨c.utf8Size + n, same ▸ costs.char c, Nat.add_le_add_left bound _⟩
      -- An escape gives one byte for three, and all that a stray byte may be replaced by fits into
      -- those.
      by_cases percent : c = '%'
      · subst percent
        have encoded : Utf8.encode ('%' :: rest) = 0x25 :: Utf8.encode rest := by
          rw [Utf8.encode_cons]
          rfl
        rcases unescape_percent (Utf8.encode rest) with
          stays | ⟨high, low, others, b, digits, isHigh, isLow, escaped⟩
        · exact kept (by rw [encoded, stays]; rfl)
        · obtain ⟨h, afterHigh, rfl, highSize, lowDigit⟩ := encode_eq_cons isHigh digits
          obtain ⟨l, afterLow, rfl, lowSize, rfl⟩ := encode_eq_cons isLow lowDigit
          obtain ⟨m, costs, bound⟩ := costs_unescape afterLow
          refine ⟨m + 3, by rw [encoded, escaped]; exact costs.byte b, ?_⟩
          have percentSize : '%'.utf8Size = 1 := rfl
          simp only [Utf8.length_cons, percentSize, highSize, lowSize]
          omega
      · have noEscape : 0x25 ∉ String.utf8EncodeChar c := by
          refine not_mem_utf8EncodeChar (by decide) fun alone => percent ?_
          have isIn : (0x25 : UInt8) ∈ String.utf8EncodeChar c := alone ▸ List.mem_cons_self
          exact Char.toNat_inj.1 (Utf8.utf8EncodeChar_of_mem isIn (by decide)).1
        exact kept (by rw [Utf8.encode_cons, unescape_append noEscape])

theorem map_spaced_encode (text : List Char) :
    ∃ other, (Utf8.encode text).map spaced = Utf8.encode other ∧
      Utf8.length other = Utf8.length text := by
  induction text with
  | nil => exact ⟨[], rfl, rfl⟩
  | cons c rest ih =>
      obtain ⟨other, same, size⟩ := ih
      by_cases plus : String.utf8EncodeChar c = [0x2B]
      · have one : c.utf8Size = 1 := by rw [← String.length_utf8EncodeChar, plus]; rfl
        refine ⟨' ' :: other, ?_, ?_⟩
        · rw [Utf8.encode_cons, Utf8.encode_cons, List.map_append, same, plus]
          rfl
        · rw [Utf8.length_cons, Utf8.length_cons, size, one]
          rfl
      · refine ⟨c :: other, ?_, by rw [Utf8.length_cons, Utf8.length_cons, size]⟩
        rw [Utf8.encode_cons, Utf8.encode_cons, List.map_append, same,
          map_spaced (not_mem_utf8EncodeChar (by decide) plus)]

theorem length_decodeText_le (text : List Char) :
    Utf8.length (decodeText (Utf8.encode text)) ≤ Utf8.length text := by
  obtain ⟨other, same, size⟩ := map_spaced_encode text
  obtain ⟨n, costs, bound⟩ := costs_unescape other
  rw [decodeText, same, ← size]
  exact (Utf8.length_decode_le costs).trans bound

theorem length_firstValue_le (found : firstValue query name = some value) :
    Utf8.length value ≤ Utf8.length query := by
  obtain ⟨field, isField, rfl⟩ := Option.map_eq_some_iff.1 found
  obtain ⟨piece, isPiece, rfl⟩ := List.mem_map.1 (List.mem_of_find?_eq_some isField)
  obtain ⟨within, text, rfl⟩ :=
    isPart_of_mem_splitBytes (by decide) query piece (List.mem_filter.1 isPiece).1
  obtain ⟨inside, valueText, same⟩ := isPart_splitField text
  have shorter := (inside.trans within).length_le
  rw [same, Utf8.length_encode, Utf8.length_encode] at shorter
  exact same ▸ (length_decodeText_le valueText).trans shorter

end Enclose.Query
