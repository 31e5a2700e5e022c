import Enclose.Proofs.Text.Utf8
import Enclose.Query
import Mathlib.Data.List.TakeWhile
import Mathlib.Tactic.IntervalCases

/-!
# Every spelling of a query is decoded

A list of fields can be spelled as a query in many ways. All of them are decoded as that list
(`fields_eq`): a separator that is part of a key or a value is never spelled as itself, each
character is decoded to its bytes whichever way it is spelled, and bytes that encode a text are
decoded as that text. So the first field with a key is found (`firstValue_spelling`).
-/

namespace Enclose.Query

def HexDigit (d : Nat) (c : Char) : Prop := c = Nat.digitChar d ∨ c = (Nat.digitChar d).toUpper

inductive Escapes : List UInt8 → List Char → Prop where
  | nil : Escapes [] []
  | cons {b : UInt8} {high low : Char} {bytes : List UInt8} {text : List Char} :
    HexDigit (b.toNat / 16) high → HexDigit (b.toNat % 16) low → Escapes bytes text →
    Escapes (b :: bytes) ('%' :: high :: low :: text)

/-- A text spells a character of a key or of a value: as itself if it has no other meaning there, by
escapes for its bytes, or a space by a plus sign. -/
inductive SpellsChar (inKey : Bool) : Char → List Char → Prop where
  | itself {c : Char} : c ≠ '&' → c ≠ '+' → c ≠ '%' → (inKey = true → c ≠ '=') →
    SpellsChar inKey c [c]
  | escaped {c : Char} {text : List Char} : Escapes (String.utf8EncodeChar c) text →
    SpellsChar inKey c text
  | plus : SpellsChar inKey ' ' ['+']

inductive SpellsText (inKey : Bool) : List Char → List Char → Prop where
  | nil : SpellsText inKey [] []
  | cons {c : Char} {rest first others : List Char} : SpellsChar inKey c first →
    SpellsText inKey rest others → SpellsText inKey (c :: rest) (first ++ others)

/-- A text spells a field. The sign between the key and an empty value may be missing, if the key is
not empty. -/
inductive SpellsField : List Char × List Char → List Char → Prop where
  | joined {key value keyText valueText : List Char} : SpellsText true key keyText →
    SpellsText false value valueText →
    SpellsField (key, value) (keyText ++ '=' :: valueText)
  | bare {key keyText : List Char} : key ≠ [] → SpellsText true key keyText →
    SpellsField (key, []) keyText

/-- Pieces spell fields in order. Empty pieces in between mean nothing. -/
inductive SpellsFields : List (List Char × List Char) → List (List Char) → Prop where
  | nil : SpellsFields [] []
  | empty {fields : List (List Char × List Char)} {pieces : List (List Char)} :
    SpellsFields fields pieces → SpellsFields fields ([] :: pieces)
  | field {field : List Char × List Char} {fields : List (List Char × List Char)}
    {piece : List Char} {pieces : List (List Char)} : SpellsField field piece →
    SpellsFields fields pieces → SpellsFields (field :: fields) (piece :: pieces)

def Spells (fields : List (List Char × List Char)) (query : List Char) : Prop :=
  ∃ pieces, SpellsFields fields pieces ∧ query = ['&'].intercalate pieces

theorem unescape_cons {b : UInt8} (noEscape : b ≠ 0x25) (rest : List UInt8) :
    unescape (b :: rest) = b :: unescape rest := by
  rw [unescape]
  exact fun _ _ _ isEscape => absurd isEscape noEscape

theorem unescape_append {bytes : List UInt8} (noEscape : 0x25 ∉ bytes) (rest : List UInt8) :
    unescape (bytes ++ rest) = bytes ++ unescape rest := by
  induction bytes with
  | nil => rfl
  | cons b bytes ih =>
      rw [List.mem_cons, not_or] at noEscape
      rw [List.cons_append, unescape_cons (Ne.symm noEscape.1), ih noEscape.2, List.cons_append]

theorem map_spaced {bytes : List UInt8} (noPlus : 0x2B ∉ bytes) : bytes.map spaced = bytes := by
  refine (List.map_congr_left fun b isIn => ?_).trans bytes.map_id
  have other : b ≠ 0x2B := fun isPlus => noPlus (isPlus ▸ isIn)
  exact if_neg other

structure Unseparated (inKey : Bool) (bytes : List UInt8) : Prop where
  noAmpersand : 0x26 ∉ bytes
  noEquals : inKey = true → 0x3D ∉ bytes

theorem Unseparated.append {inKey : Bool} {bytes more : List UInt8}
    (first : Unseparated inKey bytes) (second : Unseparated inKey more) :
    Unseparated inKey (bytes ++ more) where
  noAmpersand isIn := (List.mem_append.1 isIn).elim first.noAmpersand second.noAmpersand
  noEquals isKey isIn :=
    (List.mem_append.1 isIn).elim (first.noEquals isKey) (second.noEquals isKey)

structure Yields (inKey : Bool) (text : List Char) (bytes : List UInt8) : Prop where
  unescaped : ∀ rest, unescape ((Utf8.encode text).map spaced ++ rest) = bytes ++ unescape rest
  unseparated : Unseparated inKey (Utf8.encode text)

theorem Yields.append {inKey : Bool} {text more : List Char} {bytes moreBytes : List UInt8}
    (first : Yields inKey text bytes) (second : Yields inKey more moreBytes) :
    Yields inKey (text ++ more) (bytes ++ moreBytes) where
  unescaped rest := by
    rw [Utf8.encode_append, List.map_append, List.append_assoc, first.unescaped, second.unescaped,
      List.append_assoc]
  unseparated := by
    rw [Utf8.encode_append]
    exact first.unseparated.append second.unseparated

theorem yields_nil (inKey : Bool) : Yields inKey [] [] where
  unescaped _ := rfl
  unseparated := ⟨List.not_mem_nil, fun _ => List.not_mem_nil⟩

theorem encode_hexDigit {d : Nat} {c : Char} (small : d < 16) (isDigit : HexDigit d c) :
    ∃ b, Utf8.encode [c] = [b] ∧ hexDigit? b = some d ∧ spaced b = b ∧ Unseparated true [b] := by
  have unseparated {b : UInt8} (other : b ≠ 0x26 ∧ b ≠ 0x3D) : Unseparated true [b] :=
    ⟨by simpa using other.1.symm, by simpa using other.2.symm⟩
  rcases isDigit with rfl | rfl <;> interval_cases d <;>
    exact ⟨_, rfl, by decide, by decide, unseparated (by decide)⟩

theorem escapedByte?_eq {b high low : UInt8} (highDigit : hexDigit? high = some (b.toNat / 16))
    (lowDigit : hexDigit? low = some (b.toNat % 16)) : escapedByte? high low = some b := by
  have whole : b.toNat / 16 * 16 + b.toNat % 16 = b.toNat := by omega
  rw [escapedByte?, highDigit, lowDigit]
  change some (UInt8.ofNat (b.toNat / 16 * 16 + b.toNat % 16)) = some b
  rw [whole, UInt8.ofNat_toNat]

theorem yields_escapes (inKey : Bool) {bytes : List UInt8} {text : List Char}
    (escapes : Escapes bytes text) : Yields inKey text bytes := by
  induction escapes with
  | nil => exact yields_nil inKey
  | @cons b high low bytes text highDigit lowDigit _ ih =>
      obtain ⟨h, encodedHigh, highValue, plainHigh, freeHigh⟩ :=
        encode_hexDigit (by have := b.toNat_lt; omega) highDigit
      obtain ⟨l, encodedLow, lowValue, plainLow, freeLow⟩ :=
        encode_hexDigit (Nat.mod_lt _ (by decide)) lowDigit
      have encoded : Utf8.encode ['%', high, low] = [0x25, h, l] := by
        rw [Utf8.encode_cons, ← List.singleton_append (l := [low]), Utf8.encode_append, encodedHigh,
          encodedLow]
        rfl
      have free : Unseparated inKey [0x25, h, l] := by
        have percent : Unseparated true [0x25] := ⟨by decide, by decide⟩
        have all := (percent.append freeHigh).append freeLow
        exact ⟨all.noAmpersand, fun _ => all.noEquals rfl⟩
      have first : Yields inKey ['%', high, low] [b] := by
        refine ⟨fun rest => ?_, encoded ▸ free⟩
        rw [encoded, List.map_cons, List.map_cons, List.map_cons, List.map_nil, plainHigh, plainLow]
        change unescape (0x25 :: h :: l :: rest) = _
        rw [unescape, escapedByte?_eq highValue lowValue]
        rfl
      exact first.append ih

theorem yields_itself {inKey : Bool} {c : Char} (noAmpersand : c ≠ '&') (noPlus : c ≠ '+')
    (noPercent : c ≠ '%') (noEquals : inKey = true → c ≠ '=') :
    Yields inKey [c] (String.utf8EncodeChar c) := by
  have absent {d : Char} {b : UInt8} (other : c ≠ d) (ascii : b < 0x80)
      (isByte : d.toNat = b.toNat) : b ∉ String.utf8EncodeChar c := fun isIn =>
    other (Char.toNat_inj.1 ((Utf8.utf8EncodeChar_of_mem isIn ascii).1.trans isByte.symm))
  have encoded : Utf8.encode [c] = String.utf8EncodeChar c := by
    rw [Utf8.encode_cons, Utf8.encode_nil, List.append_nil]
  constructor
  · intro rest
    rw [encoded, map_spaced (absent noPlus (by decide) (by decide)),
      unescape_append (absent noPercent (by decide) (by decide))]
  · rw [encoded]
    exact ⟨absent noAmpersand (by decide) (by decide),
      fun isKey => absent (noEquals isKey) (by decide) (by decide)⟩

theorem yields_char {inKey : Bool} {c : Char} {text : List Char}
    (spells : SpellsChar inKey c text) : Yields inKey text (String.utf8EncodeChar c) := by
  cases spells with
  | itself noAmpersand noPlus noPercent noEquals =>
      exact yields_itself noAmpersand noPlus noPercent noEquals
  | escaped escapes => exact yields_escapes inKey escapes
  | plus =>
      exact ⟨unescape_cons (by decide), by decide, fun _ => by decide⟩

theorem yields_text {inKey : Bool} {source text : List Char}
    (spells : SpellsText inKey source text) : Yields inKey text (Utf8.encode source) := by
  induction spells with
  | nil => exact yields_nil inKey
  | cons first _ ih =>
      rw [Utf8.encode_cons]
      exact (yields_char first).append ih

theorem decodeText_spelling {inKey : Bool} {source text : List Char}
    (spells : SpellsText inKey source text) : decodeText (Utf8.encode text) = source := by
  have unescaped := (yields_text spells).unescaped []
  rw [List.append_nil, unescape, List.append_nil] at unescaped
  rw [decodeText, unescaped, Utf8.decode_encode]

theorem splitBytes_ne_nil (separator : UInt8) (bytes : List UInt8) :
    splitBytes separator bytes ≠ [] := by
  cases bytes with
  | nil => exact List.cons_ne_nil _ _
  | cons b rest =>
      rw [splitBytes]
      split
      · exact List.cons_ne_nil _ _
      · split <;> exact List.cons_ne_nil _ _

theorem splitBytes_cons {separator b : UInt8} {rest piece : List UInt8} {pieces : List (List UInt8)}
    (split : splitBytes separator rest = piece :: pieces) :
    splitBytes separator (b :: rest) =
      if b = separator then [] :: piece :: pieces else (b :: piece) :: pieces := by
  rw [splitBytes, split]

theorem splitBytes_append (separator : UInt8) (first rest : List UInt8) :
    splitBytes separator (first ++ separator :: rest) =
      splitBytes separator first ++ splitBytes separator rest := by
  induction first with
  | nil =>
      obtain ⟨next, others, split⟩ := List.exists_cons_of_ne_nil (splitBytes_ne_nil separator rest)
      rw [List.nil_append, splitBytes_cons split, if_pos rfl, split]
      rfl
  | cons b first ih =>
      obtain ⟨piece, pieces, split⟩ := List.exists_cons_of_ne_nil (splitBytes_ne_nil separator first)
      rw [split, List.cons_append] at ih
      rw [List.cons_append, splitBytes_cons ih, splitBytes_cons split]
      split <;> rfl

theorem splitBytes_whole {separator : UInt8} {piece : List UInt8} (whole : separator ∉ piece) :
    splitBytes separator piece = [piece] := by
  induction piece with
  | nil => rfl
  | cons b piece ih =>
      rw [List.mem_cons, not_or] at whole
      rw [splitBytes_cons (ih whole.2), if_neg (Ne.symm whole.1)]

theorem splitBytes_intercalate {piece : List Char} {pieces : List (List Char)}
    (whole : ∀ p ∈ piece :: pieces, 0x26 ∉ Utf8.encode p) :
    splitBytes 0x26 (Utf8.encode (['&'].intercalate (piece :: pieces))) =
      (piece :: pieces).map Utf8.encode := by
  induction pieces generalizing piece with
  | nil =>
      rw [List.intercalate_singleton, splitBytes_whole (whole piece List.mem_cons_self)]
      rfl
  | cons next others ih =>
      obtain ⟨first, later⟩ := List.forall_mem_cons.1 whole
      rw [List.intercalate_cons_cons, Utf8.encode_append, Utf8.encode_append, List.append_assoc]
      change splitBytes 0x26 (Utf8.encode piece ++
        0x26 :: Utf8.encode (['&'].intercalate (next :: others))) = _
      rw [splitBytes_append, splitBytes_whole first, ih later, List.singleton_append, ← List.map_cons]

theorem splitField_joined {key : List UInt8} (whole : 0x3D ∉ key) (value : List UInt8) :
    splitField (key ++ 0x3D :: value) = (key, value) := by
  have inside : ∀ b ∈ key, (decide (b ≠ 0x3D)) = true := fun b isIn =>
    decide_eq_true fun same => whole (same ▸ isIn)
  rw [splitField, List.takeWhile_append_of_pos inside, List.dropWhile_append_of_pos inside]
  simp

theorem splitField_bare {key : List UInt8} (whole : 0x3D ∉ key) : splitField key = (key, []) := by
  have inside : ∀ b ∈ key, (decide (b ≠ 0x3D)) = true := fun b isIn =>
    decide_eq_true fun same => whole (same ▸ isIn)
  rw [splitField, List.takeWhile_eq_self_iff.2 inside, List.dropWhile_eq_nil_iff.2 inside]
  rfl

theorem decode_field {field : List Char × List Char} {piece : List Char}
    (spells : SpellsField field piece) :
    0x26 ∉ Utf8.encode piece ∧ Utf8.encode piece ≠ [] ∧
      (decodeText (splitField (Utf8.encode piece)).1,
        decodeText (splitField (Utf8.encode piece)).2) = field := by
  cases spells with
  | @joined key value keyText valueText spellsKey spellsValue =>
      have keyBytes := (yields_text spellsKey).unseparated
      have valueBytes := (yields_text spellsValue).unseparated
      have encoded : Utf8.encode (keyText ++ '=' :: valueText) =
          Utf8.encode keyText ++ 0x3D :: Utf8.encode valueText := by
        rw [Utf8.encode_append, Utf8.encode_cons]
        rfl
      rw [encoded, splitField_joined (keyBytes.noEquals rfl), decodeText_spelling spellsKey,
        decodeText_spelling spellsValue]
      refine ⟨?_, by simp, rfl⟩
      simp only [List.mem_append, List.mem_cons, not_or]
      exact ⟨keyBytes.noAmpersand, by decide, valueBytes.noAmpersand⟩
  | @bare key keyText present spellsKey =>
      have keyBytes := (yields_text spellsKey).unseparated
      have decoded := decodeText_spelling spellsKey
      have nothing : decodeText [] = [] := by
        rw [decodeText, List.map_nil, unescape, Utf8.decode]
      rw [splitField_bare (keyBytes.noEquals rfl), decoded, nothing]
      refine ⟨keyBytes.noAmpersand, fun noBytes => present ?_, rfl⟩
      rw [← decoded, noBytes, nothing]

theorem decode_fields {fields : List (List Char × List Char)} {pieces : List (List Char)}
    (spells : SpellsFields fields pieces) :
    (∀ piece ∈ pieces, 0x26 ∉ Utf8.encode piece) ∧
      (((pieces.map Utf8.encode).filter (!·.isEmpty)).map fun bytes =>
        (decodeText (splitField bytes).1, decodeText (splitField bytes).2)) = fields := by
  induction spells with
  | nil => exact ⟨fun _ isIn => absurd isIn List.not_mem_nil, rfl⟩
  | empty _ ih =>
      refine ⟨List.forall_mem_cons.2 ⟨List.not_mem_nil, ih.1⟩, ?_⟩
      rw [List.map_cons, Utf8.encode_nil, List.filter_cons_of_neg (by simp), ih.2]
  | field first _ ih =>
      obtain ⟨whole, present, decoded⟩ := decode_field first
      refine ⟨List.forall_mem_cons.2 ⟨whole, ih.1⟩, ?_⟩
      rw [List.map_cons, List.filter_cons_of_pos (by simpa using present), List.map_cons, ih.2,
        decoded]

theorem fields_eq {spelled : List (List Char × List Char)} {query : List Char}
    (spells : Spells spelled query) : fields (Utf8.encode query) = spelled := by
  obtain ⟨pieces, spellsFields, rfl⟩ := spells
  obtain ⟨whole, decoded⟩ := decode_fields spellsFields
  cases pieces with
  | nil =>
      rw [← decoded]
      rfl
  | cons piece pieces => rw [fields, splitBytes_intercalate whole, decoded]

/-- What is found under a name in a query is the value of the first field that the query spells with
that key. -/
theorem firstValue_spelling {spelled : List (List Char × List Char)} {query : List Char}
    (spells : Spells spelled query) (name : List Char) :
    (∀ value, firstValue query name = some value ↔
      ∃ before after, spelled = before ++ (name, value) :: after ∧
        ∀ field ∈ before, field.1 ≠ name) ∧
    (firstValue query name = none ↔ ∀ field ∈ spelled, field.1 ≠ name) := by
  rw [firstValue, fields_eq spells]
  constructor
  · intro value
    simp only [Option.map_eq_some_iff, List.find?_eq_some_iff_append, beq_iff_eq,
      Bool.not_eq_true', beq_eq_false_iff_ne]
    constructor
    · rintro ⟨⟨_, _⟩, ⟨rfl, before, after, split, others⟩, rfl⟩
      exact ⟨before, after, split, others⟩
    · rintro ⟨before, after, split, others⟩
      exact ⟨(name, value), ⟨rfl, before, after, split, others⟩, rfl⟩
  · simp

theorem firstValue_spelling_of_mixedQuery :
    Spells [(['k', '='], [' ', 'é']), (['k', '='], [])] "&k%3D=+%c3%a9&k%3d".toList ∧
      firstValue "&k%3D=+%c3%a9&k%3d".toList ['k', '='] = some [' ', 'é'] := by
  have equals {digit : Char} (isDigit : HexDigit 13 digit) :
      SpellsText true ['k', '='] (['k'] ++ (['%', '3', digit] ++ [])) :=
    .cons (.itself (by decide) (by decide) (by decide) (by decide))
      (.cons (.escaped (.cons (.inl rfl) isDigit .nil)) .nil)
  have value : SpellsText false [' ', 'é'] (['+'] ++ ("%c3%a9".toList ++ [])) :=
    .cons .plus (.cons (.escaped (.cons (.inl rfl) (.inl rfl)
      (.cons (.inl rfl) (.inl rfl) .nil))) .nil)
  have spells : Spells [(['k', '='], [' ', 'é']), (['k', '='], [])] "&k%3D=+%c3%a9&k%3d".toList :=
    ⟨_, .empty (.field (.joined (equals (.inr rfl)) value)
      (.field (.bare (by simp) (equals (.inl rfl))) .nil)), rfl⟩
  exact ⟨spells, ((firstValue_spelling spells ['k', '=']).1 _).2 ⟨[], _, rfl, by simp⟩⟩

end Enclose.Query
