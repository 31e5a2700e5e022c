import Enclose.Text.Utf8

/-!
# Decoding undoes encoding

Bytes that encode a text are decoded as that text (`decode_encode`). The lead byte of a character
announces the bytes after it, and its bits with those of the others are the character again, in each
of the four lengths.
-/

namespace Enclose.Utf8

theorem isContinuation_ofNat (n : Nat) : isContinuation (UInt8.ofNat (n % 64 + 128)) = true := by
  simp only [isContinuation, UInt8.le_iff_toNat_le, UInt8.toNat_ofNat', UInt8.reduceToNat,
    decide_eq_true_eq]
  omega

theorem lead_ofNat {n : Nat} (small : n < 256) :
    Lead.ofByte? (UInt8.ofNat n) =
      if n < 0x80 then some ⟨0, n, 0, 0⟩
      else if n < 0xC2 then none
      else if n < 0xE0 then some ⟨1, n - 0xC0, 0x80, 0xBF⟩
      else if n = 0xE0 then some ⟨2, 0, 0xA0, 0xBF⟩
      else if n = 0xED then some ⟨2, 0xD, 0x80, 0x9F⟩
      else if n < 0xF0 then some ⟨2, n - 0xE0, 0x80, 0xBF⟩
      else if n = 0xF0 then some ⟨3, 0, 0x90, 0xBF⟩
      else if n < 0xF4 then some ⟨3, n - 0xF0, 0x80, 0xBF⟩
      else if n = 0xF4 then some ⟨3, 4, 0x80, 0x8F⟩
      else none := by
  have value : (UInt8.ofNat n).toNat = n := by simp [Nat.mod_eq_of_lt small]
  simp only [Lead.ofByte?, UInt8.lt_iff_toNat_lt, ← UInt8.toNat_inj, value, UInt8.reduceToNat]

theorem completeTail_zero (bits : Nat) (rest : List UInt8) :
    completeTail 0 bits rest = (Char.ofNat bits, rest) := by
  rw [completeTail]

theorem completeTail_succ (n bits m : Nat) (rest : List UInt8) :
    completeTail (n + 1) bits (UInt8.ofNat (m % 64 + 128) :: rest) =
      completeTail n (bits * 64 + m % 64) rest := by
  have value : (UInt8.ofNat (m % 64 + 128)).toNat - 0x80 = m % 64 := by
    simp only [UInt8.toNat_ofNat']
    omega
  rw [completeTail, if_pos (isContinuation_ofNat m), value]

/-- A byte announces a character of several bytes with some bits, and lets the second byte of a
number follow. -/
def Announces (lead : UInt8) (following bits second : Nat) : Prop :=
  ∃ secondMin secondMax, Lead.ofByte? lead = some ⟨following + 1, bits, secondMin, secondMax⟩ ∧
    secondMin.toNat ≤ second % 64 + 128 ∧ second % 64 + 128 ≤ secondMax.toNat

theorem decodeFirst_of_announces {lead : UInt8} {following bits second : Nat}
    (announced : Announces lead following bits second) (rest : List UInt8) :
    decodeFirst lead (UInt8.ofNat (second % 64 + 128) :: rest) =
      completeTail following (bits * 64 + second % 64) rest := by
  obtain ⟨secondMin, secondMax, isLead, low, high⟩ := announced
  have value : (UInt8.ofNat (second % 64 + 128)).toNat = second % 64 + 128 := by
    simp only [UInt8.toNat_ofNat']
    omega
  have within : secondMin ≤ UInt8.ofNat (second % 64 + 128) ∧
      UInt8.ofNat (second % 64 + 128) ≤ secondMax := by
    simp only [UInt8.le_iff_toNat_le, value]
    exact ⟨low, high⟩
  have bits' : (UInt8.ofNat (second % 64 + 128)).toNat - 0x80 = second % 64 := by omega
  simp only [decodeFirst, isLead, if_pos within, bits']

section

variable {n : Nat}

theorem announces_two (low : 0x80 ≤ n) (high : n < 0x800) :
    Announces (UInt8.ofNat (n / 64 % 32 + 192)) 0 (n / 64) n := by
  refine ⟨0x80, 0xBF, ?_, ?_, ?_⟩
  · have bits : n / 64 % 32 + 192 - 0xC0 = n / 64 := by omega
    rw [lead_ofNat (by omega), if_neg (by omega), if_neg (by omega), if_pos (by omega), bits]
  · simp only [UInt8.reduceToNat]
    omega
  · simp only [UInt8.reduceToNat]
    omega

theorem announces_three (low : 0x800 ≤ n) (high : n < 0x10000) (valid : n.isValidChar) :
    Announces (UInt8.ofNat (n / 4096 % 16 + 224)) 1 (n / 4096) (n / 64) := by
  have valid : n < 0xD800 ∨ 0xDFFF < n ∧ n < 0x110000 := valid
  by_cases least : n / 4096 = 0
  · refine ⟨0xA0, 0xBF, ?_, by simp only [UInt8.reduceToNat]; omega,
      by simp only [UInt8.reduceToNat]; omega⟩
    rw [least]
    rfl
  by_cases surrogate : n / 4096 = 13
  · refine ⟨0x80, 0x9F, ?_, by simp only [UInt8.reduceToNat]; omega,
      by simp only [UInt8.reduceToNat]; omega⟩
    rw [surrogate]
    rfl
  refine ⟨0x80, 0xBF, ?_, by simp only [UInt8.reduceToNat]; omega,
    by simp only [UInt8.reduceToNat]; omega⟩
  have bits : n / 4096 % 16 + 224 - 0xE0 = n / 4096 := by omega
  rw [lead_ofNat (by omega), if_neg (by omega), if_neg (by omega), if_neg (by omega),
    if_neg (by omega), if_neg (by omega), if_pos (by omega), bits]

theorem announces_four (low : 0x10000 ≤ n) (valid : n.isValidChar) :
    Announces (UInt8.ofNat (n / 262144 % 8 + 240)) 2 (n / 262144) (n / 4096) := by
  have valid : n < 0xD800 ∨ 0xDFFF < n ∧ n < 0x110000 := valid
  by_cases least : n / 262144 = 0
  · refine ⟨0x90, 0xBF, ?_, by simp only [UInt8.reduceToNat]; omega,
      by simp only [UInt8.reduceToNat]; omega⟩
    rw [least]
    rfl
  by_cases greatest : n / 262144 = 4
  · refine ⟨0x80, 0x8F, ?_, by simp only [UInt8.reduceToNat]; omega,
      by simp only [UInt8.reduceToNat]; omega⟩
    rw [greatest]
    rfl
  refine ⟨0x80, 0xBF, ?_, by simp only [UInt8.reduceToNat]; omega,
    by simp only [UInt8.reduceToNat]; omega⟩
  have bits : n / 262144 % 8 + 240 - 0xF0 = n / 262144 := by omega
  rw [lead_ofNat (by omega), if_neg (by omega), if_neg (by omega), if_neg (by omega),
    if_neg (by omega), if_neg (by omega), if_neg (by omega), if_neg (by omega), if_pos (by omega),
    bits]

end

theorem decode_cons (b : UInt8) (rest : List UInt8) :
    decode (b :: rest) = (decodeFirst b rest).1 :: decode (decodeFirst b rest).2 := by
  rw [decode]

theorem decode_utf8EncodeChar (c : Char) (rest : List UInt8) :
    decode (String.utf8EncodeChar c ++ rest) = c :: decode rest := by
  obtain ⟨n, number⟩ : ∃ n, c.val.toNat = n := ⟨_, rfl⟩
  have valid : n.isValidChar := number ▸ c.valid
  have whole : Char.ofNat n = c := number ▸ Char.ofNat_toNat c
  simp only [String.utf8EncodeChar, number]
  split
  case isTrue one =>
    have lead : Lead.ofByte? (UInt8.ofNat n) = some ⟨0, n, 0, 0⟩ := by
      rw [lead_ofNat (by omega), if_pos (by omega)]
    simp only [List.cons_append, List.nil_append, decode_cons, decodeFirst, lead, whole]
  split
  case isTrue two =>
    have bits : n / 64 * 64 + n % 64 = n := by omega
    simp only [List.cons_append, List.nil_append, decode_cons, completeTail_zero, bits, whole,
      decodeFirst_of_announces (announces_two (n := n) (by omega) (by omega))]
  split
  case isTrue three =>
    have bits : (n / 4096 * 64 + n / 64 % 64) * 64 + n % 64 = n := by omega
    simp only [List.cons_append, List.nil_append, decode_cons, completeTail_succ, completeTail_zero,
      bits, whole, decodeFirst_of_announces (announces_three (n := n) (by omega) (by omega) valid)]
  case isFalse four =>
    have bits : ((n / 262144 * 64 + n / 4096 % 64) * 64 + n / 64 % 64) * 64 + n % 64 = n := by omega
    simp only [List.cons_append, List.nil_append, decode_cons, completeTail_succ, completeTail_zero,
      bits, whole, decodeFirst_of_announces (announces_four (n := n) (by omega) valid)]

theorem encode_nil : encode [] = [] := rfl

theorem encode_cons (c : Char) (text : List Char) :
    encode (c :: text) = String.utf8EncodeChar c ++ encode text :=
  List.flatMap_cons

theorem encode_append (text more : List Char) : encode (text ++ more) = encode text ++ encode more :=
  List.flatMap_append

theorem decode_encode (text : List Char) : decode (encode text) = text := by
  induction text with
  | nil => rw [encode_nil, decode]
  | cons c rest ih =>
      rw [encode_cons, decode_utf8EncodeChar, ih]

theorem utf8EncodeChar_of_mem {c : Char} {b : UInt8} (isIn : b ∈ String.utf8EncodeChar c)
    (ascii : b < 0x80) : c.toNat = b.toNat ∧ String.utf8EncodeChar c = [b] := by
  have small : b.toNat < 0x80 := UInt8.lt_iff_toNat_lt.1 ascii
  obtain ⟨n, number⟩ : ∃ n, c.val.toNat = n := ⟨_, rfl⟩
  have same : c.toNat = n := number
  simp only [String.utf8EncodeChar, number] at isIn ⊢
  split at isIn
  case isTrue one =>
    obtain rfl := List.mem_singleton.1 isIn
    rw [if_pos one, same]
    exact ⟨by simp only [UInt8.toNat_ofNat']; omega, rfl⟩
  case isFalse =>
    -- All other bytes are at least 128.
    refine absurd small ?_
    split at isIn
    · simp only [List.mem_cons, List.not_mem_nil, or_false] at isIn
      rcases isIn with rfl | rfl <;> simp only [UInt8.toNat_ofNat'] <;> omega
    · split at isIn
      · simp only [List.mem_cons, List.not_mem_nil, or_false] at isIn
        rcases isIn with rfl | rfl | rfl <;> simp only [UInt8.toNat_ofNat'] <;> omega
      · simp only [List.mem_cons, List.not_mem_nil, or_false] at isIn
        rcases isIn with rfl | rfl | rfl | rfl <;> simp only [UInt8.toNat_ofNat'] <;> omega

theorem utf8EncodeChar_ofNat {b : UInt8} (ascii : b < 0x80) :
    String.utf8EncodeChar (Char.ofNat b.toNat) = [b] := by
  have small : b.toNat < 0x80 := UInt8.lt_iff_toNat_lt.1 ascii
  have valid : b.toNat.isValidChar := Or.inl (by omega)
  have value : (Char.ofNat b.toNat).val.toNat = b.toNat := by
    rw [Char.ofNat, dif_pos valid]
    rfl
  simp only [String.utf8EncodeChar, value, if_pos (show b.toNat ≤ 127 by omega), UInt8.ofNat_toNat]

theorem encode_decode {bytes : List UInt8} (ascii : ∀ b ∈ bytes, b < 0x80) :
    encode (decode bytes) = bytes := by
  have encoded : encode (bytes.map fun b => Char.ofNat b.toNat) = bytes := by
    rw [encode, List.flatMap_map]
    induction bytes with
    | nil => rfl
    | cons b rest ih =>
        rw [List.flatMap_cons, utf8EncodeChar_ofNat (ascii b List.mem_cons_self),
          ih fun b isIn => ascii b (List.mem_cons_of_mem _ isIn), List.singleton_append]
  rw [← encoded, decode_encode]

end Enclose.Utf8
