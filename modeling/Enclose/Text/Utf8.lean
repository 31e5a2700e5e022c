/-!
The encoding of text as bytes. Decoding accepts every byte sequence: the longest start of a
character that is not completed, or else a single byte, counts as one replacement character.
-/

namespace Enclose.Utf8

def encode (text : List Char) : List UInt8 := text.flatMap String.utf8EncodeChar

def length (text : List Char) : Nat := text.foldr (fun c n => c.utf8Size + n) 0

theorem length_encode (text : List Char) : (encode text).length = length text := by
  induction text with
  | nil => rfl
  | cons c rest ih => simp_all [encode, length]

def replacement : Char := '\uFFFD'

def isContinuation (b : UInt8) : Bool := decide (0x80 ≤ b ∧ b ≤ 0xBF)

/-- What a first byte announces: how many bytes follow, the bits it contributes, and the least and
greatest second byte that keep the character in range and in its shortest form. -/
structure Lead where
  following : Nat
  bits : Nat
  secondMin : UInt8
  secondMax : UInt8

def Lead.ofByte? (b : UInt8) : Option Lead :=
  if b < 0x80 then some ⟨0, b.toNat, 0, 0⟩
  else if b < 0xC2 then none
  else if b < 0xE0 then some ⟨1, b.toNat - 0xC0, 0x80, 0xBF⟩
  else if b = 0xE0 then some ⟨2, 0, 0xA0, 0xBF⟩
  else if b = 0xED then some ⟨2, 0xD, 0x80, 0x9F⟩
  else if b < 0xF0 then some ⟨2, b.toNat - 0xE0, 0x80, 0xBF⟩
  else if b = 0xF0 then some ⟨3, 0, 0x90, 0xBF⟩
  else if b < 0xF4 then some ⟨3, b.toNat - 0xF0, 0x80, 0xBF⟩
  else if b = 0xF4 then some ⟨3, 4, 0x80, 0x8F⟩
  else none

def completeTail : Nat → Nat → List UInt8 → Char × List UInt8
  | 0, bits, rest => (Char.ofNat bits, rest)
  | _ + 1, _, [] => (replacement, [])
  | n + 1, bits, b :: rest =>
    if isContinuation b then completeTail n (bits * 64 + (b.toNat - 0x80)) rest
    else (replacement, b :: rest)

def decodeFirst (b : UInt8) (rest : List UInt8) : Char × List UInt8 :=
  match Lead.ofByte? b with
  | none => (replacement, rest)
  | some ⟨0, bits, _, _⟩ => (Char.ofNat bits, rest)
  | some ⟨n + 1, bits, secondMin, secondMax⟩ =>
    match rest with
    | [] => (replacement, [])
    | second :: tail =>
      if secondMin ≤ second ∧ second ≤ secondMax then
        completeTail n (bits * 64 + (second.toNat - 0x80)) tail
      else (replacement, second :: tail)

theorem completeTail_length_le (n bits : Nat) (rest : List UInt8) :
    (completeTail n bits rest).2.length ≤ rest.length := by
  fun_induction completeTail n bits rest with
  | case1 => simp_all
  | case2 => simp_all
  | case3 => simp_all; omega
  | case4 => simp_all

theorem decodeFirst_length_le (b : UInt8) (rest : List UInt8) :
    (decodeFirst b rest).2.length ≤ rest.length := by
  unfold decodeFirst
  split
  · simp
  · simp
  · split
    · simp
    · split
      · exact Nat.le_succ_of_le (completeTail_length_le ..)
      · simp

def decode (bytes : List UInt8) : List Char :=
  match bytes with
  | [] => []
  | b :: rest => (decodeFirst b rest).1 :: decode (decodeFirst b rest).2
termination_by bytes.length
decreasing_by exact Nat.lt_succ_of_le (decodeFirst_length_le b rest)

end Enclose.Utf8
