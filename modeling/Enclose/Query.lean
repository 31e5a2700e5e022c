import Enclose.Text.Utf8

/-!
Values in the query of an address: fields joined by `&`, each a key and a value joined by `=`, with
`+` for a space and percent escapes for bytes.
-/

namespace Enclose.Query

def hexDigit? (b : UInt8) : Option Nat :=
  if 0x30 ≤ b ∧ b ≤ 0x39 then some (b.toNat - 0x30)
  else if 0x41 ≤ b ∧ b ≤ 0x46 then some (b.toNat - 0x37)
  else if 0x61 ≤ b ∧ b ≤ 0x66 then some (b.toNat - 0x57)
  else none

def escapedByte? (high low : UInt8) : Option UInt8 := do
  let h ← hexDigit? high
  let l ← hexDigit? low
  return UInt8.ofNat (h * 16 + l)

/-- Replace percent escapes by their bytes; a percent sign without two digits stays. -/
def unescape : List UInt8 → List UInt8
  | [] => []
  | 0x25 :: high :: low :: rest =>
    match escapedByte? high low with
    | some b => b :: unescape rest
    | none => 0x25 :: unescape (high :: low :: rest)
  | b :: rest => b :: unescape rest

def spaced (b : UInt8) : UInt8 := if b = 0x2B then 0x20 else b

def decodeText (bytes : List UInt8) : List Char :=
  Utf8.decode (unescape (bytes.map spaced))

def splitBytes (separator : UInt8) : List UInt8 → List (List UInt8)
  | [] => [[]]
  | b :: rest =>
    match splitBytes separator rest with
    | [] => [[b]]
    | piece :: pieces =>
      if b = separator then [] :: piece :: pieces else (b :: piece) :: pieces

def splitField (field : List UInt8) : List UInt8 × List UInt8 :=
  (field.takeWhile (· ≠ 0x3D), (field.dropWhile (· ≠ 0x3D)).drop 1)

def fields (query : List UInt8) : List (List Char × List Char) :=
  ((splitBytes 0x26 query).filter (!·.isEmpty)).map fun field =>
    (decodeText (splitField field).1, decodeText (splitField field).2)

def firstValue (query : List Char) (name : List Char) : Option (List Char) :=
  ((fields (Utf8.encode query)).find? fun field => field.1 == name).map Prod.snd

end Enclose.Query
