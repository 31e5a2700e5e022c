/-!
Identifiers of 32 hexadecimal digits in five groups, random but for the digit that gives the
version and the two bits that give the variant.
-/

namespace Enclose.Http.Uuid

def digit (random position : Nat) : Nat :=
  let drawn := random / Nat.pow 16 position % 16
  if position = 12 then 4 else if position = 16 then 8 + drawn % 4 else drawn

def groupEnds : List Nat := [8, 12, 16, 20]

def v4 (random : Nat) : List Char :=
  (List.range 32).flatMap fun position =>
    (if position ∈ groupEnds then ['-'] else []) ++ [Nat.digitChar (digit random position)]

def fits (position : Nat) (c : Char) : Bool :=
  if position ∈ [8, 13, 18, 23] then c == '-'
  else if position = 14 then c == '4'
  else if position = 19 then "89ab".toList.contains c
  else "0123456789abcdef".toList.contains c

def isV4 (text : List Char) : Bool :=
  text.length == 36 && text.zipIdx.all fun (c, position) => fits position c

end Enclose.Http.Uuid
