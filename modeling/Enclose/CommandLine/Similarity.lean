/-!
How similar two words are: by the characters that they share at about the same place, and by how
many of those are in another order.
-/

namespace Enclose.CommandLine

/-- The shared characters of two words: pairs of positions of equal characters at most `reach`
apart, no position twice. -/
def sharedPositions (reach : Nat) (a b : List Char) : List (Nat × Nat) :=
  a.zipIdx.foldl (fun pairs (c, i) =>
    let isFree (j : Nat) : Bool :=
      decide (i ≤ j + reach ∧ j ≤ i + reach) && b[j]? == some c && !(pairs.map Prod.snd).contains j
    match (List.range b.length).find? isFree with
    | some j => pairs ++ [(i, j)]
    | none => pairs) []

def differences (a b : List Char) : Nat := (a.zip b).countP fun (x, y) => x != y

def similarity (a b : List Char) : Float :=
  let pairs := sharedPositions (max a.length b.length / 2 - 1) a b
  let sharedOf (text : List Char) (positions : List Nat) : List Char :=
    (text.zipIdx.filter fun (_, i) => positions.contains i).map Prod.fst
  let moved :=
    differences (sharedOf a (pairs.map Prod.fst)) (sharedOf b (pairs.map Prod.snd)) / 2
  let shared := pairs.length
  if a.isEmpty && b.isEmpty then 1
  else if shared = 0 then 0
  else
    (shared.toFloat / a.length.toFloat + shared.toFloat / b.length.toFloat +
      (shared - moved).toFloat / shared.toFloat) / 3

end Enclose.CommandLine
