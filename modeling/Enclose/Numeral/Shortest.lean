import Enclose.Numeral.Binary64

/-!
The shortest decimal that reads back as a given floating point number, and of these the nearest to
it.
-/

namespace Enclose.Numeral

structure Decimal where
  digits : List Char
  point : Int
  deriving Repr, DecidableEq, Inhabited

namespace Binary64

/-- Whether a rational number rounds to the given number. With four units to a step, the neighbours
of `4 · mantissa` lie four units away, except below a power of two, where the lower one lies two
units away; the ends of the interval belong to an even mantissa. -/
def readsBack (b : Binary64) (num den : Nat) : Bool :=
  let narrow := 2 * b.mantissa == mantissaBound && decide (minExponent < b.exponent)
  let low := 4 * b.mantissa - (if narrow then 1 else 2)
  let high := 4 * b.mantissa + 2
  let e := b.exponent - 2
  let left := num * power 2 (-e)
  let scale := den * power 2 e
  if b.mantissa % 2 = 0 then decide (low * scale ≤ left ∧ left ≤ high * scale)
  else decide (low * scale < left ∧ left < high * scale)

/-- The position of the first digit of `num / den`, counted from the decimal point: the number lies
between `10 ^ (p - 1)` and `10 ^ p`. The search goes down from `1` for small numbers. -/
def decimalPoint (num den : Nat) : Int :=
  if den ≤ num then ((Nat.toDigits 10 (num / den)).length : Int)
  else search 400 1 num
where
  search : Nat → Int → Nat → Int
    | 0, p, _ => p
    | fuel + 1, p, num => if den ≤ num then p else search fuel (p - 1) (num * 10)

def gridPoint (n : Nat) (k : Int) : Nat × Nat :=
  (n * power 10 k, power 10 (-k))

def gridFloor (num den : Nat) (k : Int) : Nat :=
  num * power 10 (-k) / (den * power 10 k)

def onGrid? (b : Binary64) (k : Int) : Option Nat :=
  let (num, den) := b.ratio
  let lower := gridFloor num den k
  let fits (n : Nat) : Bool := let (p, q) := gridPoint n k; b.readsBack p q
  match fits lower, fits (lower + 1) with
  | true, false => some lower
  | false, true => some (lower + 1)
  | false, false => none
  | true, true =>
    let (p, q) := gridPoint (2 * lower + 1) k
    -- the middle between the two points is `p / (2 q)`
    if p * den < 2 * q * num then some (lower + 1) else some lower

def dropZeros (digits : List Char) : List Char :=
  (digits.reverse.dropWhile (· = '0')).reverse

def shortest (b : Binary64) : Decimal :=
  if b.mantissa = 0 then ⟨[], 0⟩
  else
    let (num, den) := b.ratio
    search (decimalPoint num den) 17 1
where
  search (point : Int) : Nat → Nat → Decimal
    | 0, _ => ⟨[], 0⟩
    | fuel + 1, length =>
      let k := point - length
      match b.onGrid? k with
      | some n =>
        let digits := Nat.toDigits 10 n
        ⟨dropZeros digits, k + digits.length⟩
      | none => search point fuel (length + 1)

end Binary64

def Decimal.plain (d : Decimal) : String :=
  if d.digits.isEmpty then "0"
  else if d.point ≤ 0 then
    "0." ++ String.ofList (List.replicate (-d.point).toNat '0' ++ d.digits)
  else
    let n := d.point.toNat
    if d.digits.length ≤ n then
      String.ofList (d.digits ++ List.replicate (n - d.digits.length) '0')
    else String.ofList (d.digits.take n ++ '.' :: d.digits.drop n)

end Enclose.Numeral
