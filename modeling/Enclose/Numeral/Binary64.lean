/-!
Rounding of positive rational numbers to binary floating point numbers of 64 bits.
-/

namespace Enclose.Numeral

/-- A number `mantissa · 2 ^ exponent` with a mantissa of at most 53 bits. -/
structure Binary64 where
  mantissa : Nat
  exponent : Int
  deriving Repr, DecidableEq, Inhabited

/-- A power of a base; the exponent counts as zero if it is negative. -/
def power (base : Nat) (exponent : Int) : Nat := Nat.pow base exponent.toNat

/-- The quotient rounded to the nearest integer, a half to the even neighbour. -/
def roundDiv (num den : Nat) : Nat :=
  let q := num / den
  let r := num % den
  if 2 * r < den then q else if den < 2 * r then q + 1 else q + q % 2

namespace Binary64

def minExponent : Int := -1074

def maxExponent : Int := 971

def units (num den : Nat) (exponent : Int) : Nat :=
  roundDiv (num * power 2 (-exponent)) (den * power 2 exponent)

def mantissaBound : Nat := power 2 53

def ofRatio? (num den : Nat) : Option Binary64 :=
  if num = 0 ∨ den = 0 then some ⟨0, minExponent⟩
  else
    let guess : Int := (Nat.log2 num : Int) - (Nat.log2 den : Int) - 53
    let exponent := max minExponent guess
    let exponent := if units num den exponent < mantissaBound then exponent else exponent + 1
    let exponent := if units num den exponent < mantissaBound then exponent else exponent + 1
    if maxExponent < exponent then none else some ⟨units num den exponent, exponent⟩

def ratio (b : Binary64) : Nat × Nat :=
  (b.mantissa * power 2 b.exponent, power 2 (-b.exponent))

end Binary64

end Enclose.Numeral
