import Enclose.Numeral.Binary64

/-!
Numbers written with digits.
-/

namespace Enclose.Numeral

def digitValue? (radix : Nat) (c : Char) : Option Nat :=
  let value :=
    if c.isDigit then c.toNat - 48
    else if 'a' ≤ c ∧ c ≤ 'f' then c.toNat - 87
    else if 'A' ≤ c ∧ c ≤ 'F' then c.toNat - 55
    else radix
  if value < radix then some value else none

def ofDigits (radix : Nat) (text : List Char) : Nat :=
  text.foldl (fun n c => match digitValue? radix c with | some d => n * radix + d | none => n) 0

def ofScientific? (n : Nat) (e : Int) : Option Binary64 :=
  if n = 0 then Binary64.ofRatio? 0 1
  else
    let size : Int := (Nat.toDigits 10 n).length
    if 400 < size + e then none
    else if size + e < -400 then Binary64.ofRatio? 0 1
    else Binary64.ofRatio? (n * power 10 e) (power 10 (-e))

def exponentOf (text : List Char) : Int :=
  match text with
  | '-' :: rest => -(ofDigits 10 rest : Int)
  | _ => (ofDigits 10 text : Int)

def ofDecimal? (text : List Char) : Option Binary64 :=
  let text := text.filter (· ≠ '_')
  let isLetter (c : Char) : Bool := c == 'e' || c == 'E'
  let mantissa := text.takeWhile fun c => !isLetter c
  let exponent := exponentOf ((text.dropWhile fun c => !isLetter c).drop 1)
  let fraction := (mantissa.dropWhile (· ≠ '.')).drop 1
  ofScientific? (ofDigits 10 mantissa) (exponent - fraction.length)

end Enclose.Numeral
