import Enclose.Numeral.Shortest
import Enclose.Numeral.Digits

/-!
What number literals stand for, and the shortest way to write that.
-/

namespace Enclose.Script.Number

/-- The number system and the digits of an integer literal. A zero before other digits, none of them
above seven, makes them octal. -/
def systemOf (text : List Char) : Nat × List Char :=
  match text with
  | '0' :: 'x' :: rest | '0' :: 'X' :: rest => (16, rest)
  | '0' :: 'o' :: rest | '0' :: 'O' :: rest => (8, rest)
  | '0' :: 'b' :: rest | '0' :: 'B' :: rest => (2, rest)
  | '0' :: rest =>
    let isOctal (c : Char) := (Numeral.digitValue? 8 c).isSome || c == '_'
    if !rest.isEmpty && rest.all isOctal then (8, rest) else (10, text)
  | _ => (10, text)

/-- The value of a number literal; `none` is infinity. -/
def ofRaw (raw : String) : Option Numeral.Binary64 :=
  let (radix, digits) := systemOf raw.toList
  if radix = 10 then Numeral.ofDecimal? digits
  else Numeral.Binary64.ofRatio? (Numeral.ofDigits radix digits) 1

/-- The value of an integer literal with the suffix `n`. All its digits are decimal where no letter
says otherwise. -/
def integerOfRaw (raw : String) : Nat :=
  let text := raw.toList
  let (radix, digits) := systemOf text
  if radix = 8 ∧ (text[1]?.any fun c => c.isDigit || c == '_') then Numeral.ofDigits 10 text
  else Numeral.ofDigits radix digits

def plainText : Option Numeral.Binary64 → String
  | none => "inf"
  | some b => b.shortest.plain

/-- A shortest text, and whether a point after it would belong to it. `beforeDot` says that a point
follows. Zeros at an end give way to an exponent from three on. -/
def shortText (beforeDot : Bool) (b : Numeral.Binary64) : String × Bool :=
  let text := b.shortest.plain.toList
  let (num, den) := b.ratio
  if beforeDot && num % den == 0 && decide (10000000 ≤ num / den ∧ num / den ≤ 0xFFFFFF) then
    ("0x" ++ String.ofList (Nat.toDigits 16 (num / den)), false)
  else
    match text with
    | '0' :: '.' :: fraction =>
      let zeros := (fraction.takeWhile (· = '0')).length
      if 2 < zeros then
        (String.ofList (fraction.drop zeros) ++ "e-" ++ toString fraction.length, false)
      else (String.ofList ('.' :: fraction), false)
    | _ =>
      let zeros := (text.reverse.takeWhile (· = '0')).length
      if 3 ≤ zeros then
        (String.ofList (text.take (text.length - zeros)) ++ "e" ++ toString zeros, false)
      else (String.ofList text, !text.contains '.')

end Enclose.Script.Number
