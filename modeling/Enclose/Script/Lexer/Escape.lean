import Enclose.Numeral.Digits
import Enclose.Script.Character
import Enclose.Script.Problem

/-!
Digits, and the escapes of strings, templates and words.

A reader takes the characters that are left and says how many of them it consumed.
-/

namespace Enclose.Script.Lexer

structure Digits where
  value : Nat := 0
  count : Nat := 0
  aboveOctal : Bool := false
  previous : Option Char := none
  consumed : Nat := 0
  /-- Whether a separator stands elsewhere than between two digits. -/
  misplaced : Bool := false
  deriving Repr, DecidableEq, Inhabited

def forbidsSeparator (radix : Nat) (c : Char) : Bool :=
  if radix = 16 then ['.', 'X', '_', 'x'].contains c
  else ['.', 'B', 'E', 'O', '_', 'b', 'e', 'o'].contains c

def misplacedSeparator (radix : Nat) (previous next : Option Char) : Bool :=
  !(next.any fun c => (Numeral.digitValue? radix c).isSome) ||
    previous.any (forbidsSeparator radix) || next.any (forbidsSeparator radix)

def readDigits (radix : Nat) (limit : Option Nat) (digits : Digits) : List Char → Digits
  | [] => digits
  | c :: rest =>
    if limit = some digits.count then digits
    else if c = '_' then
      readDigits radix limit
        { digits with
          consumed := digits.consumed + 1
          misplaced :=
            digits.misplaced || misplacedSeparator radix digits.previous rest.head? } rest
    else
      match Numeral.digitValue? radix c with
      | none => digits
      | some value =>
        readDigits radix limit
          { digits with
            value := digits.value * radix + value
            count := digits.count + 1
            aboveOctal := digits.aboveOctal || decide (8 ≤ value)
            previous := some c
            consumed := digits.consumed + 1 } rest

def isCodePoint (n : Nat) : Bool := decide (n < 0xD800 ∨ 0xE000 ≤ n ∧ n ≤ 0x10FFFF)

structure Escape where
  /-- The characters it stands for, or why it stands for none; the place counts from the
  backslash. -/
  result : Except Problem (List Char)
  consumed : Nat
  problems : List Problem := []

def separatorProblems (digits : Digits) (place : Nat) : List Problem :=
  if digits.misplaced then [⟨place, .numericSeparator⟩] else []

/-- Half of a surrogate pair is no character; its escape stands for itself. At most six characters
of a braced escape are taken. -/
def surrogateText (braced : Bool) (digits : List Char) : List Char × Nat :=
  if braced then
    let taken := (digits.take 6).takeWhile (· ≠ '}')
    ('\\' :: 'u' :: '{' :: taken ++ ['}'], taken.length)
  else
    let taken := digits.take 4
    ('\\' :: 'u' :: taken, taken.length)

def readUnicodeEscape (rest : List Char) : Escape :=
  let braced := rest.head? == some '{'
  let body := if braced then rest.drop 1 else rest
  let first := if braced then 3 else 2
  let digits := readDigits 16 (if braced then none else some 4) {} body
  let problems := separatorProblems digits first
  let shape := if braced then "1-6 hex characters" else "4 hex characters"
  let stop := first + digits.consumed
  if (if braced then digits.count = 0 else digits.count ≠ 4) ∨ 0xFFFFFFFF < digits.value then
    ⟨.error ⟨stop, .badEscape shape⟩, stop - 1, problems⟩
  else if 0x10FFFF < digits.value then
    let shape := if braced then shape ++ " in the range 0 to 10FFFF." else shape
    ⟨.error ⟨stop, .badEscape shape⟩, stop - 1, problems⟩
  else
    let (chars, length) :=
      if isCodePoint digits.value then ([Char.ofNat digits.value], digits.consumed)
      else surrogateText braced body
    if !braced then ⟨.ok chars, first + length - 1, problems⟩
    else if (body.drop length).head? = some '}' then ⟨.ok chars, first + length, problems⟩
    else ⟨.error ⟨first, .invalidUnicodeEscape⟩, first + length - 1, problems⟩

def readOctal (rest : List Char) : Nat × Nat :=
  let digit (i : Nat) : Option Nat := (rest[i]?).bind (Numeral.digitValue? 8)
  match digit 0, digit 1, digit 2 with
  | some a, some b, some c =>
    if a * 64 + b * 8 + c < 256 then (a * 64 + b * 8 + c, 3) else (a * 8 + b, 2)
  | some a, some b, none => (a * 8 + b, 2)
  | some a, none, _ => (a, 1)
  | none, _, _ => (0, 0)

def readEscape (inTemplate strict : Bool) : List Char → Escape
  | [] => ⟨.error ⟨0, .invalidEscape⟩, 0, []⟩
  | c :: rest =>
    match c with
    | 'n' => ⟨.ok ['\n'], 1, []⟩
    | 'r' => ⟨.ok ['\r'], 1, []⟩
    | 't' => ⟨.ok ['\t'], 1, []⟩
    | 'b' => ⟨.ok ['\x08'], 1, []⟩
    | 'v' => ⟨.ok ['\x0b'], 1, []⟩
    | 'f' => ⟨.ok ['\x0c'], 1, []⟩
    | '\r' => ⟨.ok [], if rest.head? = some '\n' then 2 else 1, []⟩
    | '\n' | '\u2028' | '\u2029' => ⟨.ok [], 1, []⟩
    | 'x' =>
      let digits := readDigits 16 (some 2) {} rest
      let problems := separatorProblems digits 2
      if digits.count = 2 then ⟨.ok [Char.ofNat digits.value], 1 + digits.consumed, problems⟩
      else ⟨.error ⟨0, .badEscape "2 hex characters"⟩, 1 + digits.consumed, problems⟩
    | 'u' =>
      let escape := readUnicodeEscape rest
      { escape with result := escape.result.mapError fun p => ⟨0, p.cause⟩ }
    | _ =>
      if (Numeral.digitValue? 8 c).isSome then
        if c = '0' ∧ ¬(rest.head?.bind (Numeral.digitValue? 8)).isSome then ⟨.ok ['\x00'], 1, []⟩
        else if inTemplate then ⟨.error ⟨0, .legacyOctal⟩, 1, []⟩
        else
          let (value, length) := readOctal (c :: rest)
          ⟨.ok [Char.ofNat value], length, if strict then [⟨0, .legacyOctal⟩] else []⟩
      else ⟨.ok [c], 1, []⟩

end Enclose.Script.Lexer
