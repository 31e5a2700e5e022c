import Enclose.Numeral.Shortest
import Enclose.Toml.Reader.Text

/-!
Numbers. Marks may stand between digits.
-/

namespace Enclose.Toml.Reader

def digit (radix : Nat) : Reader Char := one fun c => (Numeral.digitValue? radix c).isSome

def moreDigits (radix : Nat) : Reader (List Char) := do
  let digits ← many (orElse (digit radix) (do char '_'; commit (expecting ["digit"] (digit radix))))
  return digits

def digits (radix : Nat) : Reader (List Char) := do
  let first ← digit radix
  return first :: (← moreDigits radix)

def sign : Reader (List Char) := do
  return (← optional (one fun c => c == '+' || c == '-')).toList

def decimalInteger : Reader (List Char) :=
  labelled "integer" do
    let signs ← sign
    let first ← digit 10
    if first = '0' then return signs ++ [first]
    else return signs ++ first :: (← moreDigits 10)

def maxInteger : Int := 9223372036854775807

def minInteger : Int := -9223372036854775808

def bounded (start : Nat) (value : Int) : Reader Int :=
  if maxInteger < value then commit (refuse start .integerTooLarge)
  else if value < minInteger then commit (refuse start .integerTooSmall)
  else return value

def integerOf (radix : Nat) (name : String) : Reader Int := do
  let start ← place
  let text ← labelled name (commit do
    let _ ← next
    let _ ← next
    digits radix)
  bounded start (Numeral.ofDigits radix text)

def integer : Reader Int := do
  match (← get).rest with
  | '0' :: 'x' :: _ => integerOf 16 "hexadecimal integer"
  | '0' :: 'o' :: _ => integerOf 8 "octal integer"
  | '0' :: 'b' :: _ => integerOf 2 "binary integer"
  | _ =>
    let start ← place
    let text ← decimalInteger
    let size : Int := Numeral.ofDigits 10 text
    bounded start (if text.head? = some '-' then -size else size)

def exponent : Reader (List Char) := do
  let letter ← one fun c => c == 'e' || c == 'E'
  let signs ← sign
  return letter :: (signs ++ (← commit (digits 10)))

def fraction : Reader (List Char) := do
  char '.'
  let ds ← commit (expecting ["digit"] (digits 10))
  return '.' :: (ds ++ (← optional exponent).getD [])

def infinityWord : List Char := ['i', 'n', 'f']

def nanWord : List Char := ['n', 'a', 'n']

def specialName : Reader String :=
  orElse (do literal infinityWord; return "inf") (do literal nanWord; return "NaN")

def plainFloat (size : Numeral.Binary64) : String :=
  let text := size.shortest.plain
  if text.toList.contains '.' then text else text ++ ".0"

def float : Reader String :=
  labelled "floating-point number" <|
    orElse
      (do
        let start ← place
        let integer ← decimalInteger
        let text := integer ++ (← orElse exponent fraction)
        let negative := text.head? = some '-'
        match Numeral.ofDecimal? (text.filter fun c => c != '+') with
        | some size => return (if negative then "-" else "") ++ plainFloat size
        | none =>
          if negative then return "-inf"
          else commit (onFault (fun f => { f with place := start }) fail))
      (do
        let signs ← sign
        let name ← specialName
        return (if signs = ['-'] && name == "inf" then "-" else "") ++ name)

end Enclose.Toml.Reader
