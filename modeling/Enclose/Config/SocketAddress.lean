import Enclose.Numeral.Digits

/-!
Addresses with a port: four numbers with dots between them, or hexadecimal groups in brackets with
colons between them, of which a double colon may stand for zeros.
-/

namespace Enclose

inductive Host where
  | bytes (values : List Nat)
  | groups (values : List Nat)
  deriving Repr, DecidableEq, Inhabited

structure SocketAddress where
  host : Host
  port : Nat
  deriving Repr, DecidableEq, Inhabited

namespace Host

def isAny : Host → Bool
  | bytes values => values.all (· == 0)
  | groups values => values.all (· == 0)

/-- Whether two addresses can be those of one host. Any address in groups stands for those in bytes
too. -/
def overlaps (a b : Host) : Bool :=
  a == b ||
    match a, b with
    | bytes _, bytes _ => a.isAny || b.isAny
    | bytes _, groups _ => b.isAny
    | groups _, bytes _ => a.isAny
    | groups _, groups _ => a.isAny || b.isAny

end Host

namespace SocketAddress

/-- Whether only one of two listeners can have its address. A port of zero is a free one. -/
def conflicts (a b : SocketAddress) : Bool :=
  a.port == b.port && a.port != 0 && a.host.overlaps b.host

abbrev Reader (α : Type) := List Char → Option (α × List Char)

def take (wanted : Char) : Reader Unit
  | c :: rest => if c = wanted then some ((), rest) else none
  | [] => none

/-- A decimal number up to a bound. A zero may stand before other digits only where that is said,
and there may be at most so many digits. -/
def number (bound : Nat) (maxDigits : Option Nat) (leadingZero : Bool) : Reader Nat := fun text =>
  let digits := text.takeWhile Char.isDigit
  let value := Numeral.ofDigits 10 digits
  if digits.isEmpty || maxDigits.any (· < digits.length) ||
      (!leadingZero && digits.head? == some '0' && 1 < digits.length) || decide (bound < value) then
    none
  else some (value, text.drop digits.length)

def readPort : Reader Nat := fun text => do
  let ((), rest) ← take ':' text
  number 65535 none true rest

def byte : Reader Nat := number 255 (some 3) false

def dottedByte : Reader Nat := fun text => do
  let ((), rest) ← take '.' text
  byte rest

def fourBytes : Reader (List Nat) := fun text => do
  let (a, rest) ← byte text
  let (b, rest) ← dottedByte rest
  let (c, rest) ← dottedByte rest
  let (d, rest) ← dottedByte rest
  return ([a, b, c, d], rest)

def twoGroups : Reader (List Nat) := fun text => do
  match ← fourBytes text with
  | ([a, b, c, d], rest) => return ([a * 256 + b, c * 256 + d], rest)
  | _ => none

def group : Reader Nat := fun text =>
  let digits := text.takeWhile fun c => (Numeral.digitValue? 16 c).isSome
  if digits.isEmpty || decide (4 < digits.length) then none
  else some (Numeral.ofDigits 16 digits, text.drop digits.length)

def afterColon {α : Type} (isFirst : Bool) (read : Reader α) : Reader α := fun text => do
  if isFirst then read text
  else
    let ((), rest) ← take ':' text
    read rest

/-- Groups with colons between them, as many as there are up to a limit, and whether the last two
were written as four bytes. -/
def readGroups (isFirst : Bool) : Nat → List Char → (List Nat × Bool) × List Char
  | 0, text => (([], false), text)
  | limit + 1, text =>
    let pair := if limit = 0 then none else afterColon isFirst twoGroups text
    match pair with
    | some (pair, rest) => ((pair, true), rest)
    | none =>
      match afterColon isFirst group text with
      | some (value, rest) =>
        let ((values, fromBytes), rest) := readGroups false limit rest
        ((value :: values, fromBytes), rest)
      | none => (([], false), text)

def eightGroups : Reader (List Nat) := fun text =>
  let ((front, fromBytes), rest) := readGroups true 8 text
  if front.length = 8 then some (front, rest)
  else if fromBytes then none
  else do
    let ((), rest) ← take ':' rest
    let ((), rest) ← take ':' rest
    let ((back, _), rest) := readGroups true (7 - front.length) rest
    return (front ++ List.replicate (8 - front.length - back.length) 0 ++ back, rest)

def dropInterface (text : List Char) : List Char :=
  let number := do
    let ((), rest) ← take '%' text
    number 4294967295 none true rest
  (number.map Prod.snd).getD text

def readHost : Reader Host := fun text =>
  match text with
  | '[' :: rest => do
    let (values, rest) ← eightGroups rest
    let ((), rest) ← take ']' (dropInterface rest)
    return (.groups values, rest)
  | _ => do
    let (values, rest) ← fourBytes text
    return (.bytes values, rest)

def parse? (text : String) : Option SocketAddress := do
  let (host, rest) ← readHost text.toList
  let (port, rest) ← readPort rest
  if rest.isEmpty then some { host, port } else none

def isValid (text : String) : Bool := (parse? text).isSome

end SocketAddress

end Enclose
