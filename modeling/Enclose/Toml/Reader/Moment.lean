import Enclose.Toml.Reader.Number

/-!
Dates and times. Only that they are written well matters.
-/

namespace Enclose.Toml.Reader

def fixedDigits (length : Nat) : Reader Nat := do
  let c ← get
  let text := (c.rest.take length).takeWhile Char.isDigit
  if text.length < length then fail
  else
    literal text
    return Numeral.ofDigits 10 text

def twoDigits (least greatest : Nat) : Reader Nat := do
  let start ← place
  let n ← fixedDigits 2
  if least ≤ n ∧ n ≤ greatest then return n else refuse start .outOfRange

def daysOf (year month : Nat) : Nat :=
  let leap := year % 4 == 0 && (year % 100 != 0 || year % 400 == 0)
  match month with
  | 2 => if leap then 29 else 28
  | 4 | 6 | 9 | 11 => 30
  | _ => 31

def date : Reader Unit := do
  let year ← fixedDigits 4
  char '-'
  let month ← commit (twoDigits 1 12)
  commit (char '-')
  let start ← place
  let day ← commit (twoDigits 1 31)
  if daysOf year month < day then commit (refuse start .outOfRange)

def secondFraction : Reader Unit := do
  char '.'
  let _ ← takeSome Char.isDigit

def time : Reader Unit := do
  let _ ← twoDigits 0 23
  char ':'
  commit do
    let _ ← twoDigits 0 59
    char ':'
    let _ ← twoDigits 0 60
    let _ ← optional secondFraction

def offset : Reader Unit :=
  labelled "time offset" do
    let first ← one fun c => c == 'Z' || c == 'z' || c == '+' || c == '-'
    if first == '+' || first == '-' then
      commit do
        let _ ← twoDigits 0 23
        char ':'
        let _ ← twoDigits 0 59

def moment : Reader Unit :=
  orElse
    (labelled "date-time" do
      date
      let _ ← optional do
        let _ ← one fun c => c == 'T' || c == 't' || c == ' '
        time
        let _ ← optional offset)
    (labelled "time" time)

end Enclose.Toml.Reader
