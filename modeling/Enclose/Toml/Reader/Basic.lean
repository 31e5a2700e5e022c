import Enclose.Toml.Fault

/-!
Readers of configuration text. A reader takes characters and gives a result, or fails. After a
failure another way to read the text is tried, unless the failure is committed.
-/

namespace Enclose.Toml

structure Cursor where
  rest : List Char
  place : Nat := 0
  deriving Repr, DecidableEq, Inhabited

abbrev Reader (α : Type) := StateT Cursor (Except Fault) α

namespace Reader

variable {α β : Type}

def peek : Reader (Option Char) := return (← get).rest.head?

def place : Reader Nat := return (← get).place

def fail : Reader α := do throw { place := ← place }

def refuse (place : Nat) (cause : Cause) : Reader α := throw { place, cause := some cause }

def next : Reader Char := do
  let c ← get
  match c.rest with
  | [] => fail
  | char :: rest =>
    set { c with rest, place := c.place + char.utf8Size }
    return char

def one (isWanted : Char → Bool) : Reader Char := do
  match ← peek with
  | some c => if isWanted c then next else fail
  | none => fail

def char (wanted : Char) : Reader Unit := do
  let _ ← one (· == wanted)

def takeWhile (isWanted : Char → Bool) : Reader (List Char) := do
  let c ← get
  let taken := c.rest.takeWhile isWanted
  set { c with rest := c.rest.dropWhile isWanted, place := c.place + Utf8.length taken }
  return taken

def literal (wanted : List Char) : Reader Unit := do
  let c ← get
  if c.rest.take wanted.length = wanted then
    set { c with rest := c.rest.drop wanted.length, place := c.place + Utf8.length wanted }
  else fail

def orElse (first second : Reader α) : Reader α := fun c =>
  match first c with
  | .error fault => if fault.committed then .error fault else second c
  | result => result

def optional (p : Reader α) : Reader (Option α) := orElse (some <$> p) (pure none)

def lookAhead (p : Reader α) : Reader α := fun c =>
  match p c with
  | .ok (a, _) => .ok (a, c)
  | .error fault => .error fault

def onFault (change : Fault → Fault) (p : Reader α) : Reader α := fun c => (p c).mapError change

def commit (p : Reader α) : Reader α := onFault (fun f => { f with committed := true }) p

/-- Name what is read. The innermost name counts. -/
def labelled (label : String) (p : Reader α) : Reader α :=
  onFault (fun f => { f with label := some (f.label.getD label) }) p

def expecting (names : List String) (p : Reader α) : Reader α :=
  onFault (fun f => { f with expected := f.expected ++ names }) p

def many (p : Reader α) : Reader (List α) := do
  go (← get).rest.length
where
  go : Nat → Reader (List α)
    | 0 => return []
    | fuel + 1 => do
      match ← optional p with
      | none => return []
      | some a => return a :: (← go fuel)

def separated (p : Reader α) (separator : Reader Unit) : Reader (List α) := do
  let first ← p
  let others ← many (do separator; p)
  return first :: others

def spanned (p : Reader α) : Reader (Span × α) := do
  let start ← place
  let a ← p
  return (⟨start, ← place⟩, a)

def isBlank (c : Char) : Bool := c == ' ' || c == '\t'

def isPrintable (c : Char) : Bool := c == '\t' || decide (0x20 ≤ c.toNat ∧ c.toNat ≠ 0x7F)

def spaces : Reader Unit := do
  let _ ← takeWhile isBlank

def newline : Reader Unit := orElse (char '\n') (do char '\r'; char '\n')

def ended : Reader Unit := do
  if (← peek).isSome then fail

def lineEnd : Reader Unit := orElse newline ended

def comment : Reader Unit := do
  char '#'
  let _ ← takeWhile isPrintable

def lineRest : Reader Unit := do
  spaces
  let _ ← optional comment
  lineEnd

def skipLines : Reader Unit := do
  go (← get).rest.length
where
  go : Nat → Reader Unit
    | 0 => spaces
    | fuel + 1 => do
      spaces
      match ← peek with
      | some '#' =>
        comment
        newline
        go fuel
      | some '\n' | some '\r' =>
        newline
        go fuel
      | _ => return ()

end Reader

end Enclose.Toml
