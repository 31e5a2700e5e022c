import Enclose.Toml.Tree
import Enclose.Text.Utf8

/-!
What can be wrong with a configuration text, and how it is shown beside the line it stands in.
-/

namespace Enclose.Toml

inductive Cause where
  | duplicateKey (key : String) (table : Option (List String))
  | notATable (path : List String) (kind : String)
  | outOfRange
  | tooNested
  | integerTooLarge
  | integerTooSmall
  deriving Repr, DecidableEq, Inhabited

def Cause.message : Cause → String
  | duplicateKey key none => "duplicate key `" ++ key ++ "`"
  | duplicateKey key (some []) => "duplicate key `" ++ key ++ "` in document root"
  | duplicateKey key (some table) =>
    "duplicate key `" ++ key ++ "` in table `" ++ ".".intercalate table ++ "`"
  | notATable path kind =>
    "dotted key `" ++ ".".intercalate path ++ "` attempted to extend non-table type (" ++ kind ++
      ")"
  | outOfRange => "value is out of range"
  | tooNested => "recursion limit exceeded"
  | integerTooLarge => "number too large to fit in target type"
  | integerTooSmall => "number too small to fit in target type"

structure Fault where
  place : Nat
  committed : Bool := false
  label : Option String := none
  expected : List String := []
  cause : Option Cause := none
  deriving Repr, DecidableEq, Inhabited

def Fault.message (f : Fault) : String :=
  let label := f.label.toList.map ("invalid " ++ ·)
  let expected := if f.expected.isEmpty then [] else ["expected " ++ ", ".intercalate f.expected]
  "\n".intercalate (label ++ expected ++ f.cause.toList.map Cause.message)

structure Complaint where
  span : Option Span
  message : String
  deriving Repr, DecidableEq, Inhabited

def charAt? : List Char → Nat → Option Char
  | [], _ => none
  | c :: _, 0 => some c
  | c :: rest, place + 1 => charAt? rest (place + 1 - c.utf8Size)

def Fault.complaint (text : List Char) (f : Fault) : Complaint :=
  let size := ((charAt? text f.place).map Char.utf8Size).getD 0
  { span := some ⟨f.place, f.place + size⟩, message := f.message }

structure Position where
  line : Nat := 0
  /-- The characters before the place in its line, latest first. -/
  before : List Char := []

/-- Find a place. The end of the text belongs to the line of the last character. -/
def locate (p : Position) : List Char → Nat → Position
  | [], _ => p
  | _, 0 => p
  | [c], _ + 1 => { p with before := c :: p.before }
  | c :: rest, place + 1 =>
    locate (if c = '\n' then ⟨p.line + 1, []⟩ else { p with before := c :: p.before }) rest
      (place + 1 - c.utf8Size)

/-- The column of a place, counted from zero: the number of characters before it, but that of their
bytes before a character of several bytes. -/
def column (p : Position) (next : Option Char) : Nat :=
  if next.any fun c => 1 < c.utf8Size then Utf8.length p.before else p.before.length

def textLines : List Char → List (List Char)
  | [] => [[]]
  | c :: rest =>
    match textLines rest with
    | [] => [[c]]
    | line :: others => if c = '\n' then [] :: line :: others else (c :: line) :: others

def blanks (n : Nat) : String := String.ofList (List.replicate n ' ')

def Complaint.report (text : List Char) (c : Complaint) : String :=
  match c.span with
  | none => c.message ++ "\n"
  | some span =>
    let position := locate {} text span.start
    let column := column position (charAt? text span.start)
    let content := (textLines text).getD position.line []
    let number := toString (position.line + 1)
    let gutter := blanks (number.length + 1) ++ "|"
    let marked := min (span.stop - span.start) (Utf8.length content - column)
    "TOML parse error at line " ++ number ++ ", column " ++ toString (column + 1) ++ "\n" ++
      gutter ++ "\n" ++
      number ++ " | " ++ String.ofList content ++ "\n" ++
      gutter ++ blanks (column + 1) ++ String.ofList (List.replicate (max 1 marked) '^') ++ "\n" ++
      c.message ++ "\n"

end Enclose.Toml
