import Enclose.Script.Lexer.Literal

/-!
The next token of a text. Which characters a regular expression or a template takes is for the
parser to say; everything else is decided here.
-/

namespace Enclose.Script.Lexer

structure Setting where
  isModule : Bool
  strict : Bool
  reserved : String → Bool

structure Blank where
  newline : Bool
  problems : List Problem := []
  /-- Where the first line starts that should not be there; the token counts from that place. -/
  refused : Option Nat := none
  failure : Option Problem := none
  deriving Inhabited

inductive BlankMode where
  | space
  | line
  | block (start : Nat)

/-- What lines that are left over from a conflict of two versions start with. -/
def conflictMarkers : List (List Char) :=
  ["<<<<<<< ", ">>>>>>> ", "||||||| ", "======="].map String.toList

/-- Why the rest of a line is passed over although it is no comment of this age: it starts with
`<!--`, or it starts as a line with `-->` or with a conflict marker. -/
def refusal? (lineStart : Bool) : List Char → Option Cause
  | '<' :: '!' :: '-' :: '-' :: _ => some .legacyComment
  | c :: rest =>
    if !lineStart then none
    else if ['-', '-', '>'].isPrefixOf (c :: rest) then some .legacyComment
    else if conflictMarkers.any (·.isPrefixOf (c :: rest)) then some .conflictMarker
    else none
  | [] => none

/-- Pass over the rest of a line. Modules refuse old comments, and all programs conflict markers; no
token can follow the marker with bars. -/
def Blank.refuse (isModule : Bool) (place : Nat) (c : Char) (cause : Cause) (blank : Blank) :
    Blank :=
  let refused := blank.refused <|> some place
  if cause = .legacyComment ∧ !isModule then { blank with refused }
  else
    { blank with
      refused, problems := blank.problems ++ [⟨place, cause⟩]
      failure := if c = '|' then some ⟨place, cause⟩ else none }

def Blank.pass (c : Char) (blank : Blank) : Blank :=
  { blank with newline := blank.newline || isLineEnd c }

def skipBlank (isModule : Bool) : BlankMode → Blank → Nat → List Char → Blank × Cursor
  | .space, blank, place, '/' :: '/' :: rest => skipBlank isModule .line blank (place + 2) rest
  | .space, blank, place, '/' :: '*' :: rest =>
    skipBlank isModule (.block place) blank (place + 2) rest
  | .space, blank, place, c :: rest =>
    if isBlank c then
      skipBlank isModule .space (blank.pass c) (place + 1) rest
    else if blank.failure.isSome then (blank, ⟨c :: rest, place⟩)
    else
      match refusal? blank.newline (c :: rest) with
      | some cause =>
        skipBlank isModule .line (blank.refuse isModule place c cause) (place + 1) rest
      | none => (blank, ⟨c :: rest, place⟩)
  | .line, blank, place, c :: rest =>
    if isLineEnd c then skipBlank isModule .space (blank.pass c) (place + 1) rest
    else skipBlank isModule .line blank (place + 1) rest
  | .block _, blank, place, '*' :: '/' :: rest => skipBlank isModule .space blank (place + 2) rest
  | .block start, blank, place, c :: rest =>
    skipBlank isModule (.block start) (blank.pass c) (place + 1) rest
  | .block start, blank, place, [] =>
    ({ blank with failure := some ⟨start, .unterminatedComment⟩ }, ⟨[], place⟩)
  | _, blank, place, [] => (blank, ⟨[], place⟩)

def punctuator? : List Char → Option (Token × Nat)
  | '(' :: _ => some (.openParen, 1)
  | ')' :: _ => some (.closeParen, 1)
  | '[' :: _ => some (.openBracket, 1)
  | ']' :: _ => some (.closeBracket, 1)
  | '{' :: _ => some (.openBrace, 1)
  | '}' :: _ => some (.closeBrace, 1)
  | ',' :: _ => some (.comma, 1)
  | ';' :: _ => some (.semicolon, 1)
  | ':' :: _ => some (.colon, 1)
  | '.' :: '.' :: '.' :: _ => some (.ellipsis, 3)
  | '.' :: _ => some (.dot, 1)
  | '`' :: _ => some (.backquote, 1)
  | '#' :: _ => some (.hash, 1)
  | '@' :: _ => some (.atSign, 1)
  | '~' :: _ => some (.tilde, 1)
  | '?' :: '?' :: '=' :: _ => some (.assign .nullish, 3)
  | '?' :: '?' :: _ => some (.binary .nullish, 2)
  | '?' :: _ => some (.question, 1)
  | '=' :: '=' :: '=' :: _ => some (.binary .strictEqual, 3)
  | '=' :: '=' :: _ => some (.binary .equal, 2)
  | '=' :: '>' :: _ => some (.arrow, 2)
  | '=' :: _ => some (.assign .assign, 1)
  | '!' :: '=' :: '=' :: _ => some (.binary .strictNotEqual, 3)
  | '!' :: '=' :: _ => some (.binary .notEqual, 2)
  | '!' :: _ => some (.bang, 1)
  | '+' :: '+' :: _ => some (.update .increment, 2)
  | '+' :: '=' :: _ => some (.assign .add, 2)
  | '+' :: _ => some (.binary .add, 1)
  | '-' :: '-' :: _ => some (.update .decrement, 2)
  | '-' :: '=' :: _ => some (.assign .subtract, 2)
  | '-' :: _ => some (.binary .subtract, 1)
  | '*' :: '*' :: '=' :: _ => some (.assign .power, 3)
  | '*' :: '*' :: _ => some (.binary .power, 2)
  | '*' :: '=' :: _ => some (.assign .multiply, 2)
  | '*' :: _ => some (.binary .multiply, 1)
  | '/' :: '=' :: _ => some (.assign .divide, 2)
  | '/' :: _ => some (.binary .divide, 1)
  | '%' :: '=' :: _ => some (.assign .remainder, 2)
  | '%' :: _ => some (.binary .remainder, 1)
  | '&' :: '&' :: '=' :: _ => some (.assign .logicalAnd, 3)
  | '&' :: '&' :: _ => some (.binary .logicalAnd, 2)
  | '&' :: '=' :: _ => some (.assign .bitAnd, 2)
  | '&' :: _ => some (.binary .bitAnd, 1)
  | '|' :: '|' :: '=' :: _ => some (.assign .logicalOr, 3)
  | '|' :: '|' :: _ => some (.binary .logicalOr, 2)
  | '|' :: '=' :: _ => some (.assign .bitOr, 2)
  | '|' :: _ => some (.binary .bitOr, 1)
  | '^' :: '=' :: _ => some (.assign .bitXor, 2)
  | '^' :: _ => some (.binary .bitXor, 1)
  | '<' :: '<' :: '=' :: _ => some (.assign .shiftLeft, 3)
  | '<' :: '<' :: _ => some (.binary .shiftLeft, 2)
  | '<' :: '=' :: _ => some (.binary .lessEqual, 2)
  | '<' :: _ => some (.binary .less, 1)
  | '>' :: '>' :: '>' :: '=' :: _ => some (.assign .shiftRightZero, 4)
  | '>' :: '>' :: '>' :: _ => some (.binary .shiftRightZero, 3)
  | '>' :: '>' :: '=' :: _ => some (.assign .shiftRight, 3)
  | '>' :: '>' :: _ => some (.binary .shiftRight, 2)
  | '>' :: '=' :: _ => some (.binary .greaterEqual, 2)
  | '>' :: _ => some (.binary .greater, 1)
  | _ => none

/-- Read the token at the cursor, which stands on no blank character. -/
def readToken (setting : Setting) (cursor : Cursor) : Scan Token :=
  match cursor.rest with
  | [] => ⟨.error ⟨cursor.place, .endOfText⟩, cursor, []⟩
  | c :: rest =>
    if c = '"' ∨ c = '\'' then readString setting.strict c cursor
    else if c.isDigit || (c == '.' && rest.head?.any Char.isDigit) then
      readNumber setting.strict cursor
    else if isWordStart c || c == '\\' then readWord setting.reserved cursor
    else
      match punctuator? cursor.rest with
      | some (token, length) => ⟨.ok token, cursor.advance length, []⟩
      | none => ⟨.error ⟨cursor.place, .unexpectedCharacter c⟩, cursor.advance 1, []⟩

/-- What the parser is told about the next token: the token or `none` at the end of the text, or
else why there is none; where it starts, whether a line ended before it, the complaints made on the
way, and what is left. -/
structure Reading where
  result : Except Problem (Option Token)
  start : Nat
  newline : Bool
  problems : List Problem
  cursor : Cursor

/-- Skip blank text and read the token after it. `newline` says that a line starts at the cursor. -/
def readNext (setting : Setting) (newline : Bool) (cursor : Cursor) : Reading :=
  let (blank, stop) := skipBlank setting.isModule .space { newline } cursor.place cursor.rest
  let start := blank.refused.getD stop.place
  match blank.failure with
  | some p => ⟨.error p, blank.refused.getD cursor.place, blank.newline, blank.problems, stop⟩
  | none =>
    if stop.rest.isEmpty then ⟨.ok none, start, blank.newline, blank.problems, stop⟩
    else
      let scan := readToken setting stop
      ⟨scan.result.map some, start, blank.newline, blank.problems ++ scan.problems, scan.cursor⟩

def readHashbang (cursor : Cursor) : Option (String × Cursor) :=
  match cursor.rest with
  | '#' :: '!' :: rest =>
    let line := rest.takeWhile fun c => !isLineEnd c
    some (String.ofList line, cursor.advance (2 + line.length))
  | _ => none

end Enclose.Script.Lexer
