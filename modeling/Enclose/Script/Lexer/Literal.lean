import Enclose.Script.Lexer.Escape
import Enclose.Script.Token

/-!
Reading strings, templates, regular expressions, numbers and words from the characters that are
left.
-/

namespace Enclose.Script.Lexer

structure Cursor where
  rest : List Char
  place : Nat
  deriving Repr, DecidableEq, Inhabited

namespace Cursor

def advance (n : Nat) (c : Cursor) : Cursor := ⟨c.rest.drop n, c.place + n⟩

def upTo (start stop : Cursor) : String :=
  String.ofList (start.rest.take (stop.place - start.place))

end Cursor

structure Scan (α : Type) where
  result : Except Problem α
  cursor : Cursor
  problems : List Problem := []

namespace Scan

variable {α β : Type}

def andThen (s : Scan α) (next : α → Cursor → Scan β) : Scan β :=
  match s.result with
  | .error p => ⟨.error p, s.cursor, s.problems⟩
  | .ok a =>
    let t := next a s.cursor
    { t with problems := s.problems ++ t.problems }

def map (f : α → β) (s : Scan α) : Scan β := ⟨s.result.map f, s.cursor, s.problems⟩

end Scan

/-- Read the characters of a string up to its closing quote. `skip` characters belong to the escape
before them; the value is collected in reverse. A string that is not closed ends with its line. -/
def scanString (quote : Char) (strict : Bool) (start : Nat) :
    Nat → List Char → List Problem → Nat → List Char → Scan (List Char)
  | _, value, problems, place, [] =>
    ⟨.ok value.reverse, ⟨[], place⟩, problems ++ [⟨start, .unterminatedString⟩]⟩
  | skip + 1, value, problems, place, _ :: rest =>
    scanString quote strict start skip value problems (place + 1) rest
  | 0, value, problems, place, c :: rest =>
    if c = quote then ⟨.ok value.reverse, ⟨rest, place + 1⟩, problems⟩
    else if c = '\n' ∨ c = '\r' then
      ⟨.ok value.reverse, ⟨c :: rest, place⟩, problems ++ [⟨start, .unterminatedString⟩]⟩
    else if c = '\\' then
      let escape := readEscape false strict rest
      let problems := problems ++ escape.problems.map (Problem.shift place)
      match escape.result with
      | .ok chars =>
        scanString quote strict start escape.consumed (chars.reverse ++ value) problems (place + 1)
          rest
      | .error p =>
        ⟨.error (p.shift place), ⟨rest.drop escape.consumed, place + 1 + escape.consumed⟩, problems⟩
    else scanString quote strict start 0 (c :: value) problems (place + 1) rest

def readString (strict : Bool) (quote : Char) (cursor : Cursor) : Scan Token :=
  let scan := scanString quote strict cursor.place 0 [] [] (cursor.place + 1) (cursor.rest.drop 1)
  scan.map fun value => .string ⟨String.ofList value, cursor.upTo scan.cursor⟩

structure TemplatePiece where
  raw : String
  cooked : Except Problem String
  isLast : Bool

/-- Read template text up to an interpolation or to the end of the template. What was written and
what it stands for are collected in reverse. Every end of a line stands for a line feed. -/
def scanTemplate (start : Nat) :
    Nat → List Char → Except Problem (List Char) → List Problem → Nat → List Char →
      Scan (List Char × Except Problem (List Char) × Bool)
  | _, _, _, problems, place, [] =>
    ⟨.error ⟨start, .unterminatedTemplate⟩, ⟨[], place⟩, problems⟩
  | skip + 1, raw, cooked, problems, place, c :: rest =>
    scanTemplate start skip (c :: raw) cooked problems (place + 1) rest
  | 0, raw, cooked, problems, place, c :: rest =>
    if c = '`' then ⟨.ok (raw.reverse, cooked.map .reverse, true), ⟨c :: rest, place⟩, problems⟩
    else if c = '$' ∧ rest.head? = some '{' then
      ⟨.ok (raw.reverse, cooked.map .reverse, false), ⟨c :: rest, place⟩, problems⟩
    else if c = '\\' then
      let escape := readEscape true true rest
      let cooked :=
        match cooked, escape.result with
        | .error p, _ => .error p
        | .ok _, .error p => .error (p.shift place)
        | .ok value, .ok chars => .ok (chars.reverse ++ value)
      scanTemplate start escape.consumed (c :: raw) cooked
        (problems ++ escape.problems.map (Problem.shift place)) (place + 1) rest
    else if c = '\r' then
      let cooked := if rest.head? = some '\n' then cooked else cooked.map ('\n' :: ·)
      scanTemplate start 0 (c :: raw) cooked problems (place + 1) rest
    else scanTemplate start 0 (c :: raw) (cooked.map (c :: ·)) problems (place + 1) rest

def readTemplatePiece (start : Nat) (cursor : Cursor) : Scan TemplatePiece :=
  (scanTemplate start 0 [] (.ok []) [] cursor.place cursor.rest).map fun (raw, cooked, isLast) =>
    ⟨String.ofList raw, cooked.map String.ofList, isLast⟩

/-- The number of characters of the body of a regular expression, up to its closing slash; `none` if
the line ends first. -/
def regexLength (escaped inClass : Bool) (length : Nat) : List Char → Except Nat Nat
  | [] => .error length
  | c :: rest =>
    if isLineEnd c then .error length
    else if escaped then regexLength false inClass (length + 1) rest
    else if c = '/' ∧ !inClass then .ok length
    else regexLength (c = '\\') (c = '[' || (inClass && c != ']')) (length + 1) rest

/-- Read the rest of a word. `skip` characters belong to the escape before them; the letters are
collected in reverse. Also says whether an escape was read. -/
def scanWord :
    Nat → Bool → List Char → List Problem → Nat → List Char → Scan (List Char × Bool)
  | _, escaped, letters, problems, place, [] =>
    ⟨.ok (letters.reverse, escaped), ⟨[], place⟩, problems⟩
  | skip + 1, escaped, letters, problems, place, _ :: rest =>
    scanWord skip escaped letters problems (place + 1) rest
  | 0, escaped, letters, problems, place, c :: rest =>
    if isWordPart c then scanWord 0 escaped (c :: letters) problems (place + 1) rest
    else if c = '\\' then
      match rest with
      | 'u' :: digits =>
        let escape := readUnicodeEscape digits
        let problems := problems ++ escape.problems.map (Problem.shift place)
        match escape.result with
        | .error p =>
          ⟨.error (p.shift place), ⟨rest.drop escape.consumed, place + 1 + escape.consumed⟩,
            problems⟩
        | .ok chars =>
          let fits := if letters.isEmpty then isWordStart else isWordPart
          let problems :=
            if chars.head?.all fits then problems else problems ++ [⟨place, .invalidWordCharacter⟩]
          scanWord escape.consumed true (chars.reverse ++ letters) problems (place + 1) rest
      | _ => ⟨.error ⟨place, .expectedUnicodeEscape⟩, ⟨rest, place + 1⟩, problems⟩
    else ⟨.ok (letters.reverse, escaped), ⟨c :: rest, place⟩, problems⟩

/-- Read a word at the cursor. An escape may not hide that a word is reserved. -/
def readWord (reserved : String → Bool) (cursor : Cursor) : Scan Token :=
  (scanWord 0 false [] [] cursor.place cursor.rest).andThen fun (letters, escaped) stop =>
    let name := String.ofList letters
    if escaped && reserved name then ⟨.error ⟨cursor.place, .escapeInReservedWord name⟩, stop, []⟩
    else ⟨.ok (.word name), stop, []⟩

def readRegex (cursor : Cursor) : Scan Token :=
  match regexLength false false 0 (cursor.rest.drop 1) with
  | .error length => ⟨.error ⟨cursor.place, .unterminatedRegex⟩, cursor.advance (length + 1), []⟩
  | .ok length =>
    let pattern := String.ofList ((cursor.rest.drop 1).take length)
    let flags := cursor.advance (length + 2)
    if flags.rest.head?.any isWordStart then
      (scanWord 0 false [] [] flags.place flags.rest).map fun (letters, _) =>
        .regex pattern (String.ofList letters)
    else ⟨.ok (.regex pattern ""), flags, []⟩

def digitKind (radix : Nat) : String :=
  if radix = 2 then "a binary" else if radix = 8 then "an octal"
  else if radix = 10 then "a decimal" else "a hexadecimal"

def readSomeDigits (radix : Nat) (cursor : Cursor) : Scan Digits :=
  let digits := readDigits radix none {} cursor.rest
  let stop := cursor.advance digits.consumed
  let problems := separatorProblems digits cursor.place
  if digits.count = 0 then ⟨.error ⟨stop.place - digits.consumed, .expectedDigit (digitKind radix)⟩,
    stop, problems⟩
  else ⟨.ok digits, stop, problems⟩

def endNumber (start : Cursor) (stop : Cursor) : Scan Token :=
  if stop.rest.head?.any isWordStart then ⟨.error ⟨stop.place, .wordAfterNumber⟩, stop, []⟩
  else ⟨.ok (.number (start.upTo stop)), stop, []⟩

def readRadixNumber (radix : Nat) (cursor : Cursor) : Scan Token :=
  (readSomeDigits radix (cursor.advance 2)).andThen fun _ stop =>
    if stop.rest.head? = some 'n' then
      ⟨.ok (.bigint (cursor.upTo (stop.advance 1))), stop.advance 1, []⟩
    else endNumber cursor stop

def readExponent (start : Cursor) (cursor : Cursor) : Scan Token :=
  match cursor.rest with
  | 'e' :: rest | 'E' :: rest =>
    match rest with
    | [] => ⟨.error ⟨cursor.place + 1, .unfinishedExponent⟩, cursor.advance 1, []⟩
    | sign :: _ =>
      let digits := if sign = '+' ∨ sign = '-' then cursor.advance 2 else cursor.advance 1
      (readSomeDigits 10 digits).andThen fun _ stop => endNumber start stop
  | _ => endNumber start cursor

def readFraction (start : Cursor) (cursor : Cursor) : Scan Token :=
  match cursor.rest with
  | '.' :: rest =>
    let digits := readDigits 10 none {} rest
    let scan := readExponent start (cursor.advance (1 + digits.consumed))
    { scan with problems := separatorProblems digits (cursor.place + 1) ++ scan.problems }
  | _ => readExponent start cursor

/-- Read a decimal number. A zero before other digits makes them octal unless one of them is an
eight or a nine; strict code refuses both. -/
def readDecimal (strict : Bool) (cursor : Cursor) : Scan Token :=
  (readSomeDigits 10 cursor).andThen fun digits stop =>
    let legacy (cause : Cause) : List Problem := if strict then [⟨cursor.place, cause⟩] else []
    if stop.rest.head? = some 'n' then
      ⟨.ok (.bigint (cursor.upTo (stop.advance 1))), stop.advance 1, []⟩
    else if cursor.rest.head? = some '0' ∧ 1 < digits.consumed then
      if digits.value ≠ 0 ∧ digits.aboveOctal then
        let scan := readFraction cursor stop
        { scan with problems := legacy .legacyDecimal ++ scan.problems }
      else
        let scan := endNumber cursor stop
        match scan.result with
        | .ok _ => { scan with problems := legacy .legacyOctal ++ scan.problems }
        | .error _ => scan
    else readFraction cursor stop

def readNumber (strict : Bool) (cursor : Cursor) : Scan Token :=
  match cursor.rest with
  | '0' :: 'x' :: _ | '0' :: 'X' :: _ => readRadixNumber 16 cursor
  | '0' :: 'o' :: _ | '0' :: 'O' :: _ => readRadixNumber 8 cursor
  | '0' :: 'b' :: _ | '0' :: 'B' :: _ => readRadixNumber 2 cursor
  | '.' :: _ => readFraction cursor cursor
  | _ => readDecimal strict cursor

end Enclose.Script.Lexer
