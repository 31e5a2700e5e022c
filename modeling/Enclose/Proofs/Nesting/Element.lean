import Enclose.Proofs.Nesting.Bracket
import Enclose.Script.Character

/-!
# The elements of program text

Program text is divided into elements as ECMAScript divides it, up to regular expressions, which
are left out: comments of all kinds, strings, the pieces of templates, brackets, and other
characters one by one (`Point.next?`). What has been read of a text at some point of it is a list of
elements (`Reads`), and the reading stops before what is no element, and before a bracket that does
not close the innermost open one.
-/

namespace Enclose.Nesting
open Script (isLineEnd)

inductive Goal where
  | module
  | script
  deriving Repr, DecidableEq

inductive LineComment where
  | slashes
  | hashbang
  | htmlOpen
  /-- In scripts, with nothing but white space and comments before it on its line. -/
  | htmlClose
  deriving Repr, DecidableEq

namespace LineComment

def all : List LineComment := [slashes, hashbang, htmlOpen, htmlClose]

def sign : LineComment → List Char
  | slashes => ['/', '/']
  | hashbang => ['#', '!']
  | htmlOpen => ['<', '!', '-', '-']
  | htmlClose => ['-', '-', '>']

end LineComment

inductive Element where
  | blank (c : Char)
  /-- A comment with the end of its line; that is empty at the end of the text. -/
  | lineComment (kind : LineComment) (text ending : List Char)
  | blockComment (text : List Char)
  | opening (b : Bracket)
  | closing (b : Bracket)
  | string (quote : Quote) (text : List Char)
  /-- Text of a template, from its first quote or the end of an interpolation (`resumes`) to its
  last quote or the sign of an interpolation (`interpolates`). -/
  | template (resumes : Bool) (text : List Char) (interpolates : Bool)
  | escape (digits : List Char)
  | char (c : Char)
  deriving Repr, DecidableEq

namespace Element

def opens : Element → Bool
  | opening _ => true
  | template _ _ interpolates => interpolates
  | _ => false

def closes : Element → Bool
  | closing _ => true
  | template resumes _ _ => resumes
  | _ => false

end Element

/-- The number of brackets and signs of interpolations that are not closed after some elements. -/
def unclosed (elements : List Element) : Int :=
  elements.countP Element.opens - elements.countP Element.closes

def lineEnding : List Char → List Char × List Char
  | '\r' :: '\n' :: rest => (['\r', '\n'], rest)
  | c :: rest => ([c], rest)
  | [] => ([], [])

def blockText? : List Char → Option (List Char × List Char)
  | '*' :: '/' :: rest => some ([], rest)
  | c :: rest => (blockText? rest).map fun (text, rest) => (c :: text, rest)
  | [] => none

/-- The text of a string after its quote, and the rest. A backslash and the end of a line continue
the string on the next line. -/
def stringText? (quote : Char) : List Char → Option (List Char × List Char)
  | '\\' :: '\r' :: '\n' :: rest =>
    (stringText? quote rest).map fun (text, rest) => ('\\' :: '\r' :: '\n' :: text, rest)
  | '\\' :: c :: rest => (stringText? quote rest).map fun (text, rest) => ('\\' :: c :: text, rest)
  | c :: rest =>
    if c = quote then some ([], rest)
    else if c = '\\' ∨ c = '\n' ∨ c = '\r' then none
    else (stringText? quote rest).map fun (text, rest) => (c :: text, rest)
  | [] => none

def templateText? : List Char → Option (List Char × Bool × List Char)
  | '\\' :: c :: rest =>
    (templateText? rest).map fun (text, interpolates, rest) =>
      ('\\' :: c :: text, interpolates, rest)
  | '`' :: rest => some ([], false, rest)
  | '$' :: '{' :: rest => some ([], true, rest)
  | c :: rest =>
    if c = '\\' then none
    else (templateText? rest).map fun (text, interpolates, rest) => (c :: text, interpolates, rest)
  | [] => none

def isHexDigit (c : Char) : Bool :=
  c.isDigit || (decide ('a' ≤ c) && decide (c ≤ 'f')) || (decide ('A' ≤ c) && decide (c ≤ 'F'))

def escapeDigits? (text : List Char) : Option (List Char × List Char) :=
  match text.dropWhile isHexDigit with
  | '}' :: rest => some (text.takeWhile isHexDigit, rest)
  | _ => none

def isBlank (c : Char) : Bool :=
  isLineEnd c ||
    ['\t', '\u000B', '\u000C', ' ', '\u00A0', '\u1680', '\u202F', '\u205F', '\u3000',
      '\uFEFF'].contains c ||
    (decide ('\u2000' ≤ c) && decide (c ≤ '\u200A'))

inductive Frame where
  | bracket (b : Bracket)
  | interpolation
  deriving Repr, DecidableEq

structure Point where
  rest : List Char
  opened : List Frame := []
  start : Bool := true
  /-- Nothing but white space and comments was read of the line. -/
  lineStart : Bool := true
  deriving Repr, DecidableEq

namespace Point

def after (rest : List Char) (opened : List Frame) : Point :=
  { rest, opened, start := false, lineStart := false }

def starts (goal : Goal) (p : Point) (kind : LineComment) : Bool :=
  kind.sign.isPrefixOf p.rest &&
    match kind with
    | .slashes => true
    | .hashbang => p.start
    | .htmlOpen => goal == .script
    | .htmlClose => goal == .script && p.lineStart

def lineComment (p : Point) (kind : LineComment) : Element × Point :=
  let line := p.rest.drop kind.sign.length
  let ending := lineEnding (line.dropWhile (!isLineEnd ·))
  (.lineComment kind (line.takeWhile (!isLineEnd ·)) ending.1,
    { rest := ending.2, opened := p.opened, start := false, lineStart := true })

def template? (resumes : Bool) (rest : List Char) (opened : List Frame) :
    Option (Element × Point) :=
  (templateText? rest).map fun (text, interpolates, rest) =>
    (.template resumes text interpolates,
      after rest (if interpolates then .interpolation :: opened else opened))

/-- A closing bracket, which must close the innermost open one. The brace that closes an
interpolation goes on with its template. -/
def close? (b : Bracket) (rest : List Char) : List Frame → Option (Element × Point)
  | .bracket open' :: outer => if open' = b then some (.closing b, after rest outer) else none
  | .interpolation :: outer => if b = .brace then template? true rest outer else none
  | [] => none

def token? (p : Point) (c : Char) (rest : List Char) : Option (Element × Point) :=
  match Bracket.ofOpening? c with
  | some b => some (.opening b, after rest (.bracket b :: p.opened))
  | none =>
    match Bracket.ofClosing? c with
    | some b => close? b rest p.opened
    | none =>
      match Quote.ofChar? c with
      | some quote =>
        (stringText? c rest).map fun (text, rest) => (.string quote text, after rest p.opened)
      | none =>
        if c = '`' then template? false rest p.opened else some (.char c, after rest p.opened)

def next? (goal : Goal) (p : Point) : Option (Element × Point) :=
  match LineComment.all.find? (p.starts goal), p.rest with
  | some kind, _ => some (p.lineComment kind)
  | none, '/' :: '*' :: rest =>
    (blockText? rest).map fun (text, rest) =>
      (.blockComment text,
        { rest, opened := p.opened, start := false
          lineStart := p.lineStart || text.any isLineEnd })
  | none, '\\' :: 'u' :: '{' :: rest =>
    (escapeDigits? rest).map fun (digits, rest) => (.escape digits, after rest p.opened)
  | none, c :: rest =>
    if isBlank c then
      some (.blank c,
        { rest, opened := p.opened, start := false, lineStart := p.lineStart || isLineEnd c })
    else p.token? c rest
  | none, [] => none

def read (goal : Goal) : Nat → Point → List Element × Point
  | 0, p => ([], p)
  | count + 1, p =>
    match p.next? goal with
    | some (element, q) => (element :: (q.read goal count).1, (q.read goal count).2)
    | none => ([], p)

end Point

inductive Reads (goal : Goal) (text : List Char) : List Element → Point → Prop
  | start : Reads goal text [] { rest := text }
  | next {elements : List Element} {p q : Point} {element : Element} :
      Reads goal text elements p → p.next? goal = some (element, q) →
      Reads goal text (elements ++ [element]) q

theorem Reads.read {goal : Goal} {text : List Char} {elements : List Element} {p : Point}
    (reads : Reads goal text elements p) (count : Nat) :
    Reads goal text (elements ++ (p.read goal count).1) (p.read goal count).2 := by
  induction count generalizing elements p with
  | zero => simpa [Point.read] using reads
  | succ count ih =>
      unfold Point.read
      cases next : p.next? goal with
      | none => simpa using reads
      | some step => simpa using ih (reads.next next)

end Enclose.Nesting
