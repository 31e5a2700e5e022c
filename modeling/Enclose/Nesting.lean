import Enclose.Failure

/-!
The bracket guard. It reads a text character by character, keeps apart code, strings, comments and
templates, and stops at the first bracket that more than `maxDepth` brackets would enclose or equal.
Regular expressions are read as code.
-/

namespace Enclose.Nesting

def maxDepth : Nat := 512

/-- What the text before a character makes of that character. -/
inductive Mode where
  | code
  | slash
  | lineComment
  /-- In a block comment; `star` after a star that a slash would make its end. -/
  | blockComment (star : Bool)
  /-- In a string; `escaped` after a backslash. -/
  | quoted (quote : Char) (escaped : Bool)
  | template
  | templateEscape
  | templateDollar
  deriving Repr, DecidableEq, Inhabited

structure Scanner where
  line : Nat := 1
  column : Nat := 0
  depth : Nat := 0
  /-- For each open interpolation, innermost first, the depth at which its template goes on. -/
  templates : List Nat := []
  mode : Mode := .code
  deriving Repr, DecidableEq, Inhabited

namespace Scanner

def advance (s : Scanner) (c : Char) : Scanner :=
  if c = '\n' then { s with line := s.line + 1, column := 0 }
  else { s with column := s.column + 1 }

def tooDeep (s : Scanner) : Diagnostic :=
  { line := s.line, column := s.column,
    message := "nesting exceeds the maximum depth of " ++ toString maxDepth }

def enter (s : Scanner) : Except Diagnostic Scanner :=
  if s.depth + 1 > maxDepth then .error s.tooDeep
  else .ok { s with depth := s.depth + 1, mode := .code }

def enterInterpolation (s : Scanner) : Except Diagnostic Scanner := do
  let inner ← s.enter
  return { inner with templates := inner.depth :: inner.templates }

def leave (s : Scanner) : Scanner := { s with depth := s.depth - 1, mode := .code }

/-- A closing brace ends an interpolation when that is the innermost open bracket. -/
def leaveBrace (s : Scanner) : Scanner :=
  match s.templates with
  | [] => s.leave
  | resume :: outer =>
    if resume = s.depth then
      { s with depth := s.depth - 1, templates := outer, mode := .template }
    else s.leave

def readCode (s : Scanner) (c : Char) : Except Diagnostic Scanner :=
  match c with
  | '(' | '[' | '{' => s.enter
  | ')' | ']' => .ok s.leave
  | '}' => .ok s.leaveBrace
  | '\'' | '"' => .ok { s with mode := .quoted c false }
  | '`' => .ok { s with mode := .template }
  | '/' => .ok { s with mode := .slash }
  | _ => .ok { s with mode := .code }

def readTemplate (s : Scanner) (c : Char) : Scanner :=
  match c with
  | '\\' => { s with mode := .templateEscape }
  | '`' => { s with mode := .code }
  | '$' => { s with mode := .templateDollar }
  | _ => { s with mode := .template }

def read (s : Scanner) (c : Char) : Except Diagnostic Scanner :=
  match s.mode with
  | .code => s.readCode c
  | .slash =>
    if c = '/' then .ok { s with mode := .lineComment }
    else if c = '*' then .ok { s with mode := .blockComment false }
    else s.readCode c
  | .lineComment => .ok (if c = '\n' then { s with mode := .code } else s)
  | .blockComment star =>
    .ok { s with mode := if star && c == '/' then .code else .blockComment (c == '*') }
  | .quoted quote escaped =>
    .ok { s with mode :=
      if escaped then .quoted quote false
      else if c = '\\' then .quoted quote true
      else if c = '\n' || c == quote then .code
      else .quoted quote false }
  | .template => .ok (s.readTemplate c)
  | .templateEscape => .ok { s with mode := .template }
  | .templateDollar => if c = '{' then s.enterInterpolation else .ok (s.readTemplate c)

def step (s : Scanner) (c : Char) : Except Diagnostic Scanner := (s.advance c).read c

end Scanner

def scan (s : Scanner) (text : List Char) : Except Diagnostic Scanner := text.foldlM Scanner.step s

def check (source : List Char) : Except Diagnostic Unit := do
  let _ ← scan {} source
  return ()

end Enclose.Nesting
