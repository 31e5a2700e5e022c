import Enclose.Text.Utf8

/-!
The target of a request: a path with a query, an address with a scheme, or an authority alone.
-/

namespace Enclose.Http

structure Target where
  /-- Empty when the target names an authority alone. -/
  path : List Char
  query : Option (List Char) := none
  deriving Repr, DecidableEq, Inhabited

namespace Target

inductive Fault where
  | empty
  | tooLong
  | character
  | authority
  | form
  | longScheme
  deriving Repr, DecidableEq, Inhabited

def Fault.message : Fault → String
  | empty => "empty string"
  | tooLong => "uri too long"
  | character => "invalid uri character"
  | authority => "invalid authority"
  | form => "invalid format"
  | longScheme => "scheme too long"

def maxBytes : Nat := 65534

def maxScheme : Nat := 64

def isPathChar (c : Char) : Bool := decide (0x20 < c.toNat) && !"<>`".toList.contains c

def isQueryChar (c : Char) : Bool := decide (0x20 < c.toNat) && !"\"<>".toList.contains c

/-- A path and, after a question mark, a query. A fragment is left out, whatever it holds. -/
def ofPath (text : List Char) : Except Fault Target :=
  let shown := text.takeWhile (· ≠ '#')
  let path := shown.takeWhile (· ≠ '?')
  let query := (shown.dropWhile (· ≠ '?')).tail?
  if path.all isPathChar && query.all (·.all isQueryChar) then
    .ok { path := if path.isEmpty then ['/'] else path, query }
  else .error .character

/-- What was seen of an authority: the colons, brackets and percent signs that are not part of the
user's name or of a bracketed address. -/
structure Authority where
  colons : Nat := 0
  opened : Bool := false
  closed : Bool := false
  escaped : Bool := false
  endsWithAt : Bool := false

def isAuthorityChar (c : Char) : Bool := c.isAlphanum || "!$&'()*+,-.;=_~".toList.contains c

def Authority.next (a : Authority) (c : Char) : Except Fault Authority :=
  match c with
  | ':' =>
    if 8 ≤ a.colons then .error .authority
    else .ok { a with colons := a.colons + 1, endsWithAt := false }
  | '[' =>
    if a.escaped || a.opened then .error .authority
    else .ok { a with opened := true, endsWithAt := false }
  | ']' =>
    if !a.opened || a.closed then .error .authority
    else .ok { a with colons := 0, closed := true, escaped := false, endsWithAt := false }
  | '@' => .ok { a with colons := 0, escaped := false, endsWithAt := true }
  | '%' => .ok { a with escaped := true, endsWithAt := false }
  | _ => if isAuthorityChar c then .ok { a with endsWithAt := false } else .error .character

def checkAuthority (text : List Char) : Except Fault Unit := do
  let a ← text.foldlM Authority.next {}
  if a.opened != a.closed || 1 < a.colons || a.endsWithAt || a.escaped then .error .authority
  else .ok ()

def isSchemeChar (c : Char) : Bool := c.isAlphanum || "+-.~".toList.contains c

def afterScheme? (text : List Char) : Except Fault (Option (List Char)) :=
  match text.dropWhile isSchemeChar with
  | ':' :: '/' :: '/' :: rest =>
    if text.length ≤ 3 then .ok none
    else if maxScheme < (text.takeWhile isSchemeChar).length then .error .longScheme
    else .ok (some rest)
  | _ => .ok none

def endsAuthority (c : Char) : Bool := c == '/' || c == '?' || c == '#'

/-- A target that does not start with a slash: an authority, which after a scheme may be followed
by a path and a query. -/
def ofAddress (text : List Char) : Except Fault Target := do
  let afterScheme ← afterScheme? text
  let rest := afterScheme.getD text
  let authority := rest.takeWhile (!endsAuthority ·)
  checkAuthority authority
  if afterScheme.isNone then
    if authority.length < text.length then .error .form else .ok { path := [] }
  else if authority.isEmpty then .error .form
  else ofPath (rest.drop authority.length)

def parse (text : List Char) : Except Fault Target :=
  if maxBytes < Utf8.length text then .error .tooLong
  else
    match text with
    | [] => .error .empty
    | ['*'] => .ok { path := ['*'] }
    | ['?'] => .error .character
    | ['#'] => .error .character
    | '/' :: _ => ofPath text
    | _ => ofAddress text

end Target

end Enclose.Http
