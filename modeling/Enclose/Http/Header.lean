import Enclose.Text.Utf8

/-!
Headers of requests and responses: a name, in which case does not matter, and a value of bytes.
-/

namespace Enclose.Http

def isTokenChar (c : Char) : Bool := c.isAlphanum || "!#$%&'*+-.^_`|~".toList.contains c

def isValueByte (b : UInt8) : Bool := b == 9 || (decide (0x20 ≤ b) && b != 0x7F)

def isHeaderValue (value : List UInt8) : Bool := value.all isValueByte

structure Header where
  name : String
  value : List UInt8
  deriving Repr, DecidableEq, Inhabited

namespace Header

inductive Fault where
  | name
  | value
  deriving Repr, DecidableEq, Inhabited

def Fault.message : Fault → String
  | name => "invalid HTTP header name"
  | value => "failed to parse header value"

def maxNameLength : Nat := 65535

def isName (text : String) : Bool :=
  !text.isEmpty && text.toList.all isTokenChar && decide (text.length ≤ maxNameLength)

def checkValue (value : List UInt8) : Except Fault (List UInt8) :=
  if isHeaderValue value then .ok value else .error .value

def of (name : String) (value : List UInt8) : Except Fault Header :=
  if isName name then return ⟨name.map Char.toLower, ← checkValue value⟩ else .error .name

def first? (headers : List Header) (name : String) : Option (List UInt8) :=
  (headers.find? (·.name == name)).map Header.value

end Header

end Enclose.Http
