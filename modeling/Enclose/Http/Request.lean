import Enclose.Http.Header
import Enclose.Http.Target
import Enclose.Query

/-!
Requests, the source text that one carries, and the identifier by which it is known.
-/

namespace Enclose.Http

structure Request where
  method : String
  target : Target
  headers : List Header := []
  deriving Repr, DecidableEq, Inhabited

namespace Request

inductive Fault where
  | method
  | target (fault : Target.Fault)
  | header (fault : Header.Fault)
  deriving Repr, DecidableEq, Inhabited

def Fault.message : Fault → String
  | method => "invalid HTTP method"
  | target fault => fault.message
  | header fault => fault.message

def of (method target : String) (headers : List (String × List UInt8)) : Except Fault Request := do
  if method.isEmpty || !method.toList.all isTokenChar then throw .method
  let target ← (Target.parse target.toList).mapError .target
  let headers ← headers.mapM fun (name, value) => (Header.of name value).mapError .header
  return { method, target, headers }

def sourceField : String := "src"

def source? (r : Request) : Option (List Char) :=
  r.target.query.bind fun query => Query.firstValue query sourceField.toList

def idHeader : String := "x-request-id"

def idOr (r : Request) (new : List UInt8) : List UInt8 :=
  (Header.first? r.headers idHeader).getD new

def isVisible (b : UInt8) : Bool := b == 9 || decide (0x20 ≤ b ∧ b ≤ 0x7E)

def visibleId (headers : List Header) : String :=
  match Header.first? headers idHeader with
  | some value =>
    if value.all isVisible then String.ofList (Utf8.decode value) else "unknown"
  | none => "unknown"

def identified (r : Request) (new : List UInt8) : Request :=
  if (Header.first? r.headers idHeader).isSome then r
  else { r with headers := r.headers ++ [⟨idHeader, new⟩] }

end Request

end Enclose.Http
