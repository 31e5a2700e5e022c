import Enclose.Http.Header

/-!
Responses, and how they are framed.
-/

namespace Enclose.Http

inductive Status where
  | ok
  | badRequest
  | notFound
  | requestTimeout
  | payloadTooLarge
  | internalServerError
  deriving Repr, DecidableEq, Inhabited

def Status.code : Status → Nat
  | ok => 200
  | badRequest => 400
  | notFound => 404
  | requestTimeout => 408
  | payloadTooLarge => 413
  | internalServerError => 500

def Status.reason : Status → String
  | ok => "OK"
  | badRequest => "Bad Request"
  | notFound => "Not Found"
  | requestTimeout => "Request Timeout"
  | payloadTooLarge => "Payload Too Large"
  | internalServerError => "Internal Server Error"

structure Response where
  status : Status
  headers : List Header := []
  body : List UInt8 := []
  deriving Repr, DecidableEq, Inhabited

namespace Response

def bytes (text : String) : List UInt8 := Utf8.encode text.toList

def withHeader (r : Response) (name : String) (value : List UInt8) : Response :=
  { r with headers := r.headers ++ [⟨name, value⟩] }

def withLength (r : Response) : Response :=
  r.withHeader "content-length" (bytes (toString r.body.length))

/-- What is sent to a caller who used a method. The body is left out where only the headers were
asked for; a connection that was opened has neither a body nor a length. -/
def framed (r : Response) (method : String) : Response :=
  if method = "CONNECT" ∧ r.status = .ok then { r with body := [] }
  else if method = "HEAD" then { r.withLength with body := [] }
  else r.withLength

end Response

end Enclose.Http
