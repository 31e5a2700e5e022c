import Enclose.Config.Basic
import Enclose.Http.Outcome
import Enclose.Http.Request
import Enclose.Http.Response
import Enclose.Http.Uuid
import Enclose.Transform

/-!
The server: it hands the source text of a request to a transformer and answers with what comes back.

The transformer runs in any monad, so that what it was asked can be seen.
-/

namespace Enclose.Http

inductive Attempt where
  | code (bytes : List UInt8)
  | failed (failure : Failure)
  | broken
  deriving Repr, DecidableEq, Inhabited

structure Run where
  attempt : Attempt
  millis : Nat := 0
  deriving Repr, DecidableEq, Inhabited

abbrev Transformer (m : Type → Type) := Options → String → m Run

def transformer : Transformer Id := fun options source =>
  match transform options source with
  | .ok code => { attempt := .code (Response.bytes code) }
  | .error failure => { attempt := .failed failure }

structure Server where
  options : Options
  maxSourceBytes : Nat
  cacheControl : List UInt8
  allowOrigin : List UInt8
  requestSecs : Nat
  deriving Repr, DecidableEq, Inhabited

def Attempt.outcome : Attempt → Outcome
  | code _ => .ok
  | failed failure => .ofFailure failure
  | broken => .internalError

namespace Server

def ofConfig (c : Config) : Except Header.Fault Server := do
  return { options := c.transformation.options
           maxSourceBytes := c.transformation.maxSourceBytes
           cacheControl := ← Header.checkValue (Response.bytes c.response.cacheControl)
           allowOrigin := ← Header.checkValue (Response.bytes c.response.allowOrigin)
           requestSecs := c.timeouts.requestSecs }

def faultMessage (fault : Header.Fault) : String :=
  "invalid response header value: " ++ fault.message

def originHeader (s : Server) : Header := ⟨"access-control-allow-origin", s.allowOrigin⟩

def codeResponse (s : Server) (code : List UInt8) : Response :=
  { status := .ok
    headers := [ ⟨"cache-control", s.cacheControl⟩, s.originHeader,
                 ⟨"content-type", Response.bytes "application/javascript"⟩ ]
    body := code }

def reportResponse (s : Server) (report : String) : Response :=
  { status := .internalServerError
    headers := [s.originHeader, ⟨"content-type", Response.bytes "text/plain; charset=utf-8"⟩]
    body := Response.bytes report }

def brokenReport : String := Failure.lines [sourceName ++ ": error: transform did not complete"]

def attemptResponse (s : Server) : Attempt → Response
  | .code bytes => s.codeResponse bytes
  | .failed failure => s.reportResponse failure.report
  | .broken => s.reportResponse brokenReport

section

variable {m : Type → Type} [Monad m]

/-- Handle a request: the response, and the outcome to count. A request that takes too long is not
counted. -/
def handle (s : Server) (transformer : Transformer m) (r : Request) :
    m (Response × Option Outcome) :=
  match r.source? with
  | none => pure ({ status := .badRequest }, some .missingSource)
  | some source =>
    if s.maxSourceBytes < Utf8.length source then
      pure ({ status := .payloadTooLarge }, some .tooLarge)
    else do
      let run ← transformer s.options (String.ofList source)
      if s.requestSecs * 1000 < run.millis then return ({ status := .requestTimeout }, none)
      else return (s.attemptResponse run.attempt, some run.attempt.outcome)

def route (s : Server) (transformer : Transformer m) (r : Request) :
    m (Response × Option Outcome) :=
  if r.target.path.head? = some '/' then s.handle transformer r
  else pure ({ status := .notFound }, none)

def respond (s : Server) (transformer : Transformer m) (r : Request) (random : Nat) :
    m (Response × Option Outcome) := do
  let id := r.idOr (Utf8.encode (Uuid.v4 random))
  let (response, outcome) ← s.route transformer (r.identified id)
  return ((response.withHeader Request.idHeader id).framed r.method, outcome)

def step (s : Server) (transformer : Transformer m) (c : Counters) (r : Request) (random : Nat) :
    m (Response × Counters) := do
  let (response, outcome) ← s.respond transformer r random
  return (response, outcome.elim c c.increment)

def serve (s : Server) (transformer : Transformer m) (c : Counters) :
    List (Request × Nat) → m (List (Response × Counters))
  | [] => pure []
  | (r, random) :: rest => do
    let (response, counted) ← s.step transformer c r random
    return (response, counted) :: (← s.serve transformer counted rest)

end

end Server

end Enclose.Http
