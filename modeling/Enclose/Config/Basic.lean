import Enclose.Options

/-!
The configuration of the service.
-/

namespace Enclose

namespace Config

structure Listener where
  bindAddress : String := "0.0.0.0:3001"
  deriving Repr, DecidableEq, Inhabited

structure Transformation where
  options : Options := {}
  maxSourceBytes : Nat := 61440
  deriving Repr, DecidableEq, Inhabited

structure Response where
  sharedMaxAgeSecs : Nat := 2419200
  allowOrigin : String := "*"
  deriving Repr, DecidableEq, Inhabited

structure Timeouts where
  requestSecs : Nat := 30
  deriving Repr, DecidableEq, Inhabited

structure Observability where
  logLevel : String := "info"
  metricsEnabled : Bool := false
  metricsAddress : String := "127.0.0.1:9090"
  deriving Repr, DecidableEq, Inhabited

def Response.cacheControl (r : Response) : String := "s-maxage=" ++ toString r.sharedMaxAgeSecs

end Config

structure Config where
  listener : Config.Listener := {}
  transformation : Config.Transformation := {}
  response : Config.Response := {}
  timeouts : Config.Timeouts := {}
  observability : Config.Observability := {}
  deriving Repr, DecidableEq, Inhabited

end Enclose
