import Enclose.Config.Basic
import Enclose.Config.SocketAddress
import Enclose.Http.Header
import Enclose.Identifier
import Enclose.Text.Quoted

/-!
What can be wrong with a configuration that was read.
-/

namespace Enclose

namespace Config

inductive Problem where
  | bindAddress (value : String)
  | globalName (value : String)
  | maxSourceBytes
  | requestSecs
  | allowOrigin (value : String)
  | metricsAddress (value : String)
  deriving Repr, DecidableEq, Inhabited

def Problem.message : Problem → String
  | bindAddress value =>
    "listener.bind_address " ++ Text.quoted value ++ " is not a socket address"
  | globalName value =>
    "transform.global_name " ++ Text.quoted value ++ " is not an identifier path"
  | maxSourceBytes => "transform.max_source_bytes must be greater than zero"
  | requestSecs => "timeouts.request_secs must be greater than zero"
  | allowOrigin value =>
    "response.allow_origin " ++ Text.quoted value ++ " is not a valid header value"
  | metricsAddress value =>
    "observability.metrics_address " ++ Text.quoted value ++ " is not a socket address"

def Problem.term : Problem → String
  | bindAddress value => "BindAddress(" ++ Text.quoted value ++ ")"
  | globalName value => "GlobalName(" ++ Text.quoted value ++ ")"
  | maxSourceBytes => "MaxSourceBytes"
  | requestSecs => "RequestTimeout"
  | allowOrigin value => "AllowOrigin(" ++ Text.quoted value ++ ")"
  | metricsAddress value => "MetricsAddress(" ++ Text.quoted value ++ ")"

def require (holds : Bool) (p : Problem) : List Problem := if holds then [] else [p]

def problems (c : Config) : List Problem :=
  require (SocketAddress.isValid c.listener.bindAddress) (.bindAddress c.listener.bindAddress) ++
    require (Identifier.isGlobalName c.transformation.options.globalName)
      (.globalName c.transformation.options.globalName) ++
    require (c.transformation.maxSourceBytes != 0) .maxSourceBytes ++
    require (c.timeouts.requestSecs != 0) .requestSecs ++
    require (Http.isHeaderValue (Utf8.encode c.response.allowOrigin.toList))
      (.allowOrigin c.response.allowOrigin) ++
    require
      (!c.observability.metricsEnabled || SocketAddress.isValid c.observability.metricsAddress)
      (.metricsAddress c.observability.metricsAddress)

end Config

end Enclose
