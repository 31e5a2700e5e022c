import Enclose.CommandLine.Arguments
import Enclose.Config.Reader

/-!
What the service needs to start: the configuration that its arguments ask for, and an address that
is free.
-/

namespace Enclose.CommandLine

inductive SystemFault where
  | notFound
  | isDirectory
  | addressInUse
  deriving Repr, DecidableEq, Inhabited

namespace SystemFault

def code : SystemFault → Nat
  | notFound => 2
  | isDirectory => 21
  | addressInUse => 98

def kind : SystemFault → String
  | notFound => "NotFound"
  | isDirectory => "IsADirectory"
  | addressInUse => "AddrInUse"

def reason : SystemFault → String
  | notFound => "No such file or directory"
  | isDirectory => "Is a directory"
  | addressInUse => "Address already in use"

def term (fault : SystemFault) : String :=
  "Os \x7b code: " ++ toString fault.code ++ ", kind: " ++ fault.kind ++ ", message: " ++
    Text.quoted fault.reason ++ " \x7d"

end SystemFault

inductive StartFault where
  | file (fault : SystemFault)
  | config (fault : Config.LoadError)
  | address (fault : SystemFault)
  deriving Repr, DecidableEq, Inhabited

/-- The line for a fault. What is wrong with the text of a configuration is left out. -/
def StartFault.message : StartFault → String
  | file fault => "Error: Io(" ++ fault.term ++ ")\n"
  | config (.unreadable _) => "Error: Parse(..)\n"
  | config (.invalid problems) =>
    "Error: Validation([" ++ ", ".intercalate (problems.map Config.Problem.term) ++ "])\n"
  | address fault => "Error: " ++ fault.term ++ "\n"

def metricsConflict (c : Config) : Bool :=
  c.observability.metricsEnabled &&
    ((SocketAddress.parse? c.observability.metricsAddress).any fun metrics =>
      (SocketAddress.parse? c.listener.bindAddress).any metrics.conflicts)

def start (a : Arguments) (fileNamed : String → Except SystemFault String) :
    Except StartFault Config := do
  let text ← a.config.mapM fun path => (fileNamed path).mapError .file
  let c ← (Config.load text a.bind).mapError .config
  if metricsConflict c then .error (.address .addressInUse) else .ok c

end Enclose.CommandLine
