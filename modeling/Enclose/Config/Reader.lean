import Enclose.Config.Problem
import Enclose.Toml.Decode
import Enclose.Toml.Document

/-!
Configurations from texts. What a text leaves out keeps its default.
-/

namespace Enclose.Config

open Toml

def listenerFields : List (Toml.Field Listener) :=
  [.of "bind_address" decodeString fun value s => { s with bindAddress := value }]

def formatNames : List (String × Format) := Format.all.map fun format => (format.name, format)

def transformationFields : List (Toml.Field Transformation) :=
  [ .of "format" (decodeName formatNames) fun value s =>
      { s with options := { s.options with format := value } },
    .of "global_name" decodeString fun value s =>
      { s with options := { s.options with globalName := value } },
    .of "minify" decodeBool fun value s =>
      { s with options := { s.options with minify := value } },
    .of "max_source_bytes" (decodeNat "usize") fun value s => { s with maxSourceBytes := value } ]

def responseFields : List (Toml.Field Response) :=
  [ .of "shared_max_age_secs" (decodeNat "u64") fun value s => { s with sharedMaxAgeSecs := value },
    .of "allow_origin" decodeString fun value s => { s with allowOrigin := value } ]

def timeoutsFields : List (Toml.Field Timeouts) :=
  [.of "request_secs" (decodeNat "u64") fun value s => { s with requestSecs := value }]

def observabilityFields : List (Toml.Field Observability) :=
  [ .of "log_level" decodeString fun value s => { s with logLevel := value },
    .of "metrics_enabled" decodeBool fun value s => { s with metricsEnabled := value },
    .of "metrics_address" decodeString fun value s => { s with metricsAddress := value } ]

def sectionOf {σ : Type} (name typeName : String) (fields : List (Toml.Field σ))
    (get : Config → σ) (put : σ → Config → Config) : Toml.Field Config :=
  ⟨name, fun item c => do return put (← decodeStructure typeName fields item (get c)) c⟩

def sections : List (Toml.Field Config) :=
  [ sectionOf "listener" "ListenerConfig" listenerFields Config.listener
      fun s c => { c with listener := s },
    sectionOf "transform" "TransformConfig" transformationFields Config.transformation
      fun s c => { c with transformation := s },
    sectionOf "response" "ResponseConfig" responseFields Config.response
      fun s c => { c with response := s },
    sectionOf "timeouts" "TimeoutConfig" timeoutsFields Config.timeouts
      fun s c => { c with timeouts := s },
    sectionOf "observability" "ObservabilityConfig" observabilityFields Config.observability
      fun s c => { c with observability := s } ]

inductive LoadError where
  | unreadable (report : String)
  | invalid (problems : List Problem)
  deriving Repr, DecidableEq, Inhabited

def LoadError.message : LoadError → String
  | unreadable report => "Parse error: " ++ report
  | invalid problems => "Validation failed: " ++ ", ".intercalate (problems.map Problem.message)

def read (text : String) : Except LoadError Config :=
  let chars := text.toList
  let result := do readEntries sections (← parse chars).entries {}
  result.mapError fun c => .unreadable (c.report chars)

def check (c : Config) : Except LoadError Config :=
  if c.problems.isEmpty then .ok c else .error (.invalid c.problems)

def parse (text : String) : Except LoadError Config := do check (← read text)

def withBindAddress (c : Config) (address : String) : Config :=
  { c with listener := { c.listener with bindAddress := address } }

def load (text bindAddress : Option String) : Except LoadError Config := do
  let c ← text.elim (.ok {}) parse
  bindAddress.elim (.ok c) fun address => check (c.withBindAddress address)

end Enclose.Config
