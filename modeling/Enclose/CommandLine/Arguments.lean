import Enclose.CommandLine.Similarity

/-!
The arguments of the program.

An option takes its value from its own argument or from the next one. It is settled only when the
next option comes or the arguments end, so that a fault of the next argument can be told first.
-/

namespace Enclose.CommandLine

def programName : String := "transform-service"

inductive Flag where
  | config
  | bind
  | help
  deriving Repr, DecidableEq, Inhabited

namespace Flag

def all : List Flag := [config, bind, help]

def name : Flag → String
  | config => "config"
  | bind => "bind"
  | help => "help"

def letter : Flag → Char
  | config => 'c'
  | bind => 'b'
  | help => 'h'

def shown : Flag → String
  | config => "--config <CONFIG>"
  | bind => "--bind <BIND>"
  | help => "--help"

def ofName? (name : List Char) : Option Flag := all.find? fun flag => flag.name.toList == name

def ofLetter? (letter : Char) : Option Flag := all.find? fun flag => flag.letter == letter

def similarTo? (name : List Char) : Option Flag :=
  let measured := all.map fun flag => (similarity name flag.name.toList, flag)
  let best := (measured.filter fun (s, _) => 0.7 < s).foldl (fun best candidate =>
    match best with
    | some (s, _) => if candidate.1 < s then best else some candidate
    | none => some candidate) none
  best.map Prod.snd

end Flag

inductive Misuse where
  | unexpected (argument : String) (similar : Option Flag) (used : List Flag)
  | missingValue (flag : Flag)
  | repeated (flag : Flag)
  | unneededValue (flag : Flag) (value : String) (used : List Flag)
  deriving Repr, DecidableEq, Inhabited

inductive Stop where
  | help
  | misuse (m : Misuse)
  deriving Repr, DecidableEq, Inhabited

structure Arguments where
  config : Option String := none
  bind : Option String := none
  deriving Repr, DecidableEq, Inhabited

/-- Arguments that are not all read: the values so far, the options that have them, and the option
that is not settled. -/
structure Reading where
  arguments : Arguments := {}
  used : List Flag := []
  pending : Option (Flag × Option String) := none
  deriving Repr, DecidableEq, Inhabited

namespace Reading

def give (r : Reading) (flag : Flag) (value : String) : Except Misuse Reading :=
  if r.used.contains flag then .error (.repeated flag)
  else
    let used := r.used ++ [flag]
    match flag with
    | .config =>
      if value.isEmpty then .error (.missingValue flag)
      else .ok { r with arguments := { r.arguments with config := some value }, used }
    | _ => .ok { r with arguments := { r.arguments with bind := some value }, used }

def settle (r : Reading) : Except Misuse Reading :=
  match r.pending with
  | none => .ok r
  | some (flag, none) => .error (.missingValue flag)
  | some (flag, some value) => { r with pending := none }.give flag value

/-- The options that a usage line names once the last one is settled, whether that is possible or
not. -/
def usedAtLast (r : Reading) : List Flag :=
  match r.pending with
  | some (flag, some _) =>
    if r.used.contains flag then r.used.erase flag else r.used ++ [flag]
  | _ => r.used

def unexpectedName (r : Reading) (name : List Char) : Misuse :=
  let similar := Flag.similarTo? name
  let used :=
    match similar with
    | some flag => if r.usedAtLast.contains flag then r.usedAtLast else r.usedAtLast ++ [flag]
    | none => r.usedAtLast
  .unexpected ("--" ++ String.ofList name) similar used

def option (r : Reading) (flag : Flag) (value : Option String) : Except Stop Reading := do
  let settled ← r.settle.mapError .misuse
  match flag, value with
  | .help, _ => .error .help
  | _, some value => (settled.give flag value).mapError .misuse
  | _, none => .ok { settled with pending := some (flag, none) }

def splitValue (text : List Char) : List Char × Option String :=
  (text.takeWhile (· ≠ '='), (text.dropWhile (· ≠ '=')).tail?.map String.ofList)

def long (r : Reading) (text : List Char) : Except Stop Reading :=
  let (name, value) := splitValue text
  match Flag.ofName? name, value with
  | none, _ => .error (.misuse (r.unexpectedName name))
  | some .help, some value =>
    .error (.misuse (.unneededValue .help value (r.used ++ [.help])))
  | some flag, value => r.option flag value

def short (r : Reading) (letter : Char) (rest : List Char) : Except Stop Reading :=
  let value :=
    match rest with
    | [] => none
    | '=' :: value => some (String.ofList value)
    | value => some (String.ofList value)
  match Flag.ofLetter? letter with
  | none => .error (.misuse (.unexpected (String.ofList ['-', letter]) none []))
  | some flag => r.option flag value

def plain (r : Reading) (argument : String) : Except Stop Reading :=
  match r.pending with
  | some (flag, none) => .ok { r with pending := some (flag, some argument) }
  | _ => .error (.misuse (.unexpected argument none []))

def next (r : Reading) (argument : String) : Except Stop Reading :=
  match argument.toList with
  | '-' :: '-' :: text => r.long text
  | '-' :: letter :: rest => r.short letter rest
  | _ => r.plain argument

def readAll (r : Reading) : List String → Except Stop Reading
  | [] => r.settle.mapError .misuse
  | "--" :: rest =>
    match rest with
    | [] => r.settle.mapError .misuse
    | argument :: _ => .error (.misuse (.unexpected argument none []))
  | argument :: rest => do (← r.next argument).readAll rest

end Reading

def Arguments.parse (arguments : List String) : Except Stop Arguments :=
  (({} : Reading).readAll arguments).map Reading.arguments

def usageLine (used : List Flag) : String :=
  let options := if used.isEmpty then ["[OPTIONS]"] else used.map Flag.shown
  "Usage: " ++ " ".intercalate (programName :: options) ++ "\n"

def helpText : String :=
  "Serve JavaScript transformed into an IIFE bundle\n\n" ++ usageLine [] ++ "\nOptions:\n" ++
    "  -c, --config <CONFIG>  TOML configuration file\n" ++
    "  -b, --bind <BIND>      Override listener.bind_address\n" ++
    "  -h, --help             Print help\n"

def Misuse.headline : Misuse → String
  | unexpected argument _ _ => "unexpected argument '" ++ argument ++ "' found"
  | missingValue flag => "a value is required for '" ++ flag.shown ++ "' but none was supplied"
  | repeated flag => "the argument '" ++ flag.shown ++ "' cannot be used multiple times"
  | unneededValue flag value _ =>
    "unexpected value '" ++ value ++ "' for '" ++ flag.shown ++ "' found; no more were expected"

def Misuse.advice : Misuse → String
  | unexpected _ (some flag) used =>
    "  tip: a similar argument exists: '--" ++ flag.name ++ "'\n\n" ++ usageLine used ++ "\n"
  | unexpected _ none used => usageLine used ++ "\n"
  | missingValue _ => ""
  | repeated _ => usageLine [] ++ "\n"
  | unneededValue _ _ used => usageLine used ++ "\n"

def Misuse.message (m : Misuse) : String :=
  "error: " ++ m.headline ++ "\n\n" ++ m.advice ++ "For more information, try '--help'.\n"

end Enclose.CommandLine
