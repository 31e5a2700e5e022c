import Enclose.Bundle.TopLevelAwait
import Enclose.Bundle.Wrapper
import Enclose.Nesting
import Enclose.Options
import Enclose.Script.Printer

/-!
From a text to the code in the form that the options ask for.
-/

namespace Enclose

open Enclose.Script Enclose.Bundle

def readProgram (source : List Char) : Except Failure Program :=
  match Nesting.check source with
  | .error diagnostic => .error (.tooDeep diagnostic)
  | .ok () =>
    match Program.parse source with
    | .ok program => .ok program
    | .error problems =>
      .error (.syntaxErrors (Diagnostic.arrange (problems.map (·.diagnostic source))))

def bundle (options : Options) (program : Program) : Except Failure Module :=
  match options.format with
  | .esm =>
    match program with
    | .module m => .ok m
    | .script s => .ok { items := s.body.map .stmt }
  | format => do
    if hasTopLevelAwait program then
      throw <| .unsupported <|
        "top-level await is not supported with the \"" ++ format.name ++ "\" output format"
    let lowered ← Lowered.ofProgram program
    let items ←
      if format = .iife then enclose options.globalName lowered else commonModule lowered
    return { items }

def transform (options : Options) (source : String) : Except Failure String := do
  let program ← readProgram source.toList
  let m ← bundle options program
  return m.print options.minify

end Enclose
