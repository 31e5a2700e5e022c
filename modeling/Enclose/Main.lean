import Enclose.CommandLine.Start
import Enclose.Http.Server
import Enclose.Http.Wire

/-!
The program: it starts with the configuration that its arguments ask for, and answers the requests
of the connection that standard input and output are.
-/

open Enclose

partial def readLines (input : IO.FS.Stream) : IO (List String) := do
  let line ← input.getLine
  if (Http.withoutLineEnd line).isEmpty then return []
  else return line :: (← readLines input)

partial def skipBytes (input : IO.FS.Stream) (count : Nat) : IO Unit := do
  if 0 < count then
    let bytes ← input.read (USize.ofNat (min count 4096))
    if 0 < bytes.size then skipBytes input (count - bytes.size)

partial def answerAll (server : Http.Server) (counters : Http.Counters)
    (input output : IO.FS.Stream) :
    IO Unit := do
  match ← readLines input with
  | [] => return
  | first :: rest =>
    let (response, counters) ←
      match Http.Request.ofLines first rest with
      | .error _ =>
        let response : Http.Response := { status := .badRequest }
        pure (response.framed "", counters)
      | .ok request =>
        skipBytes input request.bodyLength
        let random ← IO.rand 0 (2 ^ 128 - 1)
        pure (server.step Http.transformer counters request random).run
    output.write ⟨response.render.toArray⟩
    output.flush
    answerAll server counters input output

def fileText (path : String) : IO (Except CommandLine.SystemFault String) := do
  try
    return .ok (← IO.FS.readFile path)
  catch
    | .noFileOrDirectory .. => return .error .notFound
    | _ => return .error .isDirectory

def serve (arguments : CommandLine.Arguments) : IO UInt32 := do
  let file ←
    match arguments.config with
    | some path => fileText path
    | none => pure (.error .notFound)
  match CommandLine.start arguments fun _ => file with
  | .error fault =>
    IO.eprint fault.message
    return 1
  | .ok config =>
    match Http.Server.ofConfig config with
    | .error fault =>
      IO.eprintln (Http.Server.faultMessage fault)
      return 1
    | .ok server =>
      answerAll server {} (← IO.getStdin) (← IO.getStdout)
      return 0

def main (arguments : List String) : IO UInt32 := do
  match CommandLine.Arguments.parse arguments with
  | .error .help =>
    IO.print CommandLine.helpText
    return 0
  | .error (.misuse m) =>
    IO.eprint m.message
    return 2
  | .ok arguments => serve arguments
