import Quantities.CommandLine

namespace Quantities.Program

def readFile (path : String) : IO FileRead := do
  try
    return .content (← IO.FS.readBinFile path)
  catch
    | .noFileOrDirectory .. => return .failed "No such file or directory"
    | .inappropriateType _ _ details | .permissionDenied _ _ details => return .failed details
    | e => return .failed (toString e)

/-- The files the program may look at: the one its configuration would come from. -/
def configFile (directory : String) (args : List String) : IO Files := do
  let path := match Invocation.ofArgs? none args with
    | some { configPath := some path, .. } => Config.normalizePath path
    | _ => Config.inDirectory directory Config.fileName
  let found ← readFile path
  return {
    read := fun _ => found
    isFile := fun _ => found matches .content _ }

/-- Reads one line after the other. Each is run on its own, in the session that the one before left
behind. -/
partial def interact (prompt : String) (session : Session Float) : IO UInt32 := do
  let stdout ← IO.getStdout
  stdout.putStr prompt
  stdout.flush
  let line ← (← IO.getStdin).getLine
  if line.isEmpty then
    stdout.putStrLn ""
    return 0
  let run := session.run Arithmetic.machine [line]
  stdout.putStr (String.join (run.emitted.map CommandLine.printed))
  if let some f := run.fault then
    IO.eprintln (f.message?.getD "the result cannot be represented")
    return 1
  if run.quits then return 0 else interact prompt run.session

partial def readInput (input : IO.FS.Stream) (read : String) : IO String := do
  let line ← input.getLine
  if line.isEmpty then return read else readInput input (read ++ line)

end Quantities.Program

open Quantities Quantities.Program

def main (args : List String) : IO UInt32 := do
  let directory := (← IO.currentDir).toString
  let files ← configFile directory args
  let invocation := Invocation.ofArgs? none args
  match invocation.map fun i => (CommandLine.config files directory i, i.request) with
  | some (.ok config, some .interact) => interact (CommandLine.promptText config) { config }
  | _ =>
    let input ← if args.contains "-" then readInput (← IO.getStdin) "" else pure ""
    let outcome := CommandLine.run Arithmetic.machine files directory args input
    IO.print outcome.stdout
    if let some message := outcome.stderr then IO.eprint message
    return outcome.exitCode.toUInt32
