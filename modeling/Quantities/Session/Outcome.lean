import Quantities.Session.Run

namespace Quantities

/-- Why the program ended early. -/
inductive Abort where
  | fault (f : Fault)
  | undecodable
  | nullInPath
  deriving DecidableEq, Repr

structure Outcome where
  exitCode : Nat
  stdout : String := ""
  stderr : Option String := none
  abort : Option Abort := none
  deriving DecidableEq, Repr

namespace CommandLine

variable {ν : Type}

def printed (r : LineResult ν) : String :=
  if r.output = "" then "" else r.output ++ "\n"

/-- Executes the lines of the command line. A failed line shows in the exit code. -/
def evaluate (A : Arithmetic ν) (config : Config) (lines : List String) (stdin : String) :
    Outcome :=
  let session : Session ν := { config }
  let (emitted, fault) := session.runArguments A lines (Text.lines stdin)
  let failed := fault.isSome || emitted.any LineResult.isError
  { exitCode := if failed then 1 else 0
    stdout := String.join (emitted.map printed)
    abort := fault.map .fault }

/-- Executes the lines of the input behind a prompt. At the end of the input the prompt's line is
ended too. -/
def interact (A : Arithmetic ν) (config : Config) (prompt stdin : String) : Outcome :=
  let session : Session ν := { config }
  let r := session.run A (Text.lines stdin)
  let last := if r.fault.isSome then prompt else if r.quits then "" else prompt ++ "\n"
  { exitCode := if r.fault.isSome then 1 else 0
    stdout := String.join (r.emitted.map fun e => prompt ++ printed e) ++ last
    abort := r.fault.map .fault }

end CommandLine

end Quantities
