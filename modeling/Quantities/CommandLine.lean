import Quantities.Config.File
import Quantities.Number.Machine
import Quantities.Session.Outcome
import Quantities.Terminal.Emoji
import Quantities.Terminal.Invocation
import Quantities.Terminal.Screen

namespace Quantities.CommandLine

variable {ν : Type}

def promptText (config : Config) : String :=
  String.ofList (Terminal.shown (Terminal.Emoji.replaceCodes config.prompt.toList))

/-- The complaint about a configuration as it is printed. -/
def complaint (e : ConfigError) : String :=
  String.ofList (Terminal.shown ("✗ " ++ e.text).toList) ++ "\n"

/-- The configuration of an invocation: that of the path it names, or of the current directory. -/
def config (files : Files) (directory : String) (i : Invocation) : Except LoadFailure Config :=
  match i.configPath.or (Config.find? files directory) with
  | some path => Config.load files path
  | none => pure .standard

def run (A : Arithmetic ν) (files : Files) (directory : String) (args : List String)
    (stdin : String) : Outcome :=
  match Invocation.ofArgs? none args with
  | none => { exitCode := 2 }
  | some i =>
    match config files directory i with
    | .error .undecodable => { exitCode := 1, abort := some .undecodable }
    | .error .nullInPath => { exitCode := 1, abort := some .nullInPath }
    | .error (.unusable e) => { exitCode := 2, stderr := some (complaint e) }
    | .ok config =>
      match i.request with
      | none => { exitCode := 2 }
      | some (.evaluate lines) => evaluate A config lines stdin
      | some .interact => interact A config (promptText config) stdin

end Quantities.CommandLine
