namespace Quantities

inductive Request where
  | evaluate (lines : List String)
  | interact
  deriving DecidableEq, Repr

structure Invocation where
  configPath : Option String
  /-- Missing if the arguments do not fit the command. -/
  request : Option Request
  deriving DecidableEq, Repr

namespace Invocation

def isOption (arg : String) : Bool :=
  match arg.toList with
  | '-' :: _ :: _ => true
  | _ => false

/-- The arguments of a command. None of them may be an option, unless it follows `--`. -/
def positional? : List String → Option (List String)
  | [] => some []
  | arg :: args =>
    if arg = "--" then some args
    else if isOption arg then none
    else (positional? args).map (arg :: ·)

/-- Reads a command and its arguments. -/
def ofCommand? (configPath : Option String) : List String → Option Invocation
  | "eval" :: args =>
    let request := match positional? args with
      | none | some [] => none
      | some lines => some (Request.evaluate lines)
    some ⟨configPath, request⟩
  | "repl" :: args =>
    let request := match positional? args with
      | some [] => some Request.interact
      | _ => none
    some ⟨configPath, request⟩
  | _ => none

/-- The value of an option that is written in one piece with it. -/
def attached? (start arg : String) : Option String :=
  if start.toList.isPrefixOf arg.toList then
    some (String.ofList (arg.toList.drop start.length))
  else none

/-- Reads the arguments of the program. There is no invocation if the options or the name of the
command are wrong. -/
def ofArgs? (configPath : Option String) : List String → Option Invocation
  | [] => none
  | "--" :: args => ofCommand? configPath args
  | arg :: args =>
    if arg = "-c" || arg = "--config" then
      match args with
      | path :: args => ofArgs? (some path) args
      | [] => none
    else if arg = "--log-level" then
      match args with
      | _ :: args => ofArgs? configPath args
      | [] => none
    else match attached? "--config=" arg with
      | some path => ofArgs? (some path) args
      | none =>
        if (attached? "--log-level=" arg).isSome then ofArgs? configPath args
        else match attached? "-c" arg with
          | some path => ofArgs? (some path) args
          | none => if isOption arg then none else ofCommand? configPath (arg :: args)

end Invocation

end Quantities
