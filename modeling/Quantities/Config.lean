import Quantities.Setting
import Quantities.Text.Quoted
import Quantities.Text.Uppercase

namespace Quantities

inductive LogLevel where
  | debug | info | warning | error | critical
  deriving DecidableEq, Repr

namespace LogLevel

def name : LogLevel → String
  | debug => "DEBUG"
  | info => "INFO"
  | warning => "WARNING"
  | error => "ERROR"
  | critical => "CRITICAL"

def all : List LogLevel := [debug, info, warning, error, critical]

def ofName? (s : String) : Option LogLevel := all.find? fun l => l.name = s

end LogLevel

inductive ConfigProblem where
  | notTable (name : String)
  | wrongType (key expected found : String)
  | notPositive (key : String)
  | unknownLevel (level : String)
  | unreadable (reason : String)
  | malformed
  deriving DecidableEq, Repr

def ConfigProblem.message : ConfigProblem → String
  | notTable name => s!"[{name}] must be a table"
  | wrongType key expected found => s!"'{key}' must be of type {expected}, got {found}"
  | notPositive key => s!"'{key}' must be positive"
  | unknownLevel level =>
    let names := ", ".intercalate (LogLevel.all.map LogLevel.name)
    s!"'level' must be one of {names}, got {Text.quoted level}"
  | unreadable reason => s!"Cannot read config: {reason}"
  | malformed => "Invalid TOML"

/-- A message with the source it is about in front, if one is named. -/
def located (source : Option String) (message : String) : String :=
  match source with
  | none | some "" => message
  | some s => s ++ ": " ++ message

structure ConfigError where
  problem : ConfigProblem
  source : String
  deriving DecidableEq, Repr

def ConfigError.text (e : ConfigError) : String := located (some e.source) e.problem.message

structure Config where
  prompt : String := ">>> "
  maxLineLength : Nat := 256
  /-- Significant digits of a printed number. -/
  precision : Nat := 10
  /-- Whether a plain number is printed with the unit `none`. -/
  debugUnits : Bool := false
  level : LogLevel := .warning
  maxLineLength_pos : 0 < maxLineLength := by decide
  precision_pos : 0 < precision := by decide
  deriving Repr

namespace Config

def standard : Config := {}

/-- A table of the configuration. One that is missing is empty. -/
def section? (name : String) (data : List (String × Setting)) :
    Except ConfigProblem (List (String × Setting)) :=
  match data.lookup name with
  | none => pure []
  | some (.table entries) => pure entries
  | some _ => throw (.notTable name)

/-- The value under a key of a table, or a default if the key is missing. -/
def setting {α : Type} (expected : String) (value? : Setting → Option α) (key : String) (default : α)
    (entries : List (String × Setting)) : Except ConfigProblem α :=
  match entries.lookup key with
  | none => pure default
  | some v => match value? v with
    | some x => pure x
    | none => throw (.wrongType key expected v.typeName)

def text := setting "str" (fun | .text s => some s | _ => none)

def whole := setting "int" (fun | .whole n => some n | _ => none)

def boolean := setting "bool" (fun | .boolean b => some b | _ => none)

/-- Reads a configuration. All types of the line settings are checked before their ranges. -/
def ofSettings (data : List (String × Setting)) : Except ConfigProblem Config := do
  let lines ← section? "repl" data
  let logging ← section? "logging" data
  let prompt ← text "prompt" standard.prompt lines
  let maxLineLength ← whole "max_line_length" standard.maxLineLength lines
  let precision ← whole "precision" standard.precision lines
  let debugUnits ← boolean "debug_units" standard.debugUnits lines
  if hm : 0 < maxLineLength then
    if hp : 0 < precision then
      let level := Text.uppercase (← text "level" standard.level.name logging)
      match LogLevel.ofName? level with
      | some level =>
        return {
          prompt, debugUnits, level
          maxLineLength := maxLineLength.toNat
          precision := precision.toNat
          maxLineLength_pos := by omega
          precision_pos := by omega }
      | none => throw (.unknownLevel level)
    else throw (.notPositive "precision")
  else throw (.notPositive "max_line_length")

/-- Reads a configuration whose errors name their source. -/
def read (source : String) (data : List (String × Setting)) : Except ConfigError Config :=
  (ofSettings data).mapError (⟨·, source⟩)

end Config

end Quantities
