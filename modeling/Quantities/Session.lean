import Quantities.Config
import Quantities.Expr.Parse
import Quantities.Store.Assign

namespace Quantities

inductive LineResult (ν : Type) where
  | value (x : ν) (unit : CompoundUnit) (text : String)
  | unit (u : CompoundUnit) (text : String)
  | assignment (name : String) (binding : Binding ν) (text : String)
  | help
  | empty
  | quit
  | error (cause : Diagnostic)
  deriving DecidableEq, Repr

namespace LineResult

variable {ν : Type}

def helpText : String :=
  "\n".intercalate [
    "Hello! Here's some stuff you can do:",
    "Math: 1 + 2 * 3 - 4 / 5",
    "Math with units: 1km/2s*3km+4km^2s^-1",
    "Convert units: 10 m/s^2 -> km/h^2",
    "Auto-convert units: 10 km - 2 m + 12 mi",
    "Variables: x = 9 + 10",
    "Unit aliases: n = kg m s^-2"]

/-- The text to print, empty if there is nothing to say. -/
def output : LineResult ν → String
  | value _ _ text | unit _ text => text
  | assignment name _ text => name ++ " = " ++ text
  | help => helpText
  | empty | quit => ""
  | error cause => cause.message

def value? : LineResult ν → Option ν
  | value x _ _ => some x
  | assignment _ (.number x _) _ => some x
  | _ => none

def unit? : LineResult ν → Option CompoundUnit
  | value _ u _ | unit u _ => some u
  | assignment _ (.number _ u) _ | assignment _ (.unit u) _ => some u
  | _ => none

def isError : LineResult ν → Bool
  | error _ => true
  | _ => false

def isQuit : LineResult ν → Bool
  | quit => true
  | _ => false

end LineResult

variable {ν : Type}

def formatNumber (A : Arithmetic ν) (precision : Int) (x : ν) : Except Fault String :=
  if precision < 0 || 2147483647 < precision then throw .precision
  else pure (A.text precision.toNat x)

/-- A number and its unit, each left out if it has no text. -/
def formatValue (A : Arithmetic ν) (precision : Int) (debugUnits : Bool) (x : ν)
    (u : CompoundUnit) : Except Fault String := do
  let number ← formatNumber A precision x
  let unit := (← u.written).display debugUnits
  return " ".intercalate ([number, unit].filter (· ≠ ""))

/-- The text of a unit on its own, which is never empty. -/
def formatUnit (debugUnits : Bool) (u : CompoundUnit) : Except Fault String := do
  let text := (← u.written).display debugUnits
  return if text = "" then "none" else text

structure Session (ν : Type) where
  config : Config := {}
  store : Store ν := {}

namespace Session

variable (A : Arithmetic ν) (s : Session ν)

def format : Binding ν → Except Fault String
  | .number x u => formatValue A s.config.precision s.config.debugUnits x u
  | .unit u => formatUnit s.config.debugUnits u

/-- The expression of a line with the values of its variables put in. -/
def parse (line : String) : Expr ν :=
  (Expr.ofLine s.store.reference A s.config.maxLineLength line).substitute s.store

def failure (r : Report) : LineResult ν := .error (r.first.getD .unexplained)

/-- Executes a checked assignment. The variable is set even if its text cannot be given. -/
def executeAssignment (target value : Expr ν) (r : Report) :
    Except Fault (LineResult ν) × Session ν :=
  match (s.store.assign A target value).perform r with
  | (.error f, _) => (.error f, s)
  | (.ok (none, _), r) => (.ok (failure r), s)
  | (.ok (some b, store), _) =>
    let result := do
      let text ← s.format A b
      return LineResult.assignment (target.text A) b text
    (result, { s with store })

def executeComputation (e : Expr ν) (r : Report) : Except Fault (LineResult ν) :=
  match (e.result? A).perform r with
  | (.error f, _) => .error f
  | (.ok none, r) => .ok (failure r)
  | (.ok (some b), _) => do
    let text ← s.format A b
    match b with
    | .number x u => return .value x u text
    | .unit u => return .unit u text

/-- Executes a line: its result, or the fault that ended it, and the session after it. -/
def execute (line : String) : Except Fault (LineResult ν) × Session ν :=
  let e := s.parse A line
  match e.checkValid.perform {} with
  | (.error f, _) => (.error f, s)
  | (.ok false, r) => (.ok (failure r), s)
  | (.ok true, r) =>
    match e with
    | .empty => (.ok .empty, s)
    | .help => (.ok .help, s)
    | .quit => (.ok .quit, s)
    | .assign target value => s.executeAssignment A target value r
    | e => (s.executeComputation A e r, s)

/-- Executes lines one after the other, whatever becomes of each. -/
def executeAll (s : Session ν) : List String → List (Except Fault (LineResult ν)) × Session ν
  | [] => ([], s)
  | line :: lines =>
    let (result, s) := s.execute A line
    let (results, s) := executeAll s lines
    (result :: results, s)

end Session

end Quantities
