import Quantities.Kind

namespace Quantities

/-- Failures that are not a line's own. They end the line instead of becoming its diagnostic. -/
inductive Fault where
  /-- A power, or the degree it is raised to, is too large for the number system. -/
  | overflow
  /-- Zero has no negative power. -/
  | zeroPower
  /-- A text would have too many digits: those that a number is asked for, or those of a degree. -/
  | precision
  /-- The node has no value. -/
  | noValue (kind : Kind) (text : String)
  /-- No rule gives this operator a value. -/
  | noEvaluation (op : Kind)
  /-- No rule gives this operator a unit. -/
  | noInference (op : Kind)
  /-- No rule tells whether this node is well formed. -/
  | noCheck
  | notStorable (kind : Kind) (name : String)
  | notAssignable (kind : Kind)
  deriving DecidableEq, Repr

/-- The text of a fault. What leaves the range of the numbers has none. -/
def Fault.message? : Fault → Option String
  | overflow | zeroPower | precision => none
  | noValue kind text => some s!"Cannot evaluate {kind.name} expression: {text}"
  | noEvaluation op | noInference op => some s!"Unknown binary op: {op.name}"
  | noCheck => some "Unknown expression type: BinaryExpr"
  | notStorable kind name =>
    some s!"Cannot store {kind.name} expression for '{name}': expected a number with a unit or a unit"
  | notAssignable kind => some s!"Cannot assign to {kind.name} expression"

end Quantities
