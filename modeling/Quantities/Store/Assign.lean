import Quantities.Store
import Quantities.Expr.Evaluate

namespace Quantities

variable {ν : Type}

/-- The result of an expression in normal form, unless it has none. -/
def Expr.result? (A : Arithmetic ν) (e : Expr ν) : Stage (Option (Binding ν)) := do
  let u ← e.inferUnit A
  if u.isUnknown then return none
  if !e.isNumber then return some (.unit u)
  let x ← e.evaluate A
  if ← Stage.failed then return none
  return some (.number x u)

/-- Carries out an assignment: what was stored, if anything, and the variables after it. -/
def Store.assign (A : Arithmetic ν) (s : Store ν) (target value : Expr ν) :
    Stage (Option (Binding ν) × Store ν) := do
  if ← Stage.failed then return (none, s)
  match target with
  | .var name =>
    match ← value.result? A with
    | some b => return (some b, ← s.insertExpr name b.expr)
    | none => return (none, s)
  | t => throw (.notAssignable t.kind)

end Quantities
