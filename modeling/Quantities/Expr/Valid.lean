import Quantities.Expr
import Quantities.Diagnostic

namespace Quantities.Expr

variable {ν : Type}

/-- A variable that is still there when the check is made was never assigned. -/
def undefined? : Expr ν → Option Diagnostic
  | var name => some (.undefinedVariable name)
  | _ => none

/-- The objection to operands whose own check has passed. -/
def operandObjection? (op : Kind) (l r : Expr ν) : Option Diagnostic :=
  if op.admits l.kind r.kind then none
  else some ((l.undefined?.or r.undefined?).getD (.operands op l.kind r.kind))

/-- The objection to an assigned value whose own check has passed. -/
def assignedObjection? (target value : Expr ν) : Option Diagnostic :=
  match target with
  | var name =>
    if value.kind.isNumber || value.kind.isUnit then none
    else some (value.undefined?.getD (.assignmentValue value.kind name))
  | t => some (.assignmentTarget t.kind)

/-- The first objection to an expression, if there is one. -/
def objection? : Expr ν → Except Fault (Option Diagnostic)
  | invalid reason => pure (some (.invalidExpression (reason.filter SyntaxError.saysSomething)))
  | neg e => do
    if let some d ← e.objection? then return some d
    if e.kind.isNumber then return none
    return some (e.undefined?.getD (.negationOperand e.kind))
  | assign t v => do
    if let some d ← v.objection? then return some d
    return assignedObjection? t v
  | bin op l r => do
    if op.isLeaf then return none
    if !op.isBinary then throw .noCheck
    if let some d ← l.objection? then return some d
    if let some d ← r.objection? then return some d
    return operandObjection? op l r
  | _ => pure none

end Quantities.Expr
