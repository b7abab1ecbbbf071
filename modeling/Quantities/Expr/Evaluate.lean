import Quantities.Expr.Valid
import Quantities.Stage
import Quantities.CompoundUnit.Algebra
import Quantities.CompoundUnit.Conversion

namespace Quantities.Expr

variable {ν : Type}

/-- Reports a failed derivation. The report is put into words first. -/
def rejectUnit (d : Diagnostic) : Stage CompoundUnit := do
  if d.isWritable then
    Stage.report d
    return .unknown
  else throw .precision

/-- Reports that two units do not match. The reason is put into words even if it is not told. -/
def rejectMismatch (reason : Mismatch) (d : Diagnostic) : Stage CompoundUnit :=
  if reason.isWritable then rejectUnit d else throw .precision

/-- The unit of two joined operands whose units are known. -/
def jointUnit (op : Kind) (a b : CompoundUnit) : Stage CompoundUnit :=
  match op with
  | .add | .sub =>
    match b.mismatch? a with
    | some reason => rejectMismatch reason (.unitsDiffer a op b)
    | none => pure a
  | .convert =>
    match a.mismatch? b with
    | some reason => rejectMismatch reason (.notConvertible a b reason)
    | none => pure b
  | .mul | .quantity => pure (a.combine b)
  | .unitProduct =>
    let u := a.adjoin b
    if u.isUnknown then rejectUnit (.sameCategory a b) else pure u
  | .div | .unitQuotient => pure (a.divide b)
  | op => throw (.noInference op)

/-- Only a unit of one term has a power, and only a plain number is a degree. -/
def powerAllowed (a b : CompoundUnit) : Bool := !a.isNone && a.size = 1 && b.isNone

/-- The unit of a power whose degree has been evaluated. -/
def powerUnit (A : Arithmetic ν) (a : CompoundUnit) (degree : ν) : Stage CompoundUnit := do
  if ← Stage.failed then return .unknown
  match A.whole? degree with
  | some n => return a.raise n
  | none => rejectUnit (.degreeNotWhole (A.shortText degree))

/-- The unit of two operands with these units, where the right one may be a degree. -/
def operandUnit (A : Arithmetic ν) (op : Kind) (degree : Stage ν) (a b : CompoundUnit) :
    Stage CompoundUnit :=
  if a.isUnknown || b.isUnknown then pure .unknown
  else if op = .power then
    if powerAllowed a b then degree >>= powerUnit A a else rejectUnit (.powerOperands a b)
  else jointUnit op a b

/-- The value of two operands, the right one in the unit of the left. -/
def jointValue (A : Arithmetic ν) (op : Kind) (x y : ν) : Stage ν := do
  match op with
  | .add => return A.add x y
  | .sub => return A.sub x y
  | .div =>
    if A.isZero y then
      Stage.report .divisionByZero
      return A.zero
    return A.div x y
  | op => throw (.noEvaluation op)

/-- The fault of an expression that has no value. -/
def noValue (A : Arithmetic ν) (e : Expr ν) : Fault :=
  if e.isWritable then .noValue e.kind (e.text A) else .precision

mutual

/-- The unit of an expression. That of two operands is written on the way, for the record. -/
def inferUnit (A : Arithmetic ν) : Expr ν → Stage CompoundUnit
  | const _ => pure .none
  | unit u => pure u
  | var name => rejectUnit (.undefinedVariable name)
  | neg e => inferUnit A e
  | assign _ v => inferUnit A v
  | bin op l r => do
    let a ← inferUnit A l
    let b ← inferUnit A r
    let u ← operandUnit A op (evaluate A r) a b
    u.written
  | _ => pure .unknown

/-- The value of an expression. What only describes a unit has the value zero. -/
def evaluate (A : Arithmetic ν) : Expr ν → Stage ν
  | const x => pure x
  | unit _ => pure A.zero
  | neg e => return A.neg (← evaluate A e)
  | bin op l r => do
    match op with
    | .power | .unitProduct | .unitQuotient => return A.zero
    | .quantity => evaluate A l
    | .convert =>
      let x ← evaluate A l
      let a ← inferUnit A l
      let b ← inferUnit A r
      return A.mul x (← a.recordedFactor A b)
    | .mul => return A.mul (← evaluate A l) (← evaluate A r)
    | op =>
      if op = .div && l.isUnit && r.isUnit then return A.zero
      let x ← evaluate A l
      let y ← evaluate A r
      let b ← inferUnit A r
      let a ← inferUnit A l
      jointValue A op x (A.mul y (← b.recordedFactor A a))
  | e => throw (noValue A e)

end

/-- Whether an expression passes the check. A report that is set already fails it. -/
def checkValid (e : Expr ν) : Stage Bool := do
  if ← Stage.failed then return false
  match ← e.objection? with
  | some d =>
    Stage.report d
    return false
  | none => return true

end Quantities.Expr
