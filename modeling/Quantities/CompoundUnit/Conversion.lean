import Quantities.CompoundUnit
import Quantities.Diagnostic
import Quantities.Arithmetic

namespace Quantities.CompoundUnit

/-- The first reason why a term has no proper counterpart in a unit. -/
def termMismatch? (b : CompoundUnit) (t : Term) : Option Mismatch :=
  match b.find? t.category with
  | Option.none => some (.missing t)
  | some o => if o.degree ≠ t.degree then some (.degree t o) else Option.none

/-- Why a value in `a` cannot be expressed in `b`, if it cannot: as many terms on either side,
and every term of `a` with its degree in `b`. -/
def mismatch? (a b : CompoundUnit) : Option Mismatch :=
  if a.isUnknown || b.isUnknown then some .unknownUnit
  else if a.size ≠ b.size then some (.size a.size b.size)
  else a.terms.findSome? b.termMismatch?

def convertible (a b : CompoundUnit) : Bool := (a.mismatch? b).isNone

variable {ν : Type} (A : Arithmetic ν)

/-- The factor that turns a value in `a` into one in `b`: for every term of `a` with a counterpart,
the factor of the two base units raised to the term's degree. -/
def conversionFactor (a b : CompoundUnit) : Except Fault ν :=
  a.terms.foldlM (fun x t => match b.find? t.category with
    | Option.none => pure x
    | some o => do return A.mul x (← A.power (A.tableFactor t.base o.base) t.degree)) A.one

/-- The factor of a conversion that is put on record: both units are written once it is known. -/
def recordedFactor (a b : CompoundUnit) : Except Fault ν := do
  let x ← a.conversionFactor A b
  let _ ← a.written
  let _ ← b.written
  return x

theorem recordedFactor_eq_ok_iff {a b : CompoundUnit} {x : ν} :
    a.recordedFactor A b = .ok x ↔
      a.conversionFactor A b = .ok x ∧ a.isWritable = true ∧ b.isWritable = true := by
  unfold recordedFactor written
  rcases a.conversionFactor A b with f | y
  · simp [bind, Except.bind]
  · cases a.isWritable <;> cases b.isWritable <;>
      simp [bind, Except.bind, pure, Except.pure, throw, throwThe, MonadExceptOf.throw]

end Quantities.CompoundUnit
