import Quantities.BaseUnit
import Quantities.Decimal
import Quantities.Fault

namespace Quantities

/-- The numbers a calculation is carried out in: machine numbers when it runs, exact ones in some
proofs. -/
structure Arithmetic (ν : Type) where
  zero : ν
  one : ν
  neg : ν → ν
  add : ν → ν → ν
  sub : ν → ν → ν
  mul : ν → ν → ν
  div : ν → ν → ν
  isZero : ν → Bool
  power : ν → Int → Except Fault ν
  /-- The whole number that a value is, if it is one. -/
  whole? : ν → Option Int
  /-- The factor between two base units of one category. -/
  factor : BaseUnit → BaseUnit → ν
  /-- The value of a decimal, unless it is too large. -/
  ofDecimal? : Decimal → Option ν
  /-- The text of a value with so many significant digits. -/
  text : Nat → ν → String

namespace Arithmetic

variable {ν : Type} (A : Arithmetic ν)

/-- The factor between any two base units. A plain number converts to anything unchanged, and
units of different categories have the factor zero. -/
def tableFactor (a b : BaseUnit) : ν :=
  if a = .none || b = .none then A.one
  else if a.category = b.category && !a.isMarker then A.factor a b
  else A.zero

/-- Constants within a message have six digits. -/
def shortText (x : ν) : String := A.text 6 x

end Arithmetic

end Quantities
