import Quantities.Arithmetic
import Quantities.ConversionTable
import Quantities.Number.General

namespace Quantities.Number

/-- The machine number nearest to a decimal. Beyond 310 digits before the point there is none,
and the digits need not be looked at. -/
def ofDecimal? (d : Decimal) : Option Float :=
  if d.digits = 0 then some 0
  else if d.places + 310 < decimalLength d.digits + d.exponent then none
  else
    let x := if d.places ≤ d.exponent then Float.ofScientific d.digits false (d.exponent - d.places)
      else Float.ofScientific d.digits true (d.places - d.exponent)
    if (Parts.ofFloat x).isInfinite then none else some x

def ofDecimal (d : Decimal) : Float := (ofDecimal? d).getD 0

/-- A quotient is rounded after each step: its divisors are multiplied first. -/
def ofQuotient (q : Quotient) : Float :=
  match q.divisors with
  | [] => ofDecimal q.numerator
  | d :: ds => ofDecimal q.numerator / ds.foldl (fun x e => x * ofDecimal e) (ofDecimal d)

/-- The power of a number to a whole degree. The degree must itself be a machine number. -/
def power (x : Float) (n : Int) : Except Fault Float :=
  let degree := Float.ofInt n
  if (Parts.ofFloat degree).isInfinite then throw .overflow
  else if n = 0 || x == 1 then pure 1
  else if x == 0 && n < 0 then throw .zeroPower
  else
    let y := Float.pow x degree
    if (Parts.ofFloat y).isInfinite && !(Parts.ofFloat x).isInfinite then throw .overflow
    else pure y

def factor (a b : BaseUnit) : Float :=
  match ConversionTable.factor? a b with
  | some q => ofQuotient q
  | none => 0

end Quantities.Number

namespace Quantities

def Arithmetic.machine : Arithmetic Float where
  zero := 0
  one := 1
  neg := (-·)
  add := (· + ·)
  sub := (· - ·)
  mul := (· * ·)
  div := (· / ·)
  isZero := (· == 0)
  power := Number.power
  whole? := fun x => (Number.Parts.ofFloat x).whole?
  factor := Number.factor
  ofDecimal? := Number.ofDecimal?
  text := Number.generalText

end Quantities
