namespace Quantities

/-- The number `digits * 10 ^ (exponent - places)`. -/
structure Decimal where
  digits : Nat
  places : Nat := 0
  exponent : Nat := 0
  deriving DecidableEq, Repr

/-- A decimal divided by the product of some others. -/
structure Quotient where
  numerator : Decimal
  divisors : List Decimal := []
  deriving DecidableEq, Repr

end Quantities
