namespace Quantities.Number

/-- The whole number nearest to `n / d`. -/
def roundHalfEven (n d : Nat) : Nat :=
  let q := n / d
  let r := n % d
  if 2 * r < d then q
  else if d < 2 * r then q + 1
  else if q % 2 = 0 then q
  else q + 1

def decimalLength (n : Nat) : Nat := (Nat.toDigits 10 n).length

/-- The decimal exponent of a positive fraction: `10 ^ e ≤ n / d < 10 ^ (e + 1)`. -/
def magnitude (n d : Nat) : Int :=
  if d ≤ n then (decimalLength (n / d) : Int) - 1 else -(decimalLength ((d - 1) / n) : Int)

/-- The fraction `n / d` rounded to a whole multiple of `10 ^ -places`. -/
def roundAt (places : Int) (n d : Nat) : Nat :=
  if 0 ≤ places then roundHalfEven (n * Nat.pow 10 places.toNat) d
  else roundHalfEven n (d * Nat.pow 10 (-places).toNat)

/-- A positive fraction in scientific notation: as many digits as asked for, as one number, and
the exponent of the first of them. -/
def significant (count n d : Nat) : Nat × Int :=
  let e := magnitude n d
  let ds := roundAt (count - 1 - e) n d
  if ds = Nat.pow 10 count then (Nat.pow 10 (count - 1), e + 1) else (ds, e)

end Quantities.Number
