namespace Quantities.Number

inductive Parts where
  | nan
  | infinite (negative : Bool)
  /-- The number `significand * 2 ^ exponent`, with its sign. -/
  | finite (negative : Bool) (significand : Nat) (exponent : Int)
  deriving DecidableEq, Repr

namespace Parts

/-- The parts of a number in the binary format with 52 fraction bits and 11 exponent bits. -/
def ofFloat (x : Float) : Parts :=
  let bits := x.toBits.toNat
  let negative := decide (Nat.pow 2 63 ≤ bits)
  let exponent : Nat := bits / Nat.pow 2 52 % Nat.pow 2 11
  let fraction : Nat := bits % Nat.pow 2 52
  if exponent = 2047 then if fraction = 0 then infinite negative else nan
  else if exponent = 0 then finite negative fraction (-1074)
  else finite negative (Nat.pow 2 52 + fraction) (exponent - 1075)

def isInfinite : Parts → Bool
  | infinite _ => true
  | _ => false

/-- The whole number that these parts make up, if they do. -/
def whole? : Parts → Option Int
  | finite negative m e =>
    let scale := Nat.pow 2 (-e).toNat
    if m % scale = 0 then
      let n := m * Nat.pow 2 e.toNat / scale
      some (if negative then -(n : Int) else n)
    else none
  | _ => none

end Parts

end Quantities.Number
