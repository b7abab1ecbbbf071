import Quantities.Number.Parts
import Quantities.Number.Significant

namespace Quantities.Number

def dropTrailingZeros (ds : List Char) : List Char :=
  (ds.reverse.dropWhile (· = '0')).reverse

/-- A point is written only before digits. -/
def fractionText : List Char → List Char
  | [] => []
  | ds => '.' :: ds

def exponentText (e : Int) : List Char :=
  let ds := Nat.toDigits 10 e.natAbs
  (if e < 0 then '-' else '+') :: (List.replicate (2 - ds.length) '0' ++ ds)

/-- Digits whose first one has the place value `10 ^ e`, all places written out. -/
def positional (ds : List Char) (e : Int) : List Char :=
  if e < 0 then '0' :: '.' :: (List.replicate (-e - 1).toNat '0' ++ ds)
  else
    let width := e.toNat + 1
    ds.take width ++ List.replicate (width - ds.length) '0' ++ fractionText (ds.drop width)

/-- The same digits with one of them before the point. -/
def scientific (ds : List Char) (e : Int) : List Char :=
  ds.take 1 ++ fractionText (ds.drop 1) ++ 'e' :: exponentText e

/-- No machine number has more significant digits than this. -/
def maxDigits : Nat := 800

/-- A positive fraction in the shorter of the two layouts. -/
def fractionDigits (count n d : Nat) : List Char :=
  let (r, e) := significant count n d
  let ds := dropTrailingZeros (Nat.toDigits 10 r)
  if e < -4 || count ≤ e then scientific ds e else positional ds e

/-- The text of a number without its sign. At least one digit is written. -/
def unsignedText (count : Nat) : Parts → List Char
  | .nan => ['n', 'a', 'n']
  | .infinite _ => ['i', 'n', 'f']
  | .finite _ m e =>
    if m = 0 then ['0']
    else fractionDigits (min (max count 1) maxDigits) (m * Nat.pow 2 e.toNat)
      (Nat.pow 2 (-e).toNat)

def isNegative : Parts → Bool
  | .nan => false
  | .infinite negative | .finite negative _ _ => negative

/-- The text of a number with `count` significant digits. -/
def generalText (count : Nat) (x : Float) : String :=
  let parts := Parts.ofFloat x
  String.ofList ((if isNegative parts then ['-'] else []) ++ unsignedText count parts)

end Quantities.Number
