import Quantities.Setting
import Quantities.Toml.Text

namespace Quantities.Toml

/-- Reads digits with single underscores between them. -/
def readDigits (isDigit : Char → Bool) : Reader (List Char)
  | [] => none
  | d :: cs =>
    if !isDigit d then none
    else match cs with
      | '_' :: ds => match readDigits isDigit ds with
        | some (s, r) => some (d :: s, r)
        | none => some ([d], '_' :: ds)
      | cs => match readDigits isDigit cs with
        | some (s, r) => some (d :: s, r)
        | none => some ([d], cs)

def numeralValue (radix : Nat) (ds : List Char) : Nat :=
  ds.foldl (fun n d => radix * n + (hexValue? d).getD 0) 0

/-- Reads a whole number after the zero and the letter that names the radix. -/
def readRadix (radix : Nat) : Reader Setting := fun cs => do
  let (ds, r) ← readDigits (fun c => (hexValue? c).any (· < radix)) cs
  some (.whole (numeralValue radix ds), r)

/-- The text after a point and its digits, if there are any. -/
def skipFraction : List Char → List Char
  | '.' :: cs => match readDigits Char.isDigit cs with
    | some (_, r) => r
    | none => '.' :: cs
  | cs => cs

def dropSign : List Char → List Char
  | '+' :: cs | '-' :: cs => cs
  | cs => cs

def skipExponent : List Char → List Char
  | [] => []
  | e :: cs =>
    if e = 'e' || e = 'E' then
      match readDigits Char.isDigit (dropSign cs) with
      | some (_, r) => r
      | none => e :: cs
    else e :: cs

/-- Reads a decimal number after its sign. A leading zero stands alone. -/
def readDecimal (negative : Bool) : Reader Setting := fun cs => do
  let (ds, r) ← match cs with
    | '0' :: r => some (['0'], r)
    | cs => readDigits Char.isDigit cs
  let rest := skipExponent (skipFraction r)
  if rest.length < r.length then some (.real, rest)
  else
    let n : Int := numeralValue 10 ds
    some (.whole (if negative then -n else n), r)

def readSpecial : Reader Setting
  | 'i' :: 'n' :: 'f' :: r | 'n' :: 'a' :: 'n' :: r => some (.real, r)
  | _ => none

def readNumber : Reader Setting
  | '+' :: cs => (readDecimal false cs).or (readSpecial cs)
  | '-' :: cs => (readDecimal true cs).or (readSpecial cs)
  | '0' :: 'x' :: cs => (readRadix 16 cs).or (readDecimal false ('0' :: 'x' :: cs))
  | '0' :: 'o' :: cs => (readRadix 8 cs).or (readDecimal false ('0' :: 'o' :: cs))
  | '0' :: 'b' :: cs => (readRadix 2 cs).or (readDecimal false ('0' :: 'b' :: cs))
  | cs => (readDecimal false cs).or (readSpecial cs)

end Quantities.Toml
