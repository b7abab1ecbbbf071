import Quantities.BaseUnit
import Quantities.Decimal

namespace Quantities.ConversionTable

open BaseUnit

private def decimal (digits places : Nat) : Option Quotient :=
  some { numerator := { digits, places } }

private def whole (n : Nat) : Option Quotient := decimal n 0

private def quotient (numerator : Decimal) (divisors : List Decimal) : Option Quotient :=
  some { numerator, divisors }

private def unity : Decimal := { digits := 1 }

private def centimetersPerInch : Decimal := { digits := 254, places := 2 }

private def inchesPerFoot : Decimal := { digits := 12 }

private def feetPerMile : Decimal := { digits := 5280 }

private def feetPerMeter : Decimal := { digits := 32808399, places := 7 }

/-- A value in the first unit times the factor is the value in the second. Some factors are rounded,
so that a factor and its opposite need not multiply to one. -/
def factor? : BaseUnit → BaseUnit → Option Quotient
  | centimeter, centimeter => whole 1
  | centimeter, meter => decimal 1 2
  | centimeter, kilometer => decimal 1 5
  | centimeter, inch => quotient unity [centimetersPerInch]
  | centimeter, foot => quotient unity [centimetersPerInch, inchesPerFoot]
  | centimeter, mile => quotient unity [centimetersPerInch, inchesPerFoot, feetPerMile]
  | meter, centimeter => whole 100
  | meter, meter => whole 1
  | meter, kilometer => decimal 1 3
  | meter, inch => decimal 393700787 7
  | meter, foot => some { numerator := feetPerMeter }
  | meter, mile => quotient feetPerMeter [feetPerMile]
  | kilometer, centimeter => whole 100000
  | kilometer, meter => whole 1000
  | kilometer, kilometer => whole 1
  | kilometer, inch => decimal 393700787 4
  | kilometer, foot => decimal 32808399 4
  | kilometer, mile => decimal 62137119 8
  | inch, centimeter => some { numerator := centimetersPerInch }
  | inch, meter => decimal 254 4
  | inch, kilometer => decimal 254 7
  | inch, inch => whole 1
  | inch, foot => quotient unity [inchesPerFoot]
  | inch, mile => quotient unity [inchesPerFoot, feetPerMile]
  | foot, centimeter => decimal 3048 2
  | foot, meter => decimal 3048 4
  | foot, kilometer => decimal 3048 7
  | foot, inch => some { numerator := inchesPerFoot }
  | foot, foot => whole 1
  | foot, mile => quotient unity [feetPerMile]
  | mile, centimeter => decimal 1609344 1
  | mile, meter => decimal 1609344 3
  | mile, kilometer => decimal 1609344 6
  | mile, inch => whole 63360
  | mile, foot => some { numerator := feetPerMile }
  | mile, mile => whole 1
  | second, second => whole 1
  | second, minute => quotient unity [{ digits := 60 }]
  | second, hour => quotient unity [{ digits := 3600 }]
  | minute, second => whole 60
  | minute, minute => whole 1
  | minute, hour => quotient unity [{ digits := 60 }]
  | hour, second => whole 3600
  | hour, minute => whole 60
  | hour, hour => whole 1
  | gram, gram => whole 1
  | gram, kilogram => decimal 1 3
  | gram, pound => decimal 220462262 11
  | gram, ounce => decimal 352739619 10
  | kilogram, gram => whole 1000
  | kilogram, kilogram => whole 1
  | kilogram, pound => decimal 220462262 8
  | kilogram, ounce => decimal 352739619 7
  | pound, gram => decimal 45359237 5
  | pound, kilogram => decimal 45359237 8
  | pound, pound => whole 1
  | pound, ounce => whole 16
  | ounce, gram => decimal 283495231 7
  | ounce, kilogram => decimal 283495231 10
  | ounce, pound => quotient unity [{ digits := 16 }]
  | ounce, ounce => whole 1
  | _, _ => none

end Quantities.ConversionTable
