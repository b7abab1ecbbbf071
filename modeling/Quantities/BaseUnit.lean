namespace Quantities

inductive BaseUnit where
  | centimeter | meter | kilometer | inch | foot | mile
  | second | minute | hour
  | gram | kilogram | pound | ounce
  | none | unknown
  deriving DecidableEq, Repr

/-- Units of one category can be converted into each other. -/
inductive Category where
  | distance | time | mass | none
  deriving DecidableEq, Repr

namespace Category

def name : Category → String
  | distance => "distance"
  | time => "time"
  | mass => "mass"
  | none => "none"

end Category

namespace BaseUnit

/-- The text that stands for the unit in a line and in a result. -/
def symbol : BaseUnit → String
  | centimeter => "cm"
  | meter => "m"
  | kilometer => "km"
  | inch => "in"
  | foot => "ft"
  | mile => "mi"
  | second => "s"
  | minute => "min"
  | hour => "h"
  | gram => "g"
  | kilogram => "kg"
  | pound => "lb"
  | ounce => "oz"
  | none => "none"
  | unknown => "unknown"

/-- The markers have a category of their own, which they share. -/
def category : BaseUnit → Category
  | centimeter | meter | kilometer | inch | foot | mile => .distance
  | second | minute | hour => .time
  | gram | kilogram | pound | ounce => .mass
  | none | unknown => .none

/-- The units that can be written in a line, markers excluded. -/
def literals : List BaseUnit :=
  [centimeter, meter, kilometer, inch, foot, mile, second, minute, hour,
    gram, kilogram, pound, ounce]

def isMarker (b : BaseUnit) : Bool := b.category = .none

def ofSymbol? (word : String) : Option BaseUnit :=
  literals.find? fun b => b.symbol = word

theorem mem_literals_iff {b : BaseUnit} : b ∈ literals ↔ b.isMarker = false := by
  cases b <;> decide

theorem category_ne_none {b : BaseUnit} (h : b.isMarker = false) : b.category ≠ .none := by
  simpa [isMarker] using h

theorem isMarker_eq_of_category_eq {a b : BaseUnit} (h : a.category = b.category) :
    a.isMarker = b.isMarker := by
  rw [isMarker, isMarker, h]

theorem symbol_of_ofSymbol? {word : String} {b : BaseUnit} (h : ofSymbol? word = some b) :
    b.symbol = word ∧ b.isMarker = false := by
  refine ⟨by simpa using List.find?_some h, ?_⟩
  exact mem_literals_iff.mp (List.mem_of_find?_eq_some h)

end BaseUnit

end Quantities
