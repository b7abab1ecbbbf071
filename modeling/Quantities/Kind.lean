namespace Quantities

inductive Kind where
  | constant
  | unit
  | negation
  | var
  | assignment
  /-- A number and its unit side by side, as in `5 km`. -/
  | quantity
  /-- Two units side by side, as in `kg m`. -/
  | unitProduct
  /-- A unit over a unit, as in `m / s`. -/
  | unitQuotient
  | add
  | sub
  | mul
  | div
  | convert
  | power
  | empty
  | quit
  | help
  | invalid
  deriving DecidableEq, Repr

namespace Kind

def name : Kind → String
  | constant => "const"
  | unit => "unit"
  | negation => "negation"
  | var => "var"
  | assignment => "set var"
  | quantity => "const x unit"
  | unitProduct => "unit x unit"
  | unitQuotient => "div unit"
  | add => "+"
  | sub => "-"
  | mul => "*"
  | div => "/"
  | convert => "->"
  | power => "^"
  | empty => "empty"
  | quit => "quit"
  | help => "help"
  | invalid => "invalid"

def isBinary : Kind → Bool
  | quantity | unitProduct | unitQuotient | add | sub | mul | div | convert | power => true
  | _ => false

/-- The kinds that yield a number. A quotient counts as a number here. -/
def isNumber : Kind → Bool
  | constant | negation | quantity | add | sub | mul | div | convert => true
  | _ => false

def isUnit : Kind → Bool
  | unit | unitProduct | power | unitQuotient => true
  | _ => false

def isLeaf : Kind → Bool
  | constant | unit | var | empty | quit | help => true
  | _ => false

/-- The kinds a unit may be attached to. -/
def leadsUnit : Kind → Bool
  | constant | negation | quantity => true
  | _ => false

def admits : Kind → Kind → Kind → Bool
  | quantity, l, r => l.leadsUnit && r.isUnit
  | unitProduct, l, r | unitQuotient, l, r => l.isUnit && r.isUnit
  | add, l, r | sub, l, r | mul, l, r => l.isNumber && r.isNumber
  | div, l, r => (l.isNumber && r.isNumber) || (l.isUnit && r.isUnit)
  | convert, l, r => l.isNumber && r.isUnit
  | power, l, r => l.isUnit && r.isNumber
  | _, _, _ => false

theorem not_isUnit_of_isNumber {k : Kind} (h : k.isNumber = true) : k.isUnit = false := by
  cases k <;> first | rfl | cases h

end Kind

end Quantities
