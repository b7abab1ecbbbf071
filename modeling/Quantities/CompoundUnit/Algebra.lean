import Quantities.CompoundUnit

namespace Quantities.CompoundUnit

/-- Adds the degree of a term to the first term of the same category. -/
def absorb : List Term → Term → List Term
  | [], _ => []
  | e :: es, t =>
    if e.category = t.category then { e with degree := e.degree + t.degree } :: es
    else e :: absorb es t

/-- The product as a list: the terms of the left side with the degrees of the right side added,
cancelled ones dropped, then the terms of the right side in new categories. -/
def mergeTerms (a b : CompoundUnit) : List Term :=
  (b.terms.foldl absorb a.terms).filter (fun t => t.degree ≠ 0)
    ++ b.terms.filter fun t => (a.find? t.category).isNone

/-- The product of two units, in the base units of its left side: `km * m` is counted in square
kilometers. The unknown unit spreads, and a product that cancels is the unit of a plain number. -/
def combine (a b : CompoundUnit) : CompoundUnit :=
  if a.isUnknown || b.isUnknown then unknown
  else if a.isNone then b
  else if b.isNone then a
  else match mergeTerms a b with
    | [] => none
    | ts => ⟨ts⟩

/-- Whether some category is measured in different base units on the two sides. -/
def clashes (a b : CompoundUnit) : Bool :=
  b.terms.any fun t => match a.find? t.category with
    | some e => e.base ≠ t.base
    | Option.none => false

/-- The product of two units written side by side. It is unknown where the sides measure one
category in different base units, for folding one into the other would change the magnitude. -/
def adjoin (a b : CompoundUnit) : CompoundUnit :=
  if !a.isNone && !b.isNone && a.clashes b then unknown else a.combine b

def invert (u : CompoundUnit) : CompoundUnit :=
  if u.isNone || u.isUnknown then u
  else ⟨u.terms.map fun t => { t with degree := -t.degree }⟩

/-- The power of a unit. The power zero is the unit of a plain number. -/
def raise (u : CompoundUnit) (n : Int) : CompoundUnit :=
  if u.isNone || u.isUnknown then u
  else if n = 0 then none
  else ⟨u.terms.map fun t => { t with degree := t.degree * n }⟩

def divide (a b : CompoundUnit) : CompoundUnit := a.combine b.invert

theorem combine_none_left (u : CompoundUnit) : none.combine u = if u.isUnknown then unknown else u := by
  simp [combine]

end Quantities.CompoundUnit
