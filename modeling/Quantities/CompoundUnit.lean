import Quantities.BaseUnit
import Quantities.Fault

namespace Quantities

/-- The digits that a degree can be written with at most. -/
def maxDegreeDigits : Nat := 4300

structure Term where
  base : BaseUnit
  degree : Int
  deriving DecidableEq, Repr

namespace Term

def category (t : Term) : Category := t.base.category

def isWritable (t : Term) : Bool := t.degree.natAbs < Nat.pow 10 maxDegreeDigits

/-- The text of a term whose degree can be written. The first degree is left out. -/
def text (t : Term) : String :=
  if t.degree = 1 then t.base.symbol else t.base.symbol ++ "^" ++ toString t.degree

/-- Terms in the order of their symbols, then of their degrees. -/
def precedes (s t : Term) : Bool :=
  s.base.symbol < t.base.symbol || (s.base.symbol = t.base.symbol && s.degree ≤ t.degree)

end Term

/-- An ordered product of powers of base units, such as `kg m s^-2`. -/
structure CompoundUnit where
  terms : List Term
  deriving DecidableEq, Repr

namespace CompoundUnit

/-- The unit of a plain number. -/
def none : CompoundUnit := ⟨[⟨.none, 0⟩]⟩

/-- The unit left behind where a derivation failed. -/
def unknown : CompoundUnit := ⟨[⟨.unknown, 0⟩]⟩

def ofBase (b : BaseUnit) : CompoundUnit := ⟨[⟨b, 1⟩]⟩

def isNone (u : CompoundUnit) : Bool :=
  match u.terms with
  | [t] => t.base = .none
  | _ => false

def isUnknown (u : CompoundUnit) : Bool :=
  match u.terms with
  | [t] => t.base = .unknown
  | _ => false

def size (u : CompoundUnit) : Nat := u.terms.length

def find? (u : CompoundUnit) (c : Category) : Option Term :=
  u.terms.find? fun t => t.category = c

def sameTerms (a b : CompoundUnit) : Bool :=
  a.terms.all (b.terms.contains ·) && b.terms.all (a.terms.contains ·)

def sortedTerms (u : CompoundUnit) : List Term :=
  u.terms.eraseDups.mergeSort Term.precedes

/-- Whether a unit can be written. The two markers are, for their degrees are not. -/
def isWritable (u : CompoundUnit) : Bool :=
  u.isNone || u.isUnknown || u.terms.all Term.isWritable

/-- The unit itself, for its text to be taken. -/
def written (u : CompoundUnit) : Except Fault CompoundUnit :=
  if u.isWritable then pure u else throw .precision

/-- The text of a unit within a message: nothing for a plain number. -/
def text (u : CompoundUnit) : String :=
  if u.isNone then ""
  else if u.isUnknown then "unknown"
  else " ".intercalate (u.terms.map Term.text)

/-- The text of a unit in a result, where `explicit` names the unit of a plain number. -/
def display (u : CompoundUnit) (explicit : Bool) : String :=
  if u.isNone && explicit then "none" else u.text

@[simp] theorem isNone_none : none.isNone = true := rfl

@[simp] theorem isUnknown_unknown : unknown.isUnknown = true := rfl

@[simp] theorem isUnknown_none : none.isUnknown = false := rfl

@[simp] theorem isWritable_none : none.isWritable = true := rfl

theorem written_eq_ok_iff {u v : CompoundUnit} :
    u.written = .ok v ↔ u.isWritable = true ∧ u = v := by
  unfold written
  cases u.isWritable <;> simp [pure, Except.pure, throw, throwThe, MonadExceptOf.throw]

theorem written_eq_error_iff {u : CompoundUnit} {f : Fault} :
    u.written = .error f ↔ u.isWritable = false ∧ f = .precision := by
  unfold written
  cases u.isWritable <;>
    simp [pure, Except.pure, throw, throwThe, MonadExceptOf.throw, eq_comm]

end CompoundUnit

end Quantities
