import Quantities.Entries
import Quantities.Expr
import Quantities.Expr.Rule

namespace Quantities

/-- What a variable holds, which is never an expression that is still to be evaluated. -/
inductive Binding (ν : Type) where
  | number (value : ν) (unit : CompoundUnit)
  | unit (u : CompoundUnit)
  deriving DecidableEq, Repr

namespace Binding

variable {ν : Type}

def expr : Binding ν → Expr ν
  | number x u => .quantity x u
  | unit u => .unit u

/-- The binding that an expression in normal form stands for. -/
def ofExpr? : Expr ν → Option (Binding ν)
  | .bin .quantity (.const x) (.unit u) => some (number x u)
  | .unit u => some (unit u)
  | _ => none

def isNumber : Binding ν → Bool
  | number .. => true
  | unit _ => false

theorem ofExpr?_eq_some_iff {e : Expr ν} {b : Binding ν} : ofExpr? e = some b ↔ e = b.expr := by
  constructor
  · intro h
    unfold ofExpr? at h
    split at h <;> cases h <;> rfl
  · rintro rfl
    cases b <;> rfl

end Binding

structure Store (ν : Type) where
  entries : List (String × Binding ν) := []
  deriving DecidableEq, Repr

namespace Store

variable {ν : Type}

def empty : Store ν := {}

def get? (s : Store ν) (name : String) : Option (Binding ν) := s.entries.lookup name

def names (s : Store ν) : List String := s.entries.map Prod.fst

def size (s : Store ν) : Nat := s.entries.length

def insert (s : Store ν) (name : String) (b : Binding ν) : Store ν := ⟨Entries.set name b s.entries⟩

/-- Only expressions in normal form can be stored. -/
def insertExpr (s : Store ν) (name : String) (e : Expr ν) : Except Fault (Store ν) :=
  match Binding.ofExpr? e with
  | some b => pure (s.insert name b)
  | none => throw (.notStorable e.kind name)

theorem insertExpr_expr (s : Store ν) (name : String) (b : Binding ν) :
    s.insertExpr name b.expr = .ok (s.insert name b) := by
  rw [insertExpr, Binding.ofExpr?_eq_some_iff.mpr rfl]
  rfl

def holdsNumber (s : Store ν) (name : String) : Bool := (s.get? name).any Binding.isNumber

def holdsUnit (s : Store ν) (name : String) : Bool := (s.get? name).any (!·.isNumber)

def reference (s : Store ν) : Reference := ⟨s.holdsNumber, s.holdsUnit⟩

theorem get?_insert (s : Store ν) (name n : String) (b : Binding ν) :
    (s.insert name b).get? n = if n = name then some b else s.get? n :=
  Entries.lookup_set name n b s.entries

end Store

namespace Expr

variable {ν : Type}

/-- The expression with every bound variable replaced by what it holds. The target of an assignment
stays. -/
def substitute (s : Store ν) : Expr ν → Expr ν
  | var name => match s.get? name with
    | some b => b.expr
    | none => var name
  | neg e => neg (e.substitute s)
  | bin op l r => bin op (l.substitute s) (r.substitute s)
  | assign t v => assign t (v.substitute s)
  | e => e

end Expr

end Quantities
