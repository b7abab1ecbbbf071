import Quantities.Number.Machine
import Quantities.Proofs.Expr.Operands

namespace Quantities.Expr

variable {ν : Type}

/-- Two expressions that differ at most in the values of constants, and not in those that a degree
is computed from. -/
inductive SameShape : Expr ν → Expr ν → Prop
  | const (x y : ν) : SameShape (const x) (const y)
  | unit (u : CompoundUnit) : SameShape (unit u) (unit u)
  | var (name : String) : SameShape (var name) (var name)
  | neg {e e' : Expr ν} (h : SameShape e e') : SameShape (neg e) (neg e')
  | power {l l' : Expr ν} (h : SameShape l l') (degree : Expr ν) :
      SameShape (bin .power l degree) (bin .power l' degree)
  | joined {op : Kind} (hop : op ≠ .power) {l l' r r' : Expr ν} (hl : SameShape l l')
      (hr : SameShape r r') : SameShape (bin op l r) (bin op l' r')
  | assign {t t' v v' : Expr ν} (ht : SameShape t t') (hv : SameShape v v') :
      SameShape (assign t v) (assign t' v')
  | empty : SameShape empty empty
  | quit : SameShape quit quit
  | help : SameShape help help
  | invalid (reason : Option SyntaxError) : SameShape (invalid reason) (invalid reason)

variable (A : Arithmetic ν)

theorem writtenUnit_of_ne_power {op : Kind} (hop : op ≠ .power) (r r' : Expr ν) :
    writtenUnit A op r = writtenUnit A op r' := by
  funext a b
  simp only [writtenUnit, operandUnit, if_neg hop]

theorem SameShape.inferUnit_eq {e e' : Expr ν} (h : SameShape e e') :
    inferUnit A e = inferUnit A e' := by
  induction h with
  | const | unit | var | empty | quit | help | invalid => rfl
  | neg h ih => rw [inferUnit, inferUnit, ih]
  | power h degree ih => rw [inferUnit_bin, inferUnit_bin, ih]
  | joined hop hl hr ihl ihr =>
    rw [inferUnit_bin, inferUnit_bin, ihl, ihr, writtenUnit_of_ne_power A hop]
  | assign ht hv iht ihv => rw [inferUnit, inferUnit, ihv]

/-- Whatever was reported before, expressions of one shape have the same unit and leave the same
report behind, or they end in the same fault. -/
theorem perform_inferUnit_of_sameShape {e e' : Expr ν} (h : SameShape e e') (r : Report) :
    (inferUnit A e).perform r = (inferUnit A e').perform r := by
  rw [h.inferUnit_eq A]

/-- A degree that is no whole number, told in the same words for all quantities with it. -/
theorem perform_inferUnit_of_half_degree :
    let degree : Expr Float := bin .div (const 5) (const 2)
    let length (x y : Float) : Expr Float :=
      bin .add (bin .quantity (const x) (unit (.ofBase .meter)))
        (bin .quantity (neg (const y)) (bin .power (unit (.ofBase .meter)) degree))
    SameShape (length 1 2) (length 0 1e300) ∧
      ((inferUnit .machine (length 1 2)).perform {}).2.message? =
        some "Degree must be an integer, got 2.5" ∧
      ((inferUnit .machine (length 0 1e300)).perform {}).2.message? =
        some "Degree must be an integer, got 2.5" := by
  intro degree length
  have hshape : SameShape (length 1 2) (length 0 1e300) :=
    .joined (by decide) (.joined (by decide) (.const 1 0) (.unit _))
      (.joined (by decide) (.neg (.const 2 1e300)) (.power (.unit _) degree))
  have hmessage : ((inferUnit .machine (length 1 2)).perform {}).2.message? =
      some "Degree must be an integer, got 2.5" := by
    decide +kernel
  refine ⟨hshape, hmessage, ?_⟩
  rw [← perform_inferUnit_of_sameShape .machine hshape]
  exact hmessage

end Quantities.Expr
