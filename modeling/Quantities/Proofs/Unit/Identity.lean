import Quantities.Proofs.Number.Unity
import Quantities.Proofs.Unit.Degree
import Quantities.Proofs.Unit.Factor

namespace Quantities

variable {ν : Type} {A : Arithmetic ν}

/-- Multiplying by one changes nothing, no power of one is another number, and one is the factor
between a base unit and itself. -/
structure Arithmetic.Unital (A : Arithmetic ν) : Prop where
  mul_one : ∀ x, A.mul x A.one = x
  power_one : ∀ n x, A.power A.one n = .ok x → x = A.one
  factor_self : ∀ b : BaseUnit, b.isMarker = false → A.factor b b = A.one

/-- A degree that one can be raised to. -/
def Arithmetic.Raises (A : Arithmetic ν) (n : Int) : Prop := ∃ x, A.power A.one n = .ok x

theorem Arithmetic.Unital.power_eq (h : A.Unital) {n : Int} (hn : A.Raises n) :
    A.power A.one n = .ok A.one := by
  obtain ⟨x, hx⟩ := hn
  rw [hx, h.power_one n x hx]

namespace CompoundUnit

variable {a b : CompoundUnit}

theorem sameTerms_iff : a.sameTerms b = true ↔ ∀ t, t ∈ a.terms ↔ t ∈ b.terms := by
  simp [sameTerms, forall_and, iff_def]

theorem sameTerms_symm (h : a.sameTerms b = true) : b.sameTerms a = true :=
  sameTerms_iff.mpr fun t => (sameTerms_iff.mp h t).symm

theorem Canonical.tableFactor_self (ha : a.Canonical) (hA : A.Unital) {t : Term}
    (ht : t ∈ a.terms) : A.tableFactor t.base t.base = A.one := by
  rcases ha with rfl | ha
  · obtain rfl : t = ⟨.none, 0⟩ := by simpa [none] using ht
    rfl
  · rw [(ha.tableFactor_eq A ht (find?_of_mem ha.distinct ht)).2, hA.factor_self _ (ha.isMarker t ht)]

theorem foldlM_eq_of_forall {α β : Type} {g : β → α → Except Fault β} {as : List α} {x : β}
    (h : ∀ a ∈ as, g x a = .ok x) : as.foldlM g x = .ok x := by
  induction as with
  | nil => rfl
  | cons a as ih =>
    rw [List.foldlM_cons, h a (by simp)]
    exact ih fun c hc => h c (by simp [hc])

theorem conversionFactor_eq_one (hA : A.Unital) (ha : a.Canonical) (hb : b.Canonical)
    (h : a.sameTerms b = true) (hd : ∀ t ∈ a.terms, A.Raises t.degree) :
    a.conversionFactor A b = .ok A.one := by
  refine foldlM_eq_of_forall fun t ht => ?_
  have hself : b.find? t.category = some t := find?_of_mem hb.distinct ((sameTerms_iff.mp h t).mp ht)
  simp only [hself, ha.tableFactor_self hA ht, hA.power_eq (hd t ht)]
  exact congrArg Except.ok (hA.mul_one A.one)

end CompoundUnit

theorem Number.power_one (n : Int) : power 1 n =
    if (Parts.ofFloat (Float.ofInt n)).isInfinite then .error .overflow else .ok 1 := by
  have hone : ((1 : Float) == 1) = true := by decide +kernel
  simp only [power, hone, Bool.or_true, if_true]
  rfl

theorem Arithmetic.unital_machine : Arithmetic.machine.Unital where
  mul_one := Number.mul_one
  power_one n x h := by
    have hpower : Number.power 1 n = .ok x := h
    rw [Number.power_one] at hpower
    split at hpower <;> cases hpower
    rfl
  factor_self b h := by
    show Number.factor b b = 1
    revert h
    cases b <;> decide +kernel

theorem Arithmetic.raises_machine {n : Int}
    (h : (Number.Parts.ofFloat (Float.ofInt n)).isInfinite = false) :
    Arithmetic.machine.Raises n :=
  ⟨1, by show Number.power 1 n = .ok 1; rw [Number.power_one, h]; rfl⟩

end Quantities
