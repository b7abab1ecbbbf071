import Mathlib.Algebra.BigOperators.Group.Finset.Piecewise
import Mathlib.Algebra.BigOperators.Ring.List
import Mathlib.Algebra.Order.Field.Rat
import Mathlib.Tactic.FieldSimp
import Quantities.Proofs.Unit.Convertible
import Quantities.Proofs.Unit.Factor

namespace Quantities

/-- The sizes of the base units, counted in some common measure of their category. -/
structure Weights where
  weight : BaseUnit → ℚ
  pos : ∀ b, 0 < weight b

/-- Rational numbers without rounding, and the factors that the weights of the units give. -/
def Arithmetic.exact (w : Weights) (text : Nat → ℚ → String) : Arithmetic ℚ where
  zero := 0
  one := 1
  neg := (-·)
  add := (· + ·)
  sub := (· - ·)
  mul := (· * ·)
  div := (· / ·)
  isZero x := x = 0
  power x n := if x = 0 ∧ n < 0 then throw .zeroPower else pure (x ^ n)
  whole? x := if x.den = 1 then some x.num else none
  factor a b := w.weight a / w.weight b
  ofDecimal? d := some (d.digits * 10 ^ d.exponent / 10 ^ d.places)
  text := text

namespace CompoundUnit

open CompoundUnit hiding none

/-- The categories that have units. -/
def measured : Finset Category := {.distance, .time, .mass}

theorem mem_measured_iff {c : Category} : c ∈ measured ↔ c ≠ .none := by
  cases c <;> decide

theorem Canonical.prod_terms {u : CompoundUnit} (h : u.Canonical) {f : Term → ℚ}
    (hf : f ⟨.none, 0⟩ = 1) :
    (u.terms.map f).prod = ∏ c ∈ measured, (u.find? c).elim 1 f := by
  have hzero {v : CompoundUnit} (hv : ∀ c ∈ measured, v.find? c = Option.none) :
      ∏ c ∈ measured, (v.find? c).elim 1 f = 1 :=
    Finset.prod_eq_one fun c hc => by rw [hv c hc]; rfl
  rcases h with rfl | h
  · rw [hzero fun c hc => find?_none (mem_measured_iff.mp hc)]
    simp [CompoundUnit.none, hf]
  obtain ⟨ts⟩ := u
  have hmeasured := h.none_not_mem_categories
  have hdistinct := h.distinct
  clear h
  induction ts with
  | nil => simp [find?]
  | cons t ts ih =>
    obtain ⟨ht, hts⟩ := List.nodup_cons.mp hdistinct
    simp only [List.map_cons, List.mem_cons, not_or] at hmeasured
    have hmissing : (CompoundUnit.mk ts).find? t.category = Option.none :=
      find?_eq_none_iff.mpr ht
    have hsplit (c : Category) : ((CompoundUnit.mk (t :: ts)).find? c).elim 1 f =
        (if t.category = c then f t else 1) * ((CompoundUnit.mk ts).find? c).elim 1 f := by
      rw [find?_mk_cons]
      by_cases hc : t.category = c
      · simp [hc, hc ▸ hmissing]
      · simp [hc]
    have hmem : t.category ∈ measured := mem_measured_iff.mpr (Ne.symm hmeasured.1)
    simp only [hsplit, Finset.prod_mul_distrib, Finset.prod_ite_eq, hmem, if_true]
    rw [List.map_cons, List.prod_cons, ih hmeasured.2 hts]

end CompoundUnit

namespace Weights

open CompoundUnit hiding none

variable (w : Weights) {u a b : CompoundUnit}

theorem weight_ne_zero (b : BaseUnit) : w.weight b ≠ 0 := (w.pos b).ne'

/-- How much a unit measures of its dimension. -/
def scale (u : CompoundUnit) : ℚ := (u.terms.map fun t => w.weight t.base ^ t.degree).prod

/-- The exact factor that turns a value in `a` into one in `b`. -/
def rate (a b : CompoundUnit) : ℚ :=
  (a.terms.map fun t => (b.find? t.category).elim 1 fun o =>
    (w.weight t.base / w.weight o.base) ^ t.degree).prod

@[simp] theorem scale_none : w.scale .none = 1 := by
  simp [scale, CompoundUnit.none]

theorem scale_ne_zero (u : CompoundUnit) : w.scale u ≠ 0 := by
  refine fun h => ?_
  obtain ⟨t, _, ht⟩ := List.mem_map.mp (List.prod_eq_zero_iff.mp h)
  exact zpow_ne_zero _ (w.weight_ne_zero _) ht

theorem rate_ne_zero (a b : CompoundUnit) : w.rate a b ≠ 0 := by
  refine fun h => ?_
  obtain ⟨t, _, ht⟩ := List.mem_map.mp (List.prod_eq_zero_iff.mp h)
  cases ho : b.find? t.category with
  | none => simp [ho] at ht
  | some o =>
    rw [ho] at ht
    exact zpow_ne_zero _ (div_ne_zero (w.weight_ne_zero _) (w.weight_ne_zero _)) ht

theorem scale_eq_prod (h : u.Canonical) :
    w.scale u = ∏ c ∈ measured, (u.find? c).elim 1 fun t => w.weight t.base ^ t.degree :=
  h.prod_terms (by simp)

theorem rate_eq_prod (h : a.Canonical) (b : CompoundUnit) :
    w.rate a b = ∏ c ∈ measured, (a.find? c).elim 1 fun t => (b.find? c).elim 1 fun o =>
      (w.weight t.base / w.weight o.base) ^ t.degree := by
  have hone : ∀ o : Option Term, (o.elim 1 fun o =>
      (w.weight BaseUnit.none / w.weight o.base) ^ (0 : Int)) = (1 : ℚ) := by
    rintro (_ | o) <;> simp
  rw [rate, h.prod_terms (hone _)]
  refine Finset.prod_congr rfl fun c _ => ?_
  cases ht : a.find? c with
  | none => rfl
  | some t => rw [← (mem_of_find? ht).2]; rfl

/-- A product counts the terms of its right side in base units of the left one, and the factor
between the two makes up for it. -/
theorem scale_combine_mul_rate (ha : a.Canonical) (hb : b.Canonical) :
    w.scale (a.combine b) * w.rate b a = w.scale a * w.scale b := by
  rw [w.scale_eq_prod (canonical_combine ha hb), w.rate_eq_prod hb, w.scale_eq_prod ha,
    w.scale_eq_prod hb, ← Finset.prod_mul_distrib, ← Finset.prod_mul_distrib]
  refine Finset.prod_congr rfl fun c hc => ?_
  rw [ha.find?_combine hb (mem_measured_iff.mp hc)]
  cases a.find? c with
  | none => cases b.find? c <;> simp [Term.join]
  | some s =>
    cases b.find? c with
    | none => simp [Term.join]
    | some t =>
      have hs := w.weight_ne_zero s.base
      have hjoin : ((Term.join (some s) (some t)).elim 1 fun t => w.weight t.base ^ t.degree) =
          w.weight s.base ^ (s.degree + t.degree) := by
        by_cases h : s.degree + t.degree = 0 <;> simp [Term.join, h]
      rw [hjoin]
      simp only [Option.elim_some]
      rw [zpow_add₀ hs, div_zpow]
      field_simp

theorem rate_eq_one (hm : ¬ a.Mixes b) : w.rate b a = 1 := by
  refine List.prod_eq_one fun x hx => ?_
  obtain ⟨t, ht, rfl⟩ := List.mem_map.mp hx
  cases ho : a.find? t.category with
  | none => rfl
  | some o =>
    obtain ⟨hmem, hcategory⟩ := mem_of_find? ho
    have hbase : o.base = t.base := by
      by_contra hne
      exact hm ⟨o, hmem, t, ht, hcategory, hne⟩
    simp [hbase, div_self (w.weight_ne_zero t.base)]

theorem scale_combine (ha : a.Canonical) (hb : b.Canonical) (hm : ¬ a.Mixes b) :
    w.scale (a.combine b) = w.scale a * w.scale b := by
  rw [← w.scale_combine_mul_rate ha hb, w.rate_eq_one hm, mul_one]

theorem scale_invert (h : u.Canonical) : w.scale u.invert = (w.scale u)⁻¹ := by
  rw [w.scale_eq_prod (canonical_invert h), w.scale_eq_prod h, ← Finset.prod_inv_distrib]
  refine Finset.prod_congr rfl fun c hc => ?_
  rw [h.find?_invert (mem_measured_iff.mp hc)]
  cases u.find? c <;> simp

theorem rate_invert (hb : b.Canonical) (a : CompoundUnit) : w.rate b.invert a = (w.rate b a)⁻¹ := by
  rw [w.rate_eq_prod (canonical_invert hb), w.rate_eq_prod hb, ← Finset.prod_inv_distrib]
  refine Finset.prod_congr rfl fun c hc => ?_
  rw [hb.find?_invert (mem_measured_iff.mp hc)]
  cases b.find? c <;> cases a.find? c <;> simp

theorem scale_divide (ha : a.Canonical) (hb : b.Canonical) :
    w.scale (a.divide b) * w.scale b = w.rate b a * w.scale a := by
  have h := w.scale_combine_mul_rate ha (canonical_invert hb)
  have hb' := w.scale_ne_zero b
  have hr := w.rate_ne_zero b a
  rw [w.rate_invert hb, w.scale_invert hb] at h
  rw [divide]
  field_simp at h
  exact h

theorem rate_mul_scale (ha : a.Canonical) (hb : b.Canonical) (h : a.degree = b.degree) :
    w.rate a b * w.scale b = w.scale a := by
  have hquotient : b.divide a = .none := by
    rw [← (canonical_divide hb ha).degree_eq_zero_iff, degree_divide hb ha, h, sub_self]
  have := w.scale_divide hb ha
  rw [hquotient, scale_none, one_mul] at this
  exact this.symm

section Exact

variable (text : Nat → ℚ → String)

theorem power_exact {x : ℚ} {n : Int} (h : x ≠ 0 ∨ n = 0) :
    (Arithmetic.exact w text).power x n = .ok (x ^ n) := by
  have hn : ¬ (x = 0 ∧ n < 0) := by
    rintro ⟨hx, hn⟩
    rcases h with h | h
    · exact h hx
    · omega
  show (if x = 0 ∧ n < 0 then throw .zeroPower else pure (x ^ n) : Except Fault ℚ) = _
  rw [if_neg hn]
  rfl

theorem power_tableFactor (ha : a.Derived) {t o : Term} (ht : t ∈ a.terms)
    (ho : b.find? t.category = some o) :
    (Arithmetic.exact w text).power ((Arithmetic.exact w text).tableFactor t.base o.base) t.degree =
      .ok ((w.weight t.base / w.weight o.base) ^ t.degree) := by
  have hzero (x y : ℚ) (h : t.degree = 0) :
      (Arithmetic.exact w text).power x t.degree = .ok (y ^ t.degree) := by
    rw [w.power_exact text (.inr h), h, zpow_zero, zpow_zero]
  rcases ha with (rfl | ha) | rfl
  · obtain rfl : t = ⟨.none, 0⟩ := by simpa [CompoundUnit.none] using ht
    exact hzero _ _ rfl
  · rw [(ha.tableFactor_eq _ ht ho).2]
    exact w.power_exact text (.inl (div_ne_zero (w.weight_ne_zero _) (w.weight_ne_zero _)))
  · obtain rfl : t = ⟨.unknown, 0⟩ := by simpa [unknown] using ht
    exact hzero _ _ rfl

theorem foldlM_eq_prod {α : Type} {g : ℚ → α → Except Fault ℚ} {f : α → ℚ} {as : List α}
    (h : ∀ a ∈ as, ∀ x, g x a = .ok (x * f a)) (x : ℚ) :
    as.foldlM g x = .ok (x * (as.map f).prod) := by
  induction as generalizing x with
  | nil =>
    rw [List.map_nil, List.prod_nil, mul_one]
    rfl
  | cons a as ih =>
    rw [List.foldlM_cons, h a (by simp), List.map_cons, List.prod_cons, ← mul_assoc]
    exact ih (fun c hc => h c (by simp [hc])) (x * f a)

theorem conversionFactor_exact (ha : a.Derived) (b : CompoundUnit) :
    a.conversionFactor (Arithmetic.exact w text) b = .ok (w.rate a b) := by
  rw [← one_mul (w.rate a b)]
  refine foldlM_eq_prod (fun t ht x => ?_) 1
  cases ho : b.find? t.category with
  | none => exact congrArg Except.ok (mul_one x).symm
  | some o =>
    simp only [w.power_tableFactor text ha ht ho]
    rfl

end Exact

end Weights

end Quantities
