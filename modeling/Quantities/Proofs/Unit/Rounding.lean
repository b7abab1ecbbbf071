import Mathlib.Tactic.NormNum
import Quantities.ConversionTable
import Quantities.Proofs.Unit.Identity
import Quantities.Proofs.Unit.Scale

namespace Quantities

/-- Two positive numbers neither of which is less than the part `k` of the other. -/
structure Within (k x y : ℚ) : Prop where
  part_pos : 0 < k
  left_pos : 0 < x
  right_pos : 0 < y
  le_left : k * y ≤ x
  le_right : k * x ≤ y

namespace Within

variable {k l x y u v : ℚ}

theorem refl (hx : 0 < x) : Within 1 x x :=
  ⟨one_pos, hx, hx, (one_mul x).le, (one_mul x).le⟩

theorem symm (h : Within k x y) : Within k y x :=
  ⟨h.part_pos, h.right_pos, h.left_pos, h.le_right, h.le_left⟩

theorem mono (h : Within k x y) (hl : 0 < l) (hle : l ≤ k) : Within l x y :=
  ⟨hl, h.left_pos, h.right_pos, (mul_le_mul_of_nonneg_right hle h.right_pos.le).trans h.le_left,
    (mul_le_mul_of_nonneg_right hle h.left_pos.le).trans h.le_right⟩

theorem mul (h : Within k x y) (h' : Within l u v) : Within (k * l) (x * u) (y * v) := by
  refine ⟨mul_pos h.part_pos h'.part_pos, mul_pos h.left_pos h'.left_pos,
    mul_pos h.right_pos h'.right_pos, ?_, ?_⟩
  · rw [mul_mul_mul_comm]
    exact mul_le_mul h.le_left h'.le_left (mul_pos h'.part_pos h'.right_pos).le h.left_pos.le
  · rw [mul_mul_mul_comm]
    exact mul_le_mul h.le_right h'.le_right (mul_pos h'.part_pos h'.left_pos).le h.right_pos.le

theorem trans (h : Within k x y) (h' : Within l y v) : Within (k * l) x v := by
  refine ⟨mul_pos h.part_pos h'.part_pos, h.left_pos, h'.right_pos, ?_, ?_⟩
  · calc k * l * v = k * (l * v) := mul_assoc ..
      _ ≤ k * y := mul_le_mul_of_nonneg_left h'.le_left h.part_pos.le
      _ ≤ x := h.le_left
  · calc k * l * x = l * (k * x) := by ring
      _ ≤ l * y := mul_le_mul_of_nonneg_left h.le_right h'.part_pos.le
      _ ≤ v := h'.le_right

theorem inv (h : Within k x y) : Within k x⁻¹ y⁻¹ := by
  refine ⟨h.part_pos, inv_pos.mpr h.left_pos, inv_pos.mpr h.right_pos, ?_, ?_⟩
  · rw [← div_eq_mul_inv, div_le_iff₀ h.right_pos, inv_mul_eq_div, le_div_iff₀ h.left_pos]
    exact h.le_right
  · rw [← div_eq_mul_inv, div_le_iff₀ h.left_pos, inv_mul_eq_div, le_div_iff₀ h.right_pos]
    exact h.le_left

theorem pow (h : Within k x y) (n : Nat) : Within (k ^ n) (x ^ n) (y ^ n) := by
  induction n with
  | zero => simpa using refl one_pos
  | succ n ih =>
    rw [pow_succ, pow_succ, pow_succ]
    exact ih.mul h

/-- A power of degree `n` loses as much as `n` factors, whether they multiply or divide. -/
theorem zpow (h : Within k x y) (n : Int) : Within (k ^ n.natAbs) (x ^ n) (y ^ n) := by
  cases n with
  | ofNat n => simpa using h.pow n
  | negSucc n =>
    rw [zpow_negSucc, zpow_negSucc]
    exact (h.pow (n + 1)).inv

theorem list_prod {α : Type} {as : List α} {k x y : α → ℚ}
    (h : ∀ a ∈ as, Within (k a) (x a) (y a)) :
    Within (as.map k).prod (as.map x).prod (as.map y).prod := by
  induction as with
  | nil => simpa using refl one_pos
  | cons a as ih =>
    rw [List.map_cons, List.map_cons, List.map_cons, List.prod_cons, List.prod_cons, List.prod_cons]
    exact (h a (by simp)).mul (ih fun c hc => h c (by simp [hc]))

end Within

theorem prod_map_pow {α : Type} (k : ℚ) (n : α → Nat) (as : List α) :
    (as.map fun a => k ^ n a).prod = k ^ (as.map n).sum := by
  induction as with
  | nil => simp
  | cons a as ih => rw [List.map_cons, List.prod_cons, ih, ← pow_add, List.map_cons, List.sum_cons]

/-- The exact value of a decimal. -/
def Decimal.value (d : Decimal) : ℚ := d.digits * 10 ^ d.exponent / 10 ^ d.places

def Quotient.value (q : Quotient) : ℚ := q.numerator.value / (q.divisors.map Decimal.value).prod

/-- The factor between two base units as it is written in the table. -/
def ConversionTable.ratio (a b : BaseUnit) : ℚ := ((factor? a b).map Quotient.value).getD 0

/-- Meters, seconds and grams as measures, with the international yard and pound. -/
def Weights.international : Weights where
  weight
    | .centimeter => 1 / 100
    | .kilometer => 1000
    | .inch => 254 / 10000
    | .foot => 3048 / 10000
    | .mile => 1609344 / 1000
    | .minute => 60
    | .hour => 3600
    | .kilogram => 1000
    | .pound => 45359237 / 100000
    | .ounce => 45359237 / 1600000
    | _ => 1
  pos b := by cases b <;> norm_num

/-- Rational numbers without rounding, and the factors as they are written in the table. -/
def Arithmetic.tabulated (text : Nat → ℚ → String) : Arithmetic ℚ :=
  { Arithmetic.exact .international text with factor := ConversionTable.ratio }

namespace ConversionTable

/-- What is left at least of a factor when the table rounds it. -/
def accuracy : ℚ := 1 - 1 / 10 ^ 8

theorem ratio_bounds : ∀ a ∈ BaseUnit.literals, ∀ b ∈ BaseUnit.literals, a.category = b.category →
    0 < ratio a b ∧
    accuracy * (Weights.international.weight a / Weights.international.weight b) ≤ ratio a b ∧
    accuracy * ratio a b ≤ Weights.international.weight a / Weights.international.weight b := by
  decide +kernel

theorem accuracy_pos : 0 < accuracy := by norm_num [accuracy]

theorem accuracy_le_one : accuracy ≤ 1 := by norm_num [accuracy]

theorem within_ratio {a b : BaseUnit} (h : a.category = b.category) (ha : a.isMarker = false) :
    Within accuracy (ratio a b)
      (Weights.international.weight a / Weights.international.weight b) := by
  have hb : b.isMarker = false := (BaseUnit.isMarker_eq_of_category_eq h).symm.trans ha
  obtain ⟨hpos, hleft, hright⟩ := ratio_bounds a (BaseUnit.mem_literals_iff.mpr ha) b
    (BaseUnit.mem_literals_iff.mpr hb) h
  have hquotient := div_pos (Weights.international.pos a) (Weights.international.pos b)
  exact ⟨accuracy_pos, hpos, hquotient, hleft, hright⟩

end ConversionTable

namespace CompoundUnit

open CompoundUnit hiding none
open ConversionTable (accuracy)

variable {a b c : CompoundUnit} {t o : Term} (text : Nat → ℚ → String)

/-- The sum of the degrees, each without its sign. -/
def order (u : CompoundUnit) : Nat := (u.terms.map fun t => t.degree.natAbs).sum

theorem pow_order_eq (ha : a.Canonical) (hb : b.Canonical) (h : a.degree = b.degree) (k : ℚ) :
    k ^ a.order = k ^ b.order := by
  have hprod {u : CompoundUnit} (hu : u.Canonical) :
      k ^ u.order = ∏ c ∈ measured, k ^ (u.degree c).natAbs := by
    rw [order, ← prod_map_pow, hu.prod_terms (by simp)]
    refine Finset.prod_congr rfl fun c _ => ?_
    rw [degree]
    cases u.find? c <;> simp
  rw [hprod ha, hprod hb, h]

theorem Canonical.within_tableFactor (ha : a.Canonical) (ht : t ∈ a.terms)
    (ho : b.find? t.category = some o) : t.degree = 0 ∨
      Within accuracy ((Arithmetic.tabulated text).tableFactor t.base o.base)
        (Weights.international.weight t.base / Weights.international.weight o.base) := by
  rcases ha with rfl | ha
  · obtain rfl : t = ⟨.none, 0⟩ := by simpa [CompoundUnit.none] using ht
    exact .inl rfl
  · obtain ⟨hcategory, hfactor⟩ := ha.tableFactor_eq (Arithmetic.tabulated text) ht ho
    rw [hfactor]
    exact .inr (ConversionTable.within_ratio hcategory (ha.isMarker t ht))

theorem Canonical.within_rate (ha : a.Canonical) (b : CompoundUnit) :
    ∃ x, a.conversionFactor (.tabulated text) b = .ok x ∧
      Within (accuracy ^ a.order) x (Weights.international.rate a b) := by
  let A := Arithmetic.tabulated text
  let f (t : Term) : ℚ := (b.find? t.category).elim 1 fun o => A.tableFactor t.base o.base ^ t.degree
  refine ⟨(a.terms.map f).prod, ?_, ?_⟩
  · rw [← one_mul (a.terms.map f).prod]
    refine Weights.foldlM_eq_prod (fun t ht x => ?_) 1
    cases ho : b.find? t.category with
    | none => exact congrArg Except.ok (by simp [f, ho])
    | some o =>
      have hne : A.tableFactor t.base o.base ≠ 0 ∨ t.degree = 0 :=
        (ha.within_tableFactor text ht ho).symm.imp_left fun h => h.left_pos.ne'
      have hpower : A.power (A.tableFactor t.base o.base) t.degree =
          .ok (A.tableFactor t.base o.base ^ t.degree) :=
        Weights.international.power_exact text hne
      simp only [A] at hpower
      simp only [hpower, f, ho]
      rfl
  · rw [order, ← prod_map_pow]
    refine Within.list_prod fun t ht => ?_
    simp only [f]
    cases ho : b.find? t.category with
    | none =>
      have hle := pow_le_one₀ ConversionTable.accuracy_pos.le ConversionTable.accuracy_le_one
        (n := t.degree.natAbs)
      exact (Within.refl one_pos).mono (pow_pos ConversionTable.accuracy_pos _) hle
    | some o =>
      rcases ha.within_tableFactor text ht ho with hzero | hclose
      · simpa [hzero] using Within.refl one_pos
      · exact hclose.zpow t.degree

theorem rate_mul_rate (w : Weights) (ha : a.Canonical) (hb : b.Canonical) (hc : c.Canonical)
    (hab : a.degree = b.degree) (hbc : b.degree = c.degree) :
    w.rate a b * w.rate b c = w.rate a c := by
  refine mul_right_cancel₀ (w.scale_ne_zero c) ?_
  rw [mul_assoc, w.rate_mul_scale hb hc hbc, w.rate_mul_scale ha hb hab,
    w.rate_mul_scale ha hc (hab.trans hbc)]

theorem unital_tabulated : (Arithmetic.tabulated text).Unital where
  mul_one := mul_one
  power_one n x h := by
    have hpower : (Arithmetic.tabulated text).power 1 n = .ok (1 ^ n) :=
      Weights.international.power_exact text (.inl one_ne_zero)
    have hone : (Arithmetic.tabulated text).power 1 n = .ok x := h
    rw [hpower, one_zpow] at hone
    exact (Except.ok.inj hone).symm
  factor_self b hb := by
    have hself : ∀ b ∈ BaseUnit.literals, ConversionTable.ratio b b = 1 := by decide +kernel
    exact hself b (BaseUnit.mem_literals_iff.mpr hb)

/-- Three factors are each within the accuracy of the table, which leaves more than all but a
millionth. -/
theorem pow_accuracy_le (n : Nat) :
    (1 - 1 / 10 ^ 6) ^ n ≤ accuracy ^ n * accuracy ^ n * accuracy ^ n := by
  rw [← mul_pow, ← mul_pow]
  exact pow_le_pow_left₀ (by norm_num) (by norm_num [accuracy]) n

/-- Converting by way of a third unit gives what converting directly gives, but for a millionth part
for each degree, and converting there and back gives the same value but for such a part. -/
theorem conversionFactor_path (ha : a.Canonical) (hb : b.Canonical) (hc : c.Canonical)
    (hab : a.convertible b = true) (hbc : b.convertible c = true) :
    let A := Arithmetic.tabulated text
    let part : ℚ := (1 - 10 ^ (-6 : Int)) ^ (a.terms.map fun t => t.degree.natAbs).sum
    ∃ x y z, a.conversionFactor A b = .ok x ∧ b.conversionFactor A c = .ok y ∧
      a.conversionFactor A c = .ok z ∧ z * part ≤ x * y ∧ x * y ≤ z / part ∧
      (a.sameTerms c = true → z = 1) := by
  intro A part
  have hdab := (convertible_iff ha hb).mp hab
  have hdbc := (convertible_iff hb hc).mp hbc
  obtain ⟨x, hx, hxrate⟩ := ha.within_rate text b
  obtain ⟨y, hy, hyrate⟩ := hb.within_rate text c
  obtain ⟨z, hz, hzrate⟩ := ha.within_rate text c
  refine ⟨x, y, z, hx, hy, hz, ?_⟩
  rw [pow_order_eq hb ha hdab.symm] at hyrate
  have hpath := hxrate.mul hyrate
  rw [rate_mul_rate .international ha hb hc hdab hdbc] at hpath
  have hpart : part = (1 - 1 / 10 ^ 6) ^ a.order := by norm_num [part, order]
  have hpos : 0 < part := hpart ▸ pow_pos (by norm_num) _
  have hclose : Within part (x * y) z :=
    (hpath.trans hzrate.symm).mono hpos (hpart ▸ pow_accuracy_le a.order)
  refine ⟨?_, ?_, fun hsame => ?_⟩
  · rw [mul_comm]
    exact hclose.le_left
  · rw [le_div_iff₀ hpos, mul_comm]
    exact hclose.le_right
  · have hone := conversionFactor_eq_one (unital_tabulated text) ha hc hsame fun t _ =>
      ⟨1 ^ t.degree, Weights.international.power_exact text (.inl one_ne_zero)⟩
    exact Except.ok.inj (hz.symm.trans hone)

/-- A force in three systems of units: by way of the second one nothing is lost but four millionths
or so. -/
theorem conversionFactor_path_of_forces :
    let A := Arithmetic.tabulated fun _ _ => ""
    let newton : CompoundUnit := ⟨[⟨.kilogram, 1⟩, ⟨.meter, 1⟩, ⟨.second, -2⟩]⟩
    let poundal : CompoundUnit := ⟨[⟨.second, -2⟩, ⟨.pound, 1⟩, ⟨.foot, 1⟩]⟩
    let other : CompoundUnit := ⟨[⟨.mile, 1⟩, ⟨.hour, -2⟩, ⟨.ounce, 1⟩]⟩
    (newton.Canonical ∧ poundal.Canonical ∧ other.Canonical ∧ newton.convertible poundal = true ∧
      poundal.convertible other = true) ∧
    ∃ x y z, newton.conversionFactor A poundal = .ok x ∧ poundal.conversionFactor A other = .ok y ∧
      newton.conversionFactor A other = .ok z ∧ z * (1 - 10 ^ (-6 : Int)) ^ 4 ≤ x * y ∧
      x * y ≤ z / (1 - 10 ^ (-6 : Int)) ^ 4 := by
  intro A newton poundal other
  have hnewton : newton.Canonical := .inr ⟨by decide, by decide, by decide, by decide⟩
  have hpoundal : poundal.Canonical := .inr ⟨by decide, by decide, by decide, by decide⟩
  have hother : other.Canonical := .inr ⟨by decide, by decide, by decide, by decide⟩
  have hto : newton.convertible poundal = true := by decide
  have hon : poundal.convertible other = true := by decide
  obtain ⟨x, y, z, hx, hy, hz, hleft, hright, -⟩ :=
    conversionFactor_path (fun _ _ => "") hnewton hpoundal hother hto hon
  exact ⟨⟨hnewton, hpoundal, hother, hto, hon⟩, x, y, z, hx, hy, hz, hleft, hright⟩

end CompoundUnit

end Quantities
