import Quantities.Proofs.Expr.Division
import Quantities.Proofs.Number.Large
import Quantities.Proofs.Unit.Identity

namespace Quantities.Expr

section Perform

variable {ν : Type} {A : Arithmetic ν} {l r : Expr ν} {a b : CompoundUnit} {op : Kind} {x y f : ν}

theorem perform_convert (ha : l.unit? A = some a) (hb : r.unit? A = some b)
    (hx : (evaluate A l).perform {} = (.ok x, {})) (hf : a.recordedFactor A b = .ok f) :
    (evaluate A (bin .convert l r)).perform {} = (.ok (A.mul x f), {}) := by
  rw [evaluate_bin]
  simp only
  rw [Stage.perform_bind_of_ok hx, Stage.perform_bind_of_ok (perform_inferUnit ha),
    Stage.perform_bind_of_ok (perform_inferUnit hb), hf]
  rfl

theorem perform_alignedValue (ha : l.unit? A = some a) (hb : r.unit? A = some b)
    (hx : (evaluate A l).perform {} = (.ok x, {})) (hy : (evaluate A r).perform {} = (.ok y, {}))
    (hf : b.recordedFactor A a = .ok f) :
    (alignedValue A op l r).perform {} = (jointValue A op x (A.mul y f)).perform {} := by
  rw [alignedValue, Stage.perform_bind_of_ok hx, Stage.perform_bind_of_ok hy,
    Stage.perform_bind_of_ok (perform_inferUnit hb), Stage.perform_bind_of_ok (perform_inferUnit ha),
    hf]
  rfl

end Perform

theorem isWritable_of_isInfinite_eq_false {t : Term}
    (h : (Number.Parts.ofFloat (Float.ofInt t.degree)).isInfinite = false) :
    t.isWritable = true := by
  by_contra hw
  have hle {k : Nat} (hk : k ≤ maxDegreeDigits) : Nat.pow 10 k ≤ t.degree.natAbs :=
    Nat.le_of_not_lt fun hlt => hw (Term.isWritable_of_lt_pow hk hlt)
  have hne : t.degree.natAbs ≠ 0 := Nat.ne_of_gt (hle (Nat.zero_le maxDegreeDigits))
  have hlog {k : Nat} (hk : k ≤ maxDegreeDigits) : k ≤ t.degree.natAbs.log2 :=
    (Nat.le_log2 hne).mpr (Nat.le_trans (Nat.pow_le_pow_left (by decide) k) (hle hk))
  rw [Number.isInfinite_ofInt (hlog (by decide))] at h
  cases h

/-- Between units of the same terms the factor is one, as long as the degrees of the terms are
finite as machine numbers. So a value is converted into the same unit unchanged, and sums and
differences of values in the same unit are not scaled. -/
theorem evaluate_of_sameTerms {a b : CompoundUnit} (ha : a.Canonical) (hb : b.Canonical)
    (h : a.sameTerms b = true)
    (hd : ∀ t ∈ a.terms, (Number.Parts.ofFloat (Float.ofInt t.degree)).isInfinite = false) :
    a.conversionFactor .machine b = .ok 1 ∧
    ∀ (l r : Expr Float) (x : Float), l.unit? .machine = some a → r.unit? .machine = some b →
      (evaluate .machine l).perform {} = (.ok x, {}) →
      (evaluate .machine (bin .convert l r)).perform {} = (.ok x, {}) ∧
      ∀ y, (evaluate .machine r).perform {} = (.ok y, {}) →
        (evaluate .machine (bin .add l r)).perform {} = (.ok (x + y), {}) ∧
        (evaluate .machine (bin .sub l r)).perform {} = (.ok (x - y), {}) := by
  have hA := Arithmetic.unital_machine
  have hraises : ∀ t ∈ a.terms, Arithmetic.machine.Raises t.degree :=
    fun t ht => Arithmetic.raises_machine (hd t ht)
  have hterms := CompoundUnit.sameTerms_iff.mp h
  have hforth := CompoundUnit.conversionFactor_eq_one hA ha hb h hraises
  have hback := CompoundUnit.conversionFactor_eq_one hA hb ha (CompoundUnit.sameTerms_symm h)
    fun t ht => hraises t ((hterms t).mpr ht)
  have hwa : a.isWritable = true :=
    ha.isWritable_iff.mpr fun t ht => isWritable_of_isInfinite_eq_false (hd t ht)
  have hwb : b.isWritable = true :=
    hb.isWritable_iff.mpr fun t ht => isWritable_of_isInfinite_eq_false (hd t ((hterms t).mpr ht))
  have hconvert := (CompoundUnit.recordedFactor_eq_ok_iff _).mpr ⟨hforth, hwa, hwb⟩
  have halign := (CompoundUnit.recordedFactor_eq_ok_iff _).mpr ⟨hback, hwb, hwa⟩
  refine ⟨hforth, fun l r x hl hr hx => ⟨?_, fun y hy => ⟨?_, ?_⟩⟩⟩
  · rw [perform_convert hl hr hx hconvert, hA.mul_one]
  · rw [evaluate_eq_alignedValue _ (.inl rfl) (by simp), perform_alignedValue hl hr hx hy halign,
      hA.mul_one]
    rfl
  · rw [evaluate_eq_alignedValue _ (.inr (.inl rfl)) (by simp),
      perform_alignedValue hl hr hx hy halign, hA.mul_one]
    rfl

/-- Two forces whose units are written in different orders. -/
theorem evaluate_of_sameTerms_of_forces :
    let u : CompoundUnit := ⟨[⟨.kilogram, 1⟩, ⟨.meter, 1⟩, ⟨.second, -2⟩]⟩
    let v : CompoundUnit := ⟨[⟨.second, -2⟩, ⟨.kilogram, 1⟩, ⟨.meter, 1⟩]⟩
    let l : Expr Float := quantity 0.1 u
    let r : Expr Float := quantity 0.2 v
    (u.Canonical ∧ v.Canonical ∧ u.sameTerms v = true ∧
      (∀ t ∈ u.terms, (Number.Parts.ofFloat (Float.ofInt t.degree)).isInfinite = false) ∧
      l.unit? .machine = some u ∧ r.unit? .machine = some v ∧
      (evaluate .machine l).perform {} = (.ok 0.1, {}) ∧
      (evaluate .machine r).perform {} = (.ok 0.2, {})) ∧
    u.conversionFactor .machine v = .ok 1 ∧
    (evaluate .machine (bin .convert l r)).perform {} = (.ok 0.1, {}) ∧
    (evaluate .machine (bin .sub l r)).perform {} = (.ok (0.1 - 0.2), {}) := by
  intro u v l r
  have hu : u.Canonical := .inr ⟨by decide, by decide, by decide, by decide⟩
  have hv : v.Canonical := .inr ⟨by decide, by decide, by decide, by decide⟩
  have hsame : u.sameTerms v = true := by decide
  have hd : ∀ t ∈ u.terms, (Number.Parts.ofFloat (Float.ofInt t.degree)).isInfinite = false := by
    decide +kernel
  have hl : l.unit? .machine = some u := unit?_quantity hu (by decide +kernel) _
  have hr : r.unit? .machine = some v := unit?_quantity hv (by decide +kernel) _
  obtain ⟨hfactor, hvalues⟩ := evaluate_of_sameTerms hu hv hsame hd
  obtain ⟨hconvert, hsums⟩ := hvalues l r 0.1 hl hr rfl
  exact ⟨⟨hu, hv, hsame, hd, hl, hr, rfl, rfl⟩, hfactor, hconvert, (hsums 0.2 rfl).2⟩

end Quantities.Expr
