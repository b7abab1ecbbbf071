import Quantities.Proofs.Expr.Conversions
import Quantities.Proofs.Unit.Scale

namespace Quantities

namespace Expr

variable {ν : Type}

/-- The quantity of a number, counted in the measures of the weights. -/
def magnitude (w : Weights) (A : Arithmetic ℚ) : Expr ℚ → ℚ
  | const x => x
  | neg e => -e.magnitude w A
  | bin op l r =>
    match op with
    | .quantity => l.magnitude w A * w.scale ((r.unit? A).getD .none)
    | .convert => l.magnitude w A
    | .add => l.magnitude w A + r.magnitude w A
    | .sub => l.magnitude w A - r.magnitude w A
    | .mul => l.magnitude w A * r.magnitude w A
    | .div => l.magnitude w A / r.magnitude w A
    | _ => 0
  | _ => 0

end Expr

namespace Expr

open CompoundUnit hiding none

section Values

variable {ν : Type} {A : Arithmetic ν} {op : Kind} {l r : Expr ν} {a b : CompoundUnit} {x : ν}

theorem yield?_neg : (evaluate A (neg l)).yield? = (evaluate A l).yield?.map A.neg := by
  rw [evaluate, Stage.yield?_bind fun x => Stage.steady_pure _]
  cases (evaluate A l).yield? <;> rfl

theorem yield?_mul (h : (evaluate A (bin .mul l r)).yield? = some x) :
    ∃ y z, (evaluate A l).yield? = some y ∧ (evaluate A r).yield? = some z ∧ A.mul y z = x := by
  rw [evaluate_bin] at h
  simp only at h
  rw [Stage.yield?_bind fun y => (steady_evaluate A r).bind fun z => Stage.steady_pure _] at h
  obtain ⟨y, hy, h⟩ := Option.bind_eq_some_iff.mp h
  rw [Stage.yield?_bind fun z => Stage.steady_pure _] at h
  obtain ⟨z, hz, h⟩ := Option.bind_eq_some_iff.mp h
  exact ⟨y, z, hy, hz, Option.some.inj h⟩

section Converted

variable {k : ν → Stage ν}

theorem steady_converted (hk : ∀ f, (k f).Steady) (l r : Expr ν) : (do
    let a ← inferUnit A l
    let b ← inferUnit A r
    k (← a.recordedFactor A b)).Steady :=
  (steady_inferUnit A l).bind fun _ => (steady_inferUnit A r).bind fun _ =>
    (Stage.steady_liftExcept _).bind hk

theorem yield?_converted (hk : ∀ f, (k f).Steady) (ha : l.unit? A = some a)
    (hb : r.unit? A = some b) (h : (do
      let a ← inferUnit A l
      let b ← inferUnit A r
      k (← a.recordedFactor A b)).yield? = some x) :
    ∃ f, a.conversionFactor A b = .ok f ∧ (k f).yield? = some x := by
  have hfactor (a b : CompoundUnit) :
      ((liftM (a.recordedFactor A b) : Stage ν) >>= k).Steady :=
    (Stage.steady_liftExcept _).bind hk
  rw [Stage.yield?_bind fun a => (steady_inferUnit A r).bind (hfactor a),
    (unit?_eq_some_iff.mp ha).1, Option.bind_some, Stage.yield?_bind (hfactor a),
    (unit?_eq_some_iff.mp hb).1, Option.bind_some, Stage.yield?_bind hk] at h
  obtain ⟨f, hf, h⟩ := Option.bind_eq_some_iff.mp h
  have hrecorded := Stage.yield?_liftExcept_eq_some_iff.mp hf
  exact ⟨f, ((recordedFactor_eq_ok_iff A).mp hrecorded).1, h⟩

end Converted

theorem yield?_convert (ha : l.unit? A = some a) (hb : r.unit? A = some b)
    (h : (evaluate A (bin .convert l r)).yield? = some x) :
    ∃ y f, (evaluate A l).yield? = some y ∧ a.conversionFactor A b = .ok f ∧ A.mul y f = x := by
  have hk (y f : ν) : (pure (A.mul y f) : Stage ν).Steady := Stage.steady_pure _
  rw [evaluate_bin] at h
  simp only at h
  rw [Stage.yield?_bind fun y => steady_converted (hk y) l r] at h
  obtain ⟨y, hy, h⟩ := Option.bind_eq_some_iff.mp h
  obtain ⟨f, hf, h⟩ := yield?_converted (hk y) ha hb h
  exact ⟨y, f, hy, hf, Option.some.inj h⟩

theorem yield?_alignedValue (ha : l.unit? A = some a) (hb : r.unit? A = some b)
    (h : (alignedValue A op l r).yield? = some x) :
    ∃ y z f, (evaluate A l).yield? = some y ∧ (evaluate A r).yield? = some z ∧
      b.conversionFactor A a = .ok f ∧ (jointValue A op y (A.mul z f)).yield? = some x := by
  have hk (y z f : ν) := steady_jointValue A op y (A.mul z f)
  have hright (y z : ν) := steady_converted (A := A) (hk y z) r l
  unfold alignedValue at h
  rw [Stage.yield?_bind fun y => (steady_evaluate A r).bind (hright y)] at h
  obtain ⟨y, hy, h⟩ := Option.bind_eq_some_iff.mp h
  rw [Stage.yield?_bind (hright y)] at h
  obtain ⟨z, hz, h⟩ := Option.bind_eq_some_iff.mp h
  obtain ⟨f, hf, h⟩ := yield?_converted (hk y z) hb ha h
  exact ⟨y, z, f, hy, hz, hf, h⟩

end Values

section Exact

variable {w : Weights} {text : Nat → ℚ → String} {e l r : Expr ℚ} {op : Kind} {a b u : CompoundUnit}
  {x : ℚ}

theorem yield?_alignedValue_exact (hbd : b.Derived) (ha : l.unit? (.exact w text) = some a)
    (hb : r.unit? (.exact w text) = some b)
    (h : (alignedValue (.exact w text) op l r).yield? = some x) :
    ∃ y z, (evaluate (.exact w text) l).yield? = some y ∧
      (evaluate (.exact w text) r).yield? = some z ∧
      (jointValue (.exact w text) op y (z * w.rate b a)).yield? = some x := by
  obtain ⟨y, z, f, hy, hz, hf, hx⟩ := yield?_alignedValue ha hb h
  rw [w.conversionFactor_exact text hbd] at hf
  cases hf
  exact ⟨y, z, hy, hz, hx⟩

theorem quotient_of_jointValue {y z : ℚ}
    (h : (jointValue (.exact w text) .div y z).yield? = some x) : z ≠ 0 ∧ y / z = x := by
  simp only [jointValue] at h
  split at h
  · cases h
  next hz => exact ⟨by simpa [Arithmetic.exact] using hz, Option.some.inj h⟩

theorem div_mul_scale_divide (w : Weights) (ha : a.Canonical) (hb : b.Canonical) {y z : ℚ}
    (hz : z ≠ 0) :
    y / (z * w.rate b a) * w.scale (a.divide b) = y * w.scale a / (z * w.scale b) := by
  have hrate := w.rate_ne_zero b a
  have hsb := w.scale_ne_zero b
  calc y / (z * w.rate b a) * w.scale (a.divide b)
      = y * (w.scale (a.divide b) * w.scale b) / (z * w.rate b a * w.scale b) := by
        field_simp
    _ = y * w.scale a / (z * w.scale b) := by
        rw [w.scale_divide ha hb]
        field_simp

/-- What carries the induction: the value of an expression times the scale of its unit is its
quantity. -/
theorem Numeric.mul_scale (hn : e.Numeric) (hd : e.Derivable)
    (hu : e.unit? (.exact w text) = some u)
    (hm : e.Unmixed (.exact w text) .mul) (hq : e.Unmixed (.exact w text) .quantity)
    (hx : (evaluate (.exact w text) e).yield? = some x) :
    x * w.scale u = e.magnitude w (.exact w text) := by
  induction e generalizing u x with
  | const y =>
    rw [unit?_const] at hu
    rw [evaluate] at hx
    cases hu
    cases hx
    rw [w.scale_none, mul_one]
    rfl
  | neg e ih =>
    rw [unit?_neg] at hu
    rw [yield?_neg] at hx
    obtain ⟨y, hy, rfl⟩ := Option.map_eq_some_iff.mp hx
    have h := ih hn hd hu (unmixed_neg_iff.mp hm) (unmixed_neg_iff.mp hq) hy
    exact (neg_mul y _).trans (congrArg Neg.neg h)
  | bin op l r ihl ihr =>
    obtain ⟨hop, hdl, hdr⟩ := hd
    obtain ⟨a, b, ha, hb, hjoint, _⟩ := unit?_bin_eq_some_iff.mp hu
    obtain ⟨hrootm, hml, hmr⟩ := unmixed_bin_iff.mp hm
    obtain ⟨hrootq, hql, hqr⟩ := unmixed_bin_iff.mp hq
    have hca := (hdl.canonical_of_unit? ha).1
    have hcb := (hdr.canonical_of_unit? hb).1
    cases op with
    | quantity =>
      obtain rfl : a.combine b = u := Option.some.inj hjoint
      rw [evaluate_bin] at hx
      have h := ihl hn hdl ha hml hql hx
      have hscale := w.scale_combine hca hcb (hrootq rfl a b ha hb)
      calc x * w.scale (a.combine b) = x * w.scale a * w.scale b := by rw [hscale, mul_assoc]
        _ = l.magnitude w (.exact w text) * w.scale ((r.unit? (.exact w text)).getD .none) := by
          rw [h, hb, Option.getD_some]
    | convert =>
      obtain ⟨rfl, hdegree⟩ := unit_of_convert hca hcb hjoint
      obtain ⟨y, f, hy, hf, rfl⟩ := yield?_convert ha hb hx
      rw [w.conversionFactor_exact text hca.derived] at hf
      cases hf
      have h := ihl hn hdl ha hml hql hy
      calc y * w.rate a u * w.scale u = y * w.scale a := by
            rw [mul_assoc, w.rate_mul_scale hca hcb hdegree]
        _ = l.magnitude w (.exact w text) := h
    | add =>
      obtain ⟨rfl, hdegree⟩ := unit_of_sum (.inl rfl) hca hcb hjoint
      rw [evaluate_eq_alignedValue _ (.inl rfl) (by simp)] at hx
      obtain ⟨y, z, hy, hz, hx⟩ := yield?_alignedValue_exact hcb.derived ha hb hx
      obtain rfl : y + z * w.rate b u = x := Option.some.inj hx
      have hl := ihl hn.1 hdl ha hml hql hy
      have hr := ihr hn.2 hdr hb hmr hqr hz
      calc (y + z * w.rate b u) * w.scale u = y * w.scale u + z * w.scale b := by
            rw [add_mul, mul_assoc, w.rate_mul_scale hcb hca hdegree]
        _ = l.magnitude w (.exact w text) + r.magnitude w (.exact w text) := by rw [hl, hr]
    | sub =>
      obtain ⟨rfl, hdegree⟩ := unit_of_sum (.inr rfl) hca hcb hjoint
      rw [evaluate_eq_alignedValue _ (.inr (.inl rfl)) (by simp)] at hx
      obtain ⟨y, z, hy, hz, hx⟩ := yield?_alignedValue_exact hcb.derived ha hb hx
      obtain rfl : y - z * w.rate b u = x := Option.some.inj hx
      have hl := ihl hn.1 hdl ha hml hql hy
      have hr := ihr hn.2 hdr hb hmr hqr hz
      calc (y - z * w.rate b u) * w.scale u = y * w.scale u - z * w.scale b := by
            rw [sub_mul, mul_assoc, w.rate_mul_scale hcb hca hdegree]
        _ = l.magnitude w (.exact w text) - r.magnitude w (.exact w text) := by rw [hl, hr]
    | mul =>
      obtain rfl : a.combine b = u := Option.some.inj hjoint
      obtain ⟨y, z, hy, hz, rfl⟩ := yield?_mul hx
      have hl := ihl hn.1 hdl ha hml hql hy
      have hr := ihr hn.2 hdr hb hmr hqr hz
      have hscale := w.scale_combine hca hcb (hrootm rfl a b ha hb)
      calc y * z * w.scale (a.combine b) = y * w.scale a * (z * w.scale b) := by
            rw [hscale, mul_mul_mul_comm]
        _ = l.magnitude w (.exact w text) * r.magnitude w (.exact w text) := by rw [hl, hr]
    | div =>
      obtain rfl : a.divide b = u := Option.some.inj hjoint
      rw [evaluate_eq_alignedValue _ (.inr (.inr rfl)) (by simp [hn.1.isUnit_eq_false])] at hx
      obtain ⟨y, z, hy, hz, hx⟩ := yield?_alignedValue_exact hcb.derived ha hb hx
      obtain ⟨hne, rfl⟩ := quotient_of_jointValue hx
      have hl := ihl hn.1 hdl ha hml hql hy
      have hr := ihr hn.2 hdr hb hmr hqr hz
      calc y / (z * w.rate b a) * w.scale (a.divide b) = y * w.scale a / (z * w.scale b) :=
            div_mul_scale_divide w hca hcb (left_ne_zero_of_mul hne)
        _ = l.magnitude w (.exact w text) / r.magnitude w (.exact w text) := by rw [hl, hr]
    | _ => cases hn
  | _ => cases hn

theorem not_isPower_exact (f : Fault) : ¬ f.IsPower (.exact w text) := by
  rintro ⟨a, b, ha, hf⟩
  obtain ⟨g, hg⟩ := (exists_conversionFactor_error_iff (.exact w text) a b).mpr ⟨f, hf⟩
  rw [w.conversionFactor_exact text ha] at hg
  cases hg

end Exact

/-- Automatic conversion preserves quantities: where a line gives a number, its exact value times
the scale of its unit is the quantity that the line stands for. -/
theorem evaluate_mul_scale (w : Weights) (text : Nat → ℚ → String) {s : Store ℚ} (hs : s.Canonical)
    (limit : Int) (line : String) :
    let A := Arithmetic.exact w text
    let e := (ofLine s.reference A limit line).substitute s
    e.Valid → e.isNumber = true → e.Unmixed A .mul → e.Unmixed A .quantity →
      ∀ u ρ, (inferUnit A e).perform {} = (.ok u, ρ) → u.isUnknown = false →
        ∃ x ρ', (evaluate A e).perform ρ = (.ok x, ρ') ∧
          (ρ'.isSet = false → x * w.scale u = e.magnitude w A) := by
  intro A e hv hn hm hq u ρ hu hknown
  obtain ⟨v, pos, htokens, hphrase⟩ := isLine_of_valid A hv
  have hliteral : ∀ t ∈ v, t.IsLiteral := fun t ht =>
    Token.isLiteral_of_mem_tokenize A t (by rw [htokens]; simp [ht])
  obtain ⟨hnumeric, hcomputable⟩ := hphrase.numeric_of_statement hs hliteral hn
  have hunit : e.unit? A = some u :=
    unit?_eq_some_iff.mpr ⟨yield?_inferUnit_of_known hu hknown, hknown⟩
  obtain rfl := report_of_inferUnit hu hknown
  have hnever (f : Fault) : ¬ f.IsPower A := not_isPower_exact f
  obtain ⟨x, ρ', hx, _⟩ := (hnumeric.meets_evaluate _ hcomputable hunit).returns hnever {}
  refine ⟨x, ρ', hx, fun hclear => ?_⟩
  refine hnumeric.mul_scale hcomputable.derivable hunit hm hq (Stage.yield?_eq_some_iff.mpr ?_)
  rw [hx]
  rcases ρ' with ⟨_ | d⟩
  · rfl
  · cases hclear

/-- Weights in which a kilometer is a thousand meters. -/
def thousandMeters : Weights where
  weight b := if b = .kilometer then 1000 else 1
  pos b := by split <;> norm_num

theorem evaluate_mul_scale_of_difference :
    let A := Arithmetic.exact thousandMeters fun _ _ => ""
    let s : Store ℚ := .empty
    let e := (ofLine s.reference A 100 "1 km - 200 m").substitute s
    (e.Valid ∧ e.isNumber = true ∧ e.Unmixed A .mul ∧ e.Unmixed A .quantity) ∧
      (inferUnit A e).perform {} = (.ok (.ofBase .kilometer), {}) ∧
      ∃ x ρ, (evaluate A e).perform {} = (.ok x, ρ) ∧ ρ.isSet = false ∧
        x * thousandMeters.scale (.ofBase .kilometer) = 800 := by
  intro A s e
  have he : e = bin .sub (quantity 1 (.ofBase .kilometer)) (quantity 200 (.ofBase .meter)) := by
    decide +kernel
  have hm : e.Unmixed A .mul := by
    rw [he]
    simp [Unmixed, nodes, quantity]
  have hq : e.Unmixed A .quantity := by
    have hplain (x : ℚ) (b : BaseUnit) (hb : b.isMarker = false) :
        (quantity x (.ofBase b)).Unmixed A .quantity := by
      refine unmixed_bin_iff.mpr ⟨fun _ a c ha hc => ?_, by simp [Unmixed, nodes]⟩
      have hcb := canonical_ofBase hb
      rw [unit?_const] at ha
      rw [unit?_unit hcb.isUnknown_eq_false] at hc
      cases ha
      cases hc
      exact fun h => hcb.not_mixes_none h.symm
    rw [he]
    exact unmixed_bin_iff.mpr ⟨by simp, hplain 1 .kilometer rfl, hplain 200 .meter rfl⟩
  have hv : e.Valid := by rw [he]; rfl
  have hn : e.isNumber = true := by rw [he]; rfl
  have hu : (inferUnit A e).perform {} = (.ok (.ofBase .kilometer), {}) := by decide +kernel
  have hclear : ((evaluate A e).perform {}).2.isSet = false := by decide +kernel
  obtain ⟨x, ρ, hx, hscale⟩ := evaluate_mul_scale thousandMeters (fun _ _ => "")
    Store.canonical_empty 100 "1 km - 200 m" hv hn hm hq _ _ hu rfl
  rw [hx] at hclear
  refine ⟨⟨hv, hn, hm, hq⟩, hu, x, ρ, hx, hclear, (hscale hclear).trans ?_⟩
  decide +kernel

end Expr

end Quantities
