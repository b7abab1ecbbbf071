import Mathlib
import Quantities.Proofs.Number.Unity

namespace Quantities.Number

open Float.Model (Format UnpackedFloat totalExponent)
open Float.Model.UnpackedFloat

theorem mantissa_shiftRight (x : ExtendedMantissa) (k : Nat) :
    (x >>> k).mantissa = x.mantissa / 2 ^ k := by
  induction k with
  | zero =>
    rw [Nat.pow_zero, Nat.div_one]
    rfl
  | succ k ih =>
    have hstep : x >>> (k + 1) = (x >>> k).shiftRightOne := rfl
    rw [hstep, ExtendedMantissa.shiftRightOne, ih, Nat.div_div_eq_div_mul, Nat.pow_succ]

theorem le_roundedMantissa (x : ExtendedMantissa) : x.mantissa ≤ x.roundedMantissa := by
  obtain ⟨m, _ | _, _ | _⟩ := x
  · exact Nat.le_refl m
  · exact Nat.le_refl m
  · exact Nat.le_add_right m (m % 2)
  · exact Nat.le_succ m

theorem shiftToTargetExponent_bounds {m : Nat} {e : Int} (hm : 0 < m) (he : -1022 ≤ m.log2 + e) :
    0 < (shiftToTargetExponent Format.binary64 m e .exact).1.mantissa ∧
      e ≤ (shiftToTargetExponent Format.binary64 m e .exact).2 ∧
      m.log2 + e - 52 ≤ (shiftToTargetExponent Format.binary64 m e .exact).2 := by
  have htarget : Format.binary64.targetExponent (totalExponent m e) = m.log2 + e - 52 := by
    simp only [Format.targetExponent, totalExponent, Format.mantissaBits, Format.minExponent]
    omega
  have hshift : (m.log2 + e - 52 - e).toNat ≤ m.log2 := by omega
  have hpow : 2 ^ (m.log2 + e - 52 - e).toNat ≤ m :=
    Nat.le_trans (Nat.pow_le_pow_right (by decide) hshift) (Nat.log2_self_le (Nat.ne_of_gt hm))
  simp only [shiftToTargetExponent, shiftToExponent, htarget, mantissa_shiftRight]
  exact ⟨Nat.div_pos hpow (Nat.two_pow_pos _), by omega, by omega⟩

theorem exists_roundWithAccuracy (s : Sign) {m : Nat} {e : Int} (hm : 0 < m)
    (he : 1024 ≤ m.log2 + e) : ∃ m' e' h,
      roundWithAccuracy Format.binary64 s m e .exact = .finite s m' e' h ∧ 972 ≤ e' := by
  obtain ⟨hfirst, _, hlow⟩ := shiftToTargetExponent_bounds (e := e) hm (by omega)
  have hrounded := Nat.lt_of_lt_of_le hfirst (le_roundedMantissa _)
  obtain ⟨hsecond, hkept, _⟩ := shiftToTargetExponent_bounds hrounded
    (e := (shiftToTargetExponent Format.binary64 m e .exact).2) (by omega)
  refine ⟨_, _, hsecond, ?_, Int.le_trans (by omega) hkept⟩
  rw [roundWithAccuracy]
  simp only
  rw [dif_neg (Nat.ne_of_gt hsecond)]

theorem pack_of_exponent_ge (s : Sign) {m : Nat} {e : Int} (hm : 0 < m) (he : 972 ≤ e) :
    pack Format.binary64 (.finite s m e hm) = pack Format.binary64 (.infinity s) := by
  have hexponent : 2 ^ 11 ≤ (e + Format.binary64.exponentBias +
      Format.binary64.mantissaBitsWithoutImplicit).toNat + 1 := by
    show 2 ^ 11 ≤ (e + (1023 : Nat) + (52 : Nat)).toNat + 1
    omega
  simp only [pack]
  rw [if_pos hexponent]

theorem ofNat_of_log2_ge {n : Nat} (hn : 1024 ≤ n.log2) :
    Float.ofNat n = .ofModel (.pack (.infinity .positive)) := by
  have hpos : 0 < n := by
    refine Nat.pos_of_ne_zero ?_
    rintro rfl
    cases hn
  have hfast : ¬ (n < 2 ^ 53 ∧ 0 ≤ 22) := by
    rintro ⟨hlt, -⟩
    have hlog := (Nat.log2_lt (Nat.ne_of_gt hpos)).mpr hlt
    omega
  have hfilled : n <<< 53 * 10 ^ 0 = n * 2 ^ 53 := by
    rw [Nat.pow_zero, Nat.mul_one, Nat.shiftLeft_eq]
  have hbits : (n <<< 53 * 10 ^ 0).log2 = n.log2 + 53 := by rw [hfilled, log2_mul_pow hpos]
  have hfilledpos : 0 < n <<< 53 * 10 ^ 0 := by
    rw [hfilled]
    exact Nat.mul_pos hpos (Nat.two_pow_pos 53)
  obtain ⟨m, e, hm, hround, he⟩ := exists_roundWithAccuracy .positive (e := -53 + 0) hfilledpos
    (by omega)
  have hsmall : ¬ (0 : Int) < -((2 ^ 11 : Int) + n.log2) := by omega
  have hread : UnpackedFloat.ofScientific Format.binary64 n 0 = .finite .positive m e hm := by
    rw [UnpackedFloat.ofScientific, dif_neg (Nat.ne_of_gt hpos), if_neg (by decide),
      if_neg hsmall, if_pos (Int.le_refl 0)]
    exact hround
  show Float.ofScientific n false 0 = _
  rw [Float.ofScientific, dif_neg hfast]
  show Float.ofModel (.pack (UnpackedFloat.ofScientific Format.binary64 n 0)) = _
  rw [hread]
  simp only [Float.Model.pack, pack_of_exponent_ge .positive hm he]

/-- No whole number of more than 1024 bits is finite as a machine number. -/
theorem isInfinite_ofInt {n : Int} (hn : 1024 ≤ n.natAbs.log2) :
    (Parts.ofFloat (Float.ofInt n)).isInfinite = true := by
  cases n with
  | ofNat n =>
    show (Parts.ofFloat (Float.ofNat n)).isInfinite = true
    have hlog : 1024 ≤ n.log2 := hn
    rw [ofNat_of_log2_ge hlog]
    decide +kernel
  | negSucc n =>
    show (Parts.ofFloat (-Float.ofNat (n + 1))).isInfinite = true
    have hlog : 1024 ≤ (n + 1).log2 := hn
    rw [ofNat_of_log2_ge hlog]
    decide +kernel

end Quantities.Number
