import Mathlib
import Quantities.Number.Machine

namespace Quantities.Number

open Float.Model (Format UnpackedFloat totalExponent)
open Float.Model.UnpackedFloat

theorem shiftRight_mul_pow (m k : Nat) :
    (⟨m * 2 ^ k, false, false⟩ : ExtendedMantissa) >>> k = ⟨m, false, false⟩ := by
  induction k generalizing m with
  | zero => simp; rfl
  | succ k ih =>
    have hshift : (⟨m * 2 ^ (k + 1), false, false⟩ : ExtendedMantissa) >>> (k + 1) =
        ((⟨m * 2 * 2 ^ k, false, false⟩ : ExtendedMantissa) >>> k).shiftRightOne := by
      rw [Nat.pow_succ, Nat.mul_assoc, Nat.mul_comm 2]
      rfl
    rw [hshift, ih]
    simp [ExtendedMantissa.shiftRightOne]

theorem log2_mul_pow {m : Nat} (hm : 0 < m) (k : Nat) : (m * 2 ^ k).log2 = m.log2 + k := by
  have hne : m * 2 ^ k ≠ 0 := Nat.ne_of_gt (Nat.mul_pos hm (Nat.two_pow_pos k))
  have hlow := Nat.mul_le_mul_right (2 ^ k) (Nat.log2_self_le (Nat.ne_of_gt hm))
  have hhigh := Nat.mul_lt_mul_of_pos_right (@Nat.lt_log2_self m) (Nat.two_pow_pos k)
  rw [← Nat.pow_add] at hlow hhigh
  exact (Nat.log2_eq_iff hne).mpr ⟨hlow, by rwa [Nat.add_right_comm]⟩

/-- A significand and an exponent that a finite number can have: 53 bits, or fewer together with the
least exponent. -/
structure Held (m : Nat) (e : Int) : Prop where
  pos : 0 < m
  high : m < 2 ^ 53
  exponent_ge : -1074 ≤ e
  full : 2 ^ 52 ≤ m ∨ e = -1074

namespace Held

variable {m : Nat} {e : Int} (h : Held m e) (s : Sign)

include h in
theorem targetExponent_mul_pow (k : Nat) :
    Format.binary64.targetExponent (totalExponent (m * 2 ^ k) (e - k)) = e := by
  have hlog : m.log2 < 53 := (Nat.log2_lt (Nat.ne_of_gt h.pos)).mpr h.high
  have hge := h.exponent_ge
  rw [totalExponent, log2_mul_pow h.pos]
  simp only [Format.targetExponent, Format.mantissaBits, Format.minExponent]
  rcases h.full with hfull | he
  · have : 52 ≤ m.log2 := (Nat.le_log2 (Nat.ne_of_gt h.pos)).mpr hfull
    omega
  · omega

/-- A significand that can be held is not rounded where zeros stand behind it. -/
theorem roundWithAccuracy_mul_pow (k : Nat) :
    roundWithAccuracy Format.binary64 s (m * 2 ^ k) (e - k) .exact = .finite s m e h.pos := by
  have hpos := h.pos
  have hshift (k : Nat) : shiftToTargetExponent Format.binary64 (m * 2 ^ k) (e - k) .exact =
      (⟨m, false, false⟩, e) := by
    have hamount : (e - (e - k)).toNat = k := by omega
    simp only [shiftToTargetExponent, shiftToExponent, h.targetExponent_mul_pow, hamount,
      ExtendedMantissa.ofMantissaAndAccuracy, shiftRight_mul_pow]
    simp
  have hsame := hshift 0
  simp only [Nat.pow_zero, Nat.mul_one, Int.natCast_zero, Int.sub_zero] at hsame
  have hrounded : (⟨m, false, false⟩ : ExtendedMantissa).roundedMantissa = m := rfl
  rw [roundWithAccuracy, hshift]
  simp only [hrounded, hsame]
  rw [dif_neg (by omega)]

end Held

theorem held_of_unpack {b : BitVec Format.binary64.numBits} {s : Sign} {m : Nat} {e : Int}
    {hm : 0 < m} (h : unpack Format.binary64 b = .finite s m e hm) : Held m e := by
  unfold unpack at h
  simp only at h
  have hfraction : (unpackMantissa b).toNat < 2 ^ 52 := (unpackMantissa b).isLt
  split at h
  next => split at h <;> cases h
  next =>
    split at h
    next hzero =>
      split at h
      next => cases h
      next =>
        cases h
        rw [hzero]
        exact ⟨hm, by omega, by decide, .inr rfl⟩
    next hzero =>
      cases h
      have happend : (1#1 ++ unpackMantissa b).toNat = 2 ^ 52 + (unpackMantissa b).toNat := by
        rw [BitVec.toNat_append, ← Nat.shiftLeft_add_eq_or_of_lt (unpackMantissa b).isLt,
          Nat.shiftLeft_eq]
        rfl
      have hne : (unpackExponent b).toNat ≠ 0 := fun h => hzero (BitVec.eq_of_toNat_eq h)
      rw [happend]
      refine ⟨by omega, by omega, ?_, .inl (by omega)⟩
      show -1074 ≤ ((unpackExponent b).toNat : Int) - ((1023 : Nat) + (52 : Nat))
      omega

theorem mul_unpacked_one (b : BitVec Format.binary64.numBits) :
    UnpackedFloat.mul Format.binary64 (unpack Format.binary64 b)
      (.finite .positive (2 ^ 52) (-52) (by decide)) = unpack Format.binary64 b := by
  have hsign (s : Sign) : s * Sign.positive = s := by cases s <;> rfl
  cases h : unpack Format.binary64 b with
  | notANumber => rfl
  | infinity s | zero s => simp only [UnpackedFloat.mul, hsign]
  | finite s m e hm =>
    have hround := (held_of_unpack h).roundWithAccuracy_mul_pow (s * .positive) 52
    rw [hsign] at hround
    exact (congrArg (roundWithAccuracy _ · _ _ _) (hsign s)).trans hround

theorem one_eq_ofBits : (1 : Float) = .ofBits 0x3ff0000000000000 := by
  decide +kernel

theorem mul_one (x : Float) : x * 1 = x := by
  have hone : (1 : Float).toModel.unpack = .finite .positive (2 ^ 52) (-52) (by decide) := rfl
  obtain ⟨⟨⟨b⟩, hb⟩⟩ := x
  have hsame := mul_unpacked_one b
  have hpack := pack_unpack_of_valid hb
  show Float.ofModel (.pack (UnpackedFloat.mul Format.binary64 (unpack Format.binary64 b)
    (1 : Float).toModel.unpack)) = _
  rw [hone, hsame]
  simp only [Float.Model.pack, hpack]

end Quantities.Number
