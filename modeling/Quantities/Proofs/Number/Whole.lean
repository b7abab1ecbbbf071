import Mathlib
import Quantities.Proofs.Number.Unity

namespace Quantities.Number

open Float.Model (Format UnpackedFloat totalExponent)
open Float.Model.UnpackedFloat

/-- A significand of 53 bits, and an exponent with which it is a finite number. -/
structure Full (m : Nat) (e : Int) : Prop where
  low : 2 ^ 52 ≤ m
  high : m < 2 ^ 53
  exponent_ge : -1074 ≤ e
  exponent_le : e ≤ 971

namespace Full

variable {m : Nat} {e : Int} (h : Full m e)

include h in
theorem pos : 0 < m := Nat.lt_of_lt_of_le (Nat.two_pow_pos 52) h.low

include h in
theorem held : Held m e := ⟨h.pos, h.high, h.exponent_ge, .inl h.low⟩

include h in
theorem log2_eq : m.log2 = 52 := (Nat.log2_eq_iff (Nat.ne_of_gt h.pos)).mpr ⟨h.low, h.high⟩

variable (s : Sign)

theorem pack_finite : pack Format.binary64 (.finite s m e h.pos) =
    packComponents Format.binary64 s (BitVec.ofNat 11 (e + 1075).toNat) (BitVec.ofNat 52 m) := by
  have hlow := h.exponent_ge
  have hhigh := h.exponent_le
  have hlog := h.log2_eq
  have hexponent : (e + Format.binary64.exponentBias +
      Format.binary64.mantissaBitsWithoutImplicit).toNat = (e + 1075).toNat := by
    show (e + (1023 : Nat) + (52 : Nat)).toNat = (e + 1075).toNat
    omega
  have hrange : ¬ 2 ^ 11 ≤ (e + 1075).toNat + 1 := by omega
  have hbits : 52 + 1 = Format.binary64.mantissaBits := rfl
  simp only [pack, hexponent, hlog]
  rw [if_neg hrange, if_pos hbits]

theorem unpack_pack_finite :
    unpack Format.binary64 (pack Format.binary64 (.finite s m e h.pos)) = .finite s m e h.pos := by
  obtain ⟨hlow, hhigh, hge, hle⟩ := h
  have hexponent : (BitVec.ofNat 11 (e + 1075).toNat).toNat = (e + 1075).toNat := by
    rw [BitVec.toNat_ofNat]
    omega
  have hother {x : BitVec 11} (hx : x.toNat ≠ (e + 1075).toNat) :
      BitVec.ofNat 11 (e + 1075).toNat ≠ x := by
    rintro rfl
    exact hx hexponent
  have hones : BitVec.ofNat 11 (e + 1075).toNat ≠ -1#11 := hother (by show 2047 ≠ _; omega)
  have hzeros : BitVec.ofNat 11 (e + 1075).toNat ≠ 0#11 := hother (by show 0 ≠ _; omega)
  have hmantissa : (1#1 ++ BitVec.ofNat 52 m).toNat = m := by
    rw [BitVec.toNat_append, ← Nat.shiftLeft_add_eq_or_of_lt (BitVec.ofNat 52 m).isLt,
      BitVec.toNat_ofNat, Nat.shiftLeft_eq]
    show 1 * 2 ^ 52 + m % 2 ^ 52 = m
    omega
  have hback : ((e + 1075).toNat : Int) -
      (Format.binary64.exponentBias + Format.binary64.mantissaBitsWithoutImplicit) = e := by
    show ((e + 1075).toNat : Int) - ((1023 : Nat) + (52 : Nat)) = e
    omega
  rw [pack_finite ⟨hlow, hhigh, hge, hle⟩, unpack]
  simp only [unpackMantissa_packComponents, unpackExponent_packComponents,
    unpackSign_packComponents, Sign.ofBitVec_toBitVec]
  rw [if_neg hones, if_neg hzeros]
  simp only [hmantissa, hexponent, hback]

def number : Float := .ofModel (.pack (.finite s m e h.pos))

theorem toNat_toBits_number : (h.number s).toBits.toNat =
    (s.toBitVec.toNat * 2 ^ 11 + (e + 1075).toNat) * 2 ^ 52 + (m - 2 ^ 52) := by
  show (pack Format.binary64 (.finite s m e h.pos)).toNat = _
  rw [h.pack_finite]
  obtain ⟨hlow, hhigh, hge, hle⟩ := h
  show (s.toBitVec ++ BitVec.ofNat 11 (e + 1075).toNat ++ BitVec.ofNat 52 m).toNat = _
  have hexponent : (e + 1075).toNat % 2 ^ 11 = (e + 1075).toNat := Nat.mod_eq_of_lt (by omega)
  have hmantissa : m % 2 ^ 52 = m - 2 ^ 52 := by omega
  rw [BitVec.toNat_append, ← Nat.shiftLeft_add_eq_or_of_lt (BitVec.ofNat 52 m).isLt,
    BitVec.toNat_append, ← Nat.shiftLeft_add_eq_or_of_lt (BitVec.ofNat 11 _).isLt,
    BitVec.toNat_ofNat, BitVec.toNat_ofNat, hexponent, hmantissa, Nat.shiftLeft_eq,
    Nat.shiftLeft_eq]

theorem ofFloat_number :
    Parts.ofFloat (h.number s) = .finite (decide (s.toBitVec = 1#1)) m e := by
  have hbits := h.toNat_toBits_number s
  generalize h.number s = x at hbits ⊢
  obtain ⟨hlow, hhigh, hge, hle⟩ := h
  have hb : s.toBitVec.toNat < 2 := s.toBitVec.isLt
  have hexponent : x.toBits.toNat / 2 ^ 52 % 2 ^ 11 = (e + 1075).toNat := by omega
  have hfraction : x.toBits.toNat % 2 ^ 52 = m - 2 ^ 52 := by omega
  have hnegative : 2 ^ 63 ≤ x.toBits.toNat ↔ s.toBitVec = 1#1 := by
    rw [BitVec.toNat_eq, show (1#1 : BitVec 1).toNat = 1 from rfl]
    omega
  have hback : 2 ^ 52 + (m - 2 ^ 52) = m := by omega
  have hshifted : ((e + 1075).toNat : Int) - 1075 = e := by omega
  simp only [Parts.ofFloat, Nat.pow_eq, hexponent, hfraction, hnegative, hback, hshifted]
  rw [if_neg (by omega), if_neg (by omega)]

theorem neg_number : -h.number s = h.number (-s) := by
  show Float.ofModel (.pack (unpack Format.binary64
    (pack Format.binary64 (.finite s m e h.pos))).neg) = _
  rw [h.unpack_pack_finite]
  rfl

end Full

theorem whole?_finite (negative : Bool) (n k : Nat) :
    (Parts.finite negative (n * 2 ^ k) (-k)).whole? =
      some (if negative then -(n : Int) else n) := by
  have hscale : (-(-(k : Int))).toNat = k := by omega
  have hone : (-(k : Int)).toNat = 0 := by omega
  simp only [Parts.whole?, hscale, hone, Nat.pow_eq, Nat.mul_mod_left, Nat.pow_zero, Nat.mul_one,
    Nat.mul_div_cancel n (Nat.two_pow_pos k), if_true]

/-- The zeros that fill up the significand of a whole number. -/
def padding (n : Nat) : Nat := 52 - n.log2

section Whole

variable {n : Nat} (hn : 0 < n) (hlt : n < 2 ^ 53)

include hn hlt in
theorem full_padded : Full (n * 2 ^ padding n) (-padding n) := by
  have hlog : n.log2 < 53 := (Nat.log2_lt (by omega)).mpr hlt
  have hfull : n.log2 + padding n = 52 := by
    unfold padding
    omega
  have hlow := Nat.mul_le_mul_right (2 ^ padding n) (Nat.log2_self_le (by omega : n ≠ 0))
  have hhigh := Nat.mul_lt_mul_of_pos_right (@Nat.lt_log2_self n) (Nat.two_pow_pos (padding n))
  rw [← Nat.pow_add, hfull] at hlow
  rw [← Nat.pow_add, Nat.add_right_comm, hfull] at hhigh
  exact ⟨hlow, hhigh, by omega, by omega⟩

include hn hlt in
theorem toFloat_toUInt64 (h : Full (n * 2 ^ padding n) (-padding n)) :
    n.toUInt64.toFloat = h.number .positive := by
  have hlog : n.log2 < 53 := (Nat.log2_lt (by omega)).mpr hlt
  have htarget : Format.binary64.targetExponent (totalExponent n 0) = -padding n := by
    simp only [Format.targetExponent, totalExponent, Format.mantissaBits, Format.minExponent,
      padding]
    omega
  have hshift : ((0 : Int) - -padding n).toNat = padding n := by omega
  have hexponent : (0 : Int) - padding n = -padding n - (0 : Nat) := by omega
  have hpositive : compare (n : Int) 0 = .gt := Int.compare_eq_gt.mpr (by omega)
  have hnat : n.toUInt64.toNat = n := UInt64.toNat_ofNat_of_lt (by show n < 2 ^ 64; omega)
  have hround : UnpackedFloat.round Format.binary64 .positive n 0 =
      .finite .positive (n * 2 ^ padding n) (-padding n) h.pos := by
    have hexact := h.held.roundWithAccuracy_mul_pow .positive 0
    rw [Nat.pow_zero, Nat.mul_one, ← hexponent] at hexact
    simp only [UnpackedFloat.round, htarget, decreaseExponent, hshift, Nat.shiftLeft_eq, hexact]
  show Float.ofModel (.pack (UnpackedFloat.ofUInt64 Format.binary64 n.toUInt64)) = _
  simp only [UnpackedFloat.ofUInt64, UnpackedFloat.ofNat, UnpackedFloat.ofInt,
    UnpackedFloat.normalize, hnat, hpositive, Int.toNat_natCast, hround]
  rfl

include hn hlt in
theorem ofScientific_whole (h : Full (n * 2 ^ padding n) (-padding n)) :
    Float.ofScientific n false 0 = h.number .positive := by
  rw [Float.ofScientific, dif_pos ⟨hlt, Nat.zero_le _⟩]
  show n.toUInt64.toFloat * Float.ofBits 0x3ff0000000000000 = _
  rw [toFloat_toUInt64 hn hlt h, ← one_eq_ofBits, mul_one]

end Whole

/-- A whole number counts exactly, and so does its negation, as far as a significand goes. -/
theorem exists_ofDecimal?_whole {n : Nat} (hn : 0 < n) (hle : n ≤ 2 ^ 53) :
    ∃ x, ofDecimal? { digits := n } = some x ∧ (Parts.ofFloat x).whole? = some (n : Int) ∧
      (Parts.ofFloat (-x)).whole? = some (-n : Int) := by
  rcases Nat.lt_or_eq_of_le hle with hlt | rfl
  · have h := full_padded hn hlt
    have hlength : decimalLength n ≤ 16 :=
      (Nat.length_toDigits_le_iff (by decide) (by decide)).mpr
        (Nat.lt_of_lt_of_le hlt (by decide))
    refine ⟨h.number .positive, ?_, ?_, ?_⟩
    · simp only [ofDecimal?]
      rw [if_neg (by omega), if_neg (by omega), if_pos (Nat.le_refl 0),
        ofScientific_whole hn hlt h, h.ofFloat_number]
      rfl
    · rw [h.ofFloat_number]
      exact whole?_finite _ n (padding n)
    · rw [h.neg_number, h.ofFloat_number]
      exact whole?_finite _ n (padding n)
  · exact ⟨.ofBits 0x4340000000000000, by decide +kernel, by decide +kernel, by decide +kernel⟩

end Quantities.Number
