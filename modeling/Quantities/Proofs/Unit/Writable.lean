import Quantities.Proofs.Unit.Degree

namespace Quantities

theorem Term.isWritable_of_lt_pow {t : Term} {k : Nat} (hk : k ≤ maxDegreeDigits)
    (h : t.degree.natAbs < Nat.pow 10 k) : t.isWritable = true := by
  have hpow {n : Nat} (hn : k ≤ n) : Nat.pow 10 k ≤ Nat.pow 10 n :=
    Nat.pow_le_pow_right (by decide) hn
  rw [isWritable, decide_eq_true_iff]
  exact Nat.lt_of_lt_of_le h (hpow hk)

namespace CompoundUnit

variable {a b u : CompoundUnit} {m : Mismatch}

theorem isUnknown_eq_false_of_isWritable (h : u.isWritable = false) : u.isUnknown = false := by
  cases hu : u.isUnknown with
  | true =>
    rw [isWritable, hu, Bool.or_true, Bool.true_or] at h
    cases h
  | false => rfl

theorem Canonical.isWritable_iff (h : u.Canonical) :
    u.isWritable = true ↔ ∀ t ∈ u.terms, t.isWritable = true := by
  rcases h with rfl | h
  · have hzero : Term.isWritable ⟨.none, 0⟩ = true :=
      Term.isWritable_of_lt_pow (Nat.zero_le _) (by decide)
    simp [none, hzero, isWritable, isNone]
  · simp [isWritable, h.isNone_eq_false, h.isUnknown_eq_false]

theorem Canonical.isWritable_iff_degree (h : u.Canonical) :
    u.isWritable = true ↔ ∀ c, (u.degree c).natAbs < Nat.pow 10 maxDegreeDigits := by
  have hterm (t : Term) : t.isWritable = true ↔ t.degree.natAbs < Nat.pow 10 maxDegreeDigits :=
    decide_eq_true_iff
  rw [h.isWritable_iff]
  constructor
  · intro hterms c
    cases hc : u.find? c with
    | none =>
      rw [degree, hc, Nat.pow_eq]
      exact Nat.pow_pos (by decide)
    | some t =>
      rw [degree, hc]
      exact (hterm t).mp (hterms t (mem_of_find? hc).1)
  · intro hdegree t ht
    have ht' := hdegree t.category
    rw [degree, find?_of_mem h.distinct ht] at ht'
    exact (hterm t).mpr ht'

/-- Two units that can be written do not match for a reason that can be. -/
theorem Canonical.isWritable_of_mismatch? (ha : a.Canonical) (hb : b.Canonical)
    (hwa : a.isWritable = true) (hwb : b.isWritable = true) (h : a.mismatch? b = some m) :
    m.isWritable = true := by
  rw [ha.isWritable_iff] at hwa
  rw [hb.isWritable_iff] at hwb
  unfold mismatch? at h
  split at h
  · cases h
    rfl
  split at h
  · cases h
    rfl
  obtain ⟨t, ht, hm⟩ := List.exists_of_findSome?_eq_some h
  unfold termMismatch? at hm
  split at hm
  · cases hm
    rw [Mismatch.isWritable, hwa t ht]
  next o ho =>
    split at hm
    · cases hm
      rw [Mismatch.isWritable, hwa t ht, hwb o (List.mem_of_find?_eq_some ho), Bool.and_self]
    · cases hm

end CompoundUnit

end Quantities
