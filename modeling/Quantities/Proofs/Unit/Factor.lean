import Quantities.CompoundUnit.Conversion
import Quantities.Number.Machine
import Quantities.Proofs.Unit.Canonical

namespace Quantities

theorem BaseUnit.ne_none_of_isMarker {b : BaseUnit} (h : b.isMarker = false) : b ≠ .none := by
  rintro rfl
  cases h

namespace CompoundUnit

variable {ν : Type} (A : Arithmetic ν)

/-- Whether the factor of some term, raised to its degree, fails. -/
def FactorFails (a b : CompoundUnit) (f : Fault) : Prop :=
  ∃ t ∈ a.terms, ∃ o, b.find? t.category = some o ∧
    A.power (A.tableFactor t.base o.base) t.degree = .error f

theorem exists_of_foldlM_error {α β : Type} {g : β → α → Except Fault β} {f : Fault} {as : List α}
    {x : β} (h : as.foldlM g x = .error f) : ∃ a ∈ as, ∃ y, g y a = .error f := by
  induction as generalizing x with
  | nil => cases h
  | cons a as ih =>
    rw [List.foldlM_cons] at h
    cases hx : g x a with
    | error e =>
      rw [hx] at h
      exact ⟨a, by simp, x, hx.trans h⟩
    | ok y =>
      rw [hx] at h
      obtain ⟨c, hc, hy⟩ := ih h
      exact ⟨c, by simp [hc], hy⟩

theorem foldlM_error_of_mem {α β : Type} {g : β → α → Except Fault β} {as : List α} {a : α}
    (ha : a ∈ as) (hg : ∀ x, ∃ f, g x a = .error f) (x : β) :
    ∃ f, as.foldlM g x = .error f := by
  induction as generalizing x with
  | nil => cases ha
  | cons c as ih =>
    rw [List.foldlM_cons]
    cases hx : g x c with
    | error f => exact ⟨f, rfl⟩
    | ok y =>
      rcases List.mem_cons.mp ha with rfl | ha
      · obtain ⟨f, hf⟩ := hg x
        rw [hx] at hf
        cases hf
      · exact ih ha y

theorem factorFails_of_conversionFactor {a b : CompoundUnit} {f : Fault}
    (h : a.conversionFactor A b = .error f) : a.FactorFails A b f := by
  obtain ⟨t, ht, x, hx⟩ := exists_of_foldlM_error h
  refine ⟨t, ht, ?_⟩
  cases ho : b.find? t.category with
  | none =>
    rw [ho] at hx
    cases hx
  | some o =>
    rw [ho] at hx
    refine ⟨o, rfl, ?_⟩
    cases hp : A.power (A.tableFactor t.base o.base) t.degree with
    | error e =>
      simp only [hp] at hx
      exact hx
    | ok y =>
      simp only [hp] at hx
      cases hx

theorem cause_of_recordedFactor {a b : CompoundUnit} {f : Fault}
    (h : a.recordedFactor A b = .error f) : a.conversionFactor A b = .error f ∨
      f = .precision ∧ (a.isWritable = false ∨ b.isWritable = false) := by
  unfold recordedFactor written at h
  cases hx : a.conversionFactor A b with
  | error g =>
    rw [hx] at h
    exact .inl h
  | ok x =>
    cases ha : a.isWritable <;> cases hb : b.isWritable <;>
      simp [hx, ha, hb, bind, Except.bind, pure, Except.pure, throw, throwThe,
        MonadExceptOf.throw] at h <;>
      simp [← h]

theorem exists_conversionFactor_error_iff (a b : CompoundUnit) :
    (∃ f, a.conversionFactor A b = .error f) ↔ ∃ f, a.FactorFails A b f := by
  constructor
  · rintro ⟨f, h⟩
    exact ⟨f, factorFails_of_conversionFactor A h⟩
  · rintro ⟨f, t, ht, o, ho, hp⟩
    refine foldlM_error_of_mem ht (fun x => ⟨f, ?_⟩) A.one
    rw [ho]
    simp only [hp]
    rfl

end CompoundUnit

namespace Number

theorem factor_ne_zero {a b : BaseUnit} (h : a.category = b.category) (ha : a.isMarker = false) :
    (factor a b == 0) = false := by
  revert h ha
  cases a <;> cases b <;> decide +kernel

theorem eq_overflow_of_power {x : Float} {n : Int} {f : Fault} (h : power x n = .error f)
    (hx : (x == 0) = false ∨ 0 ≤ n) : f = .overflow := by
  unfold power at h
  simp only at h
  split at h
  · cases h; rfl
  split at h
  · cases h
  split at h
  next hz =>
    rcases hx with hx | hn
    · simp [hx] at hz
    · simp only [Bool.and_eq_true, decide_eq_true_eq] at hz
      omega
  split at h
  · cases h; rfl
  · cases h

end Number

namespace CompoundUnit

theorem Proper.tableFactor_eq {ν : Type} (A : Arithmetic ν) {a b : CompoundUnit} (ha : a.Proper)
    {t o : Term} (ht : t ∈ a.terms) (ho : b.find? t.category = some o) :
    t.base.category = o.base.category ∧
      A.tableFactor t.base o.base = A.factor t.base o.base := by
  have hmarker := ha.isMarker t ht
  have hcategory : t.base.category = o.base.category := by
    simpa [Term.category, eq_comm] using List.find?_some ho
  have hother : o.base.isMarker = false :=
    (BaseUnit.isMarker_eq_of_category_eq hcategory).symm.trans hmarker
  refine ⟨hcategory, ?_⟩
  simp [Arithmetic.tableFactor, BaseUnit.ne_none_of_isMarker hmarker,
    BaseUnit.ne_none_of_isMarker hother, hcategory, hmarker]

theorem factorFails_eq_overflow {a b : CompoundUnit} {f : Fault} (ha : a.Derived)
    (h : a.FactorFails Arithmetic.machine b f) : f = .overflow := by
  obtain ⟨t, ht, o, ho, hp⟩ := h
  refine Number.eq_overflow_of_power hp ?_
  rcases ha with (rfl | ha) | rfl
  · obtain rfl : t = ⟨.none, 0⟩ := by simpa [none] using ht
    exact .inr (Int.le_refl _)
  · obtain ⟨hcategory, hfactor⟩ := ha.tableFactor_eq Arithmetic.machine ht ho
    rw [hfactor]
    exact .inl (Number.factor_ne_zero hcategory (ha.isMarker t ht))
  · obtain rfl : t = ⟨.unknown, 0⟩ := by simpa [unknown] using ht
    exact .inr (Int.le_refl _)

end CompoundUnit

end Quantities
