import Quantities.Proofs.Expr.Computable
import Quantities.Proofs.Expr.Operands
import Quantities.Proofs.Unit.Writable

namespace Quantities.Expr

open CompoundUnit

variable {ν : Type} (A : Arithmetic ν)

theorem IsPlain.exists_evaluate_eq {e : Expr ν} (h : e.IsPlain) : ∃ x, evaluate A e = pure x := by
  unfold IsPlain at h
  split at h
  · exact ⟨_, by rw [evaluate]⟩
  · exact ⟨_, by rw [evaluate, evaluate]⟩
  · exact h.elim

/-- A degree of a line needs no computation, so that not even the power of a factor can fail. -/
theorem IsDegree.exists_evaluate_eq {e : Expr ν} (h : e.IsDegree) : ∃ x, evaluate A e = pure x := by
  cases e with
  | neg e =>
    obtain ⟨x, hx⟩ := IsPlain.exists_evaluate_eq A h
    exact ⟨A.neg x, by rw [evaluate, hx, pure_bind]⟩
  | _ => exact IsPlain.exists_evaluate_eq A h

section Meets

variable {F : Fault → Prop}

theorem meets_rejectUnit {d : Diagnostic} (hF : d.isWritable = false → F .precision) :
    (rejectUnit d).Meets F (· = unknown) := by
  cases h : d.isWritable with
  | true =>
    have hreturns : (Stage.report d >>= fun _ => pure unknown).Returns (· = unknown) :=
      (Stage.returns_report d).bind fun _ _ => Stage.returns_pure rfl
    rw [rejectUnit_of_isWritable h]
    exact hreturns.meets
  | false =>
    rw [rejectUnit_of_not_isWritable h]
    exact Stage.meets_throw (hF h)

theorem meets_powerUnit {a : CompoundUnit} (ha : a.Canonical) (degree : ν) :
    (powerUnit A a degree).Meets F Derived := by
  refine Stage.returns_failed.meets.bind fun failed _ => ?_
  split
  · exact (Stage.returns_pure derived_unknown).meets
  · split
    · exact (Stage.returns_pure (canonical_raise ha _).derived).meets
    · refine (meets_rejectUnit (by simp [Diagnostic.isWritable])).mono ?_
      rintro u rfl
      exact derived_unknown

variable {a b : CompoundUnit} (ha : a.Canonical) (hb : b.Canonical)
  (hF : a.isWritable = false ∨ b.isWritable = false → F .precision)

include hF

theorem meets_rejectUnits {d : Diagnostic} (hd : d.isWritable = (a.isWritable && b.isWritable)) :
    (rejectUnit d).Meets F Derived := by
  refine (meets_rejectUnit fun h => hF ?_).mono ?_
  · rw [hd] at h
    exact Bool.and_eq_false_iff.mp h
  · rintro u rfl
    exact derived_unknown

include ha hb

theorem meets_rejectMismatch {d : Diagnostic} {m : Mismatch}
    (hm : a.mismatch? b = some m ∨ b.mismatch? a = some m)
    (hd : d.isWritable = (a.isWritable && b.isWritable)) :
    (rejectMismatch m d).Meets F Derived := by
  cases h : m.isWritable with
  | true =>
    rw [rejectMismatch_of_isWritable h]
    exact meets_rejectUnits hF hd
  | false =>
    rw [rejectMismatch_of_not_isWritable h]
    refine Stage.meets_throw (hF (Classical.or_iff_not_imp_left.mpr fun hwa => ?_))
    refine Bool.eq_false_iff.mpr fun hwb => ?_
    have hwords : m.isWritable = true := by
      rw [Bool.not_eq_false] at hwa
      rcases hm with hm | hm
      · exact ha.isWritable_of_mismatch? hb hwa hwb hm
      · exact hb.isWritable_of_mismatch? ha hwb hwa hm
    rw [hwords] at h
    cases h

theorem meets_jointUnit {op : Kind} (hop : op.isBinary = true) (hpower : op ≠ .power) :
    (jointUnit op a b).Meets F Derived := by
  have known {u : CompoundUnit} (hu : u.Derived) :
      (pure u : Stage CompoundUnit).Meets F Derived := (Stage.returns_pure hu).meets
  have hproduct := known (canonical_combine ha hb).derived
  have hquotient := known (canonical_divide ha hb).derived
  cases op with
  | add | sub =>
    simp only [jointUnit]
    split
    next m hm => exact meets_rejectMismatch ha hb hF (.inr hm) rfl
    next => exact known ha.derived
  | convert =>
    simp only [jointUnit]
    split
    next m hm => exact meets_rejectMismatch ha hb hF (.inl hm) rfl
    next => exact known hb.derived
  | unitProduct =>
    simp only [jointUnit]
    split
    · exact meets_rejectUnits hF rfl
    · exact known (derived_adjoin ha hb)
  | mul | quantity => exact hproduct
  | div | unitQuotient => exact hquotient
  | power => exact absurd rfl hpower
  | _ => cases hop

omit ha hb

theorem meets_operandUnit {op : Kind} {degree : Stage ν} (hop : op.isBinary = true)
    (ha : a.Derived) (hb : b.Derived)
    (hdegree : op = .power → a.isUnknown = false ∧ b.isUnknown = false →
      degree.Meets F fun _ => True) :
    (operandUnit A op degree a b).Meets F fun u =>
      u.Derived ∧ (u.isUnknown = false → a.isUnknown = false ∧ b.isUnknown = false) := by
  unfold operandUnit
  by_cases hu : (a.isUnknown || b.isUnknown) = true
  · rw [if_pos hu]
    exact (Stage.returns_pure ⟨derived_unknown, by simp⟩).meets
  rw [if_neg hu]
  rw [Bool.or_eq_true, not_or, Bool.not_eq_true, Bool.not_eq_true] at hu
  have hca := ha.canonical hu.1
  have hcb := hb.canonical hu.2
  have known {s : Stage CompoundUnit} (h : s.Meets F Derived) : s.Meets F fun u =>
      u.Derived ∧ (u.isUnknown = false → a.isUnknown = false ∧ b.isUnknown = false) :=
    h.mono fun u hderived => ⟨hderived, fun _ => hu⟩
  by_cases hp : op = .power
  · rw [if_pos hp]
    split
    · exact (hdegree hp hu).bind fun d _ => known (meets_powerUnit A hca d)
    · exact known (meets_rejectUnits hF rfl)
  · rw [if_neg hp]
    exact known (meets_jointUnit hca hcb hF hop hp)

end Meets

end Quantities.Expr
