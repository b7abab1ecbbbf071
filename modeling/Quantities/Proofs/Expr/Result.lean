import Quantities.Store.Assign
import Quantities.Proofs.Expr.Conversions

namespace Quantities.Expr

variable {ν : Type} (A : Arithmetic ν)

theorem result?_perform (e : Expr ν) (r : Report) : (e.result? A).perform r =
    match (inferUnit A e).perform r with
    | (.error f, r) => (.error f, r)
    | (.ok u, r) =>
      if u.isUnknown then (.ok none, r)
      else if !e.isNumber then (.ok (some (.unit u)), r)
      else match (evaluate A e).perform r with
        | (.error f, r) => (.error f, r)
        | (.ok x, r) => if r.isSet then (.ok none, r) else (.ok (some (.number x u)), r) := by
  unfold result?
  rw [Stage.perform_bind]
  rcases (inferUnit A e).perform r with ⟨f | u, r₁⟩
  · rfl
  · simp only
    cases u.isUnknown with
    | true => rfl
    | false =>
      cases e.isNumber with
      | false => rfl
      | true =>
        simp only [Bool.false_eq_true, if_false, Bool.not_true, Stage.perform_bind]
        rcases (evaluate A e).perform r₁ with ⟨f | x, r₂⟩
        · rfl
        · simp only [Stage.perform_failed]
          cases r₂.isSet <;> rfl

/-- The pairs of units between which computing the result of an expression converts. -/
def resultConversions (e : Expr ν) (r : Report) : List (CompoundUnit × CompoundUnit) :=
  (inferUnit A e).gather r fun u r =>
    if u.isUnknown || !e.isNumber then [] else e.conversions A r

/-- An expression that can be computed, calculating with numbers only if it is one, or a variable
that was never assigned. -/
def Answerable (e : Expr ν) : Prop :=
  e.Computable ∧ (e.isNumber = true → e.Numeric) ∨ ∃ name, e = var name

theorem returns_inferUnit_var (name : String) :
    (inferUnit A (var name)).Returns (· = CompoundUnit.unknown) := by
  rw [inferUnit]
  exact (meets_rejectUnit (F := fun _ => False) (by simp [Diagnostic.isWritable])).returns
    fun _ hf => hf

section Answerable

variable {A} {e : Expr ν} {u : CompoundUnit} {b : Binding ν} {r ρ : Report} {f : Fault}

theorem exists_unit_of_result? (hb : (e.result? A).perform r = (.ok (some b), ρ)) :
    ∃ u ρ', (inferUnit A e).perform r = (.ok u, ρ') ∧ u.isUnknown = false ∧
      (b = .unit u ∨ ∃ x, b = .number x u) := by
  rw [result?_perform] at hb
  rcases hu : (inferUnit A e).perform r with ⟨g | u, ρ₁⟩
  · rw [hu] at hb
    cases hb
  rw [hu] at hb
  simp only at hb
  split at hb
  · cases hb
  next hknown =>
    refine ⟨u, ρ₁, rfl, Bool.eq_false_iff.mpr hknown, ?_⟩
    split at hb
    · cases hb
      exact .inl rfl
    · split at hb
      · cases hb
      · split at hb
        · cases hb
        · cases hb
          exact .inr ⟨_, rfl⟩

namespace Answerable

theorem derivable (h : e.Answerable) : e.Derivable := by
  rcases h with ⟨h, -⟩ | ⟨name, rfl⟩
  · exact h.derivable
  · trivial

theorem derived (h : e.Answerable) (hu : (inferUnit A e).perform r = (.ok u, ρ)) : u.Derived := by
  have hmeets := (h.derivable.meets (A := A)).1 r
  rw [hu] at hmeets
  exact hmeets.derived

theorem meets_inferUnit (h : e.Answerable) (hw : e.isWritable = true) :
    (inferUnit A e).Meets (· = .precision) fun u => u.isWritable = true := by
  rcases h with ⟨h, -⟩ | ⟨name, rfl⟩
  · exact (h.meets_inferUnit hw).mono fun u hu => hu.2
  · refine (returns_inferUnit_var A name).meets.mono ?_
    rintro u rfl
    rfl

theorem writes_inferUnit (h : e.Answerable) (hw : e.isWritable = true) :
    (inferUnit A e).Writes (e.derivedUnits A) := by
  rcases h with ⟨h, -⟩ | ⟨name, rfl⟩
  · exact h.writes_inferUnit hw
  · exact (returns_inferUnit_var A name).tries

theorem converts_evaluate (h : e.Answerable) (hn : e.isNumber = true)
    (hu : (inferUnit A e).perform r = (.ok u, ρ)) (hknown : u.isUnknown = false) :
    (evaluate A e).Converts A (e.conversions A) := by
  rcases h with ⟨h, hnumeric⟩ | ⟨name, rfl⟩
  · have hunit := unit?_eq_some_iff.mpr ⟨yield?_inferUnit_of_known hu hknown, hknown⟩
    exact (hnumeric hn).converts_evaluate A h hunit
  · cases hn

/-- A computation that fails writes a unit that cannot be written, or makes a conversion that has no
factor. -/
theorem cause_of_result? (h : e.Answerable) (hw : e.isWritable = true)
    (hf : (e.result? A).perform r = (.error f, ρ)) :
    (f = .precision ∧ ∃ u ∈ e.derivedUnits A r, u.isWritable = false) ∨
      ∃ p ∈ e.resultConversions A r, p.1.Derived ∧ p.1.FactorFails A p.2 f := by
  rw [result?_perform] at hf
  rcases hu : (inferUnit A e).perform r with ⟨g | u, ρ₁⟩
  · rw [hu] at hf
    cases hf
    obtain ⟨u, hmem, hlong, hfault⟩ := (h.writes_inferUnit hw).fails r f _ hu
    exact .inl ⟨hfault, u, hmem, hlong⟩
  rw [hu] at hf
  simp only at hf
  split at hf
  · cases hf
  next hknown =>
    split at hf
    · cases hf
    next hn =>
      rw [Bool.not_eq_true] at hknown
      rw [Bool.not_eq_true', Bool.not_eq_false] at hn
      have hconverts := h.converts_evaluate hn hu hknown
      rcases hx : (evaluate A e).perform ρ₁ with ⟨g | x, ρ₂⟩
      · rw [hx] at hf
        cases hf
        obtain ⟨p, hp, hpf⟩ := hconverts.fails ρ₁ f _ hx
        refine .inr ⟨p, ?_, hconverts.sort ρ₁ p hp, hpf⟩
        simpa [resultConversions, Stage.gather, hu, hknown, hn] using hp
      · rw [hx] at hf
        simp only at hf
        split at hf <;> cases hf

theorem exists_result?_error (h : e.Answerable) (hw : e.isWritable = true)
    (hcause : (∃ u ∈ e.derivedUnits A r, u.isWritable = false) ∨
      ∃ p ∈ e.resultConversions A r, p.1.FactorFails A p.2 f) :
    ∃ g ρ, (e.result? A).perform r = (.error g, ρ) := by
  rw [result?_perform]
  rcases hcause with ⟨u, hu, hlong⟩ | ⟨p, hp, hpf⟩
  · obtain ⟨g, ρ, hg⟩ := (h.writes_inferUnit hw).ends r u hu .precision ⟨hlong, rfl⟩
    exact ⟨g, ρ, by rw [hg]⟩
  · unfold resultConversions Stage.gather at hp
    split at hp
    next u ρ₁ hu =>
      simp only at hp
      split at hp
      · cases hp
      next hkind =>
        obtain ⟨hknown, hn⟩ : u.isUnknown = false ∧ e.isNumber = true := by simpa using hkind
        obtain ⟨g, ρ, hg⟩ := (h.converts_evaluate hn hu hknown).ends ρ₁ p hp f hpf
        exact ⟨g, ρ, by simp only [hu, hknown, hn, hg]; rfl⟩
    next => cases hp

theorem canonical_of_result? (h : e.Answerable)
    (hb : (e.result? A).perform r = (.ok (some b), ρ)) : b.Canonical := by
  obtain ⟨u, ρ', hu, hknown, rfl | ⟨x, rfl⟩⟩ := exists_unit_of_result? hb
  · exact (h.derived hu).canonical hknown
  · exact (h.derived hu).canonical hknown

theorem isWritable_of_result? (h : e.Answerable) (hw : e.isWritable = true)
    (hb : (e.result? A).perform r = (.ok (some b), ρ)) : b.expr.isWritable = true := by
  obtain ⟨u, ρ', hu, -, hunit⟩ := exists_unit_of_result? hb
  have hmeets := h.meets_inferUnit (A := A) hw r
  rw [hu] at hmeets
  rcases hunit with rfl | ⟨x, rfl⟩
  · exact hmeets
  · exact hmeets

end Answerable

end Answerable

end Quantities.Expr
