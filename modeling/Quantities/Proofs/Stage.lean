import Quantities.Stage

namespace Quantities.Stage

variable {α β : Type}

@[simp] theorem perform_pure (a : α) (r : Report) : (pure a : Stage α).perform r = (.ok a, r) := rfl

@[simp] theorem perform_throw (f : Fault) (r : Report) :
    (throw f : Stage α).perform r = (.error f, r) := rfl

@[simp] theorem perform_report (d : Diagnostic) (r : Report) :
    (report d).perform r = (.ok ⟨⟩, r.add d) := rfl

@[simp] theorem perform_failed (r : Report) : failed.perform r = (.ok r.isSet, r) := rfl

@[simp] theorem perform_liftExcept (x : Except Fault α) (r : Report) :
    (liftM x : Stage α).perform r = (x, r) := by
  cases x <;> rfl

theorem perform_bind (s : Stage α) (f : α → Stage β) (r : Report) :
    (s >>= f).perform r = match s.perform r with
      | (.ok a, r') => (f a).perform r'
      | (.error e, r') => (.error e, r') := by
  show (ExceptT.run (s >>= f)).run r = _
  rw [ExceptT.run_bind, StateT.run_bind]
  rcases h : s.perform r with ⟨a | a, r'⟩ <;> simp_all [perform] <;> rfl

theorem perform_bind_of_ok {s : Stage α} {f : α → Stage β} {r r' : Report} {a : α}
    (h : s.perform r = (.ok a, r')) : (s >>= f).perform r = (f a).perform r' := by
  rw [perform_bind, h]

theorem perform_bind_eq_ok_iff {s : Stage α} {f : α → Stage β} {r ρ : Report} {b : β} :
    (s >>= f).perform r = (.ok b, ρ) ↔
      ∃ a r', s.perform r = (.ok a, r') ∧ (f a).perform r' = (.ok b, ρ) := by
  rw [perform_bind]
  constructor
  · intro h
    rcases hs : s.perform r with ⟨e | a, r'⟩
    · simp [hs] at h
    · rw [hs] at h
      exact ⟨a, r', rfl, h⟩
  · rintro ⟨a, r', hs, hf⟩
    rw [hs]
    exact hf

/-- A stage that never ends in a fault and gives results of one sort only. -/
def Returns (s : Stage α) (P : α → Prop) : Prop :=
  ∀ r, ∃ a r', s.perform r = (.ok a, r') ∧ P a

theorem returns_pure {P : α → Prop} {a : α} (h : P a) : (pure a : Stage α).Returns P :=
  fun r => ⟨a, r, rfl, h⟩

theorem Returns.mono {s : Stage α} {P Q : α → Prop} (hs : s.Returns P) (h : ∀ a, P a → Q a) :
    s.Returns Q := by
  intro r
  obtain ⟨a, r', hr, ha⟩ := hs r
  exact ⟨a, r', hr, h a ha⟩

theorem Returns.bind {s : Stage α} {f : α → Stage β} {P : α → Prop} {Q : β → Prop}
    (hs : s.Returns P) (hf : ∀ a, P a → (f a).Returns Q) : (s >>= f).Returns Q := by
  intro r
  obtain ⟨a, r₁, hr, ha⟩ := hs r
  obtain ⟨b, r₂, hr', hb⟩ := hf a ha r₁
  exact ⟨b, r₂, (perform_bind_of_ok hr).trans hr', hb⟩

theorem returns_report (d : Diagnostic) : (report d).Returns fun _ => True :=
  fun r => ⟨⟨⟩, r.add d, rfl, trivial⟩

theorem returns_failed : failed.Returns fun _ => True := fun r => ⟨r.isSet, r, rfl, trivial⟩

/-- A stage all of whose faults and results are of some sorts. -/
def Meets (s : Stage α) (F : Fault → Prop) (P : α → Prop) : Prop :=
  ∀ r, match s.perform r with
    | (.error f, _) => F f
    | (.ok a, _) => P a

variable {F : Fault → Prop}

theorem Returns.meets {s : Stage α} {P : α → Prop} (h : s.Returns P) : s.Meets F P := by
  intro r
  obtain ⟨a, r', ha, hP⟩ := h r
  rw [ha]
  exact hP

theorem meets_true (s : Stage α) : s.Meets (fun _ => True) fun _ => True := by
  intro r
  rcases s.perform r with ⟨_ | _, _⟩ <;> trivial

theorem meets_throw {P : α → Prop} {f : Fault} (h : F f) : (throw f : Stage α).Meets F P :=
  fun _ => h

theorem Meets.bind {s : Stage α} {f : α → Stage β} {P : α → Prop} {Q : β → Prop}
    (hs : s.Meets F P) (hf : ∀ a, P a → (f a).Meets F Q) : (s >>= f).Meets F Q := by
  intro r
  have hr := hs r
  rw [perform_bind]
  rcases h : s.perform r with ⟨e | a, r'⟩
  · simpa [h] using hr
  · rw [h] at hr
    exact hf a hr r'

theorem Meets.mono {s : Stage α} {P Q : α → Prop} (hs : s.Meets F P) (h : ∀ a, P a → Q a) :
    s.Meets F Q := by
  intro r
  have hr := hs r
  rcases hp : s.perform r with ⟨e | a, r'⟩
  · simpa [hp] using hr
  · rw [hp] at hr
    exact h a hr

/-- What is true of all results of a stage is true of those that it gives. -/
theorem Meets.of_perform {s : Stage α} {P : α → Prop} (hs : s.Meets F P) :
    s.Meets F fun a => P a ∧ ∃ r r', s.perform r = (.ok a, r') := by
  intro r
  have hr := hs r
  rcases hp : s.perform r with ⟨e | a, r'⟩
  · simpa [hp] using hr
  · rw [hp] at hr
    exact ⟨hr, r, r', hp⟩

theorem Meets.returns {s : Stage α} {P : α → Prop} (hs : s.Meets F P) (hF : ∀ f, ¬ F f) :
    s.Returns P := by
  intro r
  have hr := hs r
  rcases h : s.perform r with ⟨e | a, r'⟩
  · rw [h] at hr
    exact absurd hr (hF e)
  · rw [h] at hr
    exact ⟨a, r', rfl, hr⟩

/-- A stage that adds nothing to a report but a diagnostic of some sort. -/
def Adds (s : Stage α) (D : Diagnostic → Prop) : Prop :=
  ∀ r, (s.perform r).2 = r ∨ ∃ d, D d ∧ (s.perform r).2 = r.add d

section Adds

variable {D : Diagnostic → Prop}

theorem adds_pure (a : α) : (pure a : Stage α).Adds D := fun _ => .inl rfl

theorem adds_throw (f : Fault) : (throw f : Stage α).Adds D := fun _ => .inl rfl

theorem adds_failed : failed.Adds D := fun _ => .inl rfl

theorem adds_report {d : Diagnostic} (h : D d) : (report d).Adds D := fun _ => .inr ⟨d, h, rfl⟩

theorem adds_liftExcept (x : Except Fault α) : (liftM x : Stage α).Adds D :=
  fun r => .inl (by rw [perform_liftExcept])

theorem Adds.bind {s : Stage α} {f : α → Stage β} (hs : s.Adds D) (hf : ∀ a, (f a).Adds D) :
    (s >>= f).Adds D := by
  intro r
  have hr := hs r
  rw [perform_bind]
  rcases h : s.perform r with ⟨e | a, ρ⟩
  · rwa [h] at hr
  · rw [h] at hr
    rcases hr with rfl | ⟨d, hd, rfl⟩
    · exact hf a _
    · refine .inr ⟨d, hd, ?_⟩
      rcases hf a (r.add d) with hkept | ⟨c, -, hadded⟩
      · exact hkept
      · rw [hadded, Report.add_of_isSet (r.isSet_add d)]

theorem Adds.of_first {s : Stage α} (h : s.Adds D) {d : Diagnostic}
    (hd : (s.perform {}).2.first = some d) : D d := by
  rcases h {} with hr | ⟨c, hc, hr⟩ <;> rw [hr] at hd <;> cases hd
  exact hc

end Adds

/-- A stage that leaves a report as it is once it is set. -/
def Steady (s : Stage α) : Prop := ∀ r, r.isSet = true → (s.perform r).2 = r

theorem Adds.steady {s : Stage α} {D : Diagnostic → Prop} (h : s.Adds D) : s.Steady := by
  intro r hr
  rcases h r with hkept | ⟨d, -, hadded⟩
  · exact hkept
  · rw [hadded, Report.add_of_isSet hr]

theorem steady_pure (a : α) : (pure a : Stage α).Steady := fun _ _ => rfl

theorem steady_liftExcept (x : Except Fault α) : (liftM x : Stage α).Steady :=
  fun r _ => by rw [perform_liftExcept]

theorem Steady.bind {s : Stage α} {f : α → Stage β} (hs : s.Steady) (hf : ∀ a, (f a).Steady) :
    (s >>= f).Steady := by
  intro r hr
  have hkept := hs r hr
  rw [perform_bind]
  rcases h : s.perform r with ⟨e | a, ρ⟩
  · rwa [h] at hkept
  · obtain rfl : ρ = r := by rwa [h] at hkept
    exact hf a ρ hr

/-- What a stage gives if nothing was reported before and it reports nothing either. -/
def yield? (s : Stage α) : Option α :=
  match s.perform {} with
  | (.ok a, r) => if r.isSet then none else some a
  | (.error _, _) => none

theorem yield?_eq_some_iff {s : Stage α} {a : α} :
    s.yield? = some a ↔ s.perform {} = (.ok a, {}) := by
  unfold yield?
  rcases s.perform {} with ⟨e | b, ⟨_ | d⟩⟩ <;> simp [Report.isSet]

@[simp] theorem yield?_pure (a : α) : (pure a : Stage α).yield? = some a := rfl

theorem yield?_liftExcept_eq_some_iff {x : Except Fault α} {a : α} :
    (liftM x : Stage α).yield? = some a ↔ x = .ok a := by
  rw [yield?_eq_some_iff, perform_liftExcept]
  simp

/-- Two stages yield together if both do, for a report of the first would stay. -/
theorem yield?_bind {s : Stage α} {f : α → Stage β} (hf : ∀ a, (f a).Steady) :
    (s >>= f).yield? = s.yield?.bind fun a => (f a).yield? := by
  unfold yield?
  rw [perform_bind]
  rcases s.perform {} with ⟨e | a, ⟨_ | d⟩⟩
  · rfl
  · rfl
  · rfl
  · have hkept := hf a ⟨some d⟩ rfl
    rcases h : (f a).perform ⟨some d⟩ with ⟨e | b, r⟩
    · simp [h, Report.isSet]
    · rw [h] at hkept
      obtain rfl : r = ⟨some d⟩ := hkept
      simp [h, Report.isSet]

end Quantities.Stage
