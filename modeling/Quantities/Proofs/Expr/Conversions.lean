import Quantities.Proofs.Expr.Numeric

namespace Quantities

/-- What is gathered behind a stage, unless the stage ends in a fault. -/
def Stage.gather {α β : Type} (s : Stage α) (r : Report) (next : α → Report → List β) : List β :=
  match s.perform r with
  | (.ok a, r) => next a r
  | (.error _, _) => []

variable {ν : Type} (A : Arithmetic ν)

/-- The pairs of units between which evaluating an expression converts, from the first on and up to
one without a factor. -/
def Expr.conversions : Expr ν → Report → List (CompoundUnit × CompoundUnit)
  | neg e, r => e.conversions r
  | bin op x y, r =>
    match op with
    | .power | .unitProduct | .unitQuotient => []
    | .quantity => x.conversions r
    | .convert =>
      x.conversions r ++ (evaluate A x).gather r fun _ r =>
        (inferUnit A x).gather r fun a r => (inferUnit A y).gather r fun b _ => [(a, b)]
    | .mul => x.conversions r ++ (evaluate A x).gather r fun _ r => y.conversions r
    | op =>
      if op = .div && x.isUnit && y.isUnit then []
      else x.conversions r ++ (evaluate A x).gather r fun _ r =>
        y.conversions r ++ (evaluate A y).gather r fun _ r =>
          (inferUnit A y).gather r fun b r => (inferUnit A x).gather r fun a _ => [(b, a)]
  | _, _ => []

/-- The units that are derived for the operators of an expression, from the first on and up to one
that cannot be written. -/
def Expr.derivedUnits : Expr ν → Report → List CompoundUnit
  | neg e, r => e.derivedUnits r
  | bin op x y, r =>
    x.derivedUnits r ++ (inferUnit A x).gather r fun a r =>
      y.derivedUnits r ++ (inferUnit A y).gather r fun b r =>
        (operandUnit A op (evaluate A y) a b).gather r fun u _ => [u]
  | _, _ => []

namespace Stage

variable {α β γ : Type} {good : γ → Prop} {refuses : γ → Fault → Prop} {P : α → Prop}

/-- A stage that comes across these items, which are all of one sort, and that ends in a fault if
and only if one of them is refused. -/
structure Tries (s : Stage α) (good : γ → Prop) (refuses : γ → Fault → Prop)
    (items : Report → List γ) : Prop where
  sort : ∀ r, ∀ x ∈ items r, good x
  fails : ∀ r f r', s.perform r = (.error f, r') → ∃ x ∈ items r, refuses x f
  ends : ∀ r, ∀ x ∈ items r, ∀ f, refuses x f → ∃ f' r', s.perform r = (.error f', r')

theorem Returns.tries {s : Stage α} (h : s.Returns P) : s.Tries good refuses fun _ => [] := by
  constructor
  · simp
  · intro r f r' hf
    obtain ⟨a, r₁, ha, _⟩ := h r
    rw [ha] at hf
    cases hf
  · simp

theorem tries_liftExcept {x : Except Fault α} {y : γ} (hgood : good y)
    (hfails : ∀ f, x = .error f → refuses y f) (hends : ∀ f, refuses y f → ∃ f', x = .error f') :
    (liftM x : Stage α).Tries good refuses fun _ => [y] := by
  constructor
  · intro r z hz
    obtain rfl := List.mem_singleton.mp hz
    exact hgood
  · intro r f r' hf
    rw [perform_liftExcept, Prod.mk.injEq] at hf
    exact ⟨y, by simp, hfails f hf.1⟩
  · intro r z hz f hf
    obtain rfl := List.mem_singleton.mp hz
    obtain ⟨f', hf'⟩ := hends f hf
    exact ⟨f', r, by rw [perform_liftExcept, hf']⟩

theorem Tries.bind {s : Stage α} {next : α → Stage β} {c : Report → List γ}
    {d : α → Report → List γ} {F : Fault → Prop} (hs : s.Tries good refuses c) (hP : s.Meets F P)
    (hnext : ∀ a, P a → (next a).Tries good refuses (d a)) :
    (s >>= next).Tries good refuses fun r => c r ++ s.gather r d := by
  have result {r r' : Report} {a : α} (ha : s.perform r = (.ok a, r')) : P a := by
    have hr := hP r
    rwa [ha] at hr
  constructor
  · intro r x hx
    rcases List.mem_append.mp hx with hx | hx
    · exact hs.sort r x hx
    · unfold gather at hx
      split at hx
      next a r' ha => exact (hnext a (result ha)).sort r' x hx
      next => cases hx
  · intro r f r' hf
    rw [perform_bind] at hf
    split at hf
    next a r₁ ha =>
      obtain ⟨x, hx, hxf⟩ := (hnext a (result ha)).fails r₁ f r' hf
      exact ⟨x, by simp [gather, ha, hx], hxf⟩
    next e r₁ he =>
      cases hf
      obtain ⟨x, hx, hxf⟩ := hs.fails r f r' he
      exact ⟨x, by simp [hx], hxf⟩
  · intro r x hx f hxf
    rcases List.mem_append.mp hx with hx | hx
    · obtain ⟨f', r', hf'⟩ := hs.ends r x hx f hxf
      exact ⟨f', r', by rw [perform_bind, hf']⟩
    · unfold gather at hx
      split at hx
      next a r₁ ha =>
        obtain ⟨f', r', hf'⟩ := (hnext a (result ha)).ends r₁ x hx f hxf
        exact ⟨f', r', (perform_bind_of_ok ha).trans hf'⟩
      next => cases hx

theorem gather_nil (s : Stage α) (r : Report) : s.gather r (fun _ _ => ([] : List β)) = [] := by
  unfold gather
  split <;> rfl

theorem Tries.bind_returns {s : Stage α} {next : α → Stage β} {c : Report → List γ} {Q : β → Prop}
    (hs : s.Tries good refuses c) (hnext : ∀ a, (next a).Returns Q) :
    (s >>= next).Tries good refuses c := by
  have h := hs.bind s.meets_true fun a _ => (hnext a).tries
  simpa only [gather_nil, List.append_nil] using h

theorem Returns.bind_tries {s : Stage α} {next : α → Stage β} {d : α → Report → List γ}
    (hs : s.Returns P) (hnext : ∀ a, P a → (next a).Tries good refuses (d a)) :
    (s >>= next).Tries good refuses fun r => s.gather r d := by
  have h := hs.tries.bind (hs.meets (F := fun _ => True)) hnext
  simpa only [List.nil_append] using h

/-- A stage that makes these conversions, and that ends in a fault if and only if one of them has
no factor. -/
def Converts (s : Stage α) (c : Report → List (CompoundUnit × CompoundUnit)) : Prop :=
  s.Tries (·.1.Derived) (fun p f => p.1.FactorFails A p.2 f) c

/-- A stage that writes these units, and that ends in a fault if and only if one of them cannot be
written. -/
def Writes (s : Stage α) (c : Report → List CompoundUnit) : Prop :=
  s.Tries (fun _ => True) (fun u f => u.isWritable = false ∧ f = .precision) c

theorem converts_recordedFactor {a b : CompoundUnit} (ha : a.Derived) (hwa : a.isWritable = true)
    (hwb : b.isWritable = true) :
    (liftM (a.recordedFactor A b) : Stage ν).Converts A fun _ => [(a, b)] := by
  refine tries_liftExcept ha (fun f hf => ?_) fun f hf => ?_
  · rcases CompoundUnit.cause_of_recordedFactor A hf with hf | ⟨_, hw | hw⟩
    · exact CompoundUnit.factorFails_of_conversionFactor A hf
    · simp [hwa] at hw
    · simp [hwb] at hw
  · obtain ⟨f', hf'⟩ := (CompoundUnit.exists_conversionFactor_error_iff A a b).mpr ⟨f, hf⟩
    refine ⟨f', ?_⟩
    rw [CompoundUnit.recordedFactor, hf']
    rfl

theorem writes_written (u : CompoundUnit) :
    (liftM u.written : Stage CompoundUnit).Writes fun _ => [u] := by
  refine tries_liftExcept trivial (fun f hf => ?_) fun f hf => ?_
  · exact CompoundUnit.written_eq_error_iff.mp hf
  · exact ⟨f, CompoundUnit.written_eq_error_iff.mpr hf⟩

end Stage

namespace Expr

open CompoundUnit hiding none

theorem Numeric.converts_evaluate {e : Expr ν} {u : CompoundUnit} (hn : e.Numeric)
    (hc : e.Computable) (hu : e.unit? A = some u) :
    (evaluate A e).Converts A (e.conversions A) := by
  have hpure (x : ν) : (pure x : Stage ν).Returns fun _ => True := Stage.returns_pure trivial
  induction e generalizing u with
  | const x =>
    rw [evaluate]
    exact (hpure x).tries
  | neg e ih =>
    rw [unit?_neg] at hu
    rw [evaluate]
    exact (ih hn hc hu).bind_returns fun x => hpure (A.neg x)
  | bin op l r ihl ihr =>
    have hunits (hq : op ≠ .quantity) := hn.returns_units_of_operands hc hq hu
    obtain ⟨-, -, hcl, hcr⟩ := hc
    obtain ⟨a, b, ha, hb, -⟩ := unit?_bin_eq_some_iff.mp hu
    -- the two sides, the units of the right and the left one, and what becomes of the values
    have aligned (hop : op = .add ∨ op = .sub ∨ op = .div) (hl : l.Numeric) (hr : r.Numeric) :
        (alignedValue A op l r).Converts A fun ρ =>
          l.conversions A ρ ++ (evaluate A l).gather ρ fun _ ρ =>
            r.conversions A ρ ++ (evaluate A r).gather ρ fun _ ρ =>
              (inferUnit A r).gather ρ fun b ρ => (inferUnit A l).gather ρ fun a _ => [(b, a)] := by
      obtain ⟨hunitl, hunitr⟩ := hunits (by rcases hop with rfl | rfl | rfl <;> decide)
      refine (ihl hl hcl ha).bind (Stage.meets_true _) fun x _ => ?_
      refine (ihr hr hcr hb).bind (Stage.meets_true _) fun y _ => ?_
      refine hunitr.bind_tries fun w hw => hunitl.bind_tries fun v hv => ?_
      have hconverts := Stage.converts_recordedFactor A hw.1 hw.2 hv.2
      exact hconverts.bind_returns fun z => returns_jointValue hop x (A.mul y z)
    cases op with
    | quantity =>
      rw [evaluate_bin]
      exact ihl hn hcl ha
    | convert =>
      obtain ⟨hunitl, hunitr⟩ := hunits (by decide)
      rw [evaluate_bin]
      refine (ihl hn hcl ha).bind (Stage.meets_true _) fun x _ => ?_
      refine hunitl.bind_tries fun v hv => hunitr.bind_tries fun w hw => ?_
      have hconverts := Stage.converts_recordedFactor A hv.1 hv.2 hw.2
      exact hconverts.bind_returns fun z => hpure (A.mul x z)
    | mul =>
      rw [evaluate_bin]
      exact (ihl hn.1 hcl ha).bind (Stage.meets_true _) fun x _ =>
        (ihr hn.2 hcr hb).bind_returns fun y => hpure (A.mul x y)
    | add =>
      rw [evaluate_bin]
      exact aligned (.inl rfl) hn.1 hn.2
    | sub =>
      rw [evaluate_bin]
      exact aligned (.inr (.inl rfl)) hn.1 hn.2
    | div =>
      have hunit : (l.isUnit && r.isUnit) = false := by simp [hn.1.isUnit_eq_false]
      have hpairs : (bin .div l r).conversions A = (bin .sub l r).conversions A := by
        funext ρ
        simp [conversions, hunit]
      rw [evaluate_eq_alignedValue A (.inr (.inr rfl)) (fun _ => hunit), hpairs]
      exact aligned (.inr (.inr rfl)) hn.1 hn.2
    | _ => cases hn
  | _ => cases hn

/-- Once a number has a unit, nothing but the power of a factor can go wrong with its value. -/
theorem Numeric.meets_evaluate {e : Expr ν} {u : CompoundUnit} (hn : e.Numeric)
    (hc : e.Computable) (hu : e.unit? A = some u) :
    (evaluate A e).Meets (Fault.IsPower A) fun _ => True := by
  have hconverts := hn.converts_evaluate A hc hu
  intro ρ
  rcases hp : (evaluate A e).perform ρ with ⟨f | x, ρ'⟩
  · obtain ⟨p, hmem, hfails⟩ := hconverts.fails ρ f ρ' hp
    exact ⟨p.1, p.2, hconverts.sort ρ p hmem, hfails⟩
  · trivial

section Writes

variable {A} {e r : Expr ν} {a b : CompoundUnit} {op : Kind}

theorem returns_operandUnit_of_isWritable (hop : op.isBinary = true)
    (hpower : op = .power → r.IsDegree) (ha : a.Derived) (hb : b.Derived)
    (hwa : a.isWritable = true) (hwb : b.isWritable = true) :
    (operandUnit A op (evaluate A r) a b).Returns Derived := by
  have hnever : a.isWritable = false ∨ b.isWritable = false → False := by simp [hwa, hwb]
  have hmeets : (operandUnit A op (evaluate A r) a b).Meets (fun _ => False) fun u =>
      u.Derived ∧ (u.isUnknown = false → a.isUnknown = false ∧ b.isUnknown = false) :=
    meets_operandUnit A hnever hop ha hb fun hp _ => by
      obtain ⟨x, hx⟩ := (hpower hp).exists_evaluate_eq A
      rw [hx]
      exact (Stage.returns_pure trivial).meets
  exact (hmeets.mono fun u hu => hu.1).returns fun _ h => h

theorem meets_written {u : CompoundUnit} (hu : u.Derived) :
    (liftM u.written : Stage CompoundUnit).Meets (· = .precision) fun v =>
      v.Derived ∧ v.isWritable = true := by
  intro ρ
  rw [Stage.perform_liftExcept]
  cases h : u.written with
  | error f => exact (written_eq_error_iff.mp h).2
  | ok v =>
    obtain ⟨hw, rfl⟩ := written_eq_ok_iff.mp h
    exact ⟨hu, hw⟩

theorem Computable.meets_inferUnit (h : e.Computable) (hw : e.isWritable = true) :
    (inferUnit A e).Meets (· = .precision) fun u => u.Derived ∧ u.isWritable = true := by
  induction e with
  | const x =>
    rw [inferUnit]
    exact (Stage.returns_pure ⟨canonical_none.derived, rfl⟩).meets
  | unit u =>
    rw [inferUnit]
    exact (Stage.returns_pure ⟨Canonical.derived h, hw⟩).meets
  | neg e ih =>
    rw [inferUnit]
    exact ih h hw
  | bin op l r ihl ihr =>
    obtain ⟨hop, hpower, hl, hr⟩ := h
    obtain ⟨hwl, hwr⟩ := Bool.and_eq_true_iff.mp hw
    rw [inferUnit_bin]
    refine (ihl hl hwl).bind fun a ha => (ihr hr hwr).bind fun b hb => ?_
    have hunit := returns_operandUnit_of_isWritable (A := A) hop hpower ha.1 hb.1 ha.2 hb.2
    exact hunit.meets.bind fun u hu => meets_written hu
  | _ => cases h

theorem Computable.writes_inferUnit (h : e.Computable) (hw : e.isWritable = true) :
    (inferUnit A e).Writes (e.derivedUnits A) := by
  have known (u : CompoundUnit) : (pure u : Stage CompoundUnit).Writes fun _ => [] :=
    (Stage.returns_pure (P := fun _ => True) trivial).tries
  induction e with
  | const x =>
    rw [inferUnit]
    exact known _
  | unit u =>
    rw [inferUnit]
    exact known u
  | neg e ih =>
    rw [inferUnit]
    exact ih h hw
  | bin op l r ihl ihr =>
    obtain ⟨hop, hpower, hl, hr⟩ := h
    obtain ⟨hwl, hwr⟩ := Bool.and_eq_true_iff.mp hw
    rw [inferUnit_bin]
    refine (ihl hl hwl).bind (hl.meets_inferUnit hwl) fun a ha => ?_
    refine (ihr hr hwr).bind (hr.meets_inferUnit hwr) fun b hb => ?_
    have hunit := returns_operandUnit_of_isWritable (A := A) hop hpower ha.1 hb.1 ha.2 hb.2
    exact hunit.bind_tries fun u _ => Stage.writes_written u
  | _ => cases h

end Writes

end Expr

end Quantities
