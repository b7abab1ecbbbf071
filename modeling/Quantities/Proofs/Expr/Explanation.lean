import Quantities.Proofs.Expr.Result
import Quantities.Proofs.Validity

namespace Quantities

theorem Kind.isNumber_or_isUnit_of_admits {op l r : Kind} (h : op.admits l r = true) :
    (l.isNumber = true ∨ l.isUnit = true) ∧ (r.isNumber = true ∨ r.isUnit = true) := by
  cases op <;> simp only [admits, Bool.and_eq_true, Bool.or_eq_true] at h
  case quantity => exact ⟨.inl (isNumber_of_leadsUnit h.1), .inr h.2⟩
  case unitProduct | unitQuotient => exact ⟨.inr h.1, .inr h.2⟩
  case add | sub | mul => exact ⟨.inl h.1, .inl h.2⟩
  case div =>
    rcases h with h | h
    · exact ⟨.inl h.1, .inl h.2⟩
    · exact ⟨.inr h.1, .inr h.2⟩
  case convert => exact ⟨.inl h.1, .inr h.2⟩
  case power => exact ⟨.inr h.1, .inl h.2⟩
  all_goals cases h

theorem Kind.isNumber_or_isUnit_of_isBinary {op : Kind} (h : op.isBinary = true) :
    op.isNumber = true ∨ op.isUnit = true := by
  cases op <;> first | exact .inl rfl | exact .inr rfl | cases h

namespace Expr

variable {ν : Type} {e l r : Expr ν} {d : Diagnostic}

section Objections

variable {A : Arithmetic ν} {ws : List String}

theorem arises_of_undefined? (hw : e.words ⊆ ws) (h : e.undefined? = some d) :
    Diagnostic.Arises A ws d := by
  cases e <;> cases h
  exact ⟨rfl, .inl hw⟩

theorem arises_getD {o : Option Diagnostic} (ho : ∀ c, o = some c → Diagnostic.Arises A ws c)
    (hd : Diagnostic.Arises A ws d) : Diagnostic.Arises A ws (o.getD d) := by
  cases o with
  | none => exact hd
  | some c => exact ho c rfl

theorem arises_of_operandObjection? {op : Kind} (hl : l.words ⊆ ws) (hr : r.words ⊆ ws)
    (h : operandObjection? op l r = some d) : Diagnostic.Arises A ws d := by
  unfold operandObjection? at h
  split at h
  · cases h
  · cases h
    refine arises_getD (fun c hc => ?_) ⟨rfl, .inl (List.nil_subset _)⟩
    rcases Option.or_eq_some_iff.mp hc with hc | hc
    · exact arises_of_undefined? hl hc
    · exact arises_of_undefined? hr hc.2

theorem arises_of_assignedObjection? {t v : Expr ν} (ht : t.words ⊆ ws) (hv : v.words ⊆ ws)
    (h : assignedObjection? t v = some d) : Diagnostic.Arises A ws d := by
  unfold assignedObjection? at h
  split at h
  · split at h
    · cases h
    · cases h
      exact arises_getD (fun c hc => arises_of_undefined? hv hc) ⟨rfl, .inl ht⟩
  · cases h
    exact ⟨rfl, .inl (List.nil_subset _)⟩

theorem objection_of_first {x y : Except Fault (Option Diagnostic)}
    (h : (do
      if let some d ← x then return some d
      y) = .ok (some d)) : x = .ok (some d) ∨ y = .ok (some d) := by
  rcases x with f | ⟨_ | c⟩
  · cases h
  · exact .inr h
  · cases h
    exact .inl rfl

theorem arises_of_objection? (hw : e.words ⊆ ws) (h : e.objection? = .ok (some d)) :
    Diagnostic.Arises A ws d := by
  induction e with
  | neg e ih =>
    have he : e.words ⊆ ws := hw
    rw [objection?] at h
    rcases objection_of_first h with h | h
    · exact ih he h
    · split at h
      · cases h
      · cases h
        exact arises_getD (fun c hc => arises_of_undefined? he hc) ⟨rfl, .inl (List.nil_subset _)⟩
  | assign t v _ ih =>
    obtain ⟨ht, hv⟩ := List.append_subset.mp hw
    rw [objection?] at h
    rcases objection_of_first h with h | h
    · exact ih hv h
    · exact arises_of_assignedObjection? ht hv (Except.ok.inj h)
  | bin op l r ihl ihr =>
    obtain ⟨hl, hr⟩ := List.append_subset.mp hw
    rw [objection?] at h
    split at h
    · cases h
    · split at h
      · cases h
      · rcases objection_of_first h with h | h
        · exact ihl hl h
        · rcases objection_of_first h with h | h
          · exact ihr hr h
          · exact arises_of_operandObjection? hl hr (Except.ok.inj h)
  | invalid reason =>
    cases h
    refine ⟨rfl, .inl ?_⟩
    cases hr : reason.filter SyntaxError.saysSomething with
    | none => exact List.nil_subset _
    | some x =>
      obtain ⟨rfl, -⟩ := Option.filter_eq_some_iff.mp hr
      exact hw
  | _ => cases h

end Objections

/-- A joined expression that passes the check is derived part by part, if it is not a command or an
assignment and its units are canonical. -/
theorem Valid.derivable {e : Expr ν} (h : e.Valid) (hj : e.Joined)
    (hc : ∀ u, unit u ∈ e.nodes → u.Canonical)
    (hk : e.kind = .var ∨ e.kind.isNumber = true ∨ e.kind.isUnit = true) : e.Derivable := by
  induction e with
  | const | var => trivial
  | unit u => exact hc u (by simp [nodes])
  | neg e ih =>
    obtain ⟨hv, hk⟩ := valid_neg_iff.mp h
    refine ih hv hj (fun u hu => hc u (by simp [nodes, hu])) (.inr (.inl hk))
  | bin op l r ihl ihr =>
    obtain ⟨hop, hjl, hjr⟩ := hj
    obtain ⟨hvl, hvr, hadmits⟩ := (valid_bin_iff hop).mp h
    obtain ⟨hkl, hkr⟩ := Kind.isNumber_or_isUnit_of_admits hadmits
    exact ⟨hop, ihl hvl hjl (fun u hu => hc u (by simp [nodes, hu])) (.inr hkl),
      ihr hvr hjr (fun u hu => hc u (by simp [nodes, hu])) (.inr hkr)⟩
  | _ => rcases hk with hk | hk | hk <;> cases hk

theorem Valid.exists_derivable (A : Arithmetic ν) (h : e.Valid) (hj : e.Joined)
    (hc : ∀ u, unit u ∈ e.nodes → u.Canonical) (hempty : e ≠ empty) (hquit : e ≠ quit)
    (hhelp : e ≠ help) : ∃ v : Expr ν, v.Derivable ∧ inferUnit A e = inferUnit A v ∧
      v.nodes ⊆ e.nodes := by
  have itself (hd : e.Derivable) : ∃ v : Expr ν, v.Derivable ∧ inferUnit A e = inferUnit A v ∧
      v.nodes ⊆ e.nodes := ⟨e, hd, rfl, List.Subset.refl _⟩
  cases e with
  | const | neg => exact itself (h.derivable hj hc (.inr (.inl rfl)))
  | unit u => exact itself (h.derivable hj hc (.inr (.inr rfl)))
  | var name => exact itself (h.derivable hj hc (.inl rfl))
  | bin op l r =>
    exact itself (h.derivable hj hc (.inr (Kind.isNumber_or_isUnit_of_isBinary hj.1)))
  | assign t v =>
    obtain ⟨hv, -, hk⟩ := valid_assign_iff.mp h
    have hd := hv.derivable hj.2 (fun u hu => hc u (by simp [nodes, hu]))
      (.inr (Bool.or_eq_true_iff.mp hk))
    exact ⟨v, hd, by rw [inferUnit], fun n hn => by simp [nodes, hn]⟩
  | empty => exact absurd rfl hempty
  | quit => exact absurd rfl hquit
  | help => exact absurd rfl hhelp
  | invalid reason => exact absurd h (not_valid_invalid reason)

section Unknown

open CompoundUnit hiding none

variable {A : Arithmetic ν} {u a b : CompoundUnit} {r ρ : Report} {op : Kind}

theorem isSet_of_rejectUnit {d : Diagnostic} (h : (rejectUnit d).perform r = (.ok u, ρ)) :
    ρ.isSet = true := by
  obtain ⟨-, -, rfl⟩ := perform_rejectUnit_eq_ok_iff.mp h
  exact r.isSet_add d

theorem isSet_of_rejectMismatch {d : Diagnostic} {m : Mismatch}
    (h : (rejectMismatch m d).perform r = (.ok u, ρ)) : ρ.isSet = true :=
  isSet_of_rejectUnit (perform_rejectMismatch_eq_ok_iff.mp h).2

theorem isSet_of_jointUnit (ha : a.Canonical) (hb : b.Canonical)
    (h : (jointUnit op a b).perform r = (.ok u, ρ)) (hu : u.isUnknown = true) :
    ρ.isSet = true := by
  have known {v : CompoundUnit} (hv : v.Canonical)
      (h : (pure v : Stage CompoundUnit).perform r = (.ok u, ρ)) : ρ.isSet = true := by
    cases h
    rw [hv.isUnknown_eq_false] at hu
    cases hu
  cases op with
  | add | sub | convert =>
    simp only [jointUnit] at h
    split at h
    all_goals first | exact isSet_of_rejectMismatch h | exact known ha h | exact known hb h
  | unitProduct =>
    simp only [jointUnit] at h
    split at h
    · exact isSet_of_rejectUnit h
    next hknown =>
      cases h
      exact absurd hu hknown
  | mul | quantity => exact known (canonical_combine ha hb) h
  | div | unitQuotient => exact known (canonical_divide ha hb) h
  | _ => cases h

theorem isSet_of_powerUnit {degree : ν} (ha : a.Canonical)
    (h : (powerUnit A a degree).perform r = (.ok u, ρ)) (hu : u.isUnknown = true) :
    ρ.isSet = true := by
  obtain ⟨failed, r', hfailed, h⟩ := Stage.perform_bind_eq_ok_iff.mp h
  cases hfailed
  split at h
  next hset =>
    cases h
    exact hset
  next =>
    split at h
    next n hn =>
      cases h
      rw [(canonical_raise ha n).isUnknown_eq_false] at hu
      cases hu
    next => exact isSet_of_rejectUnit h

theorem isSet_of_operandUnit {degree : Stage ν} (ha : a.Derived) (hb : b.Derived)
    (hset : (a.isUnknown || b.isUnknown) = true → r.isSet = true)
    (h : (operandUnit A op degree a b).perform r = (.ok u, ρ)) (hu : u.isUnknown = true) :
    ρ.isSet = true := by
  unfold operandUnit at h
  split at h
  next hunknown =>
    cases h
    exact hset hunknown
  next hknown =>
    obtain ⟨hka, hkb⟩ : a.isUnknown = false ∧ b.isUnknown = false := by simpa using hknown
    have hca := ha.canonical hka
    have hcb := hb.canonical hkb
    split at h
    · split at h
      · obtain ⟨x, r', -, h⟩ := Stage.perform_bind_eq_ok_iff.mp h
        exact isSet_of_powerUnit hca h hu
      · exact isSet_of_rejectUnit h
    · exact isSet_of_jointUnit hca hcb h hu

theorem Derivable.derived (he : e.Derivable) (h : (inferUnit A e).perform r = (.ok u, ρ)) :
    u.Derived := by
  have hmeets := (he.meets (A := A)).1 r
  rw [h] at hmeets
  exact hmeets.derived

theorem Derivable.isSet_of_inferUnit (he : e.Derivable)
    (h : (inferUnit A e).perform r = (.ok u, ρ)) (hu : u.isUnknown = true) : ρ.isSet = true := by
  induction e generalizing r u ρ with
  | const x =>
    cases h
    cases hu
  | unit v =>
    cases h
    rw [Canonical.isUnknown_eq_false he] at hu
    cases hu
  | var name =>
    rw [inferUnit] at h
    exact isSet_of_rejectUnit h
  | neg e ih =>
    rw [inferUnit] at h
    exact ih he h hu
  | bin op l x ihl ihx =>
    obtain ⟨_, hl, hx⟩ := he
    rw [inferUnit_bin] at h
    obtain ⟨a, r₁, ha, h⟩ := Stage.perform_bind_eq_ok_iff.mp h
    obtain ⟨b, r₂, hb, h⟩ := Stage.perform_bind_eq_ok_iff.mp h
    obtain ⟨h, -⟩ := (perform_writtenUnit_eq_ok_iff A).mp h
    refine isSet_of_operandUnit (hl.derived ha) (hx.derived hb) (fun hunknown => ?_) h hu
    rcases Bool.or_eq_true_iff.mp hunknown with hunknown | hunknown
    -- what was reported for the left side stays while the right side is derived
    · have hset := ihl hl ha hunknown
      have hkept : r₂ = r₁ := by simpa [hb] using steady_inferUnit A x r₁ hset
      rw [hkept]
      exact hset
    · exact ihx hx hb hunknown
  | _ => cases he

theorem Derivable.isSet_iff (he : e.Derivable) (h : (inferUnit A e).perform {} = (.ok u, ρ)) :
    ρ.isSet = true ↔ u.isUnknown = true := by
  refine ⟨fun hset => ?_, he.isSet_of_inferUnit h⟩
  cases hu : u.isUnknown with
  | true => rfl
  | false =>
    rw [report_of_inferUnit h hu] at hset
    cases hset

theorem Derivable.isSet_of_result? {b : Option (Binding ν)} (he : e.Derivable)
    (h : (e.result? A).perform {} = (.ok b, ρ)) : ρ.isSet = b.isNone := by
  obtain ⟨u, ρ₁, hu, h⟩ := Stage.perform_bind_eq_ok_iff.mp h
  have hiff := he.isSet_iff hu
  split at h
  next hunknown =>
    cases h
    exact hiff.mpr hunknown
  next hknown =>
    have hclear : ρ₁.isSet = false := Bool.eq_false_iff.mpr fun hset => hknown (hiff.mp hset)
    split at h
    · cases h
      exact hclear
    · obtain ⟨x, ρ₂, -, h⟩ := Stage.perform_bind_eq_ok_iff.mp h
      obtain ⟨failed, ρ₃, hfailed, h⟩ := Stage.perform_bind_eq_ok_iff.mp h
      cases hfailed
      split at h
      next hset =>
        cases h
        exact hset
      next hset =>
        cases h
        exact Bool.eq_false_iff.mpr hset

theorem adds_result? (e : Expr ν) : (e.result? A).Adds (Diagnostic.Arises A e.words) := by
  refine (adds_inferUnit A e).bind fun u => ?_
  split
  · exact Stage.adds_pure _
  · split
    · exact Stage.adds_pure _
    · refine (adds_evaluate A e).bind fun x => Stage.adds_failed.bind fun failed => ?_
      split <;> exact Stage.adds_pure _

end Unknown

end Expr

end Quantities
