import Quantities.Proofs.Diagnostic
import Quantities.Proofs.Expr.Units
import Quantities.Proofs.Unit.Factor

namespace Quantities

variable {ν : Type} (A : Arithmetic ν)

/-- Whether a fault is that of a factor between two units which cannot be raised to a degree. -/
def Fault.IsPower (f : Fault) : Prop :=
  ∃ a b : CompoundUnit, a.Derived ∧ a.FactorFails A b f

namespace Expr

def nodes : Expr ν → List (Expr ν)
  | neg e => neg e :: e.nodes
  | bin op l r => bin op l r :: (l.nodes ++ r.nodes)
  | assign t v => assign t v :: (t.nodes ++ v.nodes)
  | e => [e]

/-- The words that an expression was not made of: the names in it, and what is repeated where it is
invalid. -/
def words : Expr ν → List String
  | var name => [name]
  | neg e => e.words
  | bin _ l r => l.words ++ r.words
  | assign t v => t.words ++ v.words
  | invalid (some reason) => reason.words
  | _ => []

theorem mem_nodes_self (e : Expr ν) : e ∈ e.nodes := by
  cases e <;> simp [nodes]

theorem mem_nodes_trans {e n m : Expr ν} (hn : n ∈ e.nodes) (hm : m ∈ n.nodes) : m ∈ e.nodes := by
  induction e with
  | neg e ih =>
    rcases List.mem_cons.mp hn with rfl | hn
    · exact hm
    · exact List.mem_cons_of_mem _ (ih hn)
  | bin op l r ihl ihr | assign l r ihl ihr =>
    rcases List.mem_cons.mp hn with rfl | hn
    · exact hm
    · refine List.mem_cons_of_mem _ (List.mem_append.mpr ?_)
      exact (List.mem_append.mp hn).imp ihl ihr
  | _ =>
    obtain rfl := List.mem_singleton.mp hn
    exact hm

def Closed (e : Expr ν) : Prop := ∀ name, var name ∉ e.nodes

/-- An expression of numbers, canonical units and variables, joined by binary operators. -/
def Derivable : Expr ν → Prop
  | const _ | var _ => True
  | unit u => u.Canonical
  | neg e => e.Derivable
  | bin op l r => op.isBinary = true ∧ l.Derivable ∧ r.Derivable
  | _ => False

theorem Computable.derivable {e : Expr ν} (h : e.Computable) : e.Derivable := by
  induction e with
  | const x => trivial
  | unit u => exact h
  | neg e ih => exact ih h
  | bin op l r ihl ihr => exact ⟨h.1, ihl h.2.2.1, ihr h.2.2.2⟩
  | _ => cases h

theorem closed_neg_iff {e : Expr ν} : (neg e).Closed ↔ e.Closed := by
  simp [Closed, nodes]

theorem closed_bin_iff {op : Kind} {l r : Expr ν} :
    (bin op l r).Closed ↔ l.Closed ∧ r.Closed := by
  simp [Closed, nodes, forall_and]

section Adds

open Stage

variable {D : Diagnostic → Prop} {ws : List String}

theorem adds_rejectUnit {d : Diagnostic} (hd : D d) : (rejectUnit d).Adds D := by
  unfold rejectUnit
  split
  · exact (adds_report hd).bind fun _ => adds_pure _
  · exact adds_throw _

theorem adds_rejectMismatch {d : Diagnostic} (m : Mismatch) (hd : D d) :
    (rejectMismatch m d).Adds D := by
  unfold rejectMismatch
  split
  · exact adds_rejectUnit hd
  · exact adds_throw _

theorem adds_jointUnit (op : Kind) (a b : CompoundUnit) :
    (jointUnit op a b).Adds (Diagnostic.Arises A ws) := by
  have arises {d : Diagnostic} (hd : d.isSpecific = true) (hw : d.words = []) :
      Diagnostic.Arises A ws d :=
    ⟨hd, .inl (by simp [hw])⟩
  cases op with
  | add | sub | convert =>
    simp only [jointUnit]
    split
    · exact adds_rejectMismatch _ (arises rfl rfl)
    · exact adds_pure _
  | unitProduct =>
    simp only [jointUnit]
    split
    · exact adds_rejectUnit (arises rfl rfl)
    · exact adds_pure _
  | mul | quantity | div | unitQuotient => exact adds_pure _
  | _ => exact adds_throw _

theorem adds_powerUnit (a : CompoundUnit) (degree : ν) :
    (powerUnit A a degree).Adds (Diagnostic.Arises A ws) := by
  refine adds_failed.bind fun failed => ?_
  split
  · exact adds_pure _
  · split
    · exact adds_pure _
    · exact adds_rejectUnit ⟨rfl, .inr ⟨degree, rfl⟩⟩

theorem adds_jointValue (op : Kind) (x y : ν) :
    (jointValue A op x y).Adds (Diagnostic.Arises A ws) := by
  cases op with
  | add | sub => exact adds_pure _
  | div =>
    simp only [jointValue]
    split
    · exact (adds_report ⟨rfl, .inl (List.nil_subset _)⟩).bind fun _ => adds_pure _
    · exact adds_pure _
  | _ => exact adds_throw _

theorem adds_operandUnit {degree : Stage ν} (hd : degree.Adds (Diagnostic.Arises A ws))
    (op : Kind) (a b : CompoundUnit) :
    (operandUnit A op degree a b).Adds (Diagnostic.Arises A ws) := by
  unfold operandUnit
  repeat' split
  · exact adds_pure _
  · exact hd.bind fun _ => adds_powerUnit A _ _
  · exact adds_rejectUnit ⟨rfl, .inl (List.nil_subset _)⟩
  · exact adds_jointUnit A _ _ _

theorem adds_writtenUnit {r : Expr ν} (hr : (evaluate A r).Adds (Diagnostic.Arises A ws))
    (op : Kind) (a b : CompoundUnit) :
    (writtenUnit A op r a b).Adds (Diagnostic.Arises A ws) :=
  (adds_operandUnit A hr op a b).bind fun _ => adds_liftExcept _

/-- Deriving a unit and computing a value add nothing to a report but causes, and these repeat no
words but those of the expression. -/
theorem adds_inferUnit_and_evaluate (e : Expr ν) (hw : e.words ⊆ ws) :
    (inferUnit A e).Adds (Diagnostic.Arises A ws) ∧
      (evaluate A e).Adds (Diagnostic.Arises A ws) := by
  induction e with
  | const x =>
    rw [inferUnit, evaluate]
    exact ⟨adds_pure _, adds_pure _⟩
  | unit u =>
    rw [inferUnit, evaluate]
    exact ⟨adds_pure _, adds_pure _⟩
  | var name =>
    rw [inferUnit]
    exact ⟨adds_rejectUnit ⟨rfl, .inl hw⟩, adds_throw _⟩
  | neg e ih =>
    have he := ih hw
    rw [inferUnit, evaluate]
    exact ⟨he.1, he.2.bind fun _ => adds_pure _⟩
  | bin op l r ihl ihr =>
    obtain ⟨hwl, hwr⟩ := List.append_subset.mp hw
    have hl := ihl hwl
    have hr := ihr hwr
    constructor
    · rw [inferUnit_bin]
      exact hl.1.bind fun a => hr.1.bind fun b => adds_writtenUnit A hr.2 op a b
    · rw [evaluate_bin]
      split
      · exact adds_pure _
      · exact adds_pure _
      · exact adds_pure _
      · exact hl.2
      · exact hl.2.bind fun _ => hl.1.bind fun _ => hr.1.bind fun _ =>
          (adds_liftExcept _).bind fun _ => adds_pure _
      · exact hl.2.bind fun _ => hr.2.bind fun _ => adds_pure _
      · split
        · exact adds_pure _
        · exact hl.2.bind fun _ => hr.2.bind fun _ => hr.1.bind fun _ => hl.1.bind fun _ =>
            (adds_liftExcept _).bind fun _ => adds_jointValue A _ _ _
  | assign t v _ ih =>
    rw [inferUnit]
    exact ⟨(ih (List.append_subset.mp hw).2).1, adds_throw _⟩
  | empty | quit | help | invalid => exact ⟨adds_pure _, adds_throw _⟩

theorem adds_inferUnit (e : Expr ν) : (inferUnit A e).Adds (Diagnostic.Arises A e.words) :=
  (adds_inferUnit_and_evaluate A e (List.Subset.refl _)).1

theorem adds_evaluate (e : Expr ν) : (evaluate A e).Adds (Diagnostic.Arises A e.words) :=
  (adds_inferUnit_and_evaluate A e (List.Subset.refl _)).2

theorem steady_powerUnit (a : CompoundUnit) (degree : ν) : (powerUnit A a degree).Steady := by
  have hadds : (powerUnit A a degree).Adds (Diagnostic.Arises A []) := adds_powerUnit A a degree
  exact hadds.steady

theorem steady_jointValue (op : Kind) (x y : ν) : (jointValue A op x y).Steady := by
  have hadds : (jointValue A op x y).Adds (Diagnostic.Arises A []) := adds_jointValue A op x y
  exact hadds.steady

theorem steady_inferUnit (e : Expr ν) : (inferUnit A e).Steady := (adds_inferUnit A e).steady

theorem steady_evaluate (e : Expr ν) : (evaluate A e).Steady := (adds_evaluate A e).steady

theorem steady_operandUnit (op : Kind) (r : Expr ν) (a b : CompoundUnit) :
    (operandUnit A op (evaluate A r) a b).Steady :=
  (adds_operandUnit A (adds_evaluate A r) op a b).steady

end Adds

section Known

variable {A} {e l x : Expr ν} {u a b : CompoundUnit} {r ρ : Report} {op : Kind}

theorem eq_unknown_of_rejectUnit {d : Diagnostic} (h : (rejectUnit d).perform r = (.ok u, ρ)) :
    u = .unknown :=
  (perform_rejectUnit_eq_ok_iff.mp h).2.1

theorem eq_unknown_of_rejectMismatch {d : Diagnostic} {m : Mismatch}
    (h : (rejectMismatch m d).perform r = (.ok u, ρ)) : u = .unknown :=
  eq_unknown_of_rejectUnit (perform_rejectMismatch_eq_ok_iff.mp h).2

/-- Nothing is asked of the report where two operands have a known unit together. -/
theorem eq_pure_of_jointUnit (h : (jointUnit op a b).perform r = (.ok u, ρ))
    (hu : u.isUnknown = false) : jointUnit op a b = pure u := by
  have known {v : CompoundUnit} (h : (pure v : Stage CompoundUnit).perform r = (.ok u, ρ)) :
      (pure v : Stage CompoundUnit) = pure u := by
    cases h
    rfl
  cases op with
  | add | sub | convert =>
    simp only [jointUnit] at h ⊢
    split at h
    · rw [eq_unknown_of_rejectMismatch h] at hu
      cases hu
    · exact known h
  | unitProduct =>
    simp only [jointUnit] at h ⊢
    split at h
    · rw [eq_unknown_of_rejectUnit h] at hu
      cases hu
    next hknown =>
      rw [if_neg hknown]
      exact known h
  | mul | quantity | div | unitQuotient => exact known h
  | _ => cases h

theorem report_of_powerUnit {degree : ν} (h : (powerUnit A a degree).perform r = (.ok u, ρ))
    (hu : u.isUnknown = false) : r.isSet = false ∧ ρ = r := by
  obtain ⟨failed, r', hfailed, h⟩ := Stage.perform_bind_eq_ok_iff.mp h
  cases hfailed
  split at h
  next =>
    cases h
    cases hu
  next hclear =>
    split at h
    · cases h
      exact ⟨Bool.eq_false_iff.mpr hclear, rfl⟩
    · rw [eq_unknown_of_rejectUnit h] at hu
      cases hu

theorem known_of_operandUnit {degree : Stage ν}
    (h : (operandUnit A op degree a b).perform r = (.ok u, ρ)) (hu : u.isUnknown = false) :
    a.isUnknown = false ∧ b.isUnknown = false := by
  unfold operandUnit at h
  cases ha : a.isUnknown <;> cases hb : b.isUnknown
  case false.false => exact ⟨rfl, rfl⟩
  all_goals
    simp only [ha, hb, Bool.or_self, Bool.or_true, Bool.true_or, if_true] at h
    cases h
    cases hu

/-- A stage that leads to a known unit only where it would without an earlier report, and that
reports nothing on the way. -/
def Settled (s : Stage CompoundUnit) : Prop :=
  ∀ r u ρ, s.perform r = (.ok u, ρ) → u.isUnknown = false → ρ = r ∧ s.perform {} = (.ok u, {})

theorem settled_operandUnit {degree : Stage ν} {D : Diagnostic → Prop} (hd : degree.Adds D) :
    Settled (operandUnit A op degree a b) := by
  intro r u ρ h hu
  obtain ⟨ha, hb⟩ := known_of_operandUnit h hu
  unfold operandUnit at h ⊢
  simp only [ha, hb, Bool.or_self, Bool.false_eq_true, if_false] at h ⊢
  split at h
  next hpower =>
    rw [if_pos hpower]
    split at h
    next hallowed =>
      -- a power is known only if nothing was reported, neither before nor for its degree
      obtain ⟨x, ρ', hx, hunit⟩ := Stage.perform_bind_eq_ok_iff.mp h
      obtain ⟨hclear, rfl⟩ := report_of_powerUnit hunit hu
      have hkept : r = ρ := by
        rcases hd r with hkept | ⟨d, -, hadded⟩
        · rw [hx] at hkept
          exact hkept.symm
        · rw [hx] at hadded
          obtain rfl : ρ = r.add d := hadded
          rw [Report.isSet_add] at hclear
          cases hclear
      obtain rfl := hkept
      obtain rfl := Report.eq_clear hclear
      rw [if_pos hallowed]
      exact ⟨rfl, h⟩
    next =>
      rw [eq_unknown_of_rejectUnit h] at hu
      cases hu
  next hpower =>
    have hpure := eq_pure_of_jointUnit h hu
    rw [hpure] at h
    rw [if_neg hpower, hpure]
    cases h
    exact ⟨rfl, rfl⟩

theorem settled_derivedUnit_bin (hl : Settled (inferUnit A l)) (hx : Settled (inferUnit A x)) :
    Settled (derivedUnit A (bin op l x)) := by
  intro r u ρ h hu
  rw [derivedUnit] at h ⊢
  obtain ⟨a, ρ₁, ha, h₁⟩ := Stage.perform_bind_eq_ok_iff.mp h
  obtain ⟨b, ρ₂, hb, h₂⟩ := Stage.perform_bind_eq_ok_iff.mp h₁
  obtain ⟨hka, hkb⟩ := known_of_operandUnit h₂ hu
  obtain ⟨rfl, hcleara⟩ := hl _ _ _ ha hka
  obtain ⟨rfl, hclearb⟩ := hx _ _ _ hb hkb
  obtain ⟨rfl, hclear⟩ := settled_operandUnit (adds_evaluate A x) _ _ _ h₂ hu
  refine ⟨rfl, ?_⟩
  rw [Stage.perform_bind_of_ok hcleara, Stage.perform_bind_of_ok hclearb]
  exact hclear

theorem settled_inferUnit (e : Expr ν) : Settled (inferUnit A e) := by
  have known {v : CompoundUnit} : Settled (pure v) := by
    intro r u ρ h _
    cases h
    exact ⟨rfl, rfl⟩
  induction e with
  | const x | unit v =>
    rw [inferUnit]
    exact known
  | var name =>
    intro r u ρ h hu
    rw [inferUnit] at h
    rw [eq_unknown_of_rejectUnit h] at hu
    cases hu
  | neg e ih =>
    rw [inferUnit]
    exact ih
  | assign t v _ ih =>
    rw [inferUnit]
    exact ih
  | empty | quit | help | invalid => exact known
  | bin op l x ihl ihx =>
    intro r u ρ h hu
    rw [inferUnit_bin_eq_derivedUnit] at h ⊢
    obtain ⟨v, ρ₁, hv, hw⟩ := Stage.perform_bind_eq_ok_iff.mp h
    rw [Stage.perform_liftExcept, Prod.mk.injEq, CompoundUnit.written_eq_ok_iff] at hw
    obtain ⟨⟨hwritable, rfl⟩, rfl⟩ := hw
    obtain ⟨rfl, hv'⟩ := settled_derivedUnit_bin ihl ihx _ _ _ hv hu
    refine ⟨rfl, ?_⟩
    rw [Stage.perform_bind_of_ok hv', Stage.perform_liftExcept,
      CompoundUnit.written_eq_ok_iff.mpr ⟨hwritable, rfl⟩]

theorem report_of_inferUnit (h : (inferUnit A e).perform {} = (.ok u, ρ))
    (hu : u.isUnknown = false) : ρ = {} :=
  (settled_inferUnit e _ _ _ h hu).1

theorem yield?_inferUnit_of_known (h : (inferUnit A e).perform r = (.ok u, ρ))
    (hu : u.isUnknown = false) : (inferUnit A e).yield? = some u :=
  Stage.yield?_eq_some_iff.mpr (settled_inferUnit e _ _ _ h hu).2

end Known

/-- A part of an expression whose unit is derived but cannot be written. -/
def Unwritable (n : Expr ν) : Prop :=
  ∃ u, (derivedUnit A n).yield? = some u ∧ u.isUnknown = false ∧ u.isWritable = false

/-- A fault of a power, or of the text of a unit that some part of an expression has. -/
def FailsWith (e : Expr ν) (f : Fault) : Prop :=
  f.IsPower A ∨ f = .precision ∧ ∃ n ∈ e.nodes, n.Unwritable A

section Faults

open CompoundUnit Stage

variable {A} {E : Expr ν}

theorem returns_jointValue {op : Kind} (h : op = .add ∨ op = .sub ∨ op = .div) (x y : ν) :
    (jointValue A op x y).Returns fun _ => True := by
  rcases h with rfl | rfl | rfl
  · exact returns_pure trivial
  · exact returns_pure trivial
  · simp only [jointValue]
    split
    · exact (returns_report _).bind fun _ _ => returns_pure trivial
    · exact returns_pure trivial

/-- A derived unit that is known only where no variable is left, and that cannot be written only
where an expression fails with it. -/
structure Accounted (A : Arithmetic ν) (E e : Expr ν) (u : CompoundUnit) : Prop where
  derived : u.Derived
  closed : u.isUnknown = false → e.Closed
  fails : u.isWritable = false → E.FailsWith A .precision

theorem accounted_unknown (e : Expr ν) : Accounted A E e unknown :=
  ⟨derived_unknown, nofun, nofun⟩

theorem meets_recordedFactor {l r : Expr ν} {a b : CompoundUnit} (ha : Accounted A E l a)
    (hb : Accounted A E r b) :
    (liftM (a.recordedFactor A b) : Stage ν).Meets (E.FailsWith A) fun _ => True := by
  intro r
  rw [perform_liftExcept]
  cases hx : a.recordedFactor A b with
  | ok x => trivial
  | error f =>
    rcases cause_of_recordedFactor A hx with hf | ⟨rfl, hf | hf⟩
    · exact .inl ⟨a, b, ha.derived, factorFails_of_conversionFactor A hf⟩
    · exact ha.fails hf
    · exact hb.fails hf

theorem meets_inferUnit_bin {op : Kind} {l r : Expr ν} (hn : bin op l r ∈ E.nodes)
    (h : (derivedUnit A (bin op l r)).Meets (E.FailsWith A) fun u =>
      u.Derived ∧ (u.isUnknown = false → (bin op l r).Closed)) :
    (inferUnit A (bin op l r)).Meets (E.FailsWith A) (Accounted A E (bin op l r)) := by
  rw [inferUnit_bin_eq_derivedUnit]
  refine h.of_perform.bind fun u hu => ?_
  obtain ⟨⟨hderived, hclosed⟩, ρ, ρ', hperform⟩ := hu
  cases hw : u.isWritable with
  | true =>
    rw [written_eq_ok_iff.mpr ⟨hw, rfl⟩]
    exact fun _ => ⟨hderived, hclosed, fun h => by simp [hw] at h⟩
  | false =>
    have hknown := isUnknown_eq_false_of_isWritable hw
    have hsettled : Settled (derivedUnit A (bin op l r)) :=
      settled_derivedUnit_bin (settled_inferUnit l) (settled_inferUnit r)
    have hyield := Stage.yield?_eq_some_iff.mpr (hsettled _ _ _ hperform hknown).2
    rw [written_eq_error_iff.mpr ⟨hw, rfl⟩]
    exact fun _ => .inr ⟨rfl, _, hn, u, hyield, hknown, hw⟩

/-- Only a power or the text of a unit can go wrong. A known unit is that of an expression without
variables, and such an expression has a value. -/
theorem Derivable.meets_of_nodes {e : Expr ν} (h : e.Derivable) (hE : ∀ n ∈ e.nodes, n ∈ E.nodes) :
    (inferUnit A e).Meets (E.FailsWith A) (Accounted A E e) ∧
      (e.Closed → (evaluate A e).Meets (E.FailsWith A) fun _ => True) := by
  have value (x : ν) : (pure x : Stage ν).Meets (E.FailsWith A) fun _ => True :=
    (returns_pure trivial).meets
  induction e with
  | const x =>
    rw [inferUnit, evaluate]
    exact ⟨(returns_pure ⟨canonical_none.derived, by simp [Closed, nodes], by simp⟩).meets,
      fun _ => value _⟩
  | unit u =>
    rw [inferUnit, evaluate]
    have hc : u.Canonical := h
    have hfails (hw : u.isWritable = false) : E.FailsWith A .precision :=
      .inr ⟨rfl, unit u, hE _ (mem_nodes_self _), u, rfl, hc.isUnknown_eq_false, hw⟩
    exact ⟨(returns_pure ⟨hc.derived, by simp [Closed, nodes], hfails⟩).meets, fun _ => value _⟩
  | var name =>
    rw [inferUnit]
    refine ⟨(meets_rejectUnit (by simp [Diagnostic.isWritable])).mono ?_,
      fun hc => absurd (by simp [nodes]) (hc name)⟩
    rintro u rfl
    exact accounted_unknown _
  | neg e ih =>
    obtain ⟨hunit, hvalue⟩ := ih h fun n hn => hE n (List.mem_cons_of_mem _ hn)
    rw [inferUnit, evaluate, closed_neg_iff]
    refine ⟨hunit.mono fun u hu => ?_, fun hc => (hvalue hc).bind fun x _ => value _⟩
    exact ⟨hu.derived, fun hknown => closed_neg_iff.mpr (hu.closed hknown), hu.fails⟩
  | bin op l r ihl ihr =>
    obtain ⟨hop, hl, hr⟩ := h
    obtain ⟨hunitl, hvaluel⟩ := ihl hl fun n hn => hE n (by simp [nodes, hn])
    obtain ⟨hunitr, hvaluer⟩ := ihr hr fun n hn => hE n (by simp [nodes, hn])
    constructor
    · refine meets_inferUnit_bin (hE _ (mem_nodes_self _)) ?_
      rw [derivedUnit]
      refine hunitl.bind fun a ha => hunitr.bind fun b hb => ?_
      have hfails (hw : a.isWritable = false ∨ b.isWritable = false) := hw.elim ha.fails hb.fails
      have hunit := meets_operandUnit A hfails hop ha.derived hb.derived
        fun _ hu => hvaluer (hb.closed hu.2)
      refine hunit.mono fun u hu => ⟨hu.1, fun hknown => ?_⟩
      obtain ⟨hka, hkb⟩ := hu.2 hknown
      exact closed_bin_iff.mpr ⟨ha.closed hka, hb.closed hkb⟩
    · rw [closed_bin_iff]
      rintro ⟨hcl, hcr⟩
      have hl := hvaluel hcl
      have hr := hvaluer hcr
      have aligned (hop : op = .add ∨ op = .sub ∨ op = .div) :
          (alignedValue A op l r).Meets (E.FailsWith A) fun _ => True := by
        refine hl.bind fun x _ => hr.bind fun y _ => ?_
        refine hunitr.bind fun b hb => hunitl.bind fun a ha => ?_
        exact (meets_recordedFactor hb ha).bind fun z _ => (returns_jointValue hop x _).meets
      rw [evaluate_bin]
      cases op with
      | power | unitProduct | unitQuotient => exact value _
      | quantity => exact hl
      | convert =>
        refine hl.bind fun x _ => hunitl.bind fun a ha => hunitr.bind fun b hb => ?_
        exact (meets_recordedFactor ha hb).bind fun z _ => value _
      | mul => exact hl.bind fun x _ => hr.bind fun y _ => value _
      | add => exact aligned (.inl rfl)
      | sub => exact aligned (.inr (.inl rfl))
      | div =>
        simp only
        split
        · exact value _
        · exact aligned (.inr (.inr rfl))
      | _ => cases hop
  | _ => cases h

theorem Derivable.meets {e : Expr ν} (h : e.Derivable) :
    (inferUnit A e).Meets (e.FailsWith A) (Accounted A e e) ∧
      (e.Closed → (evaluate A e).Meets (e.FailsWith A) fun _ => True) :=
  h.meets_of_nodes fun _ hn => hn

end Faults

end Expr

end Quantities
