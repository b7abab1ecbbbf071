import Mathlib.Data.Fintype.Pi
import Quantities.Number.Machine
import Quantities.Proofs.Expr.Derivation
import Quantities.Proofs.Unit.Convertible

namespace Quantities

instance : Fintype Category where
  elems := {.distance, .time, .mass, .none}
  complete c := by cases c <;> simp

/-- A degree for each category. That of plain numbers stays zero. -/
abbrev Dimension := Category → Int

namespace Dimension

/-- A dimension that is a power of one category. -/
def IsSimple (d : Dimension) : Prop := ∃! c, d c ≠ 0

instance (d : Dimension) : Decidable d.IsSimple :=
  inferInstanceAs (Decidable (∃ c, d c ≠ 0 ∧ ∀ e, d e ≠ 0 → e = c))

def joint? (op : Kind) (a b : Dimension) : Option Dimension :=
  match op with
  | .mul | .quantity | .unitProduct => some (a + b)
  | .div | .unitQuotient => some (a - b)
  | .add | .sub | .convert => if a = b then some a else none
  | _ => none

/-- Whether the degrees can be written. -/
def Writable (d : Dimension) : Prop := ∀ c, (d c).natAbs < Nat.pow 10 maxDegreeDigits

end Dimension

namespace Expr

variable {ν : Type} (A : Arithmetic ν)

/-- The whole number that an expression evaluates to without an error. -/
def wholeValue? (e : Expr ν) : Option Int := (evaluate A e).yield?.bind A.whole?

def dimension? : Expr ν → Option Dimension
  | const _ => some 0
  | unit u => some u.degree
  | neg e => e.dimension?
  | bin op l r => do
    let a ← l.dimension?
    let b ← r.dimension?
    if op = .power then
      if a.IsSimple ∧ b = 0 then (r.wholeValue? A).map (· • a) else none
    else Dimension.joint? op a b
  | _ => none

def unit? (e : Expr ν) : Option CompoundUnit :=
  (inferUnit A e).yield?.filter (!·.isUnknown)

/-- No two operands of an operator measure some category in different base units. -/
def Unmixed (op : Kind) (e : Expr ν) : Prop :=
  ∀ l r, bin op l r ∈ e.nodes → ∀ a b, l.unit? A = some a → r.unit? A = some b → ¬ a.Mixes b

/-- A fault of a power, or of a part that has a dimension which cannot be written. -/
def Exceeds (e : Expr ν) (f : Fault) : Prop :=
  f.IsPower A ∨ f = .precision ∧ ∃ n ∈ e.nodes, ∃ d, n.dimension? A = some d ∧ ¬ d.Writable

variable {A} in
theorem Exceeds.mono {e v : Expr ν} {f : Fault} (h : v.Exceeds A f) (hv : v.nodes ⊆ e.nodes) :
    e.Exceeds A f := by
  refine h.imp_right ?_
  rintro ⟨rfl, n, hn, hd⟩
  exact ⟨rfl, n, hv hn, hd⟩

section Unit

variable {A} {e l r : Expr ν} {u a b : CompoundUnit} {op : Kind}

theorem unit?_eq_some_iff : e.unit? A = some u ↔
    (inferUnit A e).yield? = some u ∧ u.isUnknown = false := by
  simp [unit?, Option.filter_eq_some_iff]

@[simp] theorem unit?_const (x : ν) : (const x).unit? A = some .none := by
  rw [unit?, inferUnit]
  rfl

theorem unit?_unit (hu : u.isUnknown = false) : (unit u).unit? A = some u := by
  rw [unit?_eq_some_iff, inferUnit]
  exact ⟨rfl, hu⟩

@[simp] theorem unit?_var (name : String) : (var name).unit? A = none := by
  rw [unit?, inferUnit]
  rfl

@[simp] theorem unit?_neg (e : Expr ν) : (neg e).unit? A = e.unit? A := by
  rw [unit?, inferUnit]
  rfl

def jointUnit? (op : Kind) (r : Expr ν) (a b : CompoundUnit) : Option CompoundUnit :=
  if op = .power then if powerAllowed a b then (r.wholeValue? A).map a.raise else none
  else (jointUnit op a b).yield?

@[simp] theorem yield?_rejectUnit (d : Diagnostic) : (rejectUnit d).yield? = none := by
  unfold rejectUnit
  split <;> rfl

@[simp] theorem yield?_rejectMismatch (m : Mismatch) (d : Diagnostic) :
    (rejectMismatch m d).yield? = none := by
  unfold rejectMismatch
  split
  · exact yield?_rejectUnit d
  · rfl

theorem yield?_powerUnit (a : CompoundUnit) (x : ν) :
    (powerUnit A a x).yield? = (A.whole? x).map a.raise := by
  unfold powerUnit
  cases h : A.whole? x <;> rfl

theorem yield?_operandUnit (ha : a.isUnknown = false) (hb : b.isUnknown = false) :
    (operandUnit A op (evaluate A r) a b).yield? = jointUnit? (A := A) op r a b := by
  unfold operandUnit jointUnit?
  simp only [ha, hb, Bool.or_self, Bool.false_eq_true, if_false]
  split
  · split
    · rw [Stage.yield?_bind fun x => steady_powerUnit A a x, wholeValue?, Option.map_bind]
      simp only [yield?_powerUnit]
      rfl
    · exact yield?_rejectUnit _
  · rfl

theorem yield?_derivedUnit_bin_iff :
    (derivedUnit A (bin op l r)).yield? = some u ∧ u.isUnknown = false ↔
      ∃ a b, l.unit? A = some a ∧ r.unit? A = some b ∧
        jointUnit? (A := A) op r a b = some u ∧ u.isUnknown = false := by
  have hsteady (a b : CompoundUnit) := steady_operandUnit A op r a b
  simp only [unit?_eq_some_iff, derivedUnit]
  rw [Stage.yield?_bind fun a => (steady_inferUnit A r).bind (hsteady a)]
  simp only [Option.bind_eq_some_iff, Stage.yield?_bind (hsteady _)]
  constructor
  · rintro ⟨⟨a, hl, b, hr, hu⟩, hknown⟩
    obtain ⟨ha, hb⟩ := known_of_operandUnit (Stage.yield?_eq_some_iff.mp hu) hknown
    rw [yield?_operandUnit ha hb] at hu
    exact ⟨a, b, ⟨hl, ha⟩, ⟨hr, hb⟩, hu, hknown⟩
  · rintro ⟨a, b, ⟨hl, ha⟩, ⟨hr, hb⟩, hu, hknown⟩
    rw [← yield?_operandUnit ha hb] at hu
    exact ⟨⟨a, hl, b, hr, hu⟩, hknown⟩

theorem unit?_bin_eq_some_iff : (bin op l r).unit? A = some u ↔
    ∃ a b, l.unit? A = some a ∧ r.unit? A = some b ∧
      jointUnit? (A := A) op r a b = some u ∧ u.isUnknown = false ∧ u.isWritable = true := by
  have hwritten : (bin op l r).unit? A = some u ↔
      ((derivedUnit A (bin op l r)).yield? = some u ∧ u.isUnknown = false) ∧
        u.isWritable = true := by
    rw [unit?_eq_some_iff, inferUnit_bin_eq_derivedUnit,
      Stage.yield?_bind fun u => Stage.steady_liftExcept _, Option.bind_eq_some_iff]
    simp only [Stage.yield?_liftExcept_eq_some_iff, CompoundUnit.written_eq_ok_iff]
    constructor
    · rintro ⟨⟨v, hv, hwritable, rfl⟩, hknown⟩
      exact ⟨⟨hv, hknown⟩, hwritable⟩
    · rintro ⟨⟨hv, hknown⟩, hwritable⟩
      exact ⟨⟨u, hv, hwritable, rfl⟩, hknown⟩
  rw [hwritten, yield?_derivedUnit_bin_iff]
  simp only [← and_assoc, exists_and_right]

theorem Derivable.canonical_of_unit? (h : e.Derivable) (hu : e.unit? A = some u) :
    u.Canonical ∧ e.Closed := by
  obtain ⟨hyield, hknown⟩ := unit?_eq_some_iff.mp hu
  have hresult := (h.meets (A := A)).1 {}
  rw [Stage.yield?_eq_some_iff.mp hyield] at hresult
  exact ⟨hresult.derived.canonical hknown, hresult.closed hknown⟩

theorem inferUnit_quantity (hu : u.Canonical) (hw : u.isWritable = true) (x : ν) :
    inferUnit A (quantity x u) = pure u := by
  have hwritten : u.written = .ok u := CompoundUnit.written_eq_ok_iff.mpr ⟨hw, rfl⟩
  rw [quantity, inferUnit_bin, inferUnit, inferUnit, pure_bind, pure_bind, writtenUnit]
  simp only [operandUnit, jointUnit, hu.isUnknown_eq_false, hu.none_combine,
    CompoundUnit.isUnknown_none, Bool.or_self, Bool.false_eq_true, if_false, reduceCtorEq, pure_bind,
    hwritten]
  rfl

theorem unit?_quantity (hu : u.Canonical) (hw : u.isWritable = true) (x : ν) :
    (quantity x u).unit? A = some u := by
  rw [unit?_eq_some_iff, inferUnit_quantity hu hw]
  exact ⟨rfl, hu.isUnknown_eq_false⟩

theorem Derivable.exists_unit?_of_mem_nodes (h : e.Derivable)
    (hu : e.unit? A = some u) : ∀ n ∈ e.nodes, ∃ v, n.unit? A = some v := by
  induction e generalizing u with
  | const x | unit v =>
    intro n hn
    obtain rfl := List.mem_singleton.mp hn
    exact ⟨u, hu⟩
  | var name =>
    rw [unit?_var] at hu
    cases hu
  | neg e ih =>
    intro n hn
    rcases List.mem_cons.mp hn with rfl | hn
    · exact ⟨u, hu⟩
    · rw [unit?_neg] at hu
      exact ih h hu n hn
  | bin op l r ihl ihr =>
    obtain ⟨_, hl, hr⟩ := h
    obtain ⟨a, b, ha, hb, -⟩ := unit?_bin_eq_some_iff.mp hu
    intro n hn
    simp only [nodes, List.mem_cons, List.mem_append] at hn
    rcases hn with rfl | hn | hn
    · exact ⟨u, hu⟩
    · exact ihl hl ha n hn
    · exact ihr hr hb n hn
  | _ => cases h

theorem unmixed_neg_iff : (neg e).Unmixed A op ↔ e.Unmixed A op := by
  simp [Unmixed, nodes]

theorem unmixed_assign_iff {name : String} :
    (assign (var name) e).Unmixed A op ↔ e.Unmixed A op := by
  simp [Unmixed, nodes]

theorem unmixed_bin_iff {o : Kind} : (bin o l r).Unmixed A op ↔
    (o = op → ∀ a b, l.unit? A = some a → r.unit? A = some b → ¬ a.Mixes b) ∧
      l.Unmixed A op ∧ r.Unmixed A op := by
  constructor
  · intro h
    refine ⟨?_, fun x y hxy => h x y ?_, fun x y hxy => h x y ?_⟩
    · rintro rfl
      exact h l r (by simp [nodes])
    · simp [nodes, hxy]
    · simp [nodes, hxy]
  · rintro ⟨hroot, hl, hr⟩ x y hxy
    simp only [nodes, List.mem_cons, List.mem_append] at hxy
    rcases hxy with heq | hxy | hxy
    · cases heq
      exact hroot rfl
    · exact hl x y hxy
    · exact hr x y hxy

end Unit

section Joint

open CompoundUnit hiding none

variable {op : Kind} {a b : CompoundUnit}

theorem powerAllowed_iff (ha : a.Canonical) (hb : b.Canonical) :
    powerAllowed a b = true ↔ Dimension.IsSimple a.degree ∧ b.degree = 0 := by
  simp only [powerAllowed, Bool.and_eq_true, decide_eq_true_eq, hb.isNone_iff,
    hb.degree_eq_zero_iff]
  refine and_congr_left fun _ => ?_
  rcases ha with rfl | ha
  · simp [Dimension.IsSimple]
  · simp [ha.isNone_eq_false, ha.size_eq_one_iff, Dimension.IsSimple]

theorem jointUnit_cases (hop : op.isBinary = true) (hp : op ≠ .power) (ha : a.Canonical)
    (hb : b.Canonical) :
    (∃ u, (jointUnit op a b).yield? = some u ∧ u.Canonical ∧
      Dimension.joint? op a.degree b.degree = some u.degree ∧
      (op = .unitProduct → ¬ a.Mixes b)) ∨
    ((jointUnit op a b).yield? = none ∧
      (Dimension.joint? op a.degree b.degree = none ∨ op = .unitProduct ∧ a.Mixes b)) := by
  have hproduct := canonical_combine ha hb
  have hquotient := canonical_divide ha hb
  cases op with
  | add | sub =>
    cases hm : b.mismatch? a with
    | none =>
      have h := (mismatch?_eq_none_iff_degree hb ha).mp hm
      refine .inl ⟨a, ?_, ha, ?_, by simp⟩
      · simp [jointUnit, hm]
      · simp [Dimension.joint?, h]
    | some reason =>
      have h : a.degree ≠ b.degree := fun h => by
        rw [(mismatch?_eq_none_iff_degree hb ha).mpr h.symm] at hm
        cases hm
      refine .inr ⟨?_, .inl ?_⟩
      · simp [jointUnit, hm]
      · simp [Dimension.joint?, h]
  | convert =>
    cases hm : a.mismatch? b with
    | none =>
      have h := (mismatch?_eq_none_iff_degree ha hb).mp hm
      refine .inl ⟨b, ?_, hb, ?_, by simp⟩
      · simp [jointUnit, hm]
      · simp [Dimension.joint?, h]
    | some reason =>
      have h : a.degree ≠ b.degree := fun h => by
        rw [(mismatch?_eq_none_iff_degree ha hb).mpr h] at hm
        cases hm
      refine .inr ⟨?_, .inl ?_⟩
      · simp [jointUnit, hm]
      · simp [Dimension.joint?, h]
  | mul | quantity =>
    refine .inl ⟨_, rfl, hproduct, ?_, by simp⟩
    rw [degree_combine ha hb]
    rfl
  | div | unitQuotient =>
    refine .inl ⟨_, rfl, hquotient, ?_, by simp⟩
    rw [degree_divide ha hb]
    rfl
  | unitProduct =>
    rcases adjoin_eq ha hb with ⟨hm, hu⟩ | ⟨hm, hu⟩
    · refine .inr ⟨?_, .inr ⟨rfl, hm⟩⟩
      simp [jointUnit, hu]
    · refine .inl ⟨a.combine b, ?_, hproduct, ?_, fun _ => hm⟩
      · simp [jointUnit, hu, hproduct.isUnknown_eq_false]
      · rw [degree_combine ha hb]
        rfl
  | power => exact absurd rfl hp
  | _ => cases hop

end Joint

section Dimension

open CompoundUnit hiding none

variable {A} {e l r : Expr ν} {u a b : CompoundUnit} {op : Kind}

theorem dimension?_bin (op : Kind) (l r : Expr ν) : (bin op l r).dimension? A =
    (l.dimension? A).bind fun a => (r.dimension? A).bind fun b =>
      if op = .power then if a.IsSimple ∧ b = 0 then (r.wholeValue? A).map (· • a) else none
      else Dimension.joint? op a b := by
  rw [dimension?]
  rfl

theorem exists_dimension?_of_bin {d : Dimension} (h : (bin op l r).dimension? A = some d) :
    ∃ x y, l.dimension? A = some x ∧ r.dimension? A = some y := by
  rw [dimension?_bin] at h
  obtain ⟨x, hx, h⟩ := Option.bind_eq_some_iff.mp h
  obtain ⟨y, hy, _⟩ := Option.bind_eq_some_iff.mp h
  exact ⟨x, y, hx, hy⟩

theorem dimension?_of_jointUnit? (hop : op.isBinary = true) (ha : a.Canonical) (hb : b.Canonical)
    (hda : l.dimension? A = some a.degree) (hdb : r.dimension? A = some b.degree)
    (hu : jointUnit? (A := A) op r a b = some u) :
    u.Canonical ∧ (bin op l r).dimension? A = some u.degree ∧
      (op = .unitProduct → ¬ a.Mixes b) := by
  rw [dimension?_bin, hda, hdb]
  simp only [Option.bind_some]
  unfold jointUnit? at hu
  by_cases hp : op = .power
  · subst hp
    rw [if_pos rfl] at hu ⊢
    split at hu
    next hallowed =>
      obtain ⟨n, hn, rfl⟩ := Option.map_eq_some_iff.mp hu
      rw [if_pos ((powerAllowed_iff ha hb).mp hallowed), hn, degree_raise ha]
      exact ⟨canonical_raise ha n, rfl, by simp⟩
    next => cases hu
  · rw [if_neg hp] at hu ⊢
    rcases jointUnit_cases hop hp ha hb with ⟨v, hv, hc, hd, hm⟩ | ⟨hv, _⟩
    · rw [hu] at hv
      cases hv
      exact ⟨hc, hd, hm⟩
    · rw [hu] at hv
      cases hv

/-- Two operands with a dimension together make up a unit unless they fold into each other. -/
theorem exists_jointUnit? (hop : op.isBinary = true) (ha : a.Canonical) (hb : b.Canonical)
    (hda : l.dimension? A = some a.degree) (hdb : r.dimension? A = some b.degree)
    {d : Dimension} (hd : (bin op l r).dimension? A = some d)
    (hm : op = .unitProduct → ¬ a.Mixes b) :
    ∃ u, jointUnit? (A := A) op r a b = some u ∧ u.isUnknown = false := by
  rw [dimension?_bin, hda, hdb] at hd
  simp only [Option.bind_some] at hd
  unfold jointUnit?
  by_cases hp : op = .power
  · subst hp
    rw [if_pos rfl] at hd ⊢
    split at hd
    next hsimple =>
      obtain ⟨n, hn, _⟩ := Option.map_eq_some_iff.mp hd
      rw [if_pos ((powerAllowed_iff ha hb).mpr hsimple), hn]
      exact ⟨a.raise n, rfl, (canonical_raise ha n).isUnknown_eq_false⟩
    next => cases hd
  · rw [if_neg hp] at hd ⊢
    rcases jointUnit_cases hop hp ha hb with ⟨u, hu, hc, _⟩ | ⟨_, hnone | ⟨hprod, hmix⟩⟩
    · exact ⟨u, hu, hc.isUnknown_eq_false⟩
    · rw [hnone] at hd
      cases hd
    · exact absurd hmix (hm hprod)

theorem Derivable.dimension?_of_unit? (h : e.Derivable) (hu : e.unit? A = some u) :
    e.dimension? A = some u.degree ∧ e.Unmixed A .unitProduct := by
  induction e generalizing u with
  | const x =>
    rw [unit?_const] at hu
    cases hu
    exact ⟨by simp [dimension?], by simp [Unmixed, nodes]⟩
  | unit v =>
    rw [unit?_unit (Canonical.isUnknown_eq_false h)] at hu
    cases hu
    exact ⟨rfl, by simp [Unmixed, nodes]⟩
  | var name =>
    rw [unit?_var] at hu
    cases hu
  | neg e ih =>
    rw [unit?_neg] at hu
    obtain ⟨hd, hm⟩ := ih h hu
    exact ⟨hd, unmixed_neg_iff.mpr hm⟩
  | bin op l r ihl ihr =>
    obtain ⟨hop, hl, hr⟩ := h
    obtain ⟨a, b, ha, hb, hjoint, _⟩ := unit?_bin_eq_some_iff.mp hu
    obtain ⟨hda, hma⟩ := ihl hl ha
    obtain ⟨hdb, hmb⟩ := ihr hr hb
    have hca := (hl.canonical_of_unit? ha).1
    have hcb := (hr.canonical_of_unit? hb).1
    obtain ⟨-, hd, hm⟩ := dimension?_of_jointUnit? hop hca hcb hda hdb hjoint
    refine ⟨hd, unmixed_bin_iff.mpr ⟨fun hprod x y hx hy => ?_, hma, hmb⟩⟩
    rw [ha] at hx
    rw [hb] at hy
    cases hx
    cases hy
    exact hm hprod
  | _ => cases h

/-- Where the derivation does not fail, an expression with a dimension has a unit unless something
in it is missing or folds. -/
theorem Derivable.unit?_of_dimension? (h : e.Derivable) {ρ : Report}
    (hu : (inferUnit A e).perform {} = (.ok u, ρ)) (hc : e.Closed) {d : Dimension}
    (hd : e.dimension? A = some d) (hm : e.Unmixed A .unitProduct) : e.unit? A = some u := by
  induction e generalizing d u ρ with
  | const x =>
    cases hu
    exact unit?_const x
  | unit v =>
    cases hu
    exact unit?_unit (Canonical.isUnknown_eq_false h)
  | var name => exact absurd (by simp [nodes]) (hc name)
  | neg e ih =>
    rw [inferUnit] at hu
    rw [unit?_neg]
    exact ih h hu (closed_neg_iff.mp hc) hd (unmixed_neg_iff.mp hm)
  | bin op l r ihl ihr =>
    obtain ⟨hop, hl, hr⟩ := h
    obtain ⟨hcl, hcr⟩ := closed_bin_iff.mp hc
    obtain ⟨hroot, hml, hmr⟩ := unmixed_bin_iff.mp hm
    obtain ⟨x, y, hx, hy⟩ := exists_dimension?_of_bin hd
    rw [inferUnit_bin] at hu
    obtain ⟨a, ρ₁, hl₁, hu⟩ := Stage.perform_bind_eq_ok_iff.mp hu
    have ha := ihl hl hl₁ hcl hx hml
    have hka := (unit?_eq_some_iff.mp ha).2
    obtain rfl := report_of_inferUnit hl₁ hka
    obtain ⟨b, ρ₂, hr₁, hu⟩ := Stage.perform_bind_eq_ok_iff.mp hu
    have hb := ihr hr hr₁ hcr hy hmr
    have hkb := (unit?_eq_some_iff.mp hb).2
    obtain rfl := report_of_inferUnit hr₁ hkb
    obtain ⟨hu, hwritable⟩ := (perform_writtenUnit_eq_ok_iff A).mp hu
    obtain ⟨v, hv, hknown⟩ := exists_jointUnit? hop (hl.canonical_of_unit? ha).1
      (hr.canonical_of_unit? hb).1 (hl.dimension?_of_unit? ha).1 (hr.dimension?_of_unit? hb).1 hd
      fun hprod => hroot hprod a b ha hb
    have hperform := hv
    rw [← yield?_operandUnit hka hkb, Stage.yield?_eq_some_iff, hu] at hperform
    cases hperform
    exact unit?_bin_eq_some_iff.mpr ⟨a, b, ha, hb, hv, hknown, hwritable⟩
  | _ => cases h

theorem Derivable.of_mem_nodes {n : Expr ν} (h : e.Derivable) (hn : n ∈ e.nodes) :
    n.Derivable := by
  induction e with
  | neg e ih =>
    rcases List.mem_cons.mp hn with rfl | hn
    · exact h
    · exact ih h hn
  | bin op l r ihl ihr =>
    rcases List.mem_cons.mp hn with rfl | hn
    · exact h
    · exact (List.mem_append.mp hn).elim (ihl h.2.1) (ihr h.2.2)
  | assign => cases h
  | _ =>
    obtain rfl := List.mem_singleton.mp hn
    exact h

theorem Derivable.dimension?_of_derivedUnit (h : e.Derivable)
    (hu : (derivedUnit A e).yield? = some u) (hknown : u.isUnknown = false) :
    u.Canonical ∧ e.dimension? A = some u.degree := by
  cases e with
  | bin op l r =>
    obtain ⟨hop, hl, hr⟩ := h
    obtain ⟨a, b, ha, hb, hjoint, -⟩ := yield?_derivedUnit_bin_iff.mp ⟨hu, hknown⟩
    obtain ⟨hc, hd, -⟩ := dimension?_of_jointUnit? hop (hl.canonical_of_unit? ha).1
      (hr.canonical_of_unit? hb).1 (hl.dimension?_of_unit? ha).1 (hr.dimension?_of_unit? hb).1 hjoint
    exact ⟨hc, hd⟩
  | _ =>
    have hunit := unit?_eq_some_iff.mpr ⟨hu, hknown⟩
    exact ⟨(h.canonical_of_unit? hunit).1, (h.dimension?_of_unit? hunit).1⟩

theorem Derivable.exceeds_of_failsWith (h : e.Derivable) {f : Fault} (hf : e.FailsWith A f) :
    e.Exceeds A f := by
  refine hf.imp_right ?_
  rintro ⟨rfl, n, hn, u, hu, hknown, hw⟩
  obtain ⟨hc, hd⟩ := (h.of_mem_nodes hn).dimension?_of_derivedUnit hu hknown
  refine ⟨rfl, n, hn, u.degree, hd, fun hwritable => ?_⟩
  rw [hc.isWritable_iff_degree.mpr hwritable] at hw
  cases hw

/-- Unless the power of a factor fails or a part has a dimension that cannot be written, deriving a
unit leads to one exactly if the expression has a dimension, no variable is left in it and no units
side by side fold into each other. The degrees of the unit are then that dimension. -/
theorem inferUnit_known_iff_dimension (h : e.Derivable) :
    (∃ f ρ, (inferUnit A e).perform {} = (.error f, ρ) ∧ e.Exceeds A f) ∨
      ∃ u ρ, (inferUnit A e).perform {} = (.ok u, ρ) ∧
        (u.isUnknown = false ↔
          e.Closed ∧ (∃ d, e.dimension? A = some d) ∧ e.Unmixed A .unitProduct) ∧
        (u.isUnknown = false → u.Canonical ∧ e.dimension? A = some u.degree) := by
  have hresult := (h.meets (A := A)).1 {}
  rcases hp : (inferUnit A e).perform {} with ⟨f | u, ρ⟩
  · rw [hp] at hresult
    exact .inl ⟨f, ρ, rfl, h.exceeds_of_failsWith hresult⟩
  refine .inr ⟨u, ρ, rfl, ?_⟩
  have hunit (hu : u.isUnknown = false) : e.unit? A = some u :=
    unit?_eq_some_iff.mpr ⟨yield?_inferUnit_of_known hp hu, hu⟩
  refine ⟨⟨fun hu => ?_, fun ⟨hc, ⟨d, hd⟩, hm⟩ => ?_⟩, fun hu => ?_⟩
  · obtain ⟨hd, hm⟩ := h.dimension?_of_unit? (hunit hu)
    exact ⟨(h.canonical_of_unit? (hunit hu)).2, ⟨_, hd⟩, hm⟩
  · exact (unit?_eq_some_iff.mp (h.unit?_of_dimension? hp hc hd hm)).2
  · exact ⟨(h.canonical_of_unit? (hunit hu)).1, (h.dimension?_of_unit? (hunit hu)).1⟩

/-- A mass times an area, whose degree is the quotient of two times. -/
def massArea : Expr Float :=
  bin .unitProduct (unit (.ofBase .kilogram)) (bin .power (unit (.ofBase .meter))
    (bin .div (quantity 4 (.ofBase .second)) (quantity 2 (.ofBase .second))))

theorem dimension_massArea : massArea.Derivable ∧
    massArea.dimension? Arithmetic.machine =
      some (CompoundUnit.degree ⟨[⟨.kilogram, 1⟩, ⟨.meter, 2⟩]⟩) := by
  have hd : massArea.Derivable := by
    have hc {b : BaseUnit} (hb : b.isMarker = false) := canonical_ofBase hb
    exact ⟨rfl, hc rfl, rfl, hc rfl, rfl, ⟨rfl, trivial, hc rfl⟩, rfl, trivial, hc rfl⟩
  have hu : (inferUnit Arithmetic.machine massArea).yield? =
      some ⟨[⟨.kilogram, 1⟩, ⟨.meter, 2⟩]⟩ := by decide +kernel
  have hp := Stage.yield?_eq_some_iff.mp hu
  refine ⟨hd, ?_⟩
  obtain ⟨f, ρ, he, _⟩ | ⟨u, ρ, hok, _, hdim⟩ := inferUnit_known_iff_dimension hd
  · rw [hp] at he
    cases he
  · rw [hp] at hok
    cases hok
    exact (hdim rfl).2

/-- A meter that is raised to the degree 1e308 so many times. -/
def raisedMeter : Nat → Expr Float
  | 0 => unit (.ofBase .meter)
  | n + 1 => bin .power (raisedMeter n) (const 1e308)

theorem nodes_raisedMeter (n : Nat) : ∀ m ∈ (raisedMeter n).nodes, m = const 1e308 ∨
    ∃ k, m = raisedMeter k := by
  induction n with
  | zero =>
    intro m hm
    exact .inr ⟨0, List.mem_singleton.mp hm⟩
  | succ n ih =>
    intro m hm
    simp only [raisedMeter, nodes, List.mem_cons, List.mem_append, List.not_mem_nil, or_false] at hm
    rcases hm with rfl | hm | rfl
    · exact .inr ⟨n + 1, rfl⟩
    · exact ih m hm
    · exact .inl rfl

theorem derivable_raisedMeter (n : Nat) : (raisedMeter n).Derivable ∧ (raisedMeter n).Closed := by
  induction n with
  | zero => exact ⟨canonical_ofBase rfl, by simp [Closed, raisedMeter, nodes]⟩
  | succ n ih => exact ⟨⟨rfl, ih.1, trivial⟩, closed_bin_iff.mpr ⟨ih.2, by simp [Closed, nodes]⟩⟩

/-- The degree of a meter that is raised fourteen times has 4313 digits. No variable is left, there
is a dimension, nothing folds and no power of a factor is taken, and yet there is no unit. -/
theorem inferUnit_raisedMeter_fails :
    let e := raisedMeter 14
    (e.Valid ∧ e.Derivable) ∧
      (e.Closed ∧ (∃ d, e.dimension? Arithmetic.machine = some d) ∧
        e.Unmixed Arithmetic.machine .unitProduct) ∧
      ((inferUnit Arithmetic.machine e).perform {}).1 = .error .precision ∧
        ¬ Fault.IsPower Arithmetic.machine .precision := by
  intro e
  obtain ⟨hd, hc⟩ := derivable_raisedMeter 14
  have hderived : ((derivedUnit Arithmetic.machine e).yield?.any fun u => !u.isUnknown) = true := by
    decide +kernel
  obtain ⟨u, hu, hknown⟩ := (Option.any_eq_true _ _).mp hderived
  have hdimension := (hd.dimension?_of_derivedUnit hu (by simpa using hknown)).2
  have hunmixed : e.Unmixed Arithmetic.machine .unitProduct := by
    intro l r hlr
    rcases nodes_raisedMeter 14 _ hlr with hm | ⟨k, hm⟩
    · cases hm
    · cases k <;> cases hm
  have hfails : ((inferUnit Arithmetic.machine e).perform {}).1 = .error .precision := by
    decide +kernel
  refine ⟨⟨rfl, hd⟩, ⟨hc, ⟨_, hdimension⟩, hunmixed⟩, hfails, ?_⟩
  rintro ⟨a, b, ha, hf⟩
  cases factorFails_eq_overflow ha hf

end Dimension

end Expr

end Quantities
