import Quantities.Proofs.Expr.Dimension

namespace Quantities

namespace Expr

variable {ν : Type}

/-- An expression whose operands are numbers at every operator that calculates. -/
def Numeric : Expr ν → Prop
  | const _ => True
  | neg e => e.Numeric
  | bin op l r =>
    match op with
    | .quantity | .convert => l.Numeric
    | .add | .sub | .mul | .div => l.Numeric ∧ r.Numeric
    | _ => False
  | _ => False

theorem Numeric.isUnit_eq_false {e : Expr ν} (h : e.Numeric) : e.isUnit = false := by
  induction e with
  | bin op l r ihl =>
    cases op with
    | div => rw [isUnit, ihl h.1, Bool.false_and]
    | _ => first | rfl | cases h
  | _ => first | rfl | cases h

end Expr

section Lines

variable {ν : Type} {s : Store ν} {w : List (Token ν)} {e : Expr ν}

theorem Numeral.numeric {t : Lexeme ν} (h : Numeral s t e) : (e.substitute s).Numeric := by
  rcases h.substitute_eq with ⟨x, hx⟩ | ⟨x, u, hx⟩ <;> rw [hx] <;> trivial

theorem Phrase.numeric {N : Nonterminal} (h : Phrase s N w e)
    (hN : N = .signed ∨ N = .product ∨ N = .sum) : (e.substitute s).Numeric := by
  induction h with
  | number h => exact h.numeric
  | minus h ih => exact ih (.inl rfl)
  | quantity hl hr ih => exact hl.numeric
  | ofSigned h ih => exact ih (.inl rfl)
  | ofProduct h ih => exact ih (.inr (.inl rfl))
  | times hl hr ihl ihr | divided hl hr ihl ihr => exact ⟨ihl (.inr (.inl rfl)), ihr (.inl rfl)⟩
  | plus hl hr ihl ihr | less hl hr ihl ihr =>
    exact ⟨ihl (.inr (.inr rfl)), ihr (.inr (.inl rfl))⟩
  | _ => simp at hN

theorem Phrase.isNumber_eq_false (h : Phrase s .unit w e) : (e.substitute s).isNumber = false := by
  have hk : (e.substitute s).kind.isUnit = true := h.valid.2 (by decide)
  cases he : e.substitute s with
  | bin op l r =>
    rw [he] at hk
    cases op <;> first | rfl | cases hk
  | _ => first | rfl | (rw [he] at hk; cases hk)

theorem Phrase.numeric_of_expression (h : Phrase s .expression w e)
    (hn : (e.substitute s).isNumber = true) : (e.substitute s).Numeric := by
  cases h with
  | ofUnit h =>
    rw [h.isNumber_eq_false] at hn
    cases hn
  | ofSum h => exact h.numeric (.inr (.inr rfl))
  | converted hl hr => exact hl.numeric (.inr (.inr rfl))

theorem Phrase.numeric_of_statement (hs : s.Canonical) (h : Phrase s .statement w e)
    (hw : ∀ t ∈ w, t.IsLiteral) (hn : (e.substitute s).isNumber = true) :
    (e.substitute s).Numeric ∧ (e.substitute s).Computable := by
  cases h with
  | blank | quit | help | assignment => cases hn
  | named =>
    rw [Expr.substitute] at hn ⊢
    split at hn
    next b hb =>
      have hc := hs.get? hb
      cases b with
      | number x u => exact ⟨trivial, rfl, by simp, trivial, hc⟩
      | unit u => cases hn
    next => cases hn
  | ofExpression h =>
    exact ⟨h.numeric_of_expression hn, h.computable hs (by decide) hw⟩

end Lines

namespace Expr

open CompoundUnit hiding none

section Known

variable {ν : Type} {A : Arithmetic ν} {e l r : Expr ν} {op : Kind} {u a b : CompoundUnit}

theorem unit_of_convert (ha : a.Canonical) (hb : b.Canonical)
    (h : (jointUnit .convert a b).yield? = some u) : u = b ∧ a.degree = b.degree := by
  simp only [jointUnit] at h
  split at h
  · rw [yield?_rejectMismatch] at h
    cases h
  next hmatch =>
    cases h
    exact ⟨rfl, (mismatch?_eq_none_iff_degree ha hb).mp hmatch⟩

theorem unit_of_sum (hop : op = .add ∨ op = .sub) (ha : a.Canonical) (hb : b.Canonical)
    (h : (jointUnit op a b).yield? = some u) : u = a ∧ b.degree = a.degree := by
  rcases hop with rfl | rfl <;> simp only [jointUnit] at h <;> split at h
  all_goals
    first
    | next hmatch =>
        cases h
        exact ⟨rfl, (mismatch?_eq_none_iff_degree hb ha).mp hmatch⟩
    | (rw [yield?_rejectMismatch] at h; cases h)

/-- The unit of a number has been written, for only a bare unit is none of operands. -/
theorem Numeric.isWritable_of_unit? (h : e.Numeric) (hu : e.unit? A = some u) :
    u.isWritable = true := by
  induction e with
  | const x =>
    rw [unit?_const] at hu
    cases hu
    rfl
  | neg e ih =>
    rw [unit?_neg] at hu
    exact ih h hu
  | bin op l r =>
    obtain ⟨_, _, _, _, _, _, hwritable⟩ := unit?_bin_eq_some_iff.mp hu
    exact hwritable
  | _ => cases h

theorem Numeric.isWritable_of_operands (h : (bin op l r).Numeric) (hd : (bin op l r).Derivable)
    (hq : op ≠ .quantity) (hu : (bin op l r).unit? A = some u) (ha : l.unit? A = some a)
    (hb : r.unit? A = some b) : a.isWritable = true ∧ b.isWritable = true := by
  cases op with
  | quantity => exact absurd rfl hq
  | convert =>
    obtain ⟨a', b', ha', hb', hjoint, _, hwritable⟩ := unit?_bin_eq_some_iff.mp hu
    rw [ha] at ha'
    rw [hb] at hb'
    cases ha'
    cases hb'
    obtain ⟨rfl, -⟩ := unit_of_convert (hd.2.1.canonical_of_unit? ha).1
      (hd.2.2.canonical_of_unit? hb).1 hjoint
    have hl : l.Numeric := h
    exact ⟨hl.isWritable_of_unit? ha, hwritable⟩
  | add | sub | mul | div => exact ⟨h.1.isWritable_of_unit? ha, h.2.isWritable_of_unit? hb⟩
  | _ => cases h

theorem Computable.returns_operandUnit (hpower : op = .power → r.IsDegree)
    (hu : jointUnit? (A := A) op r a b = some u) (hknown : u.isUnknown = false) :
    (operandUnit A op (evaluate A r) a b).Returns fun v => v = u ∨ v = unknown := by
  unfold operandUnit
  unfold jointUnit? at hu
  split
  · exact Stage.returns_pure (.inr rfl)
  · by_cases hp : op = .power
    · rw [if_pos hp] at hu ⊢
      split at hu
      next hallowed =>
        obtain ⟨x, hx⟩ := (hpower hp).exists_evaluate_eq A
        obtain ⟨n, hn, rfl⟩ := Option.map_eq_some_iff.mp hu
        have hwhole : A.whole? x = some n := by simpa [wholeValue?, hx] using hn
        rw [if_pos hallowed, hx, pure_bind]
        refine Stage.returns_failed.bind fun failed _ => ?_
        rw [hwhole]
        split
        · exact Stage.returns_pure (.inr rfl)
        · exact Stage.returns_pure (.inl rfl)
      next => cases hu
    · rw [if_neg hp] at hu ⊢
      rw [eq_pure_of_jointUnit (Stage.yield?_eq_some_iff.mp hu) hknown]
      exact Stage.returns_pure (.inl rfl)

/-- The unit of an expression is derived again after any report, unless a report keeps a power from
being taken. -/
theorem Computable.returns_inferUnit_of_unit? (h : e.Computable) (hu : e.unit? A = some u) :
    (inferUnit A e).Returns fun v => v = u ∨ v = unknown := by
  induction e generalizing u with
  | const x =>
    rw [unit?_const] at hu
    cases hu
    exact Stage.returns_pure (.inl rfl)
  | unit v =>
    rw [unit?_unit (Canonical.isUnknown_eq_false h)] at hu
    cases hu
    exact Stage.returns_pure (.inl rfl)
  | neg e ih =>
    rw [unit?_neg] at hu
    rw [inferUnit]
    exact ih h hu
  | bin op l r ihl ihr =>
    obtain ⟨hop, hpower, hl, hr⟩ := h
    obtain ⟨a, b, ha, hb, hjoint, hknown, hwritable⟩ := unit?_bin_eq_some_iff.mp hu
    have hunknown (a' b' : CompoundUnit) (h : a' = unknown ∨ b' = unknown) :
        (writtenUnit A op r a' b').Returns fun v => v = u ∨ v = unknown := by
      have hpure : writtenUnit A op r a' b' = pure unknown := by
        unfold writtenUnit operandUnit
        rcases h with rfl | rfl <;> simp <;> rfl
      rw [hpure]
      exact Stage.returns_pure (.inr rfl)
    rw [inferUnit_bin]
    refine (ihl hl ha).bind fun a' ha' => (ihr hr hb).bind fun b' hb' => ?_
    rcases ha' with rfl | rfl
    · rcases hb' with rfl | rfl
      · refine (returns_operandUnit hpower hjoint hknown).bind fun v hv => ?_
        have hw : v.isWritable = true := by
          rcases hv with rfl | rfl
          · exact hwritable
          · rfl
        rw [CompoundUnit.written_eq_ok_iff.mpr ⟨hw, rfl⟩]
        exact Stage.returns_pure hv
      · exact hunknown _ _ (.inr rfl)
    · exact hunknown _ _ (.inl rfl)
  | _ => cases h

/-- The units between which a number converts are derived again after any report, and they have been
written. -/
theorem Numeric.returns_units_of_operands (h : (bin op l r).Numeric)
    (hc : (bin op l r).Computable) (hq : op ≠ .quantity) (hu : (bin op l r).unit? A = some u) :
    (inferUnit A l).Returns (fun v => v.Derived ∧ v.isWritable = true) ∧
      (inferUnit A r).Returns fun v => v.Derived ∧ v.isWritable = true := by
  obtain ⟨a, b, ha, hb, -⟩ := unit?_bin_eq_some_iff.mp hu
  obtain ⟨hwa, hwb⟩ := h.isWritable_of_operands hc.derivable hq hu ha hb
  obtain ⟨-, -, hcl, hcr⟩ := hc
  have again {u v : CompoundUnit} (hu : u.Canonical) (hw : u.isWritable = true)
      (hv : v = u ∨ v = unknown) : v.Derived ∧ v.isWritable = true := by
    rcases hv with rfl | rfl
    · exact ⟨hu.derived, hw⟩
    · exact ⟨derived_unknown, rfl⟩
  exact ⟨(hcl.returns_inferUnit_of_unit? ha).mono fun _ =>
      again (hcl.derivable.canonical_of_unit? ha).1 hwa,
    (hcr.returns_inferUnit_of_unit? hb).mono fun _ =>
      again (hcr.derivable.canonical_of_unit? hb).1 hwb⟩

theorem Computable.evaluate_of_isNumber_eq_false (h : e.Computable) (hn : e.isNumber = false) :
    evaluate A e = pure A.zero := by
  cases e with
  | unit u => rw [evaluate]
  | bin op l r =>
    rw [evaluate_bin]
    cases op with
    | div =>
      have hunits : (l.isUnit && r.isUnit) = true := by simpa [isNumber, isUnit] using hn
      simp [hunits]
    | power | unitProduct | unitQuotient => rfl
    | quantity | convert | mul | add | sub => cases hn
    | _ => cases h.1
  | const | neg => cases hn
  | _ => cases h

end Known

end Expr

end Quantities
