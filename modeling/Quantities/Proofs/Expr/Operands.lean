import Quantities.Expr.Evaluate
import Quantities.Proofs.Stage

namespace Quantities.Expr

variable {ν : Type} (A : Arithmetic ν)

/-- The unit of two operands once it has been written. -/
def writtenUnit (op : Kind) (r : Expr ν) (a b : CompoundUnit) : Stage CompoundUnit := do
  let u ← operandUnit A op (evaluate A r) a b
  u.written

theorem inferUnit_bin (op : Kind) (l r : Expr ν) : inferUnit A (bin op l r) =
    inferUnit A l >>= fun a => inferUnit A r >>= fun b => writtenUnit A op r a b := by
  rw [inferUnit]
  rfl

/-- The unit of an expression as it is derived. That of two operands is not written yet. -/
def derivedUnit : Expr ν → Stage CompoundUnit
  | bin op l r => do
    let a ← inferUnit A l
    let b ← inferUnit A r
    operandUnit A op (evaluate A r) a b
  | e => inferUnit A e

theorem inferUnit_bin_eq_derivedUnit (op : Kind) (l r : Expr ν) : inferUnit A (bin op l r) =
    derivedUnit A (bin op l r) >>= fun u => liftM u.written := by
  rw [inferUnit_bin, derivedUnit, bind_assoc]
  simp only [bind_assoc]
  rfl

/-- The value of two operands of which the right one is converted into the unit of the left. -/
def alignedValue (op : Kind) (l r : Expr ν) : Stage ν := do
  let x ← evaluate A l
  let y ← evaluate A r
  let b ← inferUnit A r
  let a ← inferUnit A l
  jointValue A op x (A.mul y (← b.recordedFactor A a))

theorem evaluate_bin (op : Kind) (l r : Expr ν) : evaluate A (bin op l r) = match op with
    | .power | .unitProduct | .unitQuotient => pure A.zero
    | .quantity => evaluate A l
    | .convert => do
      let x ← evaluate A l
      let a ← inferUnit A l
      let b ← inferUnit A r
      return A.mul x (← a.recordedFactor A b)
    | .mul => do return A.mul (← evaluate A l) (← evaluate A r)
    | op => if op = .div && l.isUnit && r.isUnit then pure A.zero else alignedValue A op l r := by
  cases op <;> rfl

theorem evaluate_eq_alignedValue {op : Kind} {l r : Expr ν}
    (hop : op = .add ∨ op = .sub ∨ op = .div) (hu : op = .div → (l.isUnit && r.isUnit) = false) :
    evaluate A (bin op l r) = alignedValue A op l r := by
  rw [evaluate_bin]
  rcases hop with rfl | rfl | rfl
  · rfl
  · rfl
  · simp [hu rfl]

section Words

variable {r ρ : Report} {u a b : CompoundUnit} {d : Diagnostic} {m : Mismatch}

theorem rejectUnit_of_isWritable (h : d.isWritable = true) :
    rejectUnit d = Stage.report d >>= fun _ => pure .unknown := by
  simp [rejectUnit, h]

theorem rejectUnit_of_not_isWritable (h : d.isWritable = false) :
    rejectUnit d = throw .precision := by
  simp [rejectUnit, h]

theorem rejectMismatch_of_not_isWritable (h : m.isWritable = false) :
    rejectMismatch m d = throw .precision := by
  simp [rejectMismatch, h]

theorem rejectMismatch_of_isWritable (h : m.isWritable = true) :
    rejectMismatch m d = rejectUnit d := by
  simp [rejectMismatch, h]

theorem perform_rejectUnit_eq_ok_iff :
    (rejectUnit d).perform r = (.ok u, ρ) ↔
      d.isWritable = true ∧ u = .unknown ∧ ρ = r.add d := by
  cases h : d.isWritable with
  | true =>
    rw [rejectUnit_of_isWritable h, Stage.perform_bind]
    simp [eq_comm]
  | false => simp [rejectUnit_of_not_isWritable h]

theorem perform_rejectMismatch_eq_ok_iff :
    (rejectMismatch m d).perform r = (.ok u, ρ) ↔
      m.isWritable = true ∧ (rejectUnit d).perform r = (.ok u, ρ) := by
  cases h : m.isWritable with
  | true => simp [rejectMismatch_of_isWritable h]
  | false => simp [rejectMismatch_of_not_isWritable h]

theorem perform_writtenUnit_eq_ok_iff {op : Kind} {e : Expr ν} :
    (writtenUnit A op e a b).perform r = (.ok u, ρ) ↔
      (operandUnit A op (evaluate A e) a b).perform r = (.ok u, ρ) ∧ u.isWritable = true := by
  rw [writtenUnit, Stage.perform_bind_eq_ok_iff]
  constructor
  · rintro ⟨v, ρ', hv, hu⟩
    rw [Stage.perform_liftExcept, Prod.mk.injEq, CompoundUnit.written_eq_ok_iff] at hu
    obtain ⟨⟨hwritable, rfl⟩, rfl⟩ := hu
    exact ⟨hv, hwritable⟩
  · rintro ⟨hu, hwritable⟩
    refine ⟨u, ρ, hu, ?_⟩
    rw [Stage.perform_liftExcept, CompoundUnit.written_eq_ok_iff.mpr ⟨hwritable, rfl⟩]

end Words

end Quantities.Expr
