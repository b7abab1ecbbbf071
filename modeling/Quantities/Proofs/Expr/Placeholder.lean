import Quantities.Proofs.Expr.Magnitude

namespace Quantities

variable {ν : Type}

namespace Expr

/-- The parts of a node that are read as numbers. -/
def numbers : Expr ν → List (Expr ν)
  | neg e => [e]
  | bin op l r =>
    match op with
    | .add | .sub | .mul | .div => [l, r]
    | .quantity | .convert => [l]
    | .power => [r]
    | _ => []
  | _ => []

/-- A node that only describes a unit. -/
inductive UnitOnly : Expr ν → Prop
  | unit (u : CompoundUnit) : UnitOnly (unit u)
  | power (l r : Expr ν) : UnitOnly (bin .power l r)
  | product (l r : Expr ν) : UnitOnly (bin .unitProduct l r)
  | quotient (l r : Expr ν) : UnitOnly (bin .unitQuotient l r)
  | division {l r : Expr ν} (hl : l.kind.isUnit = true) (hr : r.kind.isUnit = true) :
      UnitOnly (bin .div l r)

/-- No unit stands where a number is read. -/
def Placed (e : Expr ν) : Prop := ∀ n ∈ e.nodes, ∀ c ∈ n.numbers, c.isUnit = false

section Placed

variable {e l r n m : Expr ν} {op : Kind}

theorem isUnit_of_kind (h : e.kind.isUnit = true) : e.isUnit = true := by
  cases e with
  | bin op l r => cases op <;> first | rfl | cases h
  | _ => first | rfl | cases h

theorem UnitOnly.isUnit_eq_true (h : e.UnitOnly) : e.isUnit = true := by
  cases h with
  | division hl hr => rw [isUnit, isUnit_of_kind hl, isUnit_of_kind hr, Bool.and_self]
  | _ => rfl

theorem Placed.of_mem_nodes (h : e.Placed) (hn : n ∈ e.nodes) : n.Placed :=
  fun _ hm => h _ (mem_nodes_trans hn hm)

theorem placed_neg_iff : (neg e).Placed ↔ e.isUnit = false ∧ e.Placed := by
  simp [Placed, nodes, numbers]

theorem placed_assign_iff : (assign l r).Placed ↔ l.Placed ∧ r.Placed := by
  simp [Placed, nodes, numbers, or_imp, forall_and]

theorem placed_bin_iff : (bin op l r).Placed ↔
    (∀ c ∈ (bin op l r).numbers, c.isUnit = false) ∧ l.Placed ∧ r.Placed := by
  simp [Placed, nodes, or_imp, forall_and]

theorem Placed.isUnit_eq (h : e.Placed) :
    e.isUnit = e.kind.isUnit ∧ e.isNumber = e.kind.isNumber := by
  cases e with
  | bin op l r =>
    cases op with
    | div =>
      have hl : l.isUnit = false := (placed_bin_iff.mp h).1 l (by simp [numbers])
      have hunit : (bin .div l r).isUnit = false := by rw [isUnit, hl, Bool.false_and]
      exact ⟨hunit, by rw [isNumber, hunit]; rfl⟩
    | _ => exact ⟨rfl, rfl⟩
  | _ => exact ⟨rfl, rfl⟩

theorem Placed.isUnit_eq_false (h : e.Placed) (hn : e.isNumber = true) : e.isUnit = false := by
  rw [h.isUnit_eq.2] at hn
  rw [h.isUnit_eq.1]
  exact Kind.not_isUnit_of_isNumber hn

theorem Joined.of_mem_nodes (h : e.Joined) (hn : n ∈ e.nodes) : n.Joined := by
  induction e with
  | neg e ih =>
    rcases List.mem_cons.mp hn with rfl | hn
    · exact h
    · exact ih h hn
  | bin op l r ihl ihr =>
    rcases List.mem_cons.mp hn with rfl | hn
    · exact h
    · exact (List.mem_append.mp hn).elim (ihl h.2.1) (ihr h.2.2)
  | assign l r ihl ihr =>
    rcases List.mem_cons.mp hn with rfl | hn
    · exact h
    · exact (List.mem_append.mp hn).elim (ihl h.1) (ihr h.2)
  | _ =>
    obtain rfl := List.mem_singleton.mp hn
    exact h

end Placed

section Values

variable (A : Arithmetic ν) (p : Stage ν)

/-- The unit of two operands, of which the right one may be a degree, once it has been written. -/
def unitOfParts (op : Kind) (a b : Stage CompoundUnit) (degree : Stage ν) : Stage CompoundUnit := do
  let a ← a
  let b ← b
  let u ← operandUnit A op degree a b
  u.written

/-- The value of two operands, where that of a unit is asked of `p`. -/
def valueOfParts (op : Kind) (areUnits : Bool) (a b : Stage CompoundUnit) (x y : Stage ν) :
    Stage ν := do
  match op with
  | .power | .unitProduct | .unitQuotient => p
  | .quantity => x
  | .convert =>
    let x ← x
    let a ← a
    let b ← b
    return A.mul x (← a.recordedFactor A b)
  | .mul => return A.mul (← x) (← y)
  | op =>
    if op = .div && areUnits then p
    else
      let x ← x
      let y ← y
      let b ← b
      let a ← a
      jointValue A op x (A.mul y (← b.recordedFactor A a))

mutual

/-- The unit of an expression where the value of a unit is asked of `p`. -/
def inferUnitWith : Expr ν → Stage CompoundUnit
  | bin op l r => unitOfParts A op (inferUnitWith l) (inferUnitWith r) (evaluateWith r)
  | neg e => inferUnitWith e
  | assign _ v => inferUnitWith v
  | e => inferUnit A e

/-- The value of an expression where that of a unit is asked of `p`, which may give any number, or
none at all. -/
def evaluateWith : Expr ν → Stage ν
  | unit _ => p
  | neg e => return A.neg (← evaluateWith e)
  | bin op l r => valueOfParts A p op (l.isUnit && r.isUnit) (inferUnitWith l) (inferUnitWith r)
      (evaluateWith l) (evaluateWith r)
  | e => evaluate A e

end

variable {A}

theorem inferUnitWith_zero_and_evaluateWith_zero (e : Expr ν) :
    inferUnitWith A (pure A.zero) e = inferUnit A e ∧
      evaluateWith A (pure A.zero) e = evaluate A e := by
  induction e with
  | neg e ih =>
    rw [inferUnitWith, evaluateWith, inferUnit, evaluate, ih.1, ih.2]
    exact ⟨rfl, rfl⟩
  | assign t v _ ih =>
    rw [inferUnitWith, inferUnit, ih.1]
    exact ⟨rfl, rfl⟩
  | bin op l r ihl ihr =>
    rw [inferUnitWith, evaluateWith, inferUnit_bin, evaluate_bin, ihl.1, ihl.2, ihr.1, ihr.2]
    exact ⟨rfl, by cases op <;> rfl⟩
  | _ => exact ⟨rfl, rfl⟩

/-- Where no unit stands where a number is read, numbers and the degrees of units are computed
without the value of any unit. -/
theorem Placed.inferUnitWith_eq_and_evaluateWith_eq {e : Expr ν} (h : e.Placed) (hj : e.Joined)
    (q : Stage ν) : inferUnitWith A p e = inferUnitWith A q e ∧
      (e.isUnit = false → evaluateWith A p e = evaluateWith A q e) := by
  induction e with
  | unit u => exact ⟨rfl, fun hu => by cases hu⟩
  | neg e ih =>
    obtain ⟨hu, he⟩ := placed_neg_iff.mp h
    obtain ⟨hunit, hvalue⟩ := ih he hj
    exact ⟨hunit, fun _ => by rw [evaluateWith, evaluateWith, hvalue hu]⟩
  | assign t v _ ih => exact ⟨(ih (placed_assign_iff.mp h).2 hj.2).1, fun _ => rfl⟩
  | bin op l r ihl ihr =>
    obtain ⟨hop, hjl, hjr⟩ := hj
    obtain ⟨hparts, hl, hr⟩ := placed_bin_iff.mp h
    obtain ⟨hunitl, hvaluel⟩ := ihl hl hjl
    obtain ⟨hunitr, hvaluer⟩ := ihr hr hjr
    have hleft (hc : l ∈ (bin op l r).numbers) := hvaluel (hparts l hc)
    have hright (hc : r ∈ (bin op l r).numbers) := hvaluer (hparts r hc)
    rw [inferUnitWith, inferUnitWith, evaluateWith, evaluateWith, hunitl, hunitr]
    constructor
    · by_cases hp : op = .power
      · subst hp
        rw [hright (by simp [numbers])]
      · simp [unitOfParts, operandUnit, hp]
    · intro hu
      cases op with
      | quantity | convert =>
        rw [hleft (by simp [numbers])]
        rfl
      | add | sub | mul =>
        rw [hleft (by simp [numbers]), hright (by simp [numbers])]
        rfl
      | div =>
        rw [hleft (by simp [numbers]), hright (by simp [numbers]), hparts l (by simp [numbers])]
        rfl
      | power | unitProduct | unitQuotient => cases hu
      | _ => cases hop
  | _ => exact ⟨rfl, fun _ => rfl⟩

theorem Placed.evaluateWith_eq {e : Expr ν} (h : e.Placed) (hj : e.Joined)
    (hu : e.isUnit = false) : evaluateWith A p e = evaluate A e := by
  rw [(h.inferUnitWith_eq_and_evaluateWith_eq p hj (pure A.zero)).2 hu,
    (inferUnitWith_zero_and_evaluateWith_zero e).2]

end Values

end Expr

section Lines

open Quantities.Expr

variable {s : Store ν} {w : List (Token ν)} {e : Expr ν} {N : Nonterminal}

theorem Binding.placed (b : Binding ν) : b.expr.Placed := by
  cases b <;> simp [Binding.expr, quantity, Placed, nodes, numbers, isUnit, Expr.kind, Kind.isUnit]

theorem Numeral.placed {t : Lexeme ν} (h : Numeral s t e) :
    (e.substitute s).Placed ∧ (e.substitute s).isUnit = false := by
  refine ⟨?_, h.numeric.isUnit_eq_false⟩
  rcases h.substitute_eq with ⟨x, hx⟩ | ⟨x, u, hx⟩ <;> rw [hx]
  · simp [Placed, nodes, numbers]
  · exact (Binding.number x u).placed

theorem Phrase.placed (h : Phrase s N w e) : (e.substitute s).Placed := by
  have isUnit_eq_false {w : List (Token ν)} {e : Expr ν} {N : Nonterminal} (h : Phrase s N w e)
      (hN : N = .signed ∨ N = .product ∨ N = .sum) : (e.substitute s).isUnit = false :=
    (h.numeric hN).isUnit_eq_false
  induction h with
  | word h =>
    obtain ⟨u, hu⟩ := h.substitute_eq
    rw [hu]
    exact (Binding.unit u).placed
  | number h => exact h.placed.1
  | raised hl hr ih =>
    exact placed_bin_iff.mpr ⟨by simpa [numbers] using hr.placed.2, ih, hr.placed.1⟩
  | raisedMinus hl hr ih =>
    have hdegree := placed_neg_iff.mpr hr.placed.symm
    exact placed_bin_iff.mpr ⟨by simp [numbers, substitute, isUnit, Expr.kind, Kind.isUnit], ih, hdegree⟩
  | ofPower h ih | ofCompound h ih | ofSigned h ih | ofProduct h ih | ofUnit h ih | ofSum h ih
  | ofExpression h ih => exact ih
  | adjacent hl hr ihl ihr | stroke hl hr ihl ihr =>
    exact placed_bin_iff.mpr ⟨by simp [numbers], ihl, ihr⟩
  | minus h ih => exact placed_neg_iff.mpr ⟨isUnit_eq_false h (.inl rfl), ih⟩
  | quantity hl hr ih =>
    exact placed_bin_iff.mpr ⟨by simpa [numbers] using hl.placed.2, hl.placed.1, ih⟩
  | times hl hr ihl ihr | divided hl hr ihl ihr =>
    have hnl := isUnit_eq_false hl (.inr (.inl rfl))
    have hnr := isUnit_eq_false hr (.inl rfl)
    exact placed_bin_iff.mpr ⟨by simp [numbers, hnl, hnr], ihl, ihr⟩
  | plus hl hr ihl ihr | less hl hr ihl ihr =>
    have hnl := isUnit_eq_false hl (.inr (.inr rfl))
    have hnr := isUnit_eq_false hr (.inr (.inl rfl))
    exact placed_bin_iff.mpr ⟨by simp [numbers, hnl, hnr], ihl, ihr⟩
  | converted hl hr ihl ihr =>
    have hnl := isUnit_eq_false hl (.inr (.inr rfl))
    exact placed_bin_iff.mpr ⟨by simp [numbers, hnl], ihl, ihr⟩
  | blank | quit | help => simp [substitute, Placed, nodes, numbers]
  | named =>
    rw [substitute]
    split
    next b _ => exact b.placed
    next => simp [Placed, nodes, numbers]
  | assignment h ih => exact placed_assign_iff.mpr ⟨by simp [Placed, nodes, numbers], ih⟩

end Lines

namespace Expr

variable (A : Arithmetic ν)

/-- In a line that passes the check no unit stands where a number is read. So the kind of a node,
the root among them, tells whether it is a number or a unit, and every number in it is computed
without asking for the value of a unit: it would be the same whatever that value were, and if asking
for it failed. -/
theorem evaluateWith_eq_of_valid (s : Store ν) (limit : Int) (line : String) :
    let e := (ofLine s.reference A limit line).substitute s
    (e.checkValid.perform {}).1 = .ok true →
      ∀ n ∈ e.nodes, (∀ c ∈ n.numbers, ¬ c.UnitOnly) ∧
        n.isNumber = n.kind.isNumber ∧ n.isUnit = n.kind.isUnit ∧
        (n.isNumber = true → ∀ p, evaluateWith A p n = evaluate A n) := by
  intro e hv n hn
  obtain ⟨w, pos, -, hphrase⟩ := isLine_of_valid A (checkValid_eq_true_iff.mp hv)
  have hj : e.Joined := joined_substitute (joined_ofTokens _ _) s
  have hplaced : n.Placed := hphrase.placed.of_mem_nodes hn
  refine ⟨fun c hc hunit => ?_, hplaced.isUnit_eq.2, hplaced.isUnit_eq.1, fun hnumber p => ?_⟩
  · have hnot := hplaced n (mem_nodes_self n) c hc
    rw [hunit.isUnit_eq_true] at hnot
    cases hnot
  · exact hplaced.evaluateWith_eq p (hj.of_mem_nodes hn) (hplaced.isUnit_eq_false hnumber)

/-- The first stroke divides numbers and the second one units. Even if units had no value, there
would be a quotient. -/
theorem evaluateWith_eq_of_two_strokes :
    let A := Arithmetic.exact thousandMeters fun _ _ => ""
    let s : Store ℚ := (Store.empty.insert "x" (.number 6 (.ofBase .kilometer))).insert "u"
      (.unit (.ofBase .second))
    let e := (ofLine s.reference A 100 "-x / 2 m / u ^ 2").substitute s
    ((e.checkValid.perform {}).1 = .ok true ∧ e.isNumber = true) ∧
      (∀ c ∈ e.numbers, ¬ c.UnitOnly) ∧
      evaluateWith A (throw .zeroPower) e = evaluate A e ∧
      ((evaluateWith A (throw .zeroPower) e).perform {}).1.toOption = some (-3000) := by
  intro A s e
  have he : e = bin .div (neg (quantity 6 (.ofBase .kilometer))) (bin .quantity (const 2)
      (bin .unitQuotient (unit (.ofBase .meter))
        (bin .power (unit (.ofBase .second)) (const 2)))) := by
    decide +kernel
  have hv : (e.checkValid.perform {}).1 = .ok true := checkValid_eq_true_iff.mpr (by rw [he]; rfl)
  have hn : e.isNumber = true := by rw [he]; rfl
  have hvalue : ((evaluate A e).perform {}).1.toOption = some (-3000) := by
    rw [he]
    decide +kernel
  obtain ⟨hparts, -, -, hsame⟩ :=
    evaluateWith_eq_of_valid A s 100 "-x / 2 m / u ^ 2" hv e (mem_nodes_self e)
  exact ⟨⟨hv, hn⟩, hparts, hsame hn _, (hsame hn _) ▸ hvalue⟩

end Expr

end Quantities
