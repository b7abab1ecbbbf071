import Quantities.Proofs.Expr.Magnitude

namespace Quantities

variable {ν : Type} (A : Arithmetic ν)

namespace Stage

variable {α β : Type} {d : Diagnostic} {P Q : Prop}

/-- A stage that reports nothing where a condition holds and one diagnostic where it does not,
unless it ends in a fault. -/
def Tells (s : Stage α) (d : Diagnostic) (P : Prop) : Prop :=
  ∀ x ρ, s.perform {} = (.ok x, ρ) → (ρ = {} ∧ P) ∨ (ρ = ⟨some d⟩ ∧ ¬ P)

theorem tells_pure (a : α) (h : P) : (pure a : Stage α).Tells d P := by
  intro x ρ hx
  cases hx
  exact .inl ⟨rfl, h⟩

theorem Tells.bind {s : Stage α} {f : α → Stage β} (hs : s.Tells d P) (hf : ∀ a, (f a).Steady)
    (h : ∀ a, s.perform {} = (.ok a, {}) → (f a).Tells d Q) : (s >>= f).Tells d (P ∧ Q) := by
  intro x ρ hx
  obtain ⟨a, r, ha, hx⟩ := perform_bind_eq_ok_iff.mp hx
  rcases hs a r ha with ⟨rfl, hP⟩ | ⟨rfl, hP⟩
  · rcases h a ha x ρ hx with ⟨rfl, hQ⟩ | ⟨rfl, hQ⟩
    · exact .inl ⟨rfl, hP, hQ⟩
    · exact .inr ⟨rfl, fun h => hQ h.2⟩
  · have hkept := hf a ⟨some d⟩ rfl
    rw [hx] at hkept
    exact .inr ⟨hkept, fun h => hP h.1⟩

theorem Tells.of_bind_eq_ok {s : Stage α} {f : α → Stage β} {a : α} (hs : s.perform {} = (.ok a, {}))
    (h : (f a).Tells d P) : (s >>= f).Tells d P := by
  intro x ρ hx
  rw [perform_bind_of_ok hs] at hx
  exact h x ρ hx

theorem Tells.liftExcept_bind {y : Except Fault α} {f : α → Stage β}
    (h : ∀ a, y = .ok a → (f a).Tells d P) : ((liftM y : Stage α) >>= f).Tells d P := by
  cases y with
  | ok a => exact Tells.of_bind_eq_ok (a := a) rfl (h a rfl)
  | error e =>
    intro x ρ hx
    cases hx

end Stage

namespace Expr

open CompoundUnit hiding none

/-- The two sides of every division that evaluating an expression carries out. -/
def divisions : Expr ν → List (Expr ν × Expr ν)
  | neg e => e.divisions
  | bin op l r =>
    match op with
    | .power | .unitProduct | .unitQuotient => []
    | .quantity | .convert => l.divisions
    | .div => if l.isUnit && r.isUnit then [] else l.divisions ++ r.divisions ++ [(l, r)]
    | _ => l.divisions ++ r.divisions
  | _ => []

/-- What a division divides by: the value of its right side in the unit of its left side. -/
def divisor? (l r : Expr ν) : Option ν := do
  let y ← ((evaluate A r).perform {}).1.toOption
  let b ← r.unit? A
  let a ← l.unit? A
  let f ← (b.conversionFactor A a).toOption
  return A.mul y f

/-- Whether a division has a divisor other than zero. -/
def Defined (p : Expr ν × Expr ν) : Prop := ∃ y, p.1.divisor? A p.2 = some y ∧ A.isZero y = false

section Evaluate

variable {A} {e l r : Expr ν} {u a b : CompoundUnit} {op : Kind} {d : Diagnostic} {P : Prop}

theorem perform_inferUnit (h : e.unit? A = some u) : (inferUnit A e).perform {} = (.ok u, {}) :=
  Stage.yield?_eq_some_iff.mp (unit?_eq_some_iff.mp h).1

theorem tells_converted {k : ν → Stage ν} (ha : l.unit? A = some a) (hb : r.unit? A = some b)
    (h : ∀ f, a.conversionFactor A b = .ok f → (k f).Tells d P) : Stage.Tells (do
      let a ← inferUnit A l
      let b ← inferUnit A r
      k (← a.recordedFactor A b)) d P :=
  .of_bind_eq_ok (perform_inferUnit ha) <| .of_bind_eq_ok (perform_inferUnit hb) <|
    .liftExcept_bind fun f hf => h f ((recordedFactor_eq_ok_iff A).mp hf).1

theorem tells_alignedValue {Pl Pr : Prop} (ha : l.unit? A = some a) (hb : r.unit? A = some b)
    (hl : (evaluate A l).Tells d Pl) (hr : (evaluate A r).Tells d Pr)
    (h : ∀ x y f, (evaluate A r).perform {} = (.ok y, {}) → b.conversionFactor A a = .ok f →
      (jointValue A op x (A.mul y f)).Tells d P) :
    (alignedValue A op l r).Tells d (Pl ∧ Pr ∧ P) := by
  have hsteady (x y : ν) := steady_converted (A := A)
    (fun f => steady_jointValue A op x (A.mul y f)) r l
  refine hl.bind (fun x => (steady_evaluate A r).bind (hsteady x)) fun x _ => ?_
  exact hr.bind (hsteady x) fun y hy => tells_converted hb ha fun f hf => h x y f hy hf

theorem tells_sum (hop : op = .add ∨ op = .sub) (x y : ν) : (jointValue A op x y).Tells d True := by
  rcases hop with rfl | rfl <;> exact Stage.tells_pure _ trivial

theorem divisor?_eq (ha : l.unit? A = some a) (hb : r.unit? A = some b) {y f : ν}
    (hy : (evaluate A r).perform {} = (.ok y, {})) (hf : b.conversionFactor A a = .ok f) :
    l.divisor? A r = some (A.mul y f) := by
  simp [divisor?, hy, hb, ha, hf, Except.toOption]

theorem tells_quotient {x y f : ν} (ha : l.unit? A = some a) (hb : r.unit? A = some b)
    (hy : (evaluate A r).perform {} = (.ok y, {})) (hf : b.conversionFactor A a = .ok f) :
    (jointValue A .div x (A.mul y f)).Tells .divisionByZero (Defined A (l, r)) := by
  have hdivisor := divisor?_eq ha hb hy hf
  intro z ρ hz
  simp only [jointValue] at hz
  split at hz
  next hzero =>
    cases hz
    refine .inr ⟨rfl, ?_⟩
    rintro ⟨w, hw, hne⟩
    rw [hdivisor] at hw
    cases hw
    rw [hzero] at hne
    cases hne
  next hne =>
    cases hz
    exact .inl ⟨rfl, _, hdivisor, Bool.eq_false_iff.mpr hne⟩

/-- What carries the induction: evaluating an expression that has a unit tells whether all of its
divisions have a divisor. -/
theorem Derivable.tells_evaluate (h : e.Derivable) (hu : e.unit? A = some u) :
    (evaluate A e).Tells .divisionByZero (∀ p ∈ e.divisions, Defined A p) := by
  induction e generalizing u with
  | const x | unit v =>
    rw [evaluate]
    exact Stage.tells_pure _ (by simp [divisions])
  | var name =>
    rw [unit?_var] at hu
    cases hu
  | neg e ih =>
    rw [unit?_neg] at hu
    rw [evaluate]
    have hneg := (ih h hu).bind (fun x => Stage.steady_pure (A.neg x))
      fun x _ => Stage.tells_pure _ trivial
    simpa only [divisions, and_true] using hneg
  | bin op l r ihl ihr =>
    obtain ⟨hop, hdl, hdr⟩ := h
    obtain ⟨a, b, ha, hb, -⟩ := unit?_bin_eq_some_iff.mp hu
    have hl := ihl hdl ha
    have hr := ihr hdr hb
    cases op with
    | power | unitProduct | unitQuotient =>
      rw [evaluate_bin]
      exact Stage.tells_pure _ (by simp [divisions])
    | quantity =>
      rw [evaluate_bin]
      exact hl
    | convert =>
      have hsteady (x : ν) := steady_converted (A := A)
        (fun f => Stage.steady_pure (A.mul x f)) l r
      have hconvert := hl.bind hsteady fun x _ =>
        tells_converted ha hb fun f _ => Stage.tells_pure (A.mul x f) trivial
      rw [evaluate_bin]
      simpa only [divisions, and_true] using hconvert
    | mul =>
      have hright (x : ν) := (steady_evaluate A r).bind fun y => Stage.steady_pure (A.mul x y)
      have hmul := hl.bind hright fun x _ =>
        hr.bind (fun y => Stage.steady_pure (A.mul x y)) fun y _ => Stage.tells_pure _ trivial
      rw [evaluate_bin]
      simpa only [divisions, List.forall_mem_append, and_true] using hmul
    | add =>
      have hsum := tells_alignedValue ha hb hl hr fun x y f _ _ => tells_sum (.inl rfl) x _
      rw [evaluate_eq_alignedValue A (.inl rfl) (by simp)]
      simpa only [divisions, List.forall_mem_append, and_true] using hsum
    | sub =>
      have hdifference := tells_alignedValue ha hb hl hr fun x y f _ _ => tells_sum (.inr rfl) x _
      rw [evaluate_eq_alignedValue A (.inr (.inl rfl)) (by simp)]
      simpa only [divisions, List.forall_mem_append, and_true] using hdifference
    | div =>
      cases hunits : l.isUnit && r.isUnit with
      | true => simpa [evaluate_bin, divisions, hunits] using Stage.tells_pure A.zero trivial
      | false =>
        have hquotient := tells_alignedValue ha hb hl hr fun x y f hy hf =>
          tells_quotient ha hb hy hf
        rw [evaluate_eq_alignedValue A (.inr (.inr rfl)) (fun _ => hunits)]
        simpa only [divisions, hunits, Bool.false_eq_true, if_false, List.forall_mem_append,
          List.forall_mem_singleton, and_assoc] using hquotient
    | _ => cases hop
  | _ => cases h

end Evaluate

end Expr

section Lines

variable {ν : Type} {s : Store ν} {w : List (Token ν)} {e l r : Expr ν} {N : Nonterminal}

open Quantities.Expr

/-- An expression in which no division is written or carried out. -/
structure Expr.Undivided (e : Expr ν) : Prop where
  divisions_eq : e.divisions = []
  not_mem : ∀ l r, bin .div l r ∉ e.nodes

theorem Numeral.undivided {t : Lexeme ν} (h : Numeral s t e) : (e.substitute s).Undivided := by
  rcases h.substitute_eq with ⟨x, hx⟩ | ⟨x, u, hx⟩ <;> rw [hx] <;>
    exact ⟨rfl, by simp [Expr.quantity, nodes]⟩

theorem Expr.Undivided.bin {op : Kind} (hl : l.Undivided) (hr : r.Undivided)
    (hop : op = .power ∨ op = .unitProduct ∨ op = .unitQuotient) : (bin op l r).Undivided := by
  rcases hop with rfl | rfl | rfl <;> exact ⟨rfl, by simp [nodes, hl.not_mem, hr.not_mem]⟩

/-- Units are written without divisions: the stroke between them makes a quotient of units. -/
theorem Phrase.undivided (h : Phrase s N w e) (hN : N = .power ∨ N = .compound ∨ N = .unit) :
    (e.substitute s).Undivided := by
  induction h with
  | word h =>
    obtain ⟨u, hu⟩ := h.substitute_eq
    rw [hu]
    exact ⟨rfl, by simp [nodes]⟩
  | raised hl hr ih => exact (ih (.inl rfl)).bin hr.undivided (.inl rfl)
  | raisedMinus hl hr ih =>
    have hdegree : (neg _).Undivided :=
      ⟨hr.undivided.divisions_eq, by simp [nodes, hr.undivided.not_mem]⟩
    exact (ih (.inl rfl)).bin hdegree (.inl rfl)
  | ofPower h ih => exact ih (.inl rfl)
  | ofCompound h ih => exact ih (.inr (.inl rfl))
  | adjacent hl hr ihl ihr =>
    exact (ihl (.inr (.inl rfl))).bin (ihr (.inl rfl)) (.inr (.inl rfl))
  | stroke hl hr ihl ihr =>
    exact (ihl (.inr (.inr rfl))).bin (ihr (.inr (.inl rfl))) (.inr (.inr rfl))
  | _ => simp at hN

theorem Phrase.mem_divisions_iff (h : Phrase s N w e)
    (hN : N = .signed ∨ N = .product ∨ N = .sum) :
    (l, r) ∈ (e.substitute s).divisions ↔ bin .div l r ∈ (e.substitute s).nodes := by
  induction h with
  | number h => simp [h.undivided.divisions_eq, h.undivided.not_mem]
  | minus h ih => simp [substitute, divisions, nodes, ih (.inl rfl)]
  | quantity hl hr =>
    have hunit := hr.undivided (.inr (.inr rfl))
    simp [substitute, divisions, nodes, hl.undivided.divisions_eq, hl.undivided.not_mem,
      hunit.not_mem]
  | ofSigned h ih => exact ih (.inl rfl)
  | ofProduct h ih => exact ih (.inr (.inl rfl))
  | times hl hr ihl ihr =>
    simp [substitute, divisions, nodes, ihl (.inr (.inl rfl)), ihr (.inl rfl)]
  | divided hl hr ihl ihr =>
    have hnumber := (hl.numeric (.inr (.inl rfl))).isUnit_eq_false
    have hleft := ihl (.inr (.inl rfl))
    have hright := ihr (.inl rfl)
    simp [substitute, divisions, nodes, hnumber, hleft, hright, or_comm, or_left_comm]
  | plus hl hr ihl ihr | less hl hr ihl ihr =>
    simp [substitute, divisions, nodes, ihl (.inr (.inr rfl)), ihr (.inr (.inl rfl))]
  | _ => simp at hN

theorem Phrase.mem_divisions_iff_of_expression (h : Phrase s .expression w e) :
    (l, r) ∈ (e.substitute s).divisions ↔ bin .div l r ∈ (e.substitute s).nodes := by
  cases h with
  | ofUnit h =>
    have hunit := h.undivided (.inr (.inr rfl))
    simp [hunit.divisions_eq, hunit.not_mem]
  | ofSum h => exact h.mem_divisions_iff (.inr (.inr rfl))
  | converted hl hr =>
    have hunit := hr.undivided (.inr (.inr rfl))
    have hsum := hl.mem_divisions_iff (l := l) (r := r) (.inr (.inr rfl))
    simp [substitute, divisions, nodes, hsum, hunit.not_mem]

theorem Phrase.computable_of_unit? {A : Arithmetic ν} {u : CompoundUnit} (hs : s.Canonical)
    (h : Phrase s .statement w e) (hw : ∀ t ∈ w, t.IsLiteral)
    (hassign : (e.substitute s).kind ≠ .assignment) (hu : (e.substitute s).unit? A = some u) :
    (e.substitute s).Computable ∧
      ∀ l r, (l, r) ∈ (e.substitute s).divisions ↔ bin .div l r ∈ (e.substitute s).nodes := by
  cases h with
  | blank | quit | help =>
    rw [unit?_eq_some_iff] at hu
    cases hu.1
    cases hu.2
  | assignment h => exact absurd rfl hassign
  | named =>
    rw [substitute] at hu ⊢
    split at hu
    next b hb =>
      have hc := hs.get? hb
      cases b with
      | number x u =>
        exact ⟨⟨rfl, by simp, trivial, hc⟩,
          by simp [Binding.expr, Expr.quantity, divisions, nodes]⟩
      | unit u => exact ⟨hc, by simp [Binding.expr, divisions, nodes]⟩
    next =>
      rw [unit?_var] at hu
      cases hu
  | ofExpression h =>
    exact ⟨h.computable hs (by decide) hw, fun l r => h.mem_divisions_iff_of_expression⟩

end Lines

namespace Expr

variable {ν : Type} (A : Arithmetic ν)

/-- Nothing but a divisor of zero is reported once a line that assigns nothing has a unit, wherever
in the line it stands and whatever follows. Deriving the units of its parts again reports
nothing. -/
theorem evaluate_report_iff_divisors {s : Store ν} (hs : s.Canonical) (limit : Int) (line : String) :
    let e := (ofLine s.reference A limit line).substitute s
    e.Valid → e.kind ≠ .assignment →
      ∀ u ρ, (inferUnit A e).perform {} = (.ok u, ρ) → u.isUnknown = false → ρ.isSet = false →
        ((∃ f ρ', (evaluate A e).perform ρ = (.error f, ρ') ∧ f.IsPower A) ∨
          ∃ x ρ', (evaluate A e).perform ρ = (.ok x, ρ') ∧
            (ρ'.isSet = false ↔ ∀ l r, bin .div l r ∈ e.nodes → Defined A (l, r)) ∧
              (ρ'.isSet = true → ρ'.message? = some "Division by zero")) ∧
          ∀ n ∈ e.nodes, ∀ r, ((inferUnit A n).perform r).2 = r := by
  intro e hv hassign u ρ hu hknown hclear
  obtain ⟨w, hphrase, hliteral⟩ := exists_literal_phrase A hv
  have hunit : e.unit? A = some u :=
    unit?_eq_some_iff.mpr ⟨yield?_inferUnit_of_known hu hknown, hknown⟩
  have hline : e.Computable ∧ ∀ l r, (l, r) ∈ e.divisions ↔ bin .div l r ∈ e.nodes :=
    hphrase.computable_of_unit? hs hliteral hassign hunit
  obtain ⟨hcomputable, hdivisions⟩ := hline
  have hderivable := hcomputable.derivable
  obtain rfl := report_of_inferUnit hu hknown
  constructor
  · have hmeets : (evaluate A e).Meets (Fault.IsPower A) fun _ => True := by
      cases hn : e.isNumber with
      | true =>
        have hnumeric : e.Numeric := (hphrase.numeric_of_statement hs hliteral hn).1
        exact hnumeric.meets_evaluate A hcomputable hunit
      | false =>
        rw [hcomputable.evaluate_of_isNumber_eq_false hn]
        exact (Stage.returns_pure trivial).meets
    replace hmeets := hmeets {}
    rcases hx : (evaluate A e).perform {} with ⟨f | x, ρ'⟩
    · rw [hx] at hmeets
      exact .inl ⟨f, ρ', rfl, hmeets⟩
    · simp only [← hdivisions]
      refine .inr ⟨x, ρ', rfl, ?_⟩
      rcases hderivable.tells_evaluate hunit x ρ' hx with ⟨rfl, hdefined⟩ | ⟨rfl, hdefined⟩
      · exact ⟨⟨fun _ l r h => hdefined (l, r) h, fun _ => rfl⟩, nofun⟩
      · exact ⟨⟨nofun, fun h => (hdefined fun p hp => h p.1 p.2 hp).elim⟩, fun _ => rfl⟩
  · intro n hn r
    obtain ⟨v, hv⟩ := hderivable.exists_unit?_of_mem_nodes hunit n hn
    cases hr : r.isSet with
    | true => exact steady_inferUnit A n r hr
    | false => rw [Report.eq_clear hr, perform_inferUnit hv]

/-- The first divisor is not zero, the second one is; a unit with a degree is derived again behind
it. -/
theorem evaluate_report_of_second_divisor :
    let A := Arithmetic.exact thousandMeters fun _ _ => ""
    let s : Store ℚ := Store.empty.insert "x" (.number 0 (.ofBase .meter))
    let e := (ofLine s.reference A 100 "6 / 2 / x - 4 m^-1").substitute s
    (s.Canonical ∧ e.Valid ∧ e.kind ≠ .assignment ∧
        (inferUnit A e).perform {} = (.ok ⟨[⟨.meter, -1⟩]⟩, {})) ∧
      ((evaluate A e).perform {}).2.message? = some "Division by zero" ∧
        ¬ ∀ l r, bin .div l r ∈ e.nodes → Defined A (l, r) := by
  intro A s e
  have hs : s.Canonical := Store.canonical_empty.insert (CompoundUnit.canonical_ofBase rfl)
  have he : e = bin .sub
      (bin .div (bin .div (const 6) (const 2)) (quantity 0 (.ofBase .meter)))
      (bin .quantity (const 4) (bin .power (unit (.ofBase .meter)) (neg (const 1)))) := by
    decide +kernel
  have hv : e.Valid := by rw [he]; rfl
  have hassign : e.kind ≠ .assignment := by rw [he]; decide
  have hu : (inferUnit A e).perform {} = (.ok ⟨[⟨.meter, -1⟩]⟩, {}) := by
    rw [he]
    decide +kernel
  have hvalue : ((evaluate A e).perform {}).2.isSet = true ∧
      ((evaluate A e).perform {}).1.toOption.isSome = true := by
    rw [he]
    decide +kernel
  refine ⟨⟨hs, hv, hassign, hu⟩, ?_⟩
  rcases (evaluate_report_iff_divisors A hs 100 _ hv hassign _ _ hu rfl rfl).1 with
    ⟨f, ρ, hf, _⟩ | ⟨x, ρ, hx, hclear, hmessage⟩
  · rw [hf] at hvalue
    cases hvalue.2
  · rw [hx] at hvalue ⊢
    refine ⟨hmessage hvalue.1, fun hdefined => ?_⟩
    rw [hclear.mpr hdefined] at hvalue
    cases hvalue.1

end Expr

end Quantities
