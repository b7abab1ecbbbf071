import Mathlib.Data.List.Forall2
import Quantities.Number.Machine
import Quantities.Store.Assign
import Quantities.Proofs.Expr.Derivation
import Quantities.Proofs.Validity

namespace Quantities

variable {ν : Type}

/-- What can be done with expressions and the report of their line. -/
inductive Task (ν : Type) where
  | check (e : Expr ν)
  | inferUnit (e : Expr ν)
  | evaluate (e : Expr ν)
  | assign (target value : Expr ν)

theorem Store.perform_assign_of_isSet (A : Arithmetic ν) {s : Store ν} {r : Report}
    (h : r.isSet = true) (target value : Expr ν) :
    (s.assign A target value).perform r = (.ok (none, s), r) := by
  unfold assign
  rw [Stage.perform_bind, Stage.perform_failed, h]
  rfl

namespace Task

inductive Answer (ν : Type) where
  | verdict (passed : Bool)
  | unit (u : CompoundUnit)
  | value (x : ν)
  | stored (b : Option (Binding ν))
  deriving DecidableEq

variable (A : Arithmetic ν)

/-- Performs a task: its answer or its fault, and the variables and the report after it. -/
def perform (s : Store ν) (r : Report) : Task ν → Except Fault (Answer ν) × Store ν × Report
  | check e =>
    let (passed, r) := e.checkValid.perform r
    (passed.map .verdict, s, r)
  | inferUnit e =>
    let (u, r) := (e.inferUnit A).perform r
    (u.map .unit, s, r)
  | evaluate e =>
    let (x, r) := (e.evaluate A).perform r
    (x.map .value, s, r)
  | assign target value =>
    match (s.assign A target value).perform r with
    | (.ok (b, s), r) => (.ok (.stored b), s, r)
    | (.error f, r) => (.error f, s, r)

/-- Performs tasks one after the other, whatever becomes of each. -/
def performAll (s : Store ν) (r : Report) :
    List (Task ν) → List (Except Fault (Answer ν)) × Store ν × Report
  | [] => ([], s, r)
  | t :: ts =>
    let (answer, s, r) := t.perform A s r
    let (answers, last) := performAll s r ts
    (answer :: answers, last)

/-- An outcome in which nothing has passed the check and nothing was stored. -/
def Refused : Task ν → Except Fault (Answer ν) → Prop
  | check _, outcome => outcome = .ok (.verdict false)
  | assign _ _, outcome => outcome = .ok (.stored none)
  | inferUnit _, _ | evaluate _, _ => True

variable {A} {s : Store ν} {r : Report}

theorem perform_of_isSet (h : r.isSet = true) (t : Task ν) :
    ∃ outcome, t.perform A s r = (outcome, s, r) ∧ t.Refused outcome := by
  cases t with
  | check e =>
    have hcheck : e.checkValid.perform r = (.ok false, r) := by
      rw [Expr.checkValid_perform, if_pos h]
    refine ⟨.ok (.verdict false), ?_, rfl⟩
    rw [perform, hcheck]
    rfl
  | inferUnit e =>
    have hkept := Expr.steady_inferUnit A e r h
    rcases hunit : (e.inferUnit A).perform r with ⟨u, ρ⟩
    obtain rfl : ρ = r := by rwa [hunit] at hkept
    exact ⟨u.map .unit, by rw [perform, hunit], trivial⟩
  | evaluate e =>
    have hkept := Expr.steady_evaluate A e r h
    rcases hvalue : (e.evaluate A).perform r with ⟨x, ρ⟩
    obtain rfl : ρ = r := by rwa [hvalue] at hkept
    exact ⟨x.map .value, by rw [perform, hvalue], trivial⟩
  | assign target value =>
    refine ⟨.ok (.stored none), ?_, rfl⟩
    rw [perform, Store.perform_assign_of_isSet A h]

theorem performAll_of_isSet (h : r.isSet = true) (tasks : List (Task ν)) :
    (performAll A s r tasks).2 = (s, r) ∧
      List.Forall₂ Refused tasks (performAll A s r tasks).1 := by
  induction tasks with
  | nil => exact ⟨rfl, .nil⟩
  | cons t ts ih =>
    obtain ⟨outcome, hperform, hrefused⟩ := perform_of_isSet (A := A) (s := s) h t
    rw [performAll, hperform]
    exact ⟨ih.1, .cons hrefused ih.2⟩

variable (A s)

/-- A message stays through all that is done after it, even an empty one. Whatever the expressions
are, none of them passes the check and none is stored. -/
theorem message?_performAll {m : String} (h : r.message? = some m) (tasks : List (Task ν)) :
    let run := performAll A s r tasks
    run.2.2.message? = some m ∧ run.2.1 = s ∧ List.Forall₂ Refused tasks run.1 := by
  intro run
  have hset : r.isSet = true := by
    obtain ⟨d, hd, _⟩ := Option.map_eq_some_iff.mp h
    rw [Report.isSet, hd]
    rfl
  obtain ⟨hlast, hrefused⟩ := performAll_of_isSet (A := A) (s := s) hset tasks
  have hrun : run.2 = (s, r) := hlast
  exact ⟨by rw [hrun, h], by rw [hrun], hrefused⟩

/-- An empty message hides an unknown variable, two faults and an assignment that would succeed. -/
theorem message?_performAll_of_empty :
    let r : Report := ⟨some (.other "")⟩
    let s : Store Float := Store.empty.insert "x" (.number 2 (.ofBase .meter))
    let tasks : List (Task Float) :=
      [.inferUnit (.var "y"), .evaluate (.var "y"), .check (.const 1), .assign (.var "x") (.const 1),
        .assign (.const 1) .help, .inferUnit (.bin .help (.const 1) (.const 2))]
    let run := performAll Arithmetic.machine s r tasks
    r.message? = some "" ∧ run.2.2.message? = some "" ∧ run.2.1 = s ∧
      run.1 = [.ok (.unit .unknown), .error (.noValue .var "y"), .ok (.verdict false),
        .ok (.stored none), .ok (.stored none), .error (.noInference .help)] := by
  intro r s tasks run
  have hr : r.message? = some "" := rfl
  obtain ⟨hmessage, hstore, -⟩ := message?_performAll Arithmetic.machine s hr tasks
  exact ⟨hr, hmessage, hstore, rfl⟩

end Task

end Quantities
