import Quantities.Proofs.Expr.Explanation
import Quantities.Proofs.Expr.Magnitude
import Quantities.Proofs.Session.Reachable

namespace Quantities

variable {ν : Type} (A : Arithmetic ν)

namespace LineResult

/-- What a line is told if it failed. -/
def cause? : LineResult ν → Option Diagnostic
  | error d => some d
  | _ => none

theorem cause?_ofBinding (target : Option String) (b : Binding ν) (text : String) :
    (ofBinding target b text).cause? = none := by
  cases target <;> cases b <;> rfl

theorem cause?_failure {r : Report} {d : Diagnostic} (h : r.first = some d) :
    (Session.failure r : LineResult ν).cause? = some d := by
  rw [Session.failure, h]
  rfl

/-- A result that is an error if and only if something was reported. It shows what was reported
first, and that names a cause. -/
structure Explained (result : LineResult ν) (r : Report) : Prop where
  first_eq : r.first = result.cause?
  specific : ∀ d, r.first = some d → d.isSpecific = true

theorem Explained.output_ne {result : LineResult ν} {r : Report} (h : result.Explained r)
    (he : result.isError = true) : result.output ≠ "" ∧ result.output ≠ "Invalid expression" := by
  cases result with
  | error d => exact Diagnostic.message_ne (h.specific d h.first_eq)
  | _ => cases he

end LineResult

namespace Session

variable (s : Session ν)

/-- What has been reported when a line is done. -/
def report (line : String) : Report :=
  let e := s.parse A line
  match e.checkValid.perform {} with
  | (.ok true, r) =>
    match e with
    | .empty | .help | .quit => r
    | .assign target value => ((s.store.assign A target value).perform r).2
    | e => ((e.result? A).perform r).2
  | (_, r) => r

theorem report_of_objection {line : String} {d : Diagnostic}
    (h : (s.parse A line).objection? = .ok (some d)) : s.report A line = ⟨some d⟩ := by
  unfold report
  simp only [Expr.checkValid_perform, h]
  rfl

theorem report_of_valid {line : String} (h : (s.parse A line).Valid) :
    s.report A line = match s.parse A line with
      | .empty | .help | .quit => {}
      | .assign target value => ((s.store.assign A target value).perform {}).2
      | e => ((e.result? A).perform {}).2 := by
  have hd : (s.parse A line).objection? = .ok none := h
  unfold report
  simp only [Expr.checkValid_perform, hd]
  rfl

theorem report_of_asked? {line : String} {target : Option String} {e : Expr ν}
    (h : s.asked? A line = some (target, e)) : s.report A line = ((e.result? A).perform {}).2 := by
  obtain ⟨hvalid, hq⟩ := valid_of_asked? A h
  rw [s.report_of_valid A hvalid]
  cases he : s.parse A line with
  | empty | help | quit =>
    rw [he] at hq
    cases hq
  | assign t v =>
    rw [he] at hq
    cases t with
    | var name =>
      cases hq
      simp only
      rw [Store.perform_assign]
      rcases (e.result? A).perform {} with ⟨f | (_ | b), r⟩ <;> rfl
    | _ => cases hq
  | _ =>
    rw [he] at hq
    cases hq
    rfl

theorem report_of_asked?_eq_none {line : String} (hv : (s.parse A line).Valid)
    (h : s.asked? A line = none) :
    s.report A line = {} ∧ ∃ r, s.execute A line = (.ok r, s) ∧ r.cause? = none := by
  rw [asked?, hv] at h
  rw [s.report_of_valid A hv, s.execute_of_valid A hv]
  cases he : s.parse A line with
  | empty | help | quit => exact ⟨rfl, _, rfl, rfl⟩
  | assign t v =>
    rw [he] at h hv
    obtain ⟨_, ⟨name, rfl⟩, _⟩ := Expr.valid_assign_iff.mp hv
    cases h
  | _ =>
    rw [he] at h
    cases h

variable {s}

theorem words_subset_of_question? {e v : Expr ν} {target : Option String}
    (h : question? e = some (target, v)) : v.words ⊆ e.words := by
  unfold question? at h
  split at h <;> cases h
  · exact List.subset_append_right _ _
  · exact List.Subset.refl _

theorem arises_of_first {line : String} {d : Diagnostic} (h : (s.report A line).first = some d) :
    d.Arises A (s.parse A line).words := by
  by_cases hvalid : (s.parse A line).Valid
  · cases hq : s.asked? A line with
    | none =>
      rw [(s.report_of_asked?_eq_none A hvalid hq).1] at h
      cases h
    | some q =>
      obtain ⟨target, e⟩ := q
      rw [s.report_of_asked? A hq] at h
      have hwords := words_subset_of_question? (valid_of_asked? A hq).2
      exact ((Expr.adds_result? e).of_first h).mono hwords
  · obtain ⟨c, hc⟩ := s.exists_objection? A hvalid
    rw [s.report_of_objection A hc] at h
    cases h
    exact Expr.arises_of_objection? (List.Subset.refl _) hc

theorem first_eq_of_asked? (hs : s.store.Canonical) {line : String} {r : LineResult ν}
    {target : Option String} {e : Expr ν} (hq : s.asked? A line = some (target, e))
    (h : (s.execute A line).1 = .ok r) : (s.report A line).first = r.cause? := by
  have hderivable := (answerable_of_asked? A hs hq).derivable
  rw [s.execute_of_asked? A hq] at h
  rw [s.report_of_asked? A hq]
  rcases hb : (e.result? A).perform {} with ⟨f | b, ρ⟩
  · rw [hb] at h
    cases h
  rw [hb] at h
  have hset := hderivable.isSet_of_result? hb
  cases b with
  | none =>
    cases h
    obtain ⟨d, hd⟩ := Option.isSome_iff_exists.mp hset
    rw [LineResult.cause?_failure hd, hd]
  | some b =>
    simp only at h
    cases hf : s.format A b with
    | error f =>
      rw [hf] at h
      cases h
    | ok text =>
      rw [hf] at h
      cases h
      rw [LineResult.cause?_ofBinding, Report.eq_clear hset]

theorem explained_execute (hs : s.store.Canonical) {line : String} {r : LineResult ν}
    (h : (s.execute A line).1 = .ok r) : r.Explained (s.report A line) := by
  refine ⟨?_, fun d hd => (arises_of_first A hd).1⟩
  by_cases hvalid : (s.parse A line).Valid
  · cases hq : s.asked? A line with
    | none =>
      obtain ⟨hreport, result, hresult, hcause⟩ := s.report_of_asked?_eq_none A hvalid hq
      rw [hresult] at h
      cases h
      rw [hreport, hcause]
    | some q => exact first_eq_of_asked? A hs hq h
  · obtain ⟨d, hd⟩ := s.exists_objection? A hvalid
    rw [s.execute_of_objection? A hd] at h
    cases h
    rw [s.report_of_objection A hd]
    rfl

end Session

open Quantities.Expr in
/-- An unknown unit comes with a report and a known one without. So an error is always explained,
and no line shows a unit or a value after something was reported. -/
theorem unknown_iff_reported :
    (∀ e : Expr ν, e.Valid → e.Joined → (∀ u, .unit u ∈ e.nodes → u.Canonical) →
      e ≠ .empty → e ≠ .quit → e ≠ .help →
        (∃ f ρ, (inferUnit A e).perform {} = (.error f, ρ) ∧ e.Exceeds A f) ∨
          ∃ u ρ, (inferUnit A e).perform {} = (.ok u, ρ) ∧
            (ρ.isSet = true ↔ u.isUnknown = true)) ∧
    ∀ (config : Config) (lines : List String) (line : String) (r : LineResult ν),
      let s := (Session.executeAll A { config } lines).2
      (s.execute A line).1 = .ok r →
        (s.report A line).first = r.cause? ∧
          (r.isError = true → r.output ≠ "" ∧ r.output ≠ "Invalid expression") := by
  constructor
  · intro e hv hj hc hempty hquit hhelp
    obtain ⟨v, hderivable, hunit, hnodes⟩ := hv.exists_derivable A hj hc hempty hquit hhelp
    rw [hunit]
    have hmeets := (hderivable.meets (A := A)).1 {}
    rcases hu : (inferUnit A v).perform {} with ⟨f | u, ρ⟩
    · rw [hu] at hmeets
      exact .inl ⟨f, ρ, rfl, (hderivable.exceeds_of_failsWith hmeets).mono hnodes⟩
    · exact .inr ⟨u, ρ, rfl, hderivable.isSet_iff hu⟩
  · intro config lines line r s h
    have hs := Session.canonical_executeAll A (s := { config }) Store.canonical_empty lines
    have hexplained := Session.explained_execute A hs h
    exact ⟨hexplained.first_eq, hexplained.output_ne⟩

open CompoundUnit Quantities.Expr in
/-- A degree that divides by zero, and a sum of a length and a time. -/
theorem unknown_of_degree_and_sum :
    let A := Arithmetic.exact thousandMeters fun _ _ => ""
    let e : Expr ℚ := .bin .power (.unit (.ofBase .meter)) (.bin .div (.const 1) (.const 0))
    let s : Session ℚ := (Session.executeAll A {} ["x = 5 km"]).2
    (∃ u ρ, (inferUnit A e).perform {} = (.ok u, ρ) ∧ u.isUnknown = true ∧
        ρ.message? = some "Division by zero") ∧
      ∃ r, (s.execute A "x + 2 s").1 = .ok r ∧ (s.report A "x + 2 s").first = r.cause? ∧
        r.isError = true ∧ r.output = "Units do not match: km + s" ∧
          r.output ≠ "Invalid expression" := by
  intro A e s
  have hcanonical : ∀ u, .unit u ∈ e.nodes → u.Canonical := by
    intro u hu
    obtain rfl : u = .ofBase .meter := by simpa [e, nodes] using hu
    exact canonical_ofBase rfl
  have hjoined : e.Joined := ⟨rfl, trivial, rfl, trivial, trivial⟩
  have htree := (unknown_iff_reported A).1 e rfl hjoined hcanonical (by simp [e]) (by simp [e])
    (by simp [e])
  constructor
  · have hok : ((inferUnit A e).perform {}).1.toOption.isSome = true := by decide +kernel
    rcases htree with ⟨f, ρ, hf, _⟩ | ⟨u, ρ, hu, hiff⟩
    · rw [hf] at hok
      cases hok
    · have hmessage : ((inferUnit A e).perform {}).2.message? = some "Division by zero" := by
        decide +kernel
      rw [hu] at hmessage
      refine ⟨u, ρ, hu, hiff.mp ?_, hmessage⟩
      obtain ⟨_ | d⟩ := ρ
      · cases hmessage
      · rfl
  · have houtput : ((s.execute A "x + 2 s").1.toOption.map fun r => (r.isError, r.output)) =
        some (true, "Units do not match: km + s") := by
      decide +kernel
    cases hr : (s.execute A "x + 2 s").1 with
    | error f =>
      rw [hr] at houtput
      cases houtput
    | ok r =>
      rw [hr] at houtput
      obtain ⟨herror, htext⟩ := Prod.mk.inj (Option.some.inj houtput)
      obtain ⟨hreport, hexplained⟩ := (unknown_iff_reported A).2 {} ["x = 5 km"] "x + 2 s" r hr
      exact ⟨r, rfl, hreport, herror, htext, (hexplained herror).2⟩

end Quantities
