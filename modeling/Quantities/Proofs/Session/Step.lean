import Quantities.Session
import Quantities.Proofs.Expr.Result

namespace Quantities

variable {ν : Type} (A : Arithmetic ν)

theorem Store.perform_assign (s : Store ν) (name : String) (e : Expr ν) :
    (s.assign A (.var name) e).perform {} = match (e.result? A).perform {} with
      | (.error f, r) => (.error f, r)
      | (.ok none, r) => (.ok (none, s), r)
      | (.ok (some b), r) => (.ok (some b, s.insert name b), r) := by
  unfold Store.assign
  simp only [Stage.perform_bind, Stage.perform_failed, Report.isSet, Option.isSome_none,
    Bool.false_eq_true, if_false]
  rcases (e.result? A).perform {} with ⟨f | (_ | b), r⟩
  · rfl
  · rfl
  · simp only [Store.insertExpr_expr]
    rfl

section Words

variable {u : CompoundUnit} {debugUnits : Bool} {text : String}

theorem formatUnit_eq_ok_iff : formatUnit debugUnits u = .ok text ↔ u.isWritable = true ∧
    (if u.display debugUnits = "" then "none" else u.display debugUnits) = text := by
  unfold formatUnit
  cases h : u.isWritable with
  | true =>
    rw [CompoundUnit.written_eq_ok_iff.mpr ⟨h, rfl⟩]
    simp [bind, Except.bind, pure, Except.pure]
  | false =>
    rw [CompoundUnit.written_eq_error_iff.mpr ⟨h, rfl⟩]
    simp [bind, Except.bind]

theorem formatValue_eq_ok_iff {precision : Int} {x : ν} :
    formatValue A precision debugUnits x u = .ok text ↔ ∃ number,
      formatNumber A precision x = .ok number ∧ u.isWritable = true ∧
        " ".intercalate ([number, u.display debugUnits].filter (· ≠ "")) = text := by
  unfold formatValue
  cases formatNumber A precision x with
  | error f => simp [bind, Except.bind]
  | ok number =>
    cases h : u.isWritable with
    | true =>
      rw [CompoundUnit.written_eq_ok_iff.mpr ⟨h, rfl⟩]
      simp [bind, Except.bind, pure, Except.pure]
    | false =>
      rw [CompoundUnit.written_eq_error_iff.mpr ⟨h, rfl⟩]
      simp [bind, Except.bind]

end Words

namespace LineResult

/-- The result that reports a binding, and under which name it was stored if it was. -/
def ofBinding : Option String → Binding ν → String → LineResult ν
  | some name, b, text => .assignment name b text
  | none, .number x u, text => .value x u text
  | none, .unit u, text => .unit u text

/-- Results without a value or a unit. -/
def isSilent : LineResult ν → Bool
  | help | empty | quit | error _ => true
  | value .. | unit .. | assignment .. => false

/-- The variable that a result reports as assigned. -/
def target? : LineResult ν → Option String
  | assignment name _ _ => some name
  | _ => none

theorem target?_of_isSilent {r : LineResult ν} (h : r.isSilent = true) : r.target? = none := by
  cases r <;> first | rfl | cases h

end LineResult

namespace Session

variable (s : Session ν)

/-- The expression that a checked line computes, and the variable it is assigned to if there is
one. -/
def question? : Expr ν → Option (Option String × Expr ν)
  | .empty | .help | .quit => none
  | .assign (.var name) e => some (some name, e)
  | .assign _ _ => none
  | e => some (none, e)

/-- The expression that a line computes unless the check refuses it. -/
def asked? (line : String) : Option (Option String × Expr ν) :=
  match (s.parse A line).objection? with
  | .ok none => question? (s.parse A line)
  | _ => none

def bind (b : Binding ν) : Option String → Session ν
  | some name => { s with store := s.store.insert name b }
  | none => s

variable {s} in
theorem asked?_congr {t : Session ν} {line : String} (h : t.parse A line = s.parse A line) :
    t.asked? A line = s.asked? A line := by
  rw [asked?, asked?, h]

variable {s} in
theorem valid_of_asked? {line : String} {q : Option String × Expr ν} (h : s.asked? A line = some q) :
    (s.parse A line).Valid ∧ question? (s.parse A line) = some q := by
  unfold asked? at h
  split at h
  next hvalid => exact ⟨hvalid, h⟩
  next => cases h

theorem question?_of_admits {e : Expr ν} (h : Nonterminal.expression.admits e.kind = true) :
    question? e = some (none, e) := by
  cases e <;> first | rfl | cases h

theorem joined_parse (line : String) : (s.parse A line).Joined :=
  Expr.joined_substitute (Expr.joined_ofTokens _ _) s.store

theorem execute_of_valid {line : String} (h : (s.parse A line).objection? = .ok none) :
    s.execute A line = match s.parse A line with
      | .empty => (.ok .empty, s)
      | .help => (.ok .help, s)
      | .quit => (.ok .quit, s)
      | .assign target value => s.executeAssignment A target value {}
      | e => (s.executeComputation A e {}, s) := by
  unfold execute
  simp only [Expr.checkValid_perform, h, Report.isSet]
  rfl

theorem exists_objection? {line : String} (h : ¬ (s.parse A line).Valid) :
    ∃ d, (s.parse A line).objection? = .ok (some d) := by
  obtain ⟨d, hd⟩ := Expr.exists_objection?_of_joined (s.joined_parse A line)
  cases d with
  | none => exact absurd hd h
  | some d => exact ⟨d, hd⟩

theorem execute_of_objection? {line : String} {d : Diagnostic}
    (h : (s.parse A line).objection? = .ok (some d)) :
    s.execute A line = (.ok (.error d), s) := by
  unfold execute
  simp only [Expr.checkValid_perform, h, Report.isSet]
  rfl

theorem execute_of_not_valid {line : String} (h : ¬ (s.parse A line).Valid) :
    ∃ d, s.execute A line = (.ok (.error d), s) := by
  obtain ⟨d, hd⟩ := s.exists_objection? A h
  exact ⟨d, s.execute_of_objection? A hd⟩

/-- A line that asks for nothing leaves everything as it is, wherever it is read so. -/
theorem exists_execute_of_asked?_eq_none {line : String} (h : s.asked? A line = none) :
    ∃ result : LineResult ν, result.isSilent = true ∧
      ∀ t : Session ν, t.parse A line = s.parse A line → t.execute A line = (.ok result, t) := by
  by_cases hd : (s.parse A line).Valid
  · have hvalid (t : Session ν) (ht : t.parse A line = s.parse A line) :=
      t.execute_of_valid A (ht.symm ▸ hd)
    rw [asked?, hd] at h
    cases he : s.parse A line with
    | empty => exact ⟨.empty, rfl, fun t ht => by rw [hvalid t (he ▸ ht), ht]⟩
    | help => exact ⟨.help, rfl, fun t ht => by rw [hvalid t (he ▸ ht), ht]⟩
    | quit => exact ⟨.quit, rfl, fun t ht => by rw [hvalid t (he ▸ ht), ht]⟩
    | assign t v =>
      rw [he] at h hd
      obtain ⟨_, ⟨name, rfl⟩, _⟩ := Expr.valid_assign_iff.mp hd
      cases h
    | _ =>
      rw [he] at h
      cases h
  · obtain ⟨d, hd⟩ := s.exists_objection? A hd
    exact ⟨.error d, rfl, fun t ht => t.execute_of_objection? A (ht.symm ▸ hd)⟩

theorem execute_of_asked?_eq_none {line : String} (h : s.asked? A line = none) :
    ∃ result : LineResult ν, s.execute A line = (.ok result, s) ∧ result.isSilent = true := by
  obtain ⟨result, hsilent, hresult⟩ := s.exists_execute_of_asked?_eq_none A h
  exact ⟨result, hresult s rfl, hsilent⟩

theorem executeComputation_eq (e : Expr ν) (r : Report) : (s.executeComputation A e r, s) =
    match (e.result? A).perform r with
    | (.error f, _) => (.error f, s)
    | (.ok none, r) => (.ok (failure r), s)
    | (.ok (some b), _) =>
      ((s.format A b).map (LineResult.ofBinding none b), s.bind b none) := by
  unfold executeComputation
  rcases (e.result? A).perform r with ⟨f | (_ | b), r⟩
  · rfl
  · rfl
  · cases b <;> simp only <;> cases s.format A _ <;> rfl

theorem executeAssignment_eq (name : String) (e : Expr ν) :
    s.executeAssignment A (.var name) e {} =
      match (e.result? A).perform {} with
      | (.error f, _) => (.error f, s)
      | (.ok none, r) => (.ok (failure r), s)
      | (.ok (some b), _) =>
        ((s.format A b).map (LineResult.ofBinding (some name) b), s.bind b (some name)) := by
  unfold executeAssignment
  rw [Store.perform_assign]
  rcases (e.result? A).perform {} with ⟨f | (_ | b), r⟩
  · rfl
  · rfl
  · simp only
    cases s.format A b <;> rfl

/-- A line that asks for a result computes it, and binds it if it is given a name. -/
theorem execute_of_asked? {line : String} {target : Option String} {e : Expr ν}
    (h : s.asked? A line = some (target, e)) :
    s.execute A line = match (e.result? A).perform {} with
      | (.error f, _) => (.error f, s)
      | (.ok none, r) => (.ok (failure r), s)
      | (.ok (some b), _) =>
        ((s.format A b).map (LineResult.ofBinding target b), s.bind b target) := by
  obtain ⟨hvalid, hq⟩ := valid_of_asked? A h
  rw [s.execute_of_valid A hvalid]
  cases he : s.parse A line with
  | empty | help | quit =>
    rw [he] at hq
    cases hq
  | assign t v =>
    rw [he] at hq
    cases t with
    | var name =>
      cases hq
      exact s.executeAssignment_eq A name _
    | _ => cases hq
  | _ =>
    rw [he] at hq
    cases hq
    exact s.executeComputation_eq A _ {}

variable {s} in
theorem exists_answer_of_execute {line : String} {r : LineResult ν}
    (h : (s.execute A line).1 = .ok r) (hr : r.isSilent = false) :
    ∃ target e b ρ text, s.asked? A line = some (target, e) ∧
      (e.result? A).perform {} = (.ok (some b), ρ) ∧ s.format A b = .ok text ∧
        r = .ofBinding target b text := by
  cases hq : s.asked? A line with
  | none =>
    obtain ⟨result, hresult, hsilent⟩ := s.execute_of_asked?_eq_none A hq
    rw [hresult] at h
    cases h
    rw [hsilent] at hr
    cases hr
  | some q =>
    obtain ⟨target, e⟩ := q
    rw [s.execute_of_asked? A hq] at h
    rcases hb : (e.result? A).perform {} with ⟨f | (_ | b), ρ⟩
    · rw [hb] at h
      cases h
    · rw [hb] at h
      cases h
      cases hr
    · rw [hb] at h
      cases hf : s.format A b with
      | error f =>
        simp only [hf] at h
        cases h
      | ok text =>
        simp only [hf] at h
        cases h
        exact ⟨target, e, b, ρ, text, rfl, hb, hf, rfl⟩

/-- A line leaves the session as it is, or it binds the variable that it asks for to its result. -/
theorem session_execute (line : String) : (s.execute A line).2 = s ∨
    ∃ name e b r, s.asked? A line = some (some name, e) ∧
      (e.result? A).perform {} = (.ok (some b), r) ∧
        (s.execute A line).2 = { s with store := s.store.insert name b } := by
  cases h : s.asked? A line with
  | none =>
    obtain ⟨result, hr, _⟩ := s.execute_of_asked?_eq_none A h
    exact .inl (by rw [hr])
  | some q =>
    obtain ⟨target, e⟩ := q
    rw [s.execute_of_asked? A h]
    rcases hr : (e.result? A).perform {} with ⟨f | (_ | b), r⟩
    · exact .inl rfl
    · exact .inl rfl
    · cases target with
      | none => exact .inl rfl
      | some name => exact .inr ⟨name, e, b, r, rfl, hr, rfl⟩

end Session

end Quantities
