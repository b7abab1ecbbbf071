import Quantities.Proofs.Entries
import Quantities.Proofs.Session.Fault

namespace Quantities

variable {ν : Type} (A : Arithmetic ν)

namespace LineResult

/-- The name that an assignment reports, with the value and the unit it reports for it. -/
def assigned? (r : LineResult ν) : Option (String × Binding ν) :=
  match r with
  | assignment name _ _ => match r.value?, r.unit? with
    | some x, some u => some (name, .number x u)
    | none, some u => some (name, .unit u)
    | _, none => none
  | _ => none

theorem assigned?_assignment (name : String) (b : Binding ν) (text : String) :
    (assignment name b text).assigned? = some (name, b) := by
  cases b <;> rfl

theorem assigned?_of_target? {r : LineResult ν} (h : r.target? = none) : r.assigned? = none := by
  cases r <;> first | rfl | cases h

end LineResult

namespace Session

/-- What an outcome reports as assigned. A fault reports nothing. -/
def assigned? (outcome : Except Fault (LineResult ν)) : Option (String × Binding ν) :=
  outcome.toOption.bind LineResult.assigned?

variable {s : Session ν}

theorem entries_execute (hs : s.Sound) (hp : s.config.precision ≤ maxPrecision) (line : String) :
    (s.execute A line).2.store.entries =
      Entries.replay (assigned? (s.execute A line).1).toList s.store.entries := by
  rcases execute_target? A hs hp line with ⟨name, b, text, -, hline⟩ | ⟨hsame, hnone⟩
  · simp only [hline, assigned?, Except.toOption, Option.bind_some,
      LineResult.assigned?_assignment]
    rfl
  · have hassigned : assigned? (s.execute A line).1 = none := by
      cases hr : (s.execute A line).1 with
      | error f => rfl
      | ok r => exact LineResult.assigned?_of_target? (hnone r hr)
    rw [hsame, hassigned]
    rfl

theorem entries_executeAll (hs : s.Sound) (hp : s.config.precision ≤ maxPrecision)
    (lines : List String) :
    (s.executeAll A lines).2.store.entries =
      Entries.replay ((s.executeAll A lines).1.filterMap assigned?) s.store.entries := by
  induction lines generalizing s with
  | nil => rfl
  | cons line lines ih =>
    have hline := entries_execute A hs hp line
    have hlines := ih (hs.execute A line) (by rwa [config_execute])
    rw [hline] at hlines
    rw [executeAll]
    cases h : assigned? (s.execute A line).1 with
    | none => simpa [h, Entries.replay] using hlines
    | some a => simpa [h, Entries.replay] using hlines

/-- The variable that a line assigns to is its first word, and an equals sign follows it. -/
def Assigns (s : Session ν) (line name : String) : Prop :=
  ∃ p c q rest, Token.tokenize A s.config.maxLineLength line =
    ⟨.var name, p⟩ :: ⟨.operator .equals c, q⟩ :: rest

theorem assigns_of_asked? {line name : String} {e : Expr ν}
    (h : s.asked? A line = some (some name, e)) : Assigns A s line name := by
  obtain ⟨hvalid, hq⟩ := valid_of_asked? A h
  obtain ⟨w, pos, hw, hphrase⟩ := isLine_of_valid A (s := s.store) hvalid
  unfold parse at hq
  generalize Expr.ofLine s.store.reference A s.config.maxLineLength line = tree at hq hphrase
  cases hphrase with
  | blank | quit | help => cases hq
  | named =>
    rw [Expr.substitute] at hq
    split at hq
    next b _ => cases b <;> cases hq
    next => cases hq
  | assignment hvalue =>
    cases hq
    exact ⟨_, _, _, _, hw⟩
  | ofExpression hexpression =>
    rw [question?_of_admits (hexpression.valid.2 (by decide))] at hq
    cases hq

theorem assigns_of_assigned? {line name : String} {b : Binding ν}
    (h : assigned? (s.execute A line).1 = some (name, b)) : Assigns A s line name := by
  cases hr : (s.execute A line).1 with
  | error f =>
    rw [hr] at h
    cases h
  | ok r =>
    rw [hr] at h
    have hassigned : r.assigned? = some (name, b) := h
    have hloud : r.isSilent = false := by
      cases r <;> first | rfl | cases hassigned
    obtain ⟨target, e, c, ρ, text, hasked, -, -, rfl⟩ := exists_answer_of_execute A hr hloud
    cases target with
    | none => cases c <;> cases hassigned
    | some n =>
      rw [LineResult.ofBinding, LineResult.assigned?_assignment] at hassigned
      cases hassigned
      exact assigns_of_asked? A hasked

/-- The variables after a run are the assignments that it reported, played back. -/
theorem entries_eq_replay (config : Config) (hp : config.precision ≤ maxPrecision)
    (lines : List String) :
    let run := executeAll A { config } lines
    let assignments := run.1.filterMap assigned?
    run.2.store.entries = Entries.replay assignments [] ∧
      run.2.store.names = (assignments.map Prod.fst).eraseDups ∧
      (∀ name, run.2.store.get? name = assignments.reverse.lookup name) ∧
      ∀ line, match assigned? (run.2.execute A line).1 with
        | none => (run.2.execute A line).2.store = run.2.store
        | some (name, b) => (run.2.execute A line).2.store = run.2.store.insert name b ∧
            Assigns A run.2 line name := by
  intro run assignments
  have hentries : run.2.store.entries = Entries.replay assignments [] :=
    entries_executeAll A (sound_fresh config) hp lines
  refine ⟨hentries, ?_, fun name => ?_, fun line => ?_⟩
  · rw [Store.names, hentries, Entries.map_fst_replay]
  · rw [Store.get?, hentries, Entries.lookup_replay]
  · have hrun : run.2.config.precision ≤ maxPrecision := by
      rw [config_executeAll]
      exact hp
    have hline := entries_execute A ((sound_fresh config).executeAll A lines) hrun line
    cases h : assigned? (run.2.execute A line).1 with
    | none =>
      rw [h] at hline
      exact congrArg Store.mk hline
    | some a =>
      rw [h] at hline
      exact ⟨congrArg Store.mk hline, assigns_of_assigned? A h⟩

/-- Two assignments to one variable, with a failure and another variable between them. -/
theorem names_of_two_assignments :
    ({} : Config).precision ≤ maxPrecision ∧
      let run := executeAll Arithmetic.machine {} ["x = 5 km", "y = x / 0", "y = m^2", "x = 2 * x"]
      run.1.map (fun outcome => (assigned? outcome).map Prod.fst) =
          [some "x", none, some "y", some "x"] ∧
        run.2.store.names = ["x", "y"] := by
  refine ⟨by decide, by decide +kernel, ?_⟩
  rw [(entries_eq_replay Arithmetic.machine {} (by decide) _).2.1]
  decide +kernel

end Session

end Quantities
