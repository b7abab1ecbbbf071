import Quantities.Proofs.Grammar.Occurrence
import Quantities.Proofs.Session.Replay

namespace Quantities.Session

variable {ν : Type} (A : Arithmetic ν)

/-- The variables that occur in a line, in their order. -/
def varNames (s : Session ν) (line : String) : List String :=
  Token.varNames (Token.tokenize A s.config.maxLineLength line)

/-- The variable that a line binds, if it binds one, and what it binds it to. -/
def binding? (s : Session ν) (line : String) : Option (String × Binding ν) :=
  match s.asked? A line with
  | some (some name, e) =>
    match (e.result? A).perform {} with
    | (.ok (some b), _) => some (name, b)
    | _ => none
  | _ => none

/-- A line that binds no variable of another one. -/
def Spares (s : Session ν) (line other : String) : Prop :=
  ∀ b ∈ s.binding? A line, b.1 ∉ s.varNames A other

variable {s t : Session ν} {line : String}

theorem execute_of_binding? {name : String} {b : Binding ν}
    (h : s.binding? A line = some (name, b)) :
    (s.execute A line).2 = { s with store := s.store.insert name b } := by
  unfold binding? at h
  split at h
  next e hasked =>
    rw [s.execute_of_asked? A hasked]
    split at h <;> cases h
    next hresult => rw [hresult]; rfl
  next => cases h

theorem execute_of_binding?_eq_none (h : s.binding? A line = none) : (s.execute A line).2 = s := by
  rcases s.session_execute A line with hs | ⟨name, e, b, r, hasked, hresult, _⟩
  · exact hs
  · simp [binding?, hasked, hresult] at h

theorem get?_execute (name : String) : (s.execute A line).2.store.get? name =
    match s.binding? A line with
    | some (x, b) => if name = x then some b else s.store.get? name
    | none => s.store.get? name := by
  cases h : s.binding? A line with
  | none => rw [execute_of_binding?_eq_none A h]
  | some xb => rw [execute_of_binding? A h, Store.get?_insert]

theorem mem_varNames_of_binding? {name : String} {b : Binding ν}
    (h : s.binding? A line = some (name, b)) : name ∈ s.varNames A line := by
  unfold binding? at h
  split at h
  next x e hasked =>
    obtain ⟨p, c, q, rest, htokens⟩ := assigns_of_asked? A hasked
    split at h <;> cases h
    rw [varNames, htokens]
    exact Token.mem_varNames_iff.mpr ⟨⟨.var name, p⟩, by simp, rfl⟩
  next => cases h

theorem parse_congr (hconfig : t.config = s.config)
    (h : ∀ name ∈ s.varNames A line, t.store.get? name = s.store.get? name) :
    t.parse A line = s.parse A line := by
  have hagree : t.store.reference.Agree s.store.reference
      (Token.tokenize A s.config.maxLineLength line) := by
    intro name hname
    simp only [Store.reference, Store.holdsNumber, Store.holdsUnit, h name hname, and_self]
  rw [parse, parse, Expr.ofLine, Expr.ofLine, hconfig, Expr.ofTokens_congr hagree]
  exact Expr.substitute_congr fun name hname => h name (Expr.mem_varNames_of_mem_nodes hname)

theorem execute_congr_of_parse_eq (hconfig : t.config = s.config)
    (hparse : t.parse A line = s.parse A line) :
    (t.execute A line).1 = (s.execute A line).1 ∧ t.binding? A line = s.binding? A line := by
  have hasked := asked?_congr A hparse
  refine ⟨?_, by rw [binding?, binding?, hasked]⟩
  have hformat : t.format A = s.format A := by
    funext b
    cases b <;> simp only [format, hconfig]
  cases hq : s.asked? A line with
  | none =>
    obtain ⟨result, -, hresult⟩ := s.exists_execute_of_asked?_eq_none A hq
    rw [hresult s rfl, hresult t hparse]
  | some q =>
    obtain ⟨target, e⟩ := q
    rw [s.execute_of_asked? A hq, t.execute_of_asked? A (hasked.trans hq), hformat]
    rcases (e.result? A).perform {} with ⟨f | (_ | b), ρ⟩ <;> rfl

/-- What becomes of a line depends on no variables but those that occur in it. -/
theorem execute_congr (hconfig : t.config = s.config)
    (h : ∀ name ∈ s.varNames A line, t.store.get? name = s.store.get? name) :
    (t.execute A line).1 = (s.execute A line).1 ∧ t.binding? A line = s.binding? A line :=
  execute_congr_of_parse_eq A hconfig (parse_congr A hconfig h)

theorem execute_of_spares {other : String} (h : s.Spares A other line) :
    ((s.execute A other).2.execute A line).1 = (s.execute A line).1 ∧
      (s.execute A other).2.binding? A line = s.binding? A line := by
  refine execute_congr A (config_execute A other) fun name hname => ?_
  rw [get?_execute]
  split
  next x b hbinding =>
    refine if_neg ?_
    rintro rfl
    exact h _ hbinding hname
  next => rfl

/-- Two lines that spare each other have the same outcomes and leave the same variables behind in
either order, for no line depends on variables that do not occur in it. -/
theorem executeAll_comm (s : Session ν) :
    (∀ (t : Session ν) (line : String), t.config = s.config →
      (∀ name ∈ s.varNames A line, t.store.get? name = s.store.get? name) →
        (t.execute A line).1 = (s.execute A line).1) ∧
    ∀ first second : String, s.Spares A first second → s.Spares A second first →
      (s.executeAll A [first, second]).1 = [(s.execute A first).1, (s.execute A second).1] ∧
      (s.executeAll A [second, first]).1 = [(s.execute A second).1, (s.execute A first).1] ∧
      ∀ name, (s.executeAll A [first, second]).2.store.get? name =
        (s.executeAll A [second, first]).2.store.get? name := by
  refine ⟨fun t line hconfig h => (execute_congr A hconfig h).1, fun first second hf hs => ?_⟩
  obtain ⟨hsecond, hbinds⟩ := execute_of_spares A hf
  obtain ⟨hfirst, hbindf⟩ := execute_of_spares A hs
  refine ⟨by simp only [executeAll, hsecond], by simp only [executeAll, hfirst], fun name => ?_⟩
  simp only [executeAll, get?_execute, hbindf, hbinds]
  cases h₁ : s.binding? A first with
  | none => rfl
  | some p =>
    cases h₂ : s.binding? A second with
    | none => rfl
    | some q =>
      have hne : p.1 ≠ q.1 := fun he => hf p h₁ (he ▸ mem_varNames_of_binding? A h₂)
      by_cases hp : name = p.1
      · simp [hp, hne]
      · simp [hp]

/-- Two assignments that use the same variable. -/
theorem executeAll_comm_shared :
    let s := (executeAll Arithmetic.machine {} ["z = 2 km"]).2
    s.Spares Arithmetic.machine "x = z * 3" "y = z + 1 km" ∧
      s.Spares Arithmetic.machine "y = z + 1 km" "x = z * 3" ∧
      (s.executeAll Arithmetic.machine ["x = z * 3", "y = z + 1 km"]).2.store.names =
        ["z", "x", "y"] ∧
      (s.executeAll Arithmetic.machine ["y = z + 1 km", "x = z * 3"]).2.store.names =
        ["z", "y", "x"] ∧
      ∀ name, (s.executeAll Arithmetic.machine ["x = z * 3", "y = z + 1 km"]).2.store.get? name =
        (s.executeAll Arithmetic.machine ["y = z + 1 km", "x = z * 3"]).2.store.get? name := by
  intro s
  have hx : s.Spares Arithmetic.machine "x = z * 3" "y = z + 1 km" := by
    unfold Spares
    decide +kernel
  have hy : s.Spares Arithmetic.machine "y = z + 1 km" "x = z * 3" := by
    unfold Spares
    decide +kernel
  exact ⟨hx, hy, by decide +kernel, by decide +kernel,
    ((executeAll_comm Arithmetic.machine s).2 _ _ hx hy).2.2⟩

end Quantities.Session
