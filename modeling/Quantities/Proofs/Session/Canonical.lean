import Quantities.Proofs.Session.Replay
import Quantities.Proofs.Token.Tokenize
import Quantities.Proofs.Unit.Degree

namespace Quantities

variable {ν : Type} (A : Arithmetic ν)

/-- The unit of a number, or a unit itself. -/
def Binding.unitOf : Binding ν → CompoundUnit
  | number _ u | unit u => u

theorem Binding.canonical_iff {b : Binding ν} : b.Canonical ↔ b.unitOf.Canonical := by
  cases b <;> rfl

theorem LineResult.unit?_ofBinding (target : Option String) (b : Binding ν) (text : String) :
    (LineResult.ofBinding target b text).unit? = some b.unitOf := by
  cases target <;> cases b <;> rfl

theorem LineResult.unit?_of_isSilent {r : LineResult ν} (h : r.isSilent = true) :
    r.unit? = none := by
  cases r <;> first | rfl | cases h

def Store.Named (s : Store ν) : Prop := ∀ p ∈ s.entries, IsName p.1

theorem Store.Named.insert {s : Store ν} (h : s.Named) {name : String} (hname : IsName name)
    (b : Binding ν) : (s.insert name b).Named := by
  intro p hp
  rcases Entries.mem_of_mem_set hp with hp | rfl
  · exact h p hp
  · exact hname

namespace Session

variable {s : Session ν}

theorem isName_of_asked? {line name : String} {e : Expr ν}
    (h : s.asked? A line = some (some name, e)) : IsName name := by
  obtain ⟨p, c, q, rest, htokens⟩ := assigns_of_asked? A h
  have hmem : (⟨.var name, p⟩ : Token ν) ∈ Token.tokenize A s.config.maxLineLength line := by
    rw [htokens]
    simp
  exact Token.isName_of_mem_tokenize A hmem rfl

theorem named_execute (hs : s.store.Named) (line : String) :
    (s.execute A line).2.store.Named := by
  rcases s.session_execute A line with h | ⟨name, e, b, r, hasked, _, h⟩ <;> rw [h]
  · exact hs
  · exact hs.insert (isName_of_asked? A hasked) b

theorem canonical_of_unit?_execute (hs : s.store.Canonical) {line : String} {r : LineResult ν}
    {u : CompoundUnit} (hr : (s.execute A line).1 = .ok r) (hu : r.unit? = some u) :
    u.Canonical := by
  have hloud : r.isSilent = false := by
    refine Bool.eq_false_iff.mpr fun hsilent => ?_
    rw [LineResult.unit?_of_isSilent hsilent] at hu
    cases hu
  obtain ⟨target, e, b, ρ, text, hasked, hresult, -, rfl⟩ := exists_answer_of_execute A hr hloud
  rw [LineResult.unit?_ofBinding] at hu
  cases hu
  exact Binding.canonical_iff.mp
    ((answerable_of_asked? A hs hasked).canonical_of_result? hresult)

theorem named_executeAll (hs : s.store.Named) (lines : List String) :
    (s.executeAll A lines).2.store.Named := by
  induction lines generalizing s with
  | nil => exact hs
  | cons line lines ih => exact ih (named_execute A hs line)

theorem canonical_of_unit?_executeAll (hs : s.store.Canonical) {lines : List String}
    {r : LineResult ν} {u : CompoundUnit} (hr : .ok r ∈ (s.executeAll A lines).1)
    (hu : r.unit? = some u) : u.Canonical := by
  induction lines generalizing s with
  | nil => cases hr
  | cons line lines ih =>
    rw [executeAll] at hr
    rcases List.mem_cons.mp hr with hr | hr
    · exact canonical_of_unit?_execute A hs hr.symm hu
    · exact ih (canonical_execute A hs line) hr

/-- The units that a run left in variables or reported. -/
def unitsOf (run : List (Except Fault (LineResult ν)) × Session ν) : List CompoundUnit :=
  run.2.store.entries.map (·.2.unitOf) ++
    run.1.filterMap fun outcome => outcome.toOption.bind LineResult.unit?

theorem canonical_of_mem_unitsOf {lines : List String} {u : CompoundUnit}
    (hs : s.store.Canonical) (hu : u ∈ unitsOf (s.executeAll A lines)) : u.Canonical := by
  rcases List.mem_append.mp hu with hu | hu
  · obtain ⟨p, hp, rfl⟩ := List.mem_map.mp hu
    exact Binding.canonical_iff.mp (canonical_executeAll A hs lines p hp)
  · obtain ⟨outcome, ho, hou⟩ := List.mem_filterMap.mp hu
    cases outcome with
    | error f => cases hou
    | ok r => exact canonical_of_unit?_executeAll A hs ho hou

/-- After any lines every unit is canonical, every variable has a proper name and holds a number
with its unit or a bare unit. -/
theorem canonical_run (config : Config) (lines : List String) :
    let run := executeAll A { config } lines
    (∀ u ∈ unitsOf run, u.Canonical ∧ u.isUnknown = false ∧ 0 < u.size ∧ u.size ≤ 3) ∧
      ∀ p ∈ run.2.store.entries, IsName p.1 ∧
        ((∃ u, p.2.expr = .unit u) ∨ ∃ x u, p.2.expr = .bin .quantity (.const x) (.unit u)) := by
  intro run
  constructor
  · intro u hu
    have hc := canonical_of_mem_unitsOf A (s := { config }) Store.canonical_empty hu
    exact ⟨hc, hc.isUnknown_eq_false, hc.size_bounds⟩
  · rintro ⟨name, b⟩ hp
    have hnamed : run.2.store.Named := named_executeAll A (s := { config }) (by simp [Store.Named]) lines
    refine ⟨hnamed _ hp, ?_⟩
    cases b with
    | number x u => exact .inr ⟨x, u, rfl⟩
    | unit u => exact .inl ⟨u, rfl⟩

/-- A quotient and a unit of three terms, and a product that cancels to a plain number. -/
theorem canonical_run_of_three_lines :
    let run := executeAll Arithmetic.machine {}
      ["x = 5 km / 2 h", "n = kg m s^-2", "x * 3 h / 1 km"]
    run.2.store.names = ["x", "n"] ∧ unitsOf run =
        [⟨[⟨.kilometer, 1⟩, ⟨.hour, -1⟩]⟩, ⟨[⟨.kilogram, 1⟩, ⟨.meter, 1⟩, ⟨.second, -2⟩]⟩,
          ⟨[⟨.kilometer, 1⟩, ⟨.hour, -1⟩]⟩, ⟨[⟨.kilogram, 1⟩, ⟨.meter, 1⟩, ⟨.second, -2⟩]⟩, .none] ∧
      (∀ u ∈ unitsOf run, u.Canonical) ∧ ∀ name ∈ run.2.store.names, IsName name := by
  intro run
  have hrun := canonical_run Arithmetic.machine {}
    ["x = 5 km / 2 h", "n = kg m s^-2", "x * 3 h / 1 km"]
  refine ⟨by decide +kernel, by decide +kernel, fun u hu => (hrun.1 u hu).1, fun name hname => ?_⟩
  obtain ⟨p, hp, rfl⟩ := List.mem_map.mp hname
  exact (hrun.2 p hp).1

end Session

end Quantities
