import Quantities.Proofs.Expr.Dimension
import Quantities.Proofs.Session.Assignment
import Quantities.Proofs.Session.Fault

namespace Quantities

variable {ν : Type} (A : Arithmetic ν)

theorem Binding.Canonical.result?_expr {b : Binding ν} (hb : b.Canonical)
    (hw : b.expr.isWritable = true) : (b.expr.result? A).perform {} = (.ok (some b), {}) := by
  rw [Expr.result?_perform]
  cases b with
  | number x u =>
    have hunit : Expr.inferUnit A (Expr.quantity x u) = pure u := Expr.inferUnit_quantity hb hw x
    have hvalue : Expr.evaluate A (Expr.quantity x u) = pure x := by
      rw [Expr.quantity, Expr.evaluate, Expr.evaluate]
    simp only [expr, hunit, hvalue, Stage.perform_pure,
      CompoundUnit.Canonical.isUnknown_eq_false hb]
    rfl
  | unit u =>
    simp only [expr, Expr.inferUnit, Stage.perform_pure, CompoundUnit.Canonical.isUnknown_eq_false hb]
    rfl

namespace Session

/-- The last of some outcomes that reports a variable as assigned. -/
def lastAssignment? (name : String) (outcomes : List (Except Fault (LineResult ν))) :
    Option (LineResult ν) :=
  (outcomes.filterMap Except.toOption).reverse.find? fun r => r.target? = some name

theorem lastAssignment?_cons (name : String) (o : Except Fault (LineResult ν))
    (os : List (Except Fault (LineResult ν))) :
    lastAssignment? name (o :: os) = (lastAssignment? name os).or (lastAssignment? name [o]) := by
  have happend : (o :: os).filterMap Except.toOption =
      [o].filterMap Except.toOption ++ os.filterMap Except.toOption :=
    List.filterMap_append (l := [o])
  rw [lastAssignment?, happend, List.reverse_append, List.find?_append]
  rfl

variable {s : Session ν}

/-- A variable holds what a result reported for it, if there is one, and is unbound otherwise. -/
def Recalls (s : Session ν) (name : String) : Option (LineResult ν) → Prop
  | none => s.store.get? name = none
  | some r => ∃ b text, r = .assignment name b text ∧ s.store.get? name = some b ∧
      s.format A b = .ok text

theorem recalls_execute (hs : s.Sound) {name : String} {last : Option (LineResult ν)}
    (hp : s.config.precision ≤ maxPrecision) (h : s.Recalls A name last) (line : String) :
    (s.execute A line).2.Recalls A name ((lastAssignment? name [(s.execute A line).1]).or last) := by
  rcases execute_target? A hs hp line with ⟨n, b, text, ht, hline⟩ | ⟨hsame, hnone⟩
  · rw [hline]
    by_cases hn : n = name
    · subst hn
      have hlast : lastAssignment? n [.ok (.assignment n b text)] = some (.assignment n b text) := by
        simp [lastAssignment?, Except.toOption, LineResult.target?]
      rw [hlast]
      exact ⟨b, text, rfl, by rw [Store.get?_insert, if_pos rfl], ht⟩
    · have hlast : lastAssignment? name [.ok (.assignment n b text)] = none := by
        simp [lastAssignment?, Except.toOption, LineResult.target?, hn]
      rw [hlast, Option.none_or]
      have hget : (s.store.insert n b).get? name = s.store.get? name := by
        rw [Store.get?_insert, if_neg (Ne.symm hn)]
      cases last with
      | none => exact hget.trans h
      | some r =>
        obtain ⟨c, t, rfl, hc, htc⟩ := h
        exact ⟨c, t, rfl, hget.trans hc, htc⟩
  · have hlast : lastAssignment? name [(s.execute A line).1] = none := by
      cases hr : (s.execute A line).1 with
      | error f => rfl
      | ok r => simp [lastAssignment?, Except.toOption, hnone r hr]
    rw [hlast, hsame, Option.none_or]
    exact h

theorem recalls_executeAll (hs : s.Sound) {name : String} {last : Option (LineResult ν)}
    (hp : s.config.precision ≤ maxPrecision) (h : s.Recalls A name last) (lines : List String) :
    (s.executeAll A lines).2.Recalls A name
      ((lastAssignment? name (s.executeAll A lines).1).or last) := by
  induction lines generalizing s last with
  | nil => exact h
  | cons line lines ih =>
    have hline := recalls_execute A hs hp h line
    have hlines := ih (hs.execute A line) (by rwa [config_execute]) hline
    rw [← Option.or_assoc, ← lastAssignment?_cons] at hlines
    exact hlines

section Name

variable {name : String} (hname : IsName name) (hlimit : name.length ≤ s.config.maxLineLength)

include hname hlimit

theorem asked?_name :
    s.asked? A name = question? ((Expr.var name : Expr ν).substitute s.store) := by
  have hlexemes := Token.lexemes_tokenize_name A hname (Int.ofNat_le.mpr hlimit)
  have hnamed : IsLine s.store [⟨.var name, 0⟩, ⟨.endOfLine, 0⟩] (.var name) :=
    ⟨[⟨.var name, 0⟩], 0, rfl, .named⟩
  exact s.asked?_of_isLine A (hnamed.of_lexemes hlexemes)

theorem execute_name_of_get? (hs : s.Sound) {b : Binding ν} {text : String}
    (hb : s.store.get? name = some b) (ht : s.format A b = .ok text) :
    s.execute A name = (.ok (.ofBinding none b text), s) := by
  have hasked : s.asked? A name = some (none, b.expr) := by
    rw [asked?_name A hname hlimit, Expr.substitute, hb]
    cases b <;> rfl
  have hresult := (hs.canonical.get? hb).result?_expr A (hs.writable.get? hb)
  rw [s.execute_of_asked? A hasked, hresult]
  simp only [ht]
  rfl

theorem execute_name_of_get?_eq_none (hb : s.store.get? name = none) :
    s.execute A name = (.ok (.error (.undefinedVariable name)), s) := by
  have hasked : s.asked? A name = some (none, .var name) := by
    rw [asked?_name A hname hlimit, Expr.substitute, hb]
    rfl
  rw [s.execute_of_asked? A hasked, Expr.result?_perform, Expr.inferUnit]
  rfl

end Name

/-- After any lines a variable has the value and the unit that were assigned to it last, or the unit
alone if it was assigned a bare unit. The assignment said the same behind an equals sign. -/
theorem execute_name (config : Config) (hp : config.precision ≤ maxPrecision)
    (lines : List String) {name : String} (hname : IsName name)
    (hlimit : name.length ≤ config.maxLineLength) :
    let run := executeAll A { config } lines
    match lastAssignment? name run.1 with
    | some r => ∃ result, run.2.execute A name = (.ok result, run.2) ∧
        r.output = name ++ " = " ++ result.output ∧
        match r.value?, r.unit? with
        | some x, some u => result = .value x u result.output
        | none, some u => result = .unit u result.output
        | _, none => False
    | none => ∃ d, run.2.execute A name = (.ok (.error d), run.2) ∧
        d.message = "Variable '" ++ name ++ "' is not defined" := by
  intro run
  have hsound : run.2.Sound := (sound_fresh config).executeAll A lines
  have hconfig : run.2.config = config := config_executeAll A (s := { config }) lines
  have hroom : name.length ≤ run.2.config.maxLineLength := by rwa [hconfig]
  have hfresh : Recalls A { config } name none := rfl
  have hrecalls := recalls_executeAll A (sound_fresh config) hp hfresh lines
  rw [Option.or_none] at hrecalls
  split
  next r hr =>
    rw [hr] at hrecalls
    obtain ⟨b, text, rfl, hb, ht⟩ := hrecalls
    refine ⟨_, execute_name_of_get? A hname hroom hsound hb ht, ?_⟩
    cases b <;> exact ⟨rfl, rfl⟩
  next hr =>
    rw [hr] at hrecalls
    exact ⟨_, execute_name_of_get?_eq_none A hname hroom hrecalls, rfl⟩

/-- A value beyond all machine numbers, with two lines behind it that fail. -/
theorem execute_name_of_infinite :
    ({} : Config).precision ≤ maxPrecision ∧ IsName "x" ∧
      "x".length ≤ ({} : Config).maxLineLength ∧
      let run := executeAll Arithmetic.machine {}
        ["x = 5 km", "x = 1e308 * 10 km / 1 h", "x = x / 0", "y = x + 1"]
      run.1.map (fun outcome => outcome.toOption.bind LineResult.target?) =
          [some "x", some "x", none, none] ∧
        ∃ result, run.2.execute .machine "x" = (.ok result, run.2) ∧
          "x" ++ " = " ++ result.output = "x = inf km h^-1" ∧ result.value?.isSome = true := by
  have hx : IsName "x" := ⟨by simp [IsWord], by decide, by decide⟩
  refine ⟨by decide, hx, by decide, ?_⟩
  intro run
  have hrun := execute_name Arithmetic.machine {} (by decide)
    ["x = 5 km", "x = 1e308 * 10 km / 1 h", "x = x / 0", "y = x + 1"] hx (by decide)
  have hlast : (lastAssignment? "x" run.1).map (fun r => (r.output, r.value?.isSome)) =
      some ("x = inf km h^-1", true) := by decide +kernel
  obtain ⟨r, hr, hpair⟩ := Option.map_eq_some_iff.mp hlast
  obtain ⟨houtput, hvalue⟩ := Prod.mk.inj hpair
  simp only [run] at hr
  simp only [hr] at hrun
  obtain ⟨result, hresult, hsame, hread⟩ := hrun
  refine ⟨by decide +kernel, result, hresult, hsame ▸ houtput, ?_⟩
  split at hread
  next x u _ _ => rw [hread]; rfl
  next h _ => rw [h] at hvalue; cases hvalue
  next => exact hread.elim

end Session

end Quantities
