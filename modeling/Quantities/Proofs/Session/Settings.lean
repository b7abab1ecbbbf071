import Mathlib.Data.List.Forall2
import Quantities.Proofs.Session.Fault

namespace Quantities

variable {ν : Type} (A : Arithmetic ν)

theorem Token.tokenize_eq_of_le {limit limit' : Int} {source : String}
    (h : source.length ≤ limit) (h' : source.length ≤ limit') :
    tokenize A limit source = tokenize A limit' source := by
  rw [tokenize, tokenize, scan, scan, if_neg (by omega), if_neg (by omega)]

namespace Session

/-- Outcomes that differ at most in the text of a number or a unit. -/
inductive Alike : Except Fault (LineResult ν) → Except Fault (LineResult ν) → Prop
  | value (x : ν) (u : CompoundUnit) (text text' : String) :
      Alike (.ok (.value x u text)) (.ok (.value x u text'))
  | unit (u : CompoundUnit) (text text' : String) :
      Alike (.ok (.unit u text)) (.ok (.unit u text'))
  | assignment (name : String) (b : Binding ν) (text text' : String) :
      Alike (.ok (.assignment name b text)) (.ok (.assignment name b text'))
  | silent (r : LineResult ν) (h : r.isSilent = true) : Alike (.ok r) (.ok r)
  | fault (f : Fault) : Alike (.error f) (.error f)

variable {s t : Session ν} (hs : s.config.precision ≤ maxPrecision)
  (ht : t.config.precision ≤ maxPrecision)

include hs ht

theorem alike_execute (hsound : s.Sound) (hstore : t.store = s.store) {line : String}
    (hsl : line.length ≤ s.config.maxLineLength) (htl : line.length ≤ t.config.maxLineLength) :
    Alike (s.execute A line).1 (t.execute A line).1 ∧
      (t.execute A line).2.store = (s.execute A line).2.store := by
  have hparse : t.parse A line = s.parse A line := by
    rw [parse, parse, Expr.ofLine, Expr.ofLine, hstore,
      Token.tokenize_eq_of_le A (Int.ofNat_le.mpr hsl) (Int.ofNat_le.mpr htl)]
  cases hq : s.asked? A line with
  | none =>
    obtain ⟨result, hsilent, hresult⟩ := s.exists_execute_of_asked?_eq_none A hq
    rw [hresult s rfl, hresult t hparse]
    exact ⟨.silent result hsilent, hstore⟩
  | some q =>
    obtain ⟨target, e⟩ := q
    rw [s.execute_of_asked? A hq, t.execute_of_asked? A ((asked?_congr A hparse).trans hq)]
    rcases hb : (e.result? A).perform {} with ⟨f | (_ | b), ρ⟩
    · exact ⟨.fault f, hstore⟩
    · exact ⟨.silent _ rfl, hstore⟩
    · have hw := hsound.isWritable_of_result? A hq hb
      obtain ⟨text, htext⟩ := exists_format A hs hw
      obtain ⟨text', htext'⟩ := exists_format A ht hw
      simp only [htext, htext']
      cases target with
      | some name => exact ⟨.assignment name b text text', congrArg (·.insert name b) hstore⟩
      | none =>
        cases b with
        | number x u => exact ⟨.value x u text text', hstore⟩
        | unit u => exact ⟨.unit u text text', hstore⟩

theorem alike_executeAll_of_store (hsound : s.Sound) (hstore : t.store = s.store)
    {lines : List String} (hlines : ∀ line ∈ lines,
      line.length ≤ s.config.maxLineLength ∧ line.length ≤ t.config.maxLineLength) :
    List.Forall₂ Alike (s.executeAll A lines).1 (t.executeAll A lines).1 ∧
      (t.executeAll A lines).2.store = (s.executeAll A lines).2.store := by
  induction lines generalizing s t with
  | nil => exact ⟨.nil, hstore⟩
  | cons line lines ih =>
    obtain ⟨hline, hrest⟩ := List.forall_mem_cons.mp hlines
    obtain ⟨halike, hsame⟩ := alike_execute A hs ht hsound hstore hline.1 hline.2
    have hconfig := config_execute A (s := s) line
    have hconfig' := config_execute A (s := t) line
    obtain ⟨halikes, hlast⟩ := ih (by rwa [hconfig]) (by rwa [hconfig']) (hsound.execute A line)
      hsame (by rwa [hconfig, hconfig'])
    exact ⟨.cons halike halikes, hlast⟩

omit hs ht

/-- The lines of a run have the same results under two configurations, but for the words of values,
units and assignments, and all variables are the same behind them. -/
theorem alike_executeAll (c d : Config) (hc : c.precision ≤ maxPrecision)
    (hd : d.precision ≤ maxPrecision) (lines : List String)
    (hlines : ∀ line ∈ lines, line.length ≤ c.maxLineLength ∧ line.length ≤ d.maxLineLength) :
    let run := executeAll A { config := c } lines
    let other := executeAll A { config := d } lines
    List.Forall₂ Alike run.1 other.1 ∧ run.2.store = other.2.store := by
  intro run other
  have halike := alike_executeAll_of_store A (s := { config := c }) (t := { config := d }) hc hd
    (sound_fresh c) rfl hlines
  exact ⟨halike.1, halike.2.symm⟩

/-- Three digits and a name for plain numbers, with a line that has just enough room. -/
theorem alike_executeAll_of_three_digits :
    let c : Config := { precision := 3, debugUnits := true, maxLineLength := 9, level := .debug }
    let lines := ["x = 1 / 3", "x * km", "1 + x", "u = s / h", "exit"]
    let texts (config : Config) := (executeAll Arithmetic.machine { config } lines).1.map
      fun outcome => outcome.toOption.map LineResult.output
    c.precision ≤ maxPrecision ∧ ({} : Config).precision ≤ maxPrecision ∧
      (∀ line ∈ lines,
        line.length ≤ c.maxLineLength ∧ line.length ≤ ({} : Config).maxLineLength) ∧
      texts c = [some "x = 0.333 none", some "Invalid operands for '*': const x unit and unit",
        some "1.33 none", some "u = none", some ""] ∧
      texts {} = [some "x = 0.3333333333", some "Invalid operands for '*': const x unit and unit",
        some "1.333333333", some "u = none", some ""] ∧
      List.Forall₂ Alike (executeAll Arithmetic.machine { config := c } lines).1
        (executeAll Arithmetic.machine {} lines).1 ∧
      (executeAll Arithmetic.machine { config := c } lines).2.store =
        (executeAll Arithmetic.machine {} lines).2.store := by
  intro c lines texts
  have hlines : ∀ line ∈ lines,
      line.length ≤ c.maxLineLength ∧ line.length ≤ ({} : Config).maxLineLength := by decide
  have hsame := alike_executeAll Arithmetic.machine c {} (by decide) (by decide) lines hlines
  exact ⟨by decide, by decide, hlines, by decide +kernel, by decide +kernel, hsame⟩

end Session

end Quantities
