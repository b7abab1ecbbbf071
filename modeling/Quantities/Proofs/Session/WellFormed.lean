import Quantities.Proofs.Grammar.Words
import Quantities.Proofs.Number.Text
import Quantities.Proofs.Session.Canonical
import Quantities.Proofs.Session.Explanation
import Quantities.Proofs.Text.Messages

namespace Quantities

open Text

variable {ν : Type} (A : Arithmetic ν)

/-- What a result holds beside its text, where the variables after its line are these. -/
def LineResult.WellFormed (store : Store ν) (r : LineResult ν) : Prop :=
  match r with
  | error _ | help | empty | quit => r.value? = none ∧ r.unit? = none
  | value .. => r.value?.isSome = true ∧ r.unit?.isSome = true
  | unit .. => r.value? = none ∧ r.unit?.isSome = true
  | assignment name _ _ => r.unit?.isSome = true ∧ ∃ b, store.get? name = some b ∧
      (r.value?.isSome = true ↔ ∃ x u, b.expr = .bin .quantity (.const x) (.unit u))

namespace LineResult

theorem wellFormed_of_isSilent {r : LineResult ν} (h : r.isSilent = true) (store : Store ν) :
    r.WellFormed store := by
  cases r <;> first | exact ⟨rfl, rfl⟩ | cases h

theorem wellFormed_ofBinding {target : Option String} {b : Binding ν} {store : Store ν}
    (h : ∀ name ∈ target, store.get? name = some b) (text : String) :
    (ofBinding target b text).WellFormed store := by
  cases target with
  | none => cases b <;> exact ⟨rfl, rfl⟩
  | some name =>
    refine ⟨by cases b <;> rfl, b, h name rfl, ?_⟩
    cases b <;> simp [ofBinding, value?, Binding.expr, Expr.quantity]

theorem shown_ofBinding {target : Option String} {text : String}
    (hname : ∀ name ∈ target, Legible name.toList) (htext : Shown text) (b : Binding ν) :
    Shown (ofBinding target b text).output := by
  cases target with
  | none => cases b <;> exact htext
  | some name => exact htext.prepend ((hname name rfl).append (legible_of_plain rfl))

end LineResult

namespace Session

variable {s : Session ν}

theorem wellFormed_execute {line : String} {r : LineResult ν}
    (h : (s.execute A line).1 = .ok r) : r.WellFormed (s.execute A line).2.store := by
  cases hsilent : r.isSilent with
  | true => exact LineResult.wellFormed_of_isSilent hsilent _
  | false =>
    obtain ⟨target, e, b, ρ, text, hasked, hresult, -, rfl⟩ := exists_answer_of_execute A h hsilent
    refine LineResult.wellFormed_ofBinding ?_ text
    rintro name rfl
    rw [s.execute_of_asked? A hasked, hresult]
    simp [bind, Store.get?_insert]

section Text

variable {A} (hA : A.Writes)

theorem toList_joined {number : String} (h : number ≠ "") (unit : String) :
    (" ".intercalate ([number, unit].filter (· ≠ ""))).toList =
      number.toList ++ if unit = "" then [] else ' ' :: unit.toList := by
  by_cases hu : unit = "" <;> simp [h, hu]

theorem eq_text_of_formatNumber {precision : Int} {x : ν} {number : String}
    (h : formatNumber A precision x = .ok number) : number = A.text precision.toNat x := by
  unfold formatNumber at h
  split at h <;> cases h
  rfl

include hA in
theorem shown_formatValue {precision : Int} {explicit : Bool} {x : ν} {u : CompoundUnit}
    {text : String} (h : formatValue A precision explicit x u = .ok text) : Shown text := by
  obtain ⟨number, hnumber, -, rfl⟩ := (formatValue_eq_ok_iff A).mp h
  have hshown : Shown number := by
    rw [eq_text_of_formatNumber hnumber]
    exact hA precision.toNat x
  refine .of_toList (toList_joined hshown.ne_empty _)
    (legible_append_iff.mpr ⟨hshown.legible, ?_⟩) ?_
  · split
    · exact legible_nil
    · exact legible_cons_of_plain rfl (u.legible_display explicit)
  · intro hempty
    exact hshown.ne_empty (String.toList_eq_nil_iff.mp (List.append_eq_nil_iff.mp hempty).1)

theorem shown_formatUnit {explicit : Bool} {u : CompoundUnit} {text : String}
    (h : formatUnit explicit u = .ok text) : Shown text := by
  obtain ⟨-, rfl⟩ := formatUnit_eq_ok_iff.mp h
  split
  · exact ⟨legible_of_plain rfl, by decide⟩
  next hne => exact ⟨u.legible_display explicit, hne⟩

include hA in
theorem shown_format {b : Binding ν} {text : String} (h : s.format A b = .ok text) :
    Shown text := by
  cases b with
  | number x u => exact shown_formatValue hA h
  | unit u => exact shown_formatUnit h

theorem legible_of_mem_words_parse (line : String) :
    ∀ w ∈ (s.parse A line).words, Legible w.toList := by
  intro w hw
  exact Expr.forall_mem_words_ofTokens
    (Token.legible_of_mem_words_tokenize A s.config.maxLineLength line) w
    (Expr.words_substitute_subset _ _ hw)

include hA in
theorem legible_message_of_first {line : String} {d : Diagnostic}
    (h : (s.report A line).first = some d) : Legible d.message.toList := by
  obtain ⟨-, hwords | ⟨x, rfl⟩⟩ := arises_of_first A h
  · exact Diagnostic.legible_message fun w hw => legible_of_mem_words_parse line w (hwords hw)
  · exact Diagnostic.legible_message (List.forall_mem_singleton.mpr (hA 6 x).legible)

include hA in
/-- The text of a line's result can be seen unless it is the help text, and only a blank line and
one that quits have none. -/
theorem legible_output (hs : s.store.Canonical) {line : String} {r : LineResult ν}
    (h : (s.execute A line).1 = .ok r) :
    (r ≠ .help → Legible r.output.toList) ∧ (r.output = "" ↔ r = .empty ∨ r = .quit) := by
  have hexplained := explained_execute A hs h
  cases hsilent : r.isSilent with
  | true =>
    cases r with
    | error d =>
      refine ⟨fun _ => legible_message_of_first hA hexplained.first_eq, ?_⟩
      simpa using (hexplained.output_ne rfl).1
    | help =>
      have hhelp : LineResult.helpText ≠ "" := by decide
      exact ⟨fun hne => absurd rfl hne, by simpa [LineResult.output] using hhelp⟩
    | empty | quit => exact ⟨fun _ => legible_nil, by simp [LineResult.output]⟩
    | _ => cases hsilent
  | false =>
    obtain ⟨target, e, b, ρ, text, hasked, -, hformat, rfl⟩ := exists_answer_of_execute A h hsilent
    have hname : ∀ name ∈ target, Legible name.toList := by
      rintro name rfl
      exact (isName_of_asked? A hasked).isWord.legible
    have hshown := LineResult.shown_ofBinding hname (shown_format hA hformat) b
    refine ⟨fun _ => hshown.legible, fun hempty => absurd hempty hshown.ne_empty, fun hquiet => ?_⟩
    rcases hquiet with hquiet | hquiet <;> rw [hquiet] at hsilent <;> cases hsilent

end Text

/-- The result of a line in a session after any lines holds what its sort promises. It has a text
unless the line was blank or quits, and but for the help text that is one line in which every
character can be seen. -/
theorem wellFormed_and_legible_of_execute (config : Config) (lines : List String) (line : String)
    (r : LineResult Float) :
    let s := (executeAll Arithmetic.machine { config } lines).2
    (s.execute Arithmetic.machine line).1 = .ok r →
      r.WellFormed (s.execute Arithmetic.machine line).2.store ∧
        (r.output = "" ↔ r = .empty ∨ r = .quit) ∧
          (r ≠ .help → Legible r.output.toList ∧ ∀ c ∈ lineBreaks, c ∉ r.output.toList) := by
  intro s h
  have hs := canonical_executeAll Arithmetic.machine (s := { config }) Store.canonical_empty lines
  obtain ⟨hlegible, hempty⟩ := legible_output Arithmetic.writes_machine hs h
  refine ⟨wellFormed_execute Arithmetic.machine h, hempty, fun hne => ?_⟩
  exact ⟨hlegible hne, fun c hc => (hlegible hne).not_mem_of_mem_lineBreaks hc⟩

/-- A line that holds a zero-width space, and one that stores a number. -/
theorem wellFormed_and_legible_of_hidden_space :
    let s : Session Float := (executeAll Arithmetic.machine {} ["n = kg m"]).2
    (∃ r, (s.execute Arithmetic.machine "5\u200bn").1 = .ok r ∧
        (r.value? = none ∧ r.unit? = none) ∧ Legible r.output.toList ∧
          r.output = "Invalid expression: Unexpected character '\\u200b' at position 1") ∧
      ∃ r, (s.execute Arithmetic.machine "v = 3 n").1 = .ok r ∧ r.value? = some 3 ∧
        (∃ b, (s.execute Arithmetic.machine "v = 3 n").2.store.get? "v" = some b ∧
          ∃ x u, b.expr = .bin .quantity (.const x) (.unit u)) ∧
          r.output = "v = 3 kg m" ∧ '\n' ∉ r.output.toList := by
  intro s
  have hspace : (s.execute Arithmetic.machine "5\u200bn").1.toOption =
      some (.error (.invalidExpression (some (.unexpectedCharacter '\u200b' 1)))) := by
    decide +kernel
  have hnumber : (s.execute Arithmetic.machine "v = 3 n").1.toOption =
      some (.assignment "v" (.number 3 ⟨[⟨.kilogram, 1⟩, ⟨.meter, 1⟩]⟩) "3 kg m") := by
    decide +kernel
  have result {line : String} {r : LineResult Float}
      (h : (s.execute Arithmetic.machine line).1.toOption = some r) :
      (s.execute Arithmetic.machine line).1 = .ok r := by
    cases hr : (s.execute Arithmetic.machine line).1 <;> rw [hr] at h <;> cases h
    rfl
  have herror := wellFormed_and_legible_of_execute {} ["n = kg m"] "5\u200bn" _ (result hspace)
  have hstored := wellFormed_and_legible_of_execute {} ["n = kg m"] "v = 3 n" _ (result hnumber)
  obtain ⟨b, hb, hvalue⟩ := hstored.1.2
  refine ⟨⟨_, result hspace, herror.1, (herror.2.2 nofun).1, by decide +kernel⟩, _,
    result hnumber, rfl, ⟨b, hb, hvalue.mp rfl⟩, by decide, ?_⟩
  exact (hstored.2.2 nofun).2 '\n' (by decide)

end Session

end Quantities
