import Quantities.Number.Machine
import Quantities.Session.Outcome

namespace Quantities

variable {ν : Type} (A : Arithmetic ν)

theorem LineResult.isQuit_iff {r : LineResult ν} : r.isQuit = true ↔ r = .quit := by
  cases r <;> simp [isQuit]

namespace Session

def quits (outcome : Except Fault (LineResult ν)) : Bool :=
  outcome.toOption.any LineResult.isQuit

variable (s : Session ν)

/-- The lines up to the first one that quits, which is among them. -/
def untilQuit (lines : List String) : List String :=
  lines.take ((s.executeAll A lines).1.findIdx quits + 1)

def results (lines : List String) : List (LineResult ν) :=
  (s.executeAll A lines).1.filterMap Except.toOption

/-- No line ends with a fault. -/
def IsFaultless (lines : List String) : Prop :=
  ∀ outcome ∈ (s.executeAll A lines).1, outcome.isOk = true

instance (lines : List String) : Decidable (s.IsFaultless A lines) :=
  inferInstanceAs (Decidable (∀ outcome ∈ (s.executeAll A lines).1, outcome.isOk = true))

variable {s}

theorem quits_of_ok {line : String} {r : LineResult ν} (h : (s.execute A line).1 = .ok r) :
    quits (s.execute A line).1 = r.isQuit := by
  rw [h]
  rfl

theorem isFaultless_cons {line : String} {lines : List String} :
    s.IsFaultless A (line :: lines) ↔
      (∃ r, (s.execute A line).1 = .ok r) ∧ (s.execute A line).2.IsFaultless A lines := by
  have hok : (s.execute A line).1.isOk = true ↔ ∃ r, (s.execute A line).1 = .ok r := by
    cases (s.execute A line).1 <;> simp [Except.isOk, Except.toBool]
  rw [← hok]
  exact List.forall_mem_cons

theorem results_cons {line : String} {r : LineResult ν} (h : (s.execute A line).1 = .ok r)
    (lines : List String) :
    s.results A (line :: lines) = r :: (s.execute A line).2.results A lines :=
  List.filterMap_cons_some (congrArg Except.toOption h)

variable (s)

theorem executeAll_append (lines rest : List String) :
    s.executeAll A (lines ++ rest) =
      ((s.executeAll A lines).1 ++ ((s.executeAll A lines).2.executeAll A rest).1,
        ((s.executeAll A lines).2.executeAll A rest).2) := by
  induction lines generalizing s with
  | nil => rfl
  | cons line lines ih =>
    simp only [List.cons_append, executeAll]
    rw [ih]

theorem results_append (lines rest : List String) :
    s.results A (lines ++ rest) =
      s.results A lines ++ (s.executeAll A lines).2.results A rest := by
  rw [results, executeAll_append, List.filterMap_append]
  rfl

theorem isFaultless_append {lines rest : List String} :
    s.IsFaultless A (lines ++ rest) ↔
      s.IsFaultless A lines ∧ (s.executeAll A lines).2.IsFaultless A rest := by
  rw [IsFaultless, executeAll_append, List.forall_mem_append]
  rfl

theorem length_results {lines : List String} (h : s.IsFaultless A lines) :
    (s.results A lines).length = lines.length := by
  induction lines generalizing s with
  | nil => rfl
  | cons line lines ih =>
    obtain ⟨⟨r, hr⟩, hlines⟩ := (isFaultless_cons A).mp h
    rw [results_cons A hr, List.length_cons, List.length_cons, ih _ hlines]

theorem any_isQuit_results (lines : List String) :
    (s.results A lines).any LineResult.isQuit = (s.executeAll A lines).1.any quits := by
  rw [results, List.any_filterMap]
  rfl

theorem untilQuit_nil : s.untilQuit A [] = [] := rfl

theorem untilQuit_cons (line : String) (lines : List String) :
    s.untilQuit A (line :: lines) =
      if quits (s.execute A line).1 then [line]
      else line :: (s.execute A line).2.untilQuit A lines := by
  rw [untilQuit, executeAll, List.findIdx_cons]
  cases quits (s.execute A line).1 <;> simp [untilQuit]

theorem exists_ok_of_isFaultless_untilQuit {line : String} {lines : List String}
    (h : s.IsFaultless A (s.untilQuit A (line :: lines))) :
    ∃ r, (s.execute A line).1 = .ok r := by
  rw [untilQuit_cons] at h
  split at h <;> exact ((isFaultless_cons A).mp h).1

theorem untilQuit_append (lines rest : List String) :
    s.untilQuit A (lines ++ rest) =
      if (s.executeAll A lines).1.any quits then s.untilQuit A lines
      else lines ++ (s.executeAll A lines).2.untilQuit A rest := by
  induction lines generalizing s with
  | nil => rfl
  | cons line lines ih =>
    rw [List.cons_append, untilQuit_cons, untilQuit_cons, ih]
    simp only [executeAll, List.any_cons]
    split
    next hline => simp only [hline, Bool.true_or, if_true]
    next hline =>
      rw [Bool.not_eq_true] at hline
      rw [hline, Bool.false_or]
      split <;> rfl

theorem untilQuit_eq_self {lines : List String} (h : (s.executeAll A lines).1.any quits = false) :
    s.untilQuit A lines = lines := by
  have happend := s.untilQuit_append A lines []
  rw [h, if_neg Bool.false_ne_true, untilQuit_nil] at happend
  simpa only [List.append_nil] using happend

theorem any_quits_untilQuit (lines : List String) :
    (s.executeAll A (s.untilQuit A lines)).1.any quits = (s.executeAll A lines).1.any quits := by
  induction lines generalizing s with
  | nil => rfl
  | cons line lines ih =>
    rw [untilQuit_cons]
    split
    next hline => simp only [executeAll, List.any_cons, hline, Bool.true_or]
    next => simp only [executeAll, List.any_cons, ih]

/-- A run of a whole source goes on where the run of its first lines stops, unless they end it. So
the lines may as well be run one by one. -/
theorem run_append (source rest : List String) :
    s.run A (source ++ rest) =
      let r := s.run A source
      if r.fault.isSome || r.quits then { r with unread := r.unread ++ rest }
      else
        let t := r.session.run A rest
        { t with emitted := r.emitted ++ t.emitted } := by
  induction source generalizing s with
  | nil => rfl
  | cons line source ih =>
    rw [List.cons_append, run, run]
    rcases s.execute A (Text.stripLineEnd line) with ⟨f | r, t⟩
    · rfl
    · cases hquit : r.isQuit
      · have hquits : Run.quits { t.run A source with emitted := r :: (t.run A source).emitted } =
            (t.run A source).quits := by simp [Run.quits, hquit]
        simp only [hquit, Bool.false_eq_true, if_false, ih, hquits]
        cases (t.run A source).fault.isSome || (t.run A source).quits <;> rfl
      · simp [Run.quits, hquit]

theorem run_singleton {line : String} {r : LineResult ν}
    (h : (s.execute A (Text.stripLineEnd line)).1 = .ok r) :
    s.run A [line] = ⟨[r], [], none, (s.execute A (Text.stripLineEnd line)).2⟩ := by
  have hline : s.execute A (Text.stripLineEnd line) =
    (.ok r, (s.execute A (Text.stripLineEnd line)).2) := Prod.ext h rfl
  rw [run, hline]
  simp only [run, ite_self]

theorem run_cons {line : String} {r : LineResult ν}
    (h : (s.execute A (Text.stripLineEnd line)).1 = .ok r) (source : List String) :
    s.run A (line :: source) =
      let t := (s.execute A (Text.stripLineEnd line)).2
      if r.isQuit then ⟨[r], source, none, t⟩
      else { t.run A source with emitted := r :: (t.run A source).emitted } := by
  rw [← List.singleton_append, run_append, run_singleton A s h]
  cases hquit : r.isQuit <;> simp [Run.quits, hquit]

/-- A run executes the lines of its source up to the first one that quits, and leaves the others
unread. -/
theorem run_eq (source : List String)
    (h : s.IsFaultless A (s.untilQuit A (source.map Text.stripLineEnd))) :
    s.run A source =
      let lines := s.untilQuit A (source.map Text.stripLineEnd)
      ⟨s.results A lines, source.drop lines.length, none, (s.executeAll A lines).2⟩ := by
  induction source generalizing s with
  | nil => rfl
  | cons line source ih =>
    rw [List.map_cons] at h ⊢
    obtain ⟨r, hr⟩ := s.exists_ok_of_isFaultless_untilQuit A h
    rw [untilQuit_cons, quits_of_ok A hr] at h ⊢
    rw [run_cons A s hr]
    cases hquit : r.isQuit
    · simp only [hquit, Bool.false_eq_true, if_false] at h ⊢
      rw [results_cons A hr, ih _ ((isFaultless_cons A).mp h).2]
      rfl
    · simp only [if_true]
      rw [results_cons A hr]
      rfl

/-- The arguments with the input in place of the first `-`, and nothing in place of the others. -/
def flatten (arguments input : List String) : List String :=
  arguments.takeWhile (· ≠ "-") ++ (if "-" ∈ arguments then input else []) ++
    (arguments.dropWhile (· ≠ "-")).filter (· ≠ "-")

theorem flatten_nil_right (arguments : List String) :
    flatten arguments [] = arguments.filter (· ≠ "-") := by
  have hbefore : (arguments.takeWhile (· ≠ "-")).filter (· ≠ "-") =
      arguments.takeWhile (· ≠ "-") :=
    List.filter_eq_self.mpr (List.all_eq_true.mp List.all_takeWhile)
  rw [flatten, ite_self, List.append_nil, ← hbefore, ← List.filter_append,
    List.takeWhile_append_dropWhile]

theorem flatten_cons (argument : String) (arguments input : List String) :
    flatten (argument :: arguments) input =
      if argument = "-" then input ++ flatten arguments []
      else argument :: flatten arguments input := by
  by_cases h : argument = "-"
  · subst h
    rw [if_pos rfl, flatten_nil_right]
    simp [flatten]
  · rw [if_neg h]
    simp [flatten, h, Ne.symm h]

example : flatten ["x", "-", "y", "-"] ["1", "2"] = ["x", "1", "2", "y"] := by decide

theorem runArguments_eq (arguments input : List String)
    (h : s.IsFaultless A
      (s.untilQuit A ((flatten arguments input).map Text.stripLineEnd))) :
    s.runArguments A arguments input =
      (s.results A (s.untilQuit A ((flatten arguments input).map Text.stripLineEnd)), none) := by
  induction arguments generalizing s input with
  | nil => rfl
  | cons argument arguments ih =>
    obtain ⟨source, rest, hsource, hrest, hflatten⟩ : ∃ source rest,
        source = (if argument = "-" then input else [argument]) ∧
        rest = (if argument = "-" then [] else input) ∧
        flatten (argument :: arguments) input = source ++ flatten arguments rest := by
      refine ⟨_, _, rfl, rfl, ?_⟩
      rw [flatten_cons]
      split <;> rfl
    rw [hflatten, List.map_append, untilQuit_append] at h ⊢
    rw [runArguments, ← hsource]
    have hquits := s.any_quits_untilQuit A (source.map Text.stripLineEnd)
    split at h
    next hquit =>
      rw [s.run_eq A source h, if_pos hquit]
      simp only [Run.quits, any_isQuit_results, hquits, hquit, Bool.or_true, if_true]
    next hquit =>
      have hwhole := s.untilQuit_eq_self A (Bool.not_eq_true _ ▸ hquit)
      obtain ⟨hwholesource, hlater⟩ := (s.isFaultless_append A).mp h
      rw [s.run_eq A source (hwhole.symm ▸ hwholesource), if_neg hquit]
      -- Nothing of this source is left, so the next `-` stands for no lines at all.
      have hleft : (if argument = "-" then source.drop source.length else input) = rest := by
        rw [List.drop_length, hrest]
      simp only [Run.quits, any_isQuit_results, hquit, Option.isSome_none, Bool.or_self,
        Bool.false_eq_true, if_false, hwhole, List.length_map, hleft]
      rw [ih _ rest hlater, results_append]

theorem getLast?_results_eq_quit_iff {lines : List String}
    (h : s.IsFaultless A (s.untilQuit A lines)) :
    (s.results A (s.untilQuit A lines)).getLast? = some .quit ↔
      (s.results A (s.untilQuit A lines)).any LineResult.isQuit = true := by
  induction lines generalizing s with
  | nil => simp [untilQuit_nil, results, executeAll]
  | cons line lines ih =>
    obtain ⟨r, hr⟩ := s.exists_ok_of_isFaultless_untilQuit A h
    rw [untilQuit_cons, quits_of_ok A hr] at h ⊢
    cases hquit : r.isQuit
    · simp only [hquit, Bool.false_eq_true, if_false] at h ⊢
      rw [results_cons A hr, List.getLast?_cons, List.any_cons, hquit, Bool.false_or,
        ← ih _ ((isFaultless_cons A).mp h).2]
      cases (((s.execute A line).2).results A _).getLast? with
      | none => simp [← LineResult.isQuit_iff, hquit]
      | some r => rfl
    · rw [if_pos rfl, results_cons A hr]
      simp [results, executeAll, LineResult.isQuit_iff.mp hquit, LineResult.isQuit]

end Session

namespace CommandLine

theorem join_printed (rs : List (LineResult ν)) :
    String.join (rs.map printed) =
      String.join (((rs.map LineResult.output).filter (· ≠ "")).map (· ++ "\n")) := by
  induction rs with
  | nil => rfl
  | cons r rs ih =>
    rw [List.map_cons, List.map_cons, String.join_cons, ih, printed]
    split
    next h => rw [List.filter_cons_of_neg (by simpa using h), String.empty_append]
    next h =>
      rw [List.filter_cons_of_pos (by simpa using h), List.map_cons, String.join_cons]

/-- The command line executes one list of lines in one session: its arguments with the input in
place of the first `-`, up to the first line that quits. It prints what they have to say and fails
if one of them does. Each source on its own is left where the session quit. -/
theorem evaluate_flatten :
    (∀ (config : Config) (arguments input : List String),
      let session : Session ν := { config }
      let lines :=
        session.untilQuit A ((Session.flatten arguments input).map Text.stripLineEnd)
      let results := session.results A lines
      session.IsFaultless A lines →
        session.runArguments A arguments input = (results, none) ∧
        results.length = lines.length ∧
        ∀ stdin, Text.lines stdin = input → evaluate A config arguments stdin =
          { exitCode := if results.any LineResult.isError then 1 else 0
            stdout := String.join
              (((results.map LineResult.output).filter (· ≠ "")).map (· ++ "\n")) }) ∧
    ∀ (s : Session ν) (source : List String),
      let lines := s.untilQuit A (source.map Text.stripLineEnd)
      let results := s.results A lines
      let run := s.run A source
      s.IsFaultless A lines →
        run.emitted = results ∧ run.lines = lines.length ∧
        run.failures = results.countP LineResult.isError ∧
        (run.quits = true ↔ results.getLast? = some .quit) ∧
        run.unread = source.drop lines.length := by
  refine ⟨fun config arguments input => ?_, fun s source => ?_⟩
  · intro session lines results h
    have harguments := session.runArguments_eq A arguments input h
    refine ⟨harguments, session.length_results A h, ?_⟩
    rintro stdin rfl
    rw [evaluate, harguments, ← join_printed]
    rfl
  · intro lines results run h
    have hrun : run = ⟨results, source.drop lines.length, none, (s.executeAll A lines).2⟩ :=
      s.run_eq A source h
    rw [hrun]
    exact ⟨rfl, s.length_results A h, rfl, (s.getLast?_results_eq_quit_iff A h).symm, rfl⟩

/-- The input fails on its first line and quits before its last, with arguments behind it. -/
theorem evaluate_flatten_of_quit :
    let session : Session Float := {}
    let arguments := ["x = 2 m", "-", "x + 1 m", "-"]
    let input := ["y\n", "x\n", "\n", "quit\n", "5\n"]
    let lines := ["x = 2 m", "y", "x", "", "quit"]
    Text.lines "y\r\nx\n\nquit\n5\n" = input ∧
      session.untilQuit .machine ((Session.flatten arguments input).map Text.stripLineEnd) =
        lines ∧
      session.IsFaultless .machine lines ∧
      (session.runArguments .machine arguments input).1.length = 5 ∧
      evaluate Arithmetic.machine {} arguments "y\r\nx\n\nquit\n5\n" =
        { exitCode := 1, stdout := "x = 2 m\nVariable 'y' is not defined\n2 m\n" } ∧
      session.untilQuit .machine (input.map Text.stripLineEnd) = ["y", "x", "", "quit"] ∧
      session.IsFaultless .machine ["y", "x", "", "quit"] ∧
      (session.run .machine input).unread = ["5\n"] := by
  intro session arguments input lines
  have hstdin : Text.lines "y\r\nx\n\nquit\n5\n" = input := by decide +kernel
  have hlines : session.untilQuit .machine
      ((Session.flatten arguments input).map Text.stripLineEnd) = lines := by decide +kernel
  have hsource : session.untilQuit .machine (input.map Text.stripLineEnd) =
      ["y", "x", "", "quit"] := by decide +kernel
  have hfaultless : session.IsFaultless .machine lines := by decide +kernel
  have hfaultless' : session.IsFaultless .machine ["y", "x", "", "quit"] := by decide +kernel
  obtain ⟨harguments, hlength, hevaluate⟩ :=
    (evaluate_flatten Arithmetic.machine).1 {} arguments input (hlines.symm ▸ hfaultless)
  obtain ⟨-, -, -, -, hunread⟩ :=
    (evaluate_flatten Arithmetic.machine).2 session input (hsource.symm ▸ hfaultless')
  refine ⟨hstdin, hlines, hfaultless, ?_, ?_, hsource, hfaultless', ?_⟩
  · rw [harguments, hlength, hlines]
    rfl
  · rw [hevaluate _ hstdin, hlines]
    decide +kernel
  · rw [hunread, hsource]
    rfl

end CommandLine

end Quantities
