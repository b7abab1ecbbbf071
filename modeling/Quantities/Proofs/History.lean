import Mathlib.Data.List.Chain
import Mathlib.Data.List.DropRight
import Mathlib.Data.List.Induction
import Quantities.History

namespace Quantities.History

/-- A row of lines without those that equal the line in front of them, where `previous` stands in
front of the first. -/
def withoutRepeats (previous : Option String) : List String → List String
  | [] => []
  | line :: lines =>
    if previous = some line then withoutRepeats (some line) lines
    else line :: withoutRepeats (some line) lines

/-- The lines that a history without a limit keeps. -/
def kept (lines : List String) : List String :=
  withoutRepeats none (lines.filter fun line => !Text.isBlank line)

def addAll (h : History) (lines : List String) : History := lines.foldl add h

theorem withoutRepeats_concat (previous : Option String) (lines : List String) (line : String) :
    withoutRepeats previous (lines ++ [line]) =
      withoutRepeats previous lines ++
        if lines.getLast?.or previous = some line then [] else [line] := by
  induction lines generalizing previous with
  | nil => by_cases h : previous = some line <;> simp [withoutRepeats, h]
  | cons l ls ih =>
    have hlast : (l :: ls).getLast?.or previous = ls.getLast?.or (some l) := by
      cases ls <;> simp [List.getLast?_cons]
    simp only [List.cons_append, withoutRepeats, ih, hlast]
    split <;> rfl

/-- A repeated line is still the last one. -/
theorem getLast?_withoutRepeats (previous : Option String) (lines : List String) :
    (withoutRepeats previous lines).getLast?.or previous = lines.getLast?.or previous := by
  induction lines using List.reverseRecOn with
  | nil => rfl
  | append_singleton lines line ih =>
    rw [withoutRepeats_concat]
    split
    next h => simpa [ih] using h
    next => simp

theorem isChain_withoutRepeats (lines : List String) :
    (withoutRepeats none lines).IsChain (· ≠ ·) := by
  induction lines using List.reverseRecOn with
  | nil => exact .nil
  | append_singleton lines line ih =>
    have hlast := getLast?_withoutRepeats none lines
    rw [withoutRepeats_concat, ← hlast]
    split
    next => simpa using ih
    next h =>
      refine List.isChain_append.mpr ⟨ih, .singleton line, fun x hx y hy => ?_⟩
      obtain rfl : line = y := by simpa using hy
      rintro rfl
      exact h (by simpa using hx)

theorem withoutRepeats_sublist (previous : Option String) (lines : List String) :
    (withoutRepeats previous lines).Sublist lines := by
  induction lines generalizing previous with
  | nil => exact .slnil
  | cons line lines ih =>
    unfold withoutRepeats
    split
    · exact (ih _).cons line
    · exact (ih _).cons_cons line

theorem kept_concat (lines : List String) (line : String) :
    kept (lines ++ [line]) =
      if Text.isBlank line = false ∧ (kept lines).getLast? ≠ some line then kept lines ++ [line]
      else kept lines := by
  by_cases hblank : Text.isBlank line = true
  · simp [kept, hblank]
  · have hlast := getLast?_withoutRepeats none (lines.filter fun line => !Text.isBlank line)
    simp only [Option.or_none] at hlast
    rw [kept, List.filter_append, List.filter_cons_of_pos (by simpa using hblank), List.filter_nil,
      withoutRepeats_concat, Option.or_none, ← hlast, ← kept]
    by_cases hrepeat : (kept lines).getLast? = some line
    · simp [hrepeat]
    · simp [hrepeat, hblank]

theorem isBlank_of_mem_kept {lines : List String} {line : String} (h : line ∈ kept lines) :
    Text.isBlank line = false := by
  have := (List.mem_filter.mp ((withoutRepeats_sublist _ _).subset h)).2
  simpa using this

theorem rtake_concat_rtake {α : Type} (l : List α) (x : α) (n : Nat) :
    (l.rtake n ++ [x]).rtake n = (l ++ [x]).rtake n := by
  cases n with
  | zero => simp
  | succ n => simp [List.rtake_eq_reverse_take_reverse, List.take_take]

theorem getLast?_rtake {α : Type} (l : List α) {n : Nat} (h : 0 < n) :
    (l.rtake n).getLast? = l.getLast? := by
  rw [List.rtake_eq_reverse_take_reverse, List.getLast?_reverse, List.head?_take,
    if_neg (by omega), List.head?_reverse]

theorem limit_add (h : History) (line : String) : (h.add line).limit = h.limit := by
  unfold add
  split <;> rfl

theorem entries_add (h : History) (line : String) :
    (h.add line).entries =
      if h.accepts line = true then (h.entries ++ [line]).rtake h.limit else h.entries := by
  unfold add
  split <;> rfl

/-- A history that holds the last of the lines that are kept of a row. -/
structure Holds (h : History) (lines : List String) : Prop where
  limit_pos : 0 < h.limit
  entries : h.entries = (kept lines).rtake h.limit

namespace Holds

variable {h : History} {lines : List String}

theorem accepts_iff (hh : h.Holds lines) {line : String} :
    h.accepts line = true ↔ Text.isBlank line = false ∧ (kept lines).getLast? ≠ some line := by
  rw [accepts, hh.entries, getLast?_rtake _ hh.limit_pos]
  simp

theorem kept_concat_eq (hh : h.Holds lines) (line : String) :
    kept (lines ++ [line]) =
      if h.accepts line = true then kept lines ++ [line] else kept lines := by
  simp only [kept_concat, hh.accepts_iff]

theorem add (hh : h.Holds lines) (line : String) : (h.add line).Holds (lines ++ [line]) := by
  refine ⟨(limit_add h line).symm ▸ hh.limit_pos, ?_⟩
  rw [limit_add, entries_add, hh.kept_concat_eq, hh.entries]
  split
  · exact rtake_concat_rtake _ _ _
  · rfl

theorem addAll (hlimit : 0 < h.limit) (hempty : h.entries = []) (lines : List String) :
    (h.addAll lines).Holds lines ∧ (h.addAll lines).limit = h.limit := by
  induction lines using List.reverseRecOn with
  | nil => exact ⟨⟨hlimit, hempty.trans (List.rtake_nil h.limit).symm⟩, rfl⟩
  | append_singleton lines line ih =>
    have hstep : h.addAll (lines ++ [line]) = (h.addAll lines).add line := by
      simp [History.addAll]
    rw [hstep, limit_add]
    exact ⟨ih.1.add line, ih.2⟩

end Holds

/-- A history with a positive limit holds the last of the kept lines, as many as the limit allows,
and says of each line whether it is kept. -/
theorem entries_addAll_eq_rtake_kept (limit : Int) (hlimit : 1 ≤ limit) :
    ∃ start, new? limit = some start ∧ ∀ lines,
      (start.addAll lines).entries = (kept lines).rtake limit.toNat ∧
      (∀ line, (start.addAll lines).accepts line = true ↔
        kept (lines ++ [line]) = kept lines ++ [line]) ∧
      (∀ line, (start.addAll lines).accepts line = false ↔ kept (lines ++ [line]) = kept lines) ∧
      (start.addAll lines).entries.length ≤ limit.toNat ∧
      (∀ line ∈ (start.addAll lines).entries, Text.isBlank line = false) ∧
      (start.addAll lines).entries.IsChain (· ≠ ·) := by
  refine ⟨⟨limit.toNat, []⟩, by simp [new?, show ¬ limit < 0 by omega], fun lines => ?_⟩
  obtain ⟨hholds, hsame⟩ := Holds.addAll (h := ⟨limit.toNat, []⟩) (by simp only; omega) rfl lines
  have hentries := hholds.entries
  rw [hsame] at hentries
  have hdrop : (kept lines).rtake limit.toNat =
      (kept lines).drop ((kept lines).length - limit.toNat) := rfl
  refine ⟨hentries, fun line => ?_, fun line => ?_, ?_, fun line hline => ?_, ?_⟩
  · rw [hholds.kept_concat_eq line]
    split <;> simp_all
  · rw [hholds.kept_concat_eq line]
    split <;> simp_all
  · rw [hentries, hdrop, List.length_drop]
    omega
  · rw [hentries, hdrop] at hline
    exact isBlank_of_mem_kept (List.mem_of_mem_drop hline)
  · rw [hentries, hdrop]
    exact (isChain_withoutRepeats _).drop _

/-- A single line is held, and the one before the last is forgotten. -/
theorem entries_addAll_of_one :
    (1 : Int) ≤ 1 ∧ ∃ start, new? 1 = some start ∧
      (start.addAll ["a", "b", " ", "b", "a"]).entries = ["a"] ∧
      kept ["a", "b", " ", "b", "a"] = ["a", "b", "a"] ∧
      (start.addAll ["a", "b", " ", "b", "a"]).accepts "b" = true := by
  obtain ⟨start, hstart, hrun⟩ := entries_addAll_eq_rtake_kept 1 (by decide)
  obtain ⟨hentries, haccepts, -⟩ := hrun ["a", "b", " ", "b", "a"]
  have hkept : kept ["a", "b", " ", "b", "a"] = ["a", "b", "a"] := by decide +kernel
  have hnext : kept (["a", "b", " ", "b", "a"] ++ ["b"]) =
      kept ["a", "b", " ", "b", "a"] ++ ["b"] := by decide +kernel
  exact ⟨by decide, start, hstart, by rw [hentries, hkept]; rfl, hkept, (haccepts "b").mpr hnext⟩

end Quantities.History
