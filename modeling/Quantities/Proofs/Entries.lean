import Mathlib.Data.List.Induction
import Quantities.Entries

namespace Quantities.Entries

variable {α : Type}

theorem mem_of_mem_set {name : String} {v : α} {es : List (String × α)}
    {p : String × α} (h : p ∈ set name v es) : p ∈ es ∨ p = (name, v) := by
  induction es with
  | nil => exact .inr (by simpa [set] using h)
  | cons e es ih =>
    unfold set at h
    split at h
    next hn =>
      rcases List.mem_cons.mp h with rfl | h
      · exact .inr (by rw [hn])
      · exact .inl (List.mem_cons_of_mem _ h)
    next =>
      rcases List.mem_cons.mp h with rfl | h
      · exact .inl (by simp)
      · exact (ih h).imp_left (List.mem_cons_of_mem _)

/-- The values under their names after a row of assignments. -/
def replay (as : List (String × α)) (es : List (String × α)) : List (String × α) :=
  as.foldl (fun es a => set a.1 a.2 es) es

theorem map_fst_set (name : String) (v : α) (es : List (String × α)) :
    (set name v es).map Prod.fst =
      if name ∈ es.map Prod.fst then es.map Prod.fst else es.map Prod.fst ++ [name] := by
  induction es with
  | nil => rfl
  | cons e es ih =>
    by_cases h : e.1 = name
    · simp [set, h]
    · have hn : ¬ name = e.1 := fun he => h he.symm
      by_cases hm : name ∈ es.map Prod.fst <;> simp_all [set]

theorem replay_concat (as : List (String × α)) (a : String × α) (es : List (String × α)) :
    replay (as ++ [a]) es = set a.1 a.2 (replay as es) := by
  rw [replay, List.foldl_append]
  rfl

theorem map_fst_replay (as : List (String × α)) :
    (replay as []).map Prod.fst = (as.map Prod.fst).eraseDups := by
  induction as using List.reverseRecOn with
  | nil => rfl
  | append_singleton as a ih =>
    have hmem : a.1 ∈ (replay as []).map Prod.fst ↔ a.1 ∈ as.map Prod.fst := by
      rw [ih, List.mem_eraseDups]
    rw [replay_concat, map_fst_set, List.map_append, List.eraseDups_append, ← ih]
    by_cases h : a.1 ∈ as.map Prod.fst
    · rw [if_pos (hmem.mpr h)]
      simp [List.removeAll, h]
    · have hnew : [a.1].eraseDups = [a.1] := rfl
      rw [if_neg (mt hmem.mp h)]
      simp [List.removeAll, h, hnew]

theorem lookup_replay (name : String) (as : List (String × α)) :
    (replay as []).lookup name = as.reverse.lookup name := by
  induction as using List.reverseRecOn with
  | nil => rfl
  | append_singleton as a ih =>
    obtain ⟨n, v⟩ := a
    rw [replay_concat, lookup_set, ih, List.reverse_append]
    by_cases h : name = n
    · simp [h]
    · have hb : (name == n) = false := by simpa using h
      simp [h, List.lookup_cons, hb]

end Quantities.Entries
