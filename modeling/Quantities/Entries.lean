namespace Quantities.Entries

variable {α : Type}

/-- The entries with a value under a name: in its old place, or else at the end. -/
def set (name : String) (v : α) : List (String × α) → List (String × α)
  | [] => [(name, v)]
  | (n, w) :: es => if n = name then (n, v) :: es else (n, w) :: set name v es

theorem lookup_set (name n : String) (v : α) (es : List (String × α)) :
    (set name v es).lookup n = if n = name then some v else es.lookup n := by
  by_cases h : n = name
  · subst h
    induction es with
    | nil => simp [set]
    | cons e es ih =>
      obtain ⟨m, w⟩ := e
      by_cases hm : m = n
      · simp [set, hm]
      · have hn : (n == m) = false := by simpa using Ne.symm hm
        simpa [set, hm, List.lookup_cons, hn] using ih
  · have hb : (n == name) = false := by simpa using h
    induction es with
    | nil => simp [set, List.lookup_cons, h, hb]
    | cons e es ih =>
      obtain ⟨m, w⟩ := e
      by_cases hm : m = name
      · simp [set, hm, List.lookup_cons, h, hb]
      · simp only [h, if_false] at ih ⊢
        simp [set, hm, List.lookup_cons, ih]

end Quantities.Entries
