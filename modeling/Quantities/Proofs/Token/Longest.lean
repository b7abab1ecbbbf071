namespace Quantities

/-- The longest prefix of a text that is of some sort. -/
structure IsLongest (P : List Char → Prop) (cs text : List Char) : Prop where
  holds : P text
  isPrefix : text <+: cs
  length_le : ∀ p, P p → p <+: cs → p.length ≤ text.length

variable {q : Char → Bool} {ds rest : List Char}

theorem takeWhile_append_eq (hds : ∀ c ∈ ds, q c = true) (hrest : ∀ c ∈ rest.head?, q c = false) :
    (ds ++ rest).takeWhile q = ds := by
  rw [List.takeWhile_append_of_pos hds]
  cases rest with
  | nil => simp
  | cons c rest => simp [List.takeWhile_cons_of_neg, hrest c rfl]

theorem dropWhile_append_eq (hds : ∀ c ∈ ds, q c = true) (hrest : ∀ c ∈ rest.head?, q c = false) :
    (ds ++ rest).dropWhile q = rest := by
  rw [List.dropWhile_append_of_pos hds]
  cases rest with
  | nil => rfl
  | cons c rest => simp [List.dropWhile_cons_of_neg, hrest c rfl]

theorem forall_mem_takeWhile (q : Char → Bool) (cs : List Char) :
    ∀ c ∈ cs.takeWhile q, q c = true :=
  List.all_eq_true.mp List.all_takeWhile

theorem forall_mem_head?_dropWhile (q : Char → Bool) (cs : List Char) :
    ∀ c ∈ (cs.dropWhile q).head?, q c = false := by
  intro c hc
  have h := List.head?_dropWhile_not q cs
  rw [Option.mem_def.mp hc] at h
  simpa using h

theorem length_le_takeWhile {cs : List Char} (hds : ∀ c ∈ ds, q c = true) (h : ds <+: cs) :
    ds.length ≤ (cs.takeWhile q).length := by
  obtain ⟨rest, rfl⟩ := h
  rw [List.takeWhile_append_of_pos hds]
  simp

end Quantities
