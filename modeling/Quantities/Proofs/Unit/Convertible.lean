import Quantities.Proofs.Unit.Degree

namespace Quantities.CompoundUnit

variable {u a b : CompoundUnit}

theorem mismatch?_eq_none_iff (ha : a.isUnknown = false) (hb : b.isUnknown = false) :
    a.mismatch? b = Option.none ↔
      a.size = b.size ∧ ∀ t ∈ a.terms, ∃ o, b.find? t.category = some o ∧ o.degree = t.degree := by
  have hterm (t : Term) : b.termMismatch? t = Option.none ↔
      ∃ o, b.find? t.category = some o ∧ o.degree = t.degree := by
    unfold termMismatch?
    cases b.find? t.category with
    | none => simp
    | some o => by_cases h : o.degree = t.degree <;> simp [h]
  rw [mismatch?, ha, hb]
  by_cases hsize : a.size = b.size
  · simp [hsize, hterm]
  · simp [hsize]

theorem degree_eq_of_counterparts (ha : a.Canonical) (hsize : a.size = b.size)
    (h : ∀ t ∈ a.terms, ∃ o, b.find? t.category = some o ∧ o.degree = t.degree) :
    a.degree = b.degree := by
  have hsub : a.terms.map Term.category ⊆ b.terms.map Term.category := by
    intro c hc
    obtain ⟨t, ht, rfl⟩ := List.mem_map.mp hc
    obtain ⟨o, ho, _⟩ := h t ht
    obtain ⟨hmem, hcategory⟩ := mem_of_find? ho
    exact hcategory ▸ List.mem_map_of_mem hmem
  have hlength : (b.terms.map Term.category).length ≤ (a.terms.map Term.category).length := by
    simpa [size] using hsize.ge
  have hperm := (List.subperm_of_subset ha.distinct hsub).perm_of_length_le hlength
  funext c
  by_cases hc : c ∈ a.terms.map Term.category
  · obtain ⟨t, ht, rfl⟩ := List.mem_map.mp hc
    obtain ⟨o, ho, hdegree⟩ := h t ht
    simp [degree, find?_of_mem ha.distinct ht, ho, hdegree]
  · have hcb : c ∉ b.terms.map Term.category := fun hb => hc (hperm.mem_iff.mpr hb)
    simp [degree, find?_eq_none_iff.mpr hc, find?_eq_none_iff.mpr hcb]

theorem Proper.counterparts_of_degree_eq (ha : a.Proper) (hb : b.Proper)
    (h : a.degree = b.degree) :
    a.size = b.size ∧ ∀ t ∈ a.terms, ∃ o, b.find? t.category = some o ∧ o.degree = t.degree := by
  constructor
  · have hperm : (a.terms.map Term.category).Perm (b.terms.map Term.category) := by
      refine (List.perm_ext_iff_of_nodup ha.distinct hb.distinct).mpr fun c => ?_
      rw [← ha.degree_ne_zero_iff, ← hb.degree_ne_zero_iff, h]
    simpa [size] using hperm.length_eq
  · intro t ht
    have hfound : a.degree t.category = t.degree := by
      simp [CompoundUnit.degree, find?_of_mem ha.distinct ht]
    have hdegree : b.degree t.category = t.degree := by rw [← h, hfound]
    have hne := ha.degree t ht
    rw [CompoundUnit.degree] at hdegree
    cases ho : b.find? t.category with
    | none => simp [ho] at hdegree; omega
    | some o => exact ⟨o, rfl, by simpa [ho] using hdegree⟩

theorem mismatch?_eq_none_iff_degree (ha : a.Canonical) (hb : b.Canonical) :
    a.mismatch? b = Option.none ↔ a.degree = b.degree := by
  rw [mismatch?_eq_none_iff ha.isUnknown_eq_false hb.isUnknown_eq_false]
  constructor
  · rintro ⟨hsize, h⟩
    exact degree_eq_of_counterparts ha hsize h
  · intro h
    rcases ha with rfl | hpa
    · rw [degree_none, eq_comm, hb.degree_eq_zero_iff] at h
      subst h
      exact ⟨rfl, by simp [none, find?, Term.category, BaseUnit.category]⟩
    rcases hb with rfl | hpb
    · rw [degree_none, Canonical.degree_eq_zero_iff (.inr hpa)] at h
      have := hpa.isNone_eq_false
      simp [h] at this
    · exact hpa.counterparts_of_degree_eq hpb h

theorem convertible_iff (ha : a.Canonical) (hb : b.Canonical) :
    a.convertible b = true ↔ a.degree = b.degree := by
  rw [convertible, Option.isNone_iff_eq_none, mismatch?_eq_none_iff_degree ha hb]

theorem Proper.size_eq_one_iff (h : u.Proper) : u.size = 1 ↔ ∃! c, u.degree c ≠ 0 := by
  simp only [h.degree_ne_zero_iff]
  constructor
  · intro hsize
    obtain ⟨t, ht⟩ := List.length_eq_one_iff.mp hsize
    exact ⟨t.category, by simp [ht], fun c hc => by simpa [ht] using hc⟩
  · rintro ⟨c, _, hunique⟩
    have hsub : u.terms.map Term.category ⊆ [c] := fun d hd => by simp [hunique d hd]
    have hle := (List.subperm_of_subset h.distinct hsub).length_le
    have hpos := List.length_pos_iff.mpr h.ne_nil
    simp only [List.length_map, List.length_singleton] at hle
    rw [size]
    omega

theorem Mixes.symm (h : a.Mixes b) : b.Mixes a := by
  obtain ⟨s, hs, t, ht, hcategory, hbase⟩ := h
  exact ⟨t, ht, s, hs, hcategory.symm, hbase.symm⟩

theorem Canonical.not_mixes_none (h : u.Canonical) : ¬ u.Mixes none := by
  rintro ⟨s, hs, t, ht, hcategory, hbase⟩
  obtain rfl : t = ⟨.none, 0⟩ := by simpa [none] using ht
  rcases h with rfl | h
  · obtain rfl : s = ⟨.none, 0⟩ := by simpa [none] using hs
    exact hbase rfl
  · have hnone : s.category = .none := hcategory
    exact h.none_not_mem_categories (hnone ▸ List.mem_map_of_mem hs)

theorem clashes_iff (ha : a.Canonical) : a.clashes b = true ↔ a.Mixes b := by
  simp only [clashes, List.any_eq_true]
  constructor
  · rintro ⟨t, ht, h⟩
    cases hs : a.find? t.category with
    | none => simp [hs] at h
    | some s =>
      obtain ⟨hmem, hcategory⟩ := mem_of_find? hs
      exact ⟨s, hmem, t, ht, hcategory, by simpa [hs] using h⟩
  · rintro ⟨s, hs, t, ht, hcategory, hbase⟩
    refine ⟨t, ht, ?_⟩
    rw [← hcategory, find?_of_mem ha.distinct hs]
    simpa using hbase

theorem adjoin_eq (ha : a.Canonical) (hb : b.Canonical) :
    (a.Mixes b ∧ a.adjoin b = unknown) ∨ (¬ a.Mixes b ∧ a.adjoin b = a.combine b) := by
  unfold adjoin
  by_cases hm : a.Mixes b
  · refine .inl ⟨hm, ?_⟩
    have hna : a.isNone = false := by
      refine Bool.eq_false_iff.mpr fun h => ?_
      rw [ha.isNone_iff.mp h] at hm
      exact hb.not_mixes_none hm.symm
    have hnb : b.isNone = false := by
      refine Bool.eq_false_iff.mpr fun h => ?_
      rw [hb.isNone_iff.mp h] at hm
      exact ha.not_mixes_none hm
    simp [hna, hnb, (clashes_iff ha).mpr hm]
  · refine .inr ⟨hm, ?_⟩
    have hclashes : a.clashes b = false := Bool.eq_false_iff.mpr fun h => hm ((clashes_iff ha).mp h)
    simp [hclashes]

/-- Two units with the same degrees in the same categories, in any order and any base units. -/
def Resembles (a b : CompoundUnit) : Prop :=
  (a.terms.map fun t => (t.category, t.degree)).Perm (b.terms.map fun t => (t.category, t.degree))

theorem Resembles.symm (h : a.Resembles b) : b.Resembles a := List.Perm.symm h

theorem Resembles.degree_of_mem (h : a.Resembles b) (ha : a.Canonical) (hb : b.Canonical) {t : Term}
    (ht : t ∈ a.terms) : a.degree t.category = b.degree t.category := by
  have hpair : (t.category, t.degree) ∈ b.terms.map fun t => (t.category, t.degree) :=
    h.subset (List.mem_map_of_mem ht)
  obtain ⟨o, ho, heq⟩ := List.mem_map.mp hpair
  obtain ⟨hcategory, hdegree⟩ := Prod.mk.inj heq
  rw [degree, degree, find?_of_mem ha.distinct ht, ← hcategory, find?_of_mem hb.distinct ho]
  exact hdegree.symm

theorem Resembles.degree_eq (h : a.Resembles b) (ha : a.Canonical) (hb : b.Canonical) :
    a.degree = b.degree := by
  funext c
  cases hfa : a.find? c with
  | some t =>
    obtain ⟨ht, rfl⟩ := mem_of_find? hfa
    exact h.degree_of_mem ha hb ht
  | none =>
    cases hfb : b.find? c with
    | some o =>
      obtain ⟨ho, rfl⟩ := mem_of_find? hfb
      exact (h.symm.degree_of_mem hb ha ho).symm
    | none => rw [degree, degree, hfa, hfb]

/-- Units are convertible exactly if they have the same degree in every category, and exactly if
they cancel. So this is an equivalence, and it sees neither the order of the terms nor which base
units measure a category. -/
theorem convertible_iff_dimension (ha : a.Canonical) (hb : b.Canonical) :
    (a.convertible b = true ↔ ∀ c, a.degree c = b.degree c) ∧
    (a.convertible b = true ↔ a.combine b.invert = none) ∧
    a.convertible a = true ∧ a.convertible b = b.convertible a ∧
    ∀ u : CompoundUnit, u.Canonical →
      (a.convertible b = true → b.convertible u = true → a.convertible u = true) ∧
      (a.Resembles u → a.convertible b = u.convertible b ∧ b.convertible a = b.convertible u) := by
  refine ⟨(convertible_iff ha hb).trans funext_iff, ?_, (convertible_iff ha ha).mpr rfl, ?_,
    fun u hu => ⟨fun hab hbu => ?_, fun hsame => ⟨?_, ?_⟩⟩⟩
  · change a.convertible b = true ↔ a.divide b = none
    rw [convertible_iff ha hb, ← (canonical_divide ha hb).degree_eq_zero_iff, degree_divide ha hb,
      sub_eq_zero]
  · rw [Bool.eq_iff_iff, convertible_iff ha hb, convertible_iff hb ha]
    exact eq_comm
  · rw [convertible_iff ha hb] at hab
    rw [convertible_iff hb hu] at hbu
    exact (convertible_iff ha hu).mpr (hab.trans hbu)
  · rw [Bool.eq_iff_iff, convertible_iff ha hb, convertible_iff hu hb, hsame.degree_eq ha hu]
  · rw [Bool.eq_iff_iff, convertible_iff hb ha, convertible_iff hb hu, hsame.degree_eq ha hu]

/-- A force in three systems of units, each with an order of its own. -/
theorem convertible_of_three_forces :
    let newton : CompoundUnit := ⟨[⟨.kilogram, 1⟩, ⟨.meter, 1⟩, ⟨.second, -2⟩]⟩
    let poundal : CompoundUnit := ⟨[⟨.second, -2⟩, ⟨.pound, 1⟩, ⟨.foot, 1⟩]⟩
    let other : CompoundUnit := ⟨[⟨.mile, 1⟩, ⟨.hour, -2⟩, ⟨.ounce, 1⟩]⟩
    (newton.Canonical ∧ poundal.Canonical ∧ other.Canonical ∧ newton.Resembles other) ∧
      newton.convertible poundal = true ∧ newton.combine poundal.invert = none ∧
      poundal.convertible newton = poundal.convertible other := by
  intro newton poundal other
  have hnewton : newton.Canonical := .inr ⟨by decide, by decide, by decide, by decide⟩
  have hpoundal : poundal.Canonical := .inr ⟨by decide, by decide, by decide, by decide⟩
  have hother : other.Canonical := .inr ⟨by decide, by decide, by decide, by decide⟩
  have hsame : newton.Resembles other := by
    unfold Resembles
    decide
  obtain ⟨hdegree, hcancel, -, -, hall⟩ := convertible_iff_dimension hnewton hpoundal
  have hconvertible := hdegree.mpr fun c => by cases c <;> decide
  exact ⟨⟨hnewton, hpoundal, hother, hsame⟩, hconvertible, hcancel.mp hconvertible,
    ((hall other hother).2 hsame).2⟩

end Quantities.CompoundUnit
