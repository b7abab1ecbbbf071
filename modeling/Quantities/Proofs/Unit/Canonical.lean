import Quantities.CompoundUnit.Algebra

namespace Quantities

namespace CompoundUnit

/-- A unit with at least one term and at most one of each category. -/
structure Proper (u : CompoundUnit) : Prop where
  ne_nil : u.terms ≠ []
  isMarker : ∀ t ∈ u.terms, t.base.isMarker = false
  degree : ∀ t ∈ u.terms, t.degree ≠ 0
  distinct : (u.terms.map Term.category).Nodup

def Canonical (u : CompoundUnit) : Prop := u = none ∨ u.Proper

/-- What a derivation may lead to. -/
def Derived (u : CompoundUnit) : Prop := u.Canonical ∨ u = unknown

theorem canonical_none : none.Canonical := .inl rfl

theorem canonical_ofBase {b : BaseUnit} (h : b.isMarker = false) : (ofBase b).Canonical :=
  .inr ⟨by simp [ofBase], by simpa [ofBase] using h, by simp [ofBase], by simp [ofBase]⟩

theorem derived_unknown : unknown.Derived := .inr rfl

theorem Canonical.derived {u : CompoundUnit} (h : u.Canonical) : u.Derived := .inl h

namespace Proper

variable {u : CompoundUnit}

theorem isNone_eq_false (h : u.Proper) : u.isNone = false := by
  obtain ⟨ts⟩ := u
  match ts with
  | [] | _ :: _ :: _ => rfl
  | [t] =>
    have ht := h.isMarker t (by simp)
    simp only [isNone, decide_eq_false_iff_not]
    intro hb
    simp [hb, BaseUnit.isMarker, BaseUnit.category] at ht

theorem isUnknown_eq_false (h : u.Proper) : u.isUnknown = false := by
  obtain ⟨ts⟩ := u
  match ts with
  | [] | _ :: _ :: _ => rfl
  | [t] =>
    have ht := h.isMarker t (by simp)
    simp only [isUnknown, decide_eq_false_iff_not]
    intro hb
    simp [hb, BaseUnit.isMarker, BaseUnit.category] at ht

theorem map_degree (h : u.Proper) {f : Int → Int} (hf : ∀ n, n ≠ 0 → f n ≠ 0) :
    (CompoundUnit.mk (u.terms.map fun t => { t with degree := f t.degree })).Proper := by
  constructor
  · simpa using h.ne_nil
  · intro t ht
    obtain ⟨e, he, rfl⟩ := List.mem_map.mp ht
    exact h.isMarker e he
  · intro t ht
    obtain ⟨e, he, rfl⟩ := List.mem_map.mp ht
    exact hf _ (h.degree e he)
  · rw [List.map_map]
    exact h.distinct

end Proper

theorem Canonical.isUnknown_eq_false {u : CompoundUnit} (h : u.Canonical) :
    u.isUnknown = false := by
  rcases h with rfl | h
  · rfl
  · exact h.isUnknown_eq_false

theorem Derived.canonical {u : CompoundUnit} (h : u.Derived) (hu : u.isUnknown = false) :
    u.Canonical := by
  rcases h with h | rfl
  · exact h
  · cases hu

theorem map_base_absorb (es : List Term) (t : Term) :
    (absorb es t).map Term.base = es.map Term.base := by
  induction es with
  | nil => rfl
  | cons e es ih =>
    unfold absorb
    split
    · rfl
    · simp [ih]

theorem map_base_foldl_absorb (es ts : List Term) :
    (ts.foldl absorb es).map Term.base = es.map Term.base := by
  induction ts generalizing es with
  | nil => rfl
  | cons t ts ih => rw [List.foldl_cons, ih, map_base_absorb]

theorem map_category_foldl_absorb (es ts : List Term) :
    (ts.foldl absorb es).map Term.category = es.map Term.category := by
  have h := congrArg (List.map BaseUnit.category) (map_base_foldl_absorb es ts)
  rw [List.map_map, List.map_map] at h
  exact h

theorem find?_eq_none_iff {u : CompoundUnit} {c : Category} :
    u.find? c = Option.none ↔ c ∉ u.terms.map Term.category := by
  simp [find?]

theorem mem_of_mem_mergeTerms {a b : CompoundUnit} {t : Term} (h : t ∈ mergeTerms a b) :
    t.degree ≠ 0 ∧ t.base ∈ a.terms.map Term.base ∨ t ∈ b.terms := by
  rcases List.mem_append.mp h with h | h
  · obtain ⟨hmem, hdegree⟩ := List.mem_filter.mp h
    refine .inl ⟨by simpa using hdegree, ?_⟩
    rw [← map_base_foldl_absorb a.terms b.terms]
    exact List.mem_map_of_mem hmem
  · exact .inr (List.mem_filter.mp h).1

theorem proper_mergeTerms {a b : CompoundUnit} (ha : a.Proper) (hb : b.Proper)
    (hne : mergeTerms a b ≠ []) : (CompoundUnit.mk (mergeTerms a b)).Proper := by
  constructor
  · exact hne
  · intro t ht
    rcases mem_of_mem_mergeTerms ht with ⟨_, h⟩ | h
    · obtain ⟨e, he, heq⟩ := List.mem_map.mp h
      exact heq ▸ ha.isMarker e he
    · exact hb.isMarker t h
  · intro t ht
    rcases mem_of_mem_mergeTerms ht with ⟨h, _⟩ | h
    · exact h
    · exact hb.degree t h
  · have hcategories := map_category_foldl_absorb a.terms b.terms
    rw [mergeTerms, List.map_append, List.nodup_append]
    refine ⟨?_, (List.filter_sublist.map _).nodup hb.distinct, ?_⟩
    · refine (List.filter_sublist.map _).nodup ?_
      rw [hcategories]
      exact ha.distinct
    · -- a term of the right side is kept only in a category that the left side lacks
      intro c hc d hd hcd
      subst hcd
      have hleft : c ∈ a.terms.map Term.category :=
        hcategories ▸ (List.filter_sublist.map _).subset hc
      obtain ⟨t, ht, rfl⟩ := List.mem_map.mp hd
      have hnone := (List.mem_filter.mp ht).2
      rw [Option.isNone_iff_eq_none, find?_eq_none_iff] at hnone
      exact hnone hleft

theorem canonical_combine {a b : CompoundUnit} (ha : a.Canonical) (hb : b.Canonical) :
    (a.combine b).Canonical := by
  unfold combine
  rw [ha.isUnknown_eq_false, hb.isUnknown_eq_false]
  rcases ha with rfl | ha
  · exact hb
  rcases hb with rfl | hb
  · have : a.Canonical := .inr ha
    simpa [ha.isNone_eq_false] using this
  · simp only [ha.isNone_eq_false, hb.isNone_eq_false, Bool.or_self, Bool.false_eq_true, if_false]
    split
    next => exact canonical_none
    next hne => exact .inr (proper_mergeTerms ha hb (by simpa using hne))

theorem derived_adjoin {a b : CompoundUnit} (ha : a.Canonical) (hb : b.Canonical) :
    (a.adjoin b).Derived := by
  unfold adjoin
  split
  · exact derived_unknown
  · exact (canonical_combine ha hb).derived

theorem canonical_invert {u : CompoundUnit} (h : u.Canonical) : u.invert.Canonical := by
  rcases h with rfl | h
  · exact canonical_none
  · simp only [invert, h.isNone_eq_false, h.isUnknown_eq_false, Bool.or_self, Bool.false_eq_true,
      if_false]
    exact .inr (h.map_degree fun n hn => by omega)

theorem canonical_raise {u : CompoundUnit} (h : u.Canonical) (n : Int) :
    (u.raise n).Canonical := by
  rcases h with rfl | h
  · exact canonical_none
  · simp only [raise, h.isNone_eq_false, h.isUnknown_eq_false, Bool.or_self, Bool.false_eq_true,
      if_false]
    split
    · exact canonical_none
    · next hn => exact .inr (h.map_degree fun m hm => Int.mul_ne_zero hm hn)

theorem canonical_divide {a b : CompoundUnit} (ha : a.Canonical) (hb : b.Canonical) :
    (a.divide b).Canonical :=
  canonical_combine ha (canonical_invert hb)

end CompoundUnit

end Quantities
