import Mathlib.Algebra.Group.Pi.Basic
import Mathlib.Algebra.Module.Pi
import Mathlib.Algebra.Ring.Int.Defs
import Mathlib.Data.List.Perm.Subperm
import Quantities.CompoundUnit.Conversion
import Quantities.Proofs.Unit.Canonical

namespace Quantities

/-- What becomes of the terms that two factors have in one category. -/
def Term.join : Option Term → Option Term → Option Term
  | some s, some t =>
    if s.degree + t.degree = 0 then none else some { s with degree := s.degree + t.degree }
  | some s, none => some s
  | none, t => t

theorem Category.length_le_three {cs : List Category} (hn : cs.Nodup)
    (h : Category.none ∉ cs) : cs.length ≤ 3 := by
  have hsub : cs ⊆ [distance, time, mass] := by
    intro c hc
    cases c with
    | none => exact absurd hc h
    | _ => simp
  exact (List.subperm_of_subset hn hsub).length_le

namespace CompoundUnit

/-- The degree that a unit has in a category. -/
def degree (u : CompoundUnit) (c : Category) : Int := ((u.find? c).map Term.degree).getD 0

/-- Whether two units measure some category in different base units. -/
def Mixes (a b : CompoundUnit) : Prop :=
  ∃ s ∈ a.terms, ∃ t ∈ b.terms, s.category = t.category ∧ s.base ≠ t.base

theorem Proper.none_not_mem_categories {u : CompoundUnit} (h : u.Proper) :
    Category.none ∉ u.terms.map Term.category := by
  intro hmem
  obtain ⟨t, ht, hc⟩ := List.mem_map.mp hmem
  exact BaseUnit.category_ne_none (h.isMarker t ht) hc

theorem Canonical.size_bounds {u : CompoundUnit} (h : u.Canonical) : 0 < u.size ∧ u.size ≤ 3 := by
  rcases h with rfl | h
  · decide
  · refine ⟨List.length_pos_iff.mpr h.ne_nil, ?_⟩
    have hle := Category.length_le_three h.distinct h.none_not_mem_categories
    simpa [size] using hle

theorem Canonical.distinct {u : CompoundUnit} (h : u.Canonical) :
    (u.terms.map Term.category).Nodup := by
  rcases h with rfl | h
  · simp [none]
  · exact h.distinct

section Find

variable {u a b : CompoundUnit} {c : Category} {t : Term}

theorem mem_of_find? (h : u.find? c = some t) : t ∈ u.terms ∧ t.category = c :=
  ⟨List.mem_of_find?_eq_some h, by simpa using List.find?_some h⟩

theorem find?_mk_cons (t : Term) (ts : List Term) (c : Category) :
    (mk (t :: ts)).find? c = if t.category = c then some t else (mk ts).find? c := by
  by_cases h : t.category = c <;> simp [find?, h]

theorem find?_of_mem (hu : (u.terms.map Term.category).Nodup) (ht : t ∈ u.terms) :
    u.find? t.category = some t := by
  obtain ⟨ts⟩ := u
  induction ts with
  | nil => cases ht
  | cons x xs ih =>
    obtain ⟨hx, hxs⟩ := List.nodup_cons.mp hu
    rw [find?_mk_cons]
    rcases List.mem_cons.mp ht with rfl | ht
    · simp
    · have hne : x.category ≠ t.category := fun h => hx (h ▸ List.mem_map_of_mem ht)
      rw [if_neg hne]
      exact ih hxs ht

theorem find?_none (hc : c ≠ .none) : none.find? c = Option.none := by
  simp [find?, none, Term.category, BaseUnit.category, Ne.symm hc]

theorem Proper.find?_none_category (h : u.Proper) : u.find? .none = Option.none :=
  find?_eq_none_iff.mpr h.none_not_mem_categories

theorem find?_absorb (es : List Term) (t : Term) (c : Category) :
    (mk (absorb es t)).find? c =
      if t.category = c then ((mk es).find? c).map fun e => { e with degree := e.degree + t.degree }
      else (mk es).find? c := by
  induction es with
  | nil => simp [absorb, find?]
  | cons e es ih =>
    by_cases he : e.category = t.category
    · have hsame : ({ e with degree := e.degree + t.degree } : Term).category = e.category := rfl
      rw [absorb, if_pos he, find?_mk_cons, find?_mk_cons, hsame]
      by_cases ht : t.category = c
      · have hec := he.trans ht
        rw [if_pos ht, if_pos hec, if_pos hec]
        rfl
      · have hec : e.category ≠ c := fun h => ht (he ▸ h)
        rw [if_neg ht, if_neg hec, if_neg hec]
    · rw [absorb, if_neg he, find?_mk_cons, find?_mk_cons, ih]
      by_cases ht : t.category = c
      · have hec : e.category ≠ c := fun h => he (h.trans ht.symm)
        rw [if_neg hec, if_neg hec]
      · rw [if_neg ht, if_neg ht]

theorem find?_foldl_absorb {ts : List Term} (hts : (ts.map Term.category).Nodup)
    (es : List Term) (c : Category) :
    (mk (ts.foldl absorb es)).find? c =
      ((mk es).find? c).map fun e => { e with degree := e.degree + (mk ts).degree c } := by
  induction ts generalizing es with
  | nil => simp [degree, find?]
  | cons t ts ih =>
    obtain ⟨ht, hts⟩ := List.nodup_cons.mp hts
    rw [List.foldl_cons, ih hts, find?_absorb, degree, degree, find?_mk_cons]
    by_cases hc : t.category = c
    · have hmissing : (mk ts).find? c = Option.none := find?_eq_none_iff.mpr (hc ▸ ht)
      simp [hc, hmissing, Function.comp_def]
    · simp [hc]

theorem find?_filter {es : List Term} (hes : (es.map Term.category).Nodup) (p : Term → Bool)
    (c : Category) : (mk (es.filter p)).find? c = ((mk es).find? c).filter p := by
  induction es with
  | nil => simp [find?]
  | cons e es ih =>
    obtain ⟨he, hes⟩ := List.nodup_cons.mp hes
    rw [List.filter_cons, find?_mk_cons]
    by_cases hc : e.category = c
    · have hmissing : (mk es).find? c = Option.none := find?_eq_none_iff.mpr (hc ▸ he)
      cases hp : p e <;> simp [Option.filter, hp, hc, find?_mk_cons, ih hes, hmissing]
    · cases hp : p e <;> simp [hc, find?_mk_cons, ih hes]

theorem find?_mergeTerms (ha : (a.terms.map Term.category).Nodup)
    (hb : (b.terms.map Term.category).Nodup) (c : Category) :
    (mk (mergeTerms a b)).find? c =
      (((a.find? c).map fun e => { e with degree := e.degree + b.degree c }).filter
        (·.degree ≠ 0)).or (if (a.find? c).isNone then b.find? c else Option.none) := by
  have habsorbed : ((b.terms.foldl absorb a.terms).map Term.category).Nodup := by
    rw [map_category_foldl_absorb]
    exact ha
  have hleft := find?_filter habsorbed (fun t => t.degree ≠ 0) c
  have hright := find?_filter hb (fun t => (a.find? t.category).isNone) c
  rw [find?_foldl_absorb hb] at hleft
  have happend : (mk (mergeTerms a b)).find? c =
      ((mk ((b.terms.foldl absorb a.terms).filter fun t => t.degree ≠ 0)).find? c).or
        ((mk (b.terms.filter fun t => (a.find? t.category).isNone)).find? c) := List.find?_append
  rw [happend, hleft, hright]
  congr 1
  cases hf : b.find? c with
  | none => simp
  | some t =>
    obtain ⟨_, rfl⟩ := mem_of_find? hf
    rfl

theorem Proper.combine_eq (ha : a.Proper) (hb : b.Proper) :
    a.combine b = if mergeTerms a b = [] then none else ⟨mergeTerms a b⟩ := by
  rw [combine, ha.isUnknown_eq_false, hb.isUnknown_eq_false, ha.isNone_eq_false,
    hb.isNone_eq_false]
  simp only [Bool.or_self, Bool.false_eq_true, if_false]
  split
  next h => rw [if_pos h]
  next h => rw [if_neg (by simpa using h)]

theorem Proper.find?_combine (ha : a.Proper) (hb : b.Proper) (hc : c ≠ .none) :
    (a.combine b).find? c = Term.join (a.find? c) (b.find? c) := by
  have hmerged : (a.combine b).find? c = (CompoundUnit.mk (mergeTerms a b)).find? c := by
    rw [ha.combine_eq hb]
    split
    next h => rw [find?_none hc, h]; rfl
    next => rfl
  rw [hmerged, find?_mergeTerms ha.distinct hb.distinct, CompoundUnit.degree]
  cases hs : a.find? c with
  | none => simp [Term.join]
  | some s =>
    have hdegree := ha.degree s (mem_of_find? hs).1
    cases b.find? c with
    | none => simp [Term.join, Option.filter, hdegree]
    | some t => by_cases h : s.degree + t.degree = 0 <;> simp [Term.join, Option.filter, h]

theorem Canonical.combine_none (h : u.Canonical) : u.combine none = u := by
  rcases h with rfl | h
  · rfl
  · simp [combine, h.isUnknown_eq_false, h.isNone_eq_false]

theorem Canonical.none_combine (h : u.Canonical) : none.combine u = u := by
  rw [combine_none_left, h.isUnknown_eq_false]
  simp

theorem Canonical.find?_combine (ha : a.Canonical) (hb : b.Canonical) (hc : c ≠ .none) :
    (a.combine b).find? c = Term.join (a.find? c) (b.find? c) := by
  rcases ha with rfl | hpa
  · rw [hb.none_combine, find?_none hc]
    rfl
  rcases hb with rfl | hpb
  · rw [Canonical.combine_none (.inr hpa), find?_none hc]
    cases a.find? c <;> rfl
  · exact hpa.find?_combine hpb hc

theorem find?_map_degree (ts : List Term) (f : Int → Int) (c : Category) :
    (mk (ts.map fun t => { t with degree := f t.degree })).find? c =
      ((mk ts).find? c).map fun t => { t with degree := f t.degree } := by
  simp only [find?, List.find?_map]
  rfl

theorem Canonical.find?_invert (h : u.Canonical) (hc : c ≠ .none) :
    u.invert.find? c = (u.find? c).map fun t => { t with degree := -t.degree } := by
  rcases h with rfl | h
  · rw [show none.invert = none from rfl, find?_none hc]
    rfl
  · rw [invert, h.isNone_eq_false, h.isUnknown_eq_false]
    exact find?_map_degree u.terms _ c

theorem Canonical.find?_raise (h : u.Canonical) {n : Int} (hn : n ≠ 0) (hc : c ≠ .none) :
    (u.raise n).find? c = (u.find? c).map fun t => { t with degree := t.degree * n } := by
  rcases h with rfl | h
  · rw [show none.raise n = none from rfl, find?_none hc]
    rfl
  · rw [raise, h.isNone_eq_false, h.isUnknown_eq_false]
    simp only [Bool.or_self, Bool.false_eq_true, if_false, hn]
    exact find?_map_degree u.terms (· * n) c

end Find

section Degree

variable {u a b : CompoundUnit}

@[simp] theorem degree_none : none.degree = 0 := by
  funext c
  cases c <;> rfl

theorem Canonical.degree_none_category (h : u.Canonical) : u.degree .none = 0 := by
  rcases h with rfl | h
  · rfl
  · rw [degree, h.find?_none_category]
    rfl

theorem degree_combine (ha : a.Canonical) (hb : b.Canonical) :
    (a.combine b).degree = a.degree + b.degree := by
  funext c
  by_cases hc : c = .none
  · subst hc
    rw [(canonical_combine ha hb).degree_none_category, Pi.add_apply, ha.degree_none_category,
      hb.degree_none_category]
    rfl
  · rw [Pi.add_apply, degree, degree, degree, ha.find?_combine hb hc]
    cases a.find? c with
    | none => simp [Term.join]
    | some s =>
      cases b.find? c with
      | none => simp [Term.join]
      | some t => by_cases h : s.degree + t.degree = 0 <;> simp [Term.join, h]

theorem degree_invert (h : u.Canonical) : u.invert.degree = -u.degree := by
  funext c
  by_cases hc : c = .none
  · subst hc
    rw [(canonical_invert h).degree_none_category, Pi.neg_apply, h.degree_none_category]
    rfl
  · rw [Pi.neg_apply, degree, degree, h.find?_invert hc]
    cases u.find? c <;> simp

theorem degree_divide (ha : a.Canonical) (hb : b.Canonical) :
    (a.divide b).degree = a.degree - b.degree := by
  rw [divide, degree_combine ha (canonical_invert hb), degree_invert hb, sub_eq_add_neg]

theorem degree_raise (h : u.Canonical) (n : Int) : (u.raise n).degree = n • u.degree := by
  funext c
  by_cases hc : c = .none
  · subst hc
    rw [(canonical_raise h n).degree_none_category, Pi.smul_apply, h.degree_none_category]
    simp
  by_cases hn : n = 0
  · subst hn
    rcases h with rfl | h
    · cases c <;> rfl
    · simp [raise, h.isNone_eq_false, h.isUnknown_eq_false]
  · rw [Pi.smul_apply, degree, degree, h.find?_raise hn hc]
    cases u.find? c <;> simp [mul_comm]

theorem Proper.degree_ne_zero_iff (h : u.Proper) {c : Category} :
    u.degree c ≠ 0 ↔ c ∈ u.terms.map Term.category := by
  rw [CompoundUnit.degree]
  cases hf : u.find? c with
  | none =>
    have := find?_eq_none_iff.mp hf
    simp_all
  | some t =>
    obtain ⟨ht, rfl⟩ := mem_of_find? hf
    exact ⟨fun _ => List.mem_map_of_mem ht, fun _ => h.degree t ht⟩

theorem Canonical.degree_eq_zero_iff (h : u.Canonical) : u.degree = 0 ↔ u = none := by
  constructor
  · intro hd
    rcases h with rfl | h
    · rfl
    · obtain ⟨t, ht⟩ := List.exists_mem_of_ne_nil _ h.ne_nil
      have hne := h.degree_ne_zero_iff.mpr (List.mem_map_of_mem ht)
      rw [hd] at hne
      exact absurd rfl hne
  · rintro rfl
    exact degree_none

theorem Canonical.isNone_iff (h : u.Canonical) : u.isNone = true ↔ u = none := by
  rcases h with rfl | h
  · simp
  · refine ⟨fun hn => ?_, fun hn => by rw [hn]; rfl⟩
    rw [h.isNone_eq_false] at hn
    cases hn

end Degree

end CompoundUnit

end Quantities
