import Quantities.Proofs.Unit.Identity
import Quantities.Proofs.Unit.Power

namespace Quantities

namespace CompoundUnit

def ofTerm (t : Term) : CompoundUnit := ⟨[t]⟩

/-- The unit of terms side by side, taken from the left. -/
def ofRow : List Term → CompoundUnit
  | [] => none
  | t :: ts => (ts.map ofTerm).foldl adjoin (ofTerm t)

/-- The terms of units, of which no two measure one category in different base units. -/
structure Agreeing (ts : List Term) : Prop where
  isMarker : ∀ t ∈ ts, t.base.isMarker = false
  degree : ∀ t ∈ ts, t.degree ≠ 0
  base : ∀ s ∈ ts, ∀ t ∈ ts, s.category = t.category → s.base = t.base

/-- The sum of the degrees of a base unit. -/
def baseDegree (ts : List Term) (b : BaseUnit) : Int :=
  ((ts.filter (·.base = b)).map Term.degree).sum

/-- The sum of the degrees in a category. -/
def categoryDegree (ts : List Term) (c : Category) : Int :=
  ((ts.filter (·.category = c)).map Term.degree).sum

variable {u : CompoundUnit} {ts us : List Term} {t : Term}

theorem Agreeing.of_subset (h : Agreeing ts) (hsub : us ⊆ ts) : Agreeing us where
  isMarker t ht := h.isMarker t (hsub ht)
  degree t ht := h.degree t (hsub ht)
  base s hs t ht := h.base s (hsub hs) t (hsub ht)

theorem Agreeing.canonical_ofTerm (h : Agreeing ts) (ht : t ∈ ts) : (ofTerm t).Canonical :=
  .inr ⟨by simp [ofTerm], by simpa [ofTerm] using h.isMarker t ht,
    by simpa [ofTerm] using h.degree t ht, by simp [ofTerm]⟩

theorem degree_ofTerm (t : Term) (c : Category) :
    (ofTerm t).degree c = if t.category = c then t.degree else 0 := by
  by_cases hc : t.category = c <;> simp [ofTerm, degree, find?, hc]

theorem categoryDegree_append (c : Category) :
    categoryDegree (ts ++ us) c = categoryDegree ts c + categoryDegree us c := by
  simp [categoryDegree]

theorem categoryDegree_singleton (t : Term) (c : Category) :
    categoryDegree [t] c = if t.category = c then t.degree else 0 := by
  by_cases hc : t.category = c <;> simp [categoryDegree, hc]

theorem baseDegree_perm (h : ts.Perm us) : baseDegree ts = baseDegree us :=
  funext fun _ => ((h.filter _).map _).sum_eq

theorem Agreeing.categoryDegree_eq (h : Agreeing ts) (ht : t ∈ ts) :
    categoryDegree ts t.category = baseDegree ts t.base := by
  have hfilter : ts.filter (·.category = t.category) = ts.filter (·.base = t.base) := by
    refine List.filter_congr fun s hs => ?_
    have hiff : s.category = t.category ↔ s.base = t.base :=
      ⟨h.base s hs t ht, congrArg BaseUnit.category⟩
    simp [hiff]
  rw [categoryDegree, hfilter, baseDegree]

/-- A unit with the degrees and the base units of a row. -/
structure Sums (u : CompoundUnit) (ts : List Term) : Prop where
  canonical : u.Canonical
  degree : ∀ c, u.degree c = categoryDegree ts c
  base : ∀ t ∈ u.terms, t.category ≠ .none → t.base ∈ ts.map Term.base

theorem Sums.nil : none.Sums [] where
  canonical := canonical_none
  degree c := congrFun degree_none c
  base t ht hc := by
    obtain rfl : t = ⟨.none, 0⟩ := by simpa [none] using ht
    exact absurd rfl hc

theorem Sums.not_mixes (h : u.Sums ts) (hts : Agreeing (ts ++ [t])) : ¬ u.Mixes (ofTerm t) := by
  rintro ⟨s, hs, t', ht', hc, hb⟩
  obtain rfl : t' = t := by simpa [ofTerm] using ht'
  have hmeasured : t'.category ≠ .none := BaseUnit.category_ne_none (hts.isMarker t' (by simp))
  obtain ⟨r, hr, hbase⟩ := List.mem_map.mp (h.base s hs (hc ▸ hmeasured))
  have hcategory : r.category = t'.category := (congrArg BaseUnit.category hbase).trans hc
  exact hb (hbase.symm.trans (hts.base r (by simp [hr]) t' (by simp) hcategory))

theorem Sums.adjoin (h : u.Sums ts) (hts : Agreeing (ts ++ [t])) :
    (u.adjoin (ofTerm t)).Sums (ts ++ [t]) := by
  have hunit : (ofTerm t).Canonical := hts.canonical_ofTerm (by simp)
  rcases adjoin_eq h.canonical hunit with ⟨hm, -⟩ | ⟨-, hcombine⟩
  · exact absurd hm (h.not_mixes hts)
  rw [hcombine]
  refine ⟨canonical_combine h.canonical hunit, fun c => ?_, fun s hs hc => ?_⟩
  · rw [degree_combine h.canonical hunit, Pi.add_apply, h.degree, degree_ofTerm,
      categoryDegree_append, categoryDegree_singleton]
  · have hside := base_of_mem_combine h.canonical hunit hs hc
    rw [List.map_append, List.mem_append]
    cases hf : u.find? s.category with
    | some e =>
      obtain ⟨he, hcategory⟩ := mem_of_find? hf
      have hbase : e.base = s.base := by simpa [hf] using hside
      exact .inl (hbase ▸ h.base e he (hcategory ▸ hc))
    | none =>
      rw [hf, Option.none_or] at hside
      obtain ⟨e, he, hbase⟩ := Option.map_eq_some_iff.mp hside
      obtain rfl : e = t := by simpa [ofTerm] using (mem_of_find? he).1
      exact .inr (by simp [hbase])

theorem Agreeing.ofRow_eq_foldl (h : Agreeing ts) :
    ofRow ts = (ts.map ofTerm).foldl CompoundUnit.adjoin none := by
  cases ts with
  | nil => rfl
  | cons t ts =>
    have hfirst : none.adjoin (ofTerm t) = ofTerm t :=
      (h.canonical_ofTerm (by simp)).none_combine
    rw [List.map_cons, List.foldl_cons, hfirst, ofRow]

theorem Agreeing.sums_ofRow (h : Agreeing ts) : (ofRow ts).Sums ts := by
  rw [h.ofRow_eq_foldl]
  induction ts using List.reverseRecOn with
  | nil => exact Sums.nil
  | append_singleton ts t ih =>
    rw [List.map_append, List.foldl_append]
    exact (ih (h.of_subset (List.subset_append_left ts [t]))).adjoin h

theorem exists_of_baseDegree_ne_zero {b : BaseUnit} (h : baseDegree ts b ≠ 0) :
    ∃ t ∈ ts, t.base = b := by
  by_contra hmissing
  have hfilter : ts.filter (·.base = b) = [] :=
    List.filter_eq_nil_iff.mpr fun t ht hb => hmissing ⟨t, ht, by simpa using hb⟩
  rw [baseDegree, hfilter] at h
  exact h rfl

theorem Sums.proper (h : u.Sums ts) (hts : Agreeing ts) {b : BaseUnit} (hb : baseDegree ts b ≠ 0) :
    u.Proper := by
  rcases h.canonical with rfl | hu
  · obtain ⟨t, ht, rfl⟩ := exists_of_baseDegree_ne_zero hb
    rw [← hts.categoryDegree_eq ht, ← h.degree, degree_none] at hb
    exact absurd rfl hb
  · exact hu

theorem Sums.eq_none (h : u.Sums ts) (hts : Agreeing ts) (hzero : ∀ b, baseDegree ts b = 0) :
    u = none := by
  refine h.canonical.degree_eq_zero_iff.mp (funext fun c => ?_)
  rw [h.degree]
  by_cases hc : c ∈ ts.map Term.category
  · obtain ⟨t, ht, rfl⟩ := List.mem_map.mp hc
    exact (hts.categoryDegree_eq ht).trans (hzero t.base)
  · have hfilter : ts.filter (·.category = c) = [] :=
      List.filter_eq_nil_iff.mpr fun t ht h => hc (List.mem_map.mpr ⟨t, ht, by simpa using h⟩)
    rw [categoryDegree, hfilter]
    rfl

theorem Sums.of_mem_terms (h : u.Sums ts) (hts : Agreeing ts) (hu : u.Proper) (ht : t ∈ u.terms) :
    (∃ r ∈ ts, r.base = t.base) ∧ t.degree = baseDegree ts t.base := by
  have hc : t.category ≠ .none := BaseUnit.category_ne_none (hu.isMarker t ht)
  obtain ⟨r, hr, hbase⟩ := List.mem_map.mp (h.base t ht hc)
  have hcategory : r.category = t.category := congrArg BaseUnit.category hbase
  refine ⟨⟨r, hr, hbase⟩, ?_⟩
  calc t.degree
      = u.degree t.category := by simp [CompoundUnit.degree, find?_of_mem hu.distinct ht]
    _ = categoryDegree ts r.category := by rw [h.degree, hcategory]
    _ = baseDegree ts t.base := by rw [hts.categoryDegree_eq hr, hbase]

theorem Sums.mem_terms_iff (h : u.Sums ts) (hts : Agreeing ts) (hu : u.Proper) :
    t ∈ u.terms ↔ t.degree ≠ 0 ∧ t.degree = baseDegree ts t.base := by
  constructor
  · exact fun ht => ⟨hu.degree t ht, (h.of_mem_terms hts hu ht).2⟩
  · rintro ⟨hne, hdegree⟩
    obtain ⟨r, hr, hbase⟩ := exists_of_baseDegree_ne_zero (hdegree ▸ hne)
    have hcategory : u.degree r.category ≠ 0 := by
      rw [h.degree, hts.categoryDegree_eq hr, hbase, ← hdegree]
      exact hne
    -- the unit has some term in this category, which can only be the one looked for
    obtain ⟨s, hs, hsr⟩ := List.mem_map.mp (hu.degree_ne_zero_iff.mp hcategory)
    obtain ⟨⟨q, hq, hqs⟩, hsum⟩ := h.of_mem_terms hts hu hs
    have hsame : s.base = t.base := by
      rw [← hqs, ← hbase]
      exact hts.base q hq r hr ((congrArg BaseUnit.category hqs).trans hsr)
    have hst : s = t := by
      cases s
      cases t
      simp_all
    exact hst ▸ hs

/-- The order of a row does not matter. However agreeing terms are put side by side, no part of the
row is unknown, and the unit is that of a plain number if all sums of degrees vanish, or else has
the base units with other sums, each with its sum as degree. -/
theorem ofRow_perm (h : Agreeing ts) (hperm : ts.Perm us) :
    (∀ n, (ofRow (ts.take n)).isUnknown = false ∧ (ofRow (us.take n)).isUnknown = false) ∧
    (ofRow ts).sameTerms (ofRow us) = true ∧
    ((∀ b, baseDegree ts b = 0) → ofRow ts = none ∧ ofRow us = none) ∧
    ((∃ b, baseDegree ts b ≠ 0) → ∀ t,
      (t ∈ (ofRow ts).terms ↔ t.degree ≠ 0 ∧ t.degree = baseDegree ts t.base) ∧
      (t ∈ (ofRow us).terms ↔ t.degree ≠ 0 ∧ t.degree = baseDegree ts t.base)) := by
  have hus : Agreeing us := h.of_subset hperm.symm.subset
  have hknown {vs : List Term} (hvs : Agreeing vs) (n : Nat) :
      (ofRow (vs.take n)).isUnknown = false :=
    (hvs.of_subset (List.take_subset n vs)).sums_ofRow.canonical.isUnknown_eq_false
  have hnone : (∀ b, baseDegree ts b = 0) → ofRow ts = none ∧ ofRow us = none := fun hzero =>
    ⟨h.sums_ofRow.eq_none h hzero,
      hus.sums_ofRow.eq_none hus fun b => baseDegree_perm hperm ▸ hzero b⟩
  have hterms : (∃ b, baseDegree ts b ≠ 0) → ∀ t,
      (t ∈ (ofRow ts).terms ↔ t.degree ≠ 0 ∧ t.degree = baseDegree ts t.base) ∧
      (t ∈ (ofRow us).terms ↔ t.degree ≠ 0 ∧ t.degree = baseDegree ts t.base) := by
    rintro ⟨b, hb⟩ t
    have hsums := hus.sums_ofRow
    refine ⟨h.sums_ofRow.mem_terms_iff h (h.sums_ofRow.proper h hb), ?_⟩
    rw [baseDegree_perm hperm] at hb ⊢
    exact hsums.mem_terms_iff hus (hsums.proper hus hb)
  refine ⟨fun n => ⟨hknown h n, hknown hus n⟩, ?_, hnone, hterms⟩
  by_cases hzero : ∀ b, baseDegree ts b = 0
  · rw [(hnone hzero).1, (hnone hzero).2]
    rfl
  · have hsome := not_forall.mp hzero
    exact sameTerms_iff.mpr fun t => (hterms hsome t).1.trans (hterms hsome t).2.symm

/-- A row in which the time cancels at once, and the distance cancels and comes back, and the same
row in another order. -/
theorem ofRow_perm_of_cancelled :
    let ts : List Term := [⟨.meter, 2⟩, ⟨.second, -1⟩, ⟨.meter, -2⟩, ⟨.kilogram, 1⟩, ⟨.second, 1⟩,
      ⟨.meter, 3⟩]
    let us : List Term := [⟨.second, -1⟩, ⟨.second, 1⟩, ⟨.meter, 2⟩, ⟨.meter, 3⟩, ⟨.kilogram, 1⟩,
      ⟨.meter, -2⟩]
    (Agreeing ts ∧ ts.Perm us) ∧
    (ofRow ts = ⟨[⟨.kilogram, 1⟩, ⟨.meter, 3⟩]⟩ ∧ ofRow us = ⟨[⟨.meter, 3⟩, ⟨.kilogram, 1⟩]⟩) ∧
    ofRow (us.take 2) = none ∧ (ofRow ts).sameTerms (ofRow us) = true := by
  intro ts us
  have hts : Agreeing ts := ⟨by decide, by decide, by decide⟩
  have hperm : ts.Perm us := by decide
  exact ⟨⟨hts, hperm⟩, by decide, by decide, (ofRow_perm hts hperm).2.1⟩

end CompoundUnit

end Quantities
