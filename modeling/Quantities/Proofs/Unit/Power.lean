import Quantities.Proofs.Unit.Convertible

namespace Quantities

theorem Term.base_of_join {s t : Option Term} {r : Term} (h : join s t = some r) :
    (s.or t).map base = some r.base := by
  cases s with
  | none => exact congrArg (Option.map base) h
  | some s =>
    cases t with
    | none => exact congrArg (Option.map base) h
    | some t =>
      simp only [join] at h
      split at h
      · cases h
      · cases h
        rfl

namespace CompoundUnit

variable {u a b : CompoundUnit}

section Loop

variable {es ts : List Term} {t : Term}

theorem degree_mk_cons (ht : t.category ∉ ts.map Term.category) (c : Category) :
    (mk (t :: ts)).degree c = (if t.category = c then t.degree else 0) + (mk ts).degree c := by
  rw [degree, find?_mk_cons]
  by_cases hc : t.category = c
  · have hmissing : (mk ts).find? c = Option.none := find?_eq_none_iff.mpr (hc ▸ ht)
    simp [hc, degree, hmissing]
  · simp [hc, degree]

/-- Where categories are distinct a term is added to every term of its category, for there is one at
most. -/
theorem absorb_eq_map (hes : (es.map Term.category).Nodup) (t : Term) :
    absorb es t = es.map fun e =>
      { e with degree := e.degree + if t.category = e.category then t.degree else 0 } := by
  induction es with
  | nil => rfl
  | cons e es ih =>
    obtain ⟨he, hes⟩ := List.nodup_cons.mp hes
    rw [absorb, List.map_cons]
    by_cases hc : e.category = t.category
    · have hrest : (es.map fun x =>
          { x with degree := x.degree + if t.category = x.category then t.degree else 0 }) = es := by
        refine (List.map_congr_left fun x hx => ?_).trans (List.map_id es)
        have hne : t.category ≠ x.category := fun h => he (hc.trans h ▸ List.mem_map_of_mem hx)
        simp [hne]
      rw [if_pos hc, if_pos hc.symm, hrest]
    · rw [if_neg hc, if_neg (Ne.symm hc), Int.add_zero, ih hes]

theorem foldl_absorb_eq_map (hes : (es.map Term.category).Nodup)
    (hts : (ts.map Term.category).Nodup) :
    ts.foldl absorb es =
      es.map fun e => { e with degree := e.degree + (mk ts).degree e.category } := by
  induction ts generalizing es with
  | nil => simp [degree, find?]
  | cons t ts ih =>
    obtain ⟨ht, hts⟩ := List.nodup_cons.mp hts
    have hcategories : ((absorb es t).map Term.category).Nodup := by
      rw [show (absorb es t).map Term.category = es.map Term.category from
        map_category_foldl_absorb es [t]]
      exact hes
    rw [List.foldl_cons, ih hcategories hts, absorb_eq_map hes, List.map_map]
    refine List.map_congr_left fun e _ => ?_
    rw [degree_mk_cons ht, ← Int.add_assoc]
    rfl

end Loop

section Power

theorem Proper.raise_eq (h : u.Proper) {n : Int} (hn : n ≠ 0) :
    u.raise n = ⟨u.terms.map fun t => { t with degree := t.degree * n }⟩ := by
  simp [raise, h.isNone_eq_false, h.isUnknown_eq_false, hn]

theorem Proper.raise (h : u.Proper) {n : Int} (hn : n ≠ 0) : (u.raise n).Proper := by
  rw [h.raise_eq hn]
  exact h.map_degree fun d hd => Int.mul_ne_zero hd hn

theorem Canonical.raise_zero (h : u.Canonical) : u.raise 0 = none := by
  rcases h with rfl | h
  · rfl
  · simp [CompoundUnit.raise, h.isNone_eq_false, h.isUnknown_eq_false]

theorem Canonical.raise_raise (h : u.Canonical) (m n : Int) :
    (u.raise m).raise n = u.raise (m * n) := by
  by_cases hn : n = 0
  · rw [hn, Int.mul_zero, h.raise_zero, (canonical_raise h m).raise_zero]
  by_cases hm : m = 0
  · rw [hm, Int.zero_mul, h.raise_zero]
    rfl
  rcases h with rfl | h
  · rfl
  · rw [(h.raise hm).raise_eq hn, h.raise_eq hm, h.raise_eq (Int.mul_ne_zero hm hn), List.map_map]
    congr 1
    refine List.map_congr_left fun t _ => ?_
    simp [Int.mul_assoc]

theorem Canonical.invert_eq_raise (h : u.Canonical) : u.invert = u.raise (-1) := by
  rcases h with rfl | h
  · rfl
  · rw [h.raise_eq (by decide), invert, h.isNone_eq_false, h.isUnknown_eq_false]
    simp

theorem Proper.map_category_raise (h : u.Proper) {n : Int} (hn : n ≠ 0) :
    (u.raise n).terms.map Term.category = u.terms.map Term.category := by
  rw [h.raise_eq hn, List.map_map]
  rfl

theorem Proper.mergeTerms_raise (h : u.Proper) {m n : Int} (hm : m ≠ 0) (hn : n ≠ 0) :
    mergeTerms (u.raise m) (u.raise n) =
      (u.terms.map fun t => { t with degree := t.degree * (m + n) }).filter (·.degree ≠ 0) := by
  have hright : (u.raise n).terms.filter (fun t => ((u.raise m).find? t.category).isNone) = [] := by
    refine List.filter_eq_nil_iff.mpr fun t ht hnone => ?_
    rw [Option.isNone_iff_eq_none, find?_eq_none_iff, h.map_category_raise hm,
      ← h.map_category_raise hn] at hnone
    exact hnone (List.mem_map_of_mem ht)
  have hleft : (u.raise n).terms.foldl absorb (u.raise m).terms =
      u.terms.map fun t => { t with degree := t.degree * (m + n) } := by
    rw [foldl_absorb_eq_map (h.raise hm).distinct (h.raise hn).distinct, h.raise_eq hm, List.map_map]
    refine List.map_congr_left fun t ht => ?_
    have hdegree : (u.raise n).degree t.category = t.degree * n := by
      rw [degree_raise (.inr h), Pi.smul_apply, CompoundUnit.degree, find?_of_mem h.distinct ht, smul_eq_mul,
        Int.mul_comm]
      rfl
    change Term.mk t.base (t.degree * m + (u.raise n).degree t.category) = _
    rw [hdegree, Int.mul_add]
  rw [mergeTerms, hleft, hright, List.append_nil]

theorem Canonical.combine_raise (h : u.Canonical) (m n : Int) :
    (u.raise m).combine (u.raise n) = u.raise (m + n) := by
  by_cases hm : m = 0
  · rw [hm, Int.zero_add, h.raise_zero, (canonical_raise h n).none_combine]
  by_cases hn : n = 0
  · rw [hn, Int.add_zero, h.raise_zero, (canonical_raise h m).combine_none]
  rcases h with rfl | h
  · rfl
  rw [(h.raise hm).combine_eq (h.raise hn), h.mergeTerms_raise hm hn]
  by_cases hsum : m + n = 0
  · simp [hsum, Canonical.raise_zero (.inr h)]
  · have hkept : (u.terms.map fun t => ({ t with degree := t.degree * (m + n) } : Term)).filter
        (·.degree ≠ 0) = u.terms.map fun t => { t with degree := t.degree * (m + n) } := by
      refine List.filter_eq_self.mpr fun t ht => ?_
      obtain ⟨e, he, rfl⟩ := List.mem_map.mp ht
      simpa using Int.mul_ne_zero (h.degree e he) hsum
    rw [hkept, h.raise_eq hsum, if_neg (by simpa using h.ne_nil)]

end Power

theorem base_of_mem_combine (ha : a.Canonical) (hb : b.Canonical) {t : Term}
    (ht : t ∈ (a.combine b).terms) (hc : t.category ≠ .none) :
    ((a.find? t.category).or (b.find? t.category)).map Term.base = some t.base := by
  have hfound := find?_of_mem (canonical_combine ha hb).distinct ht
  rw [ha.find?_combine hb hc] at hfound
  exact Term.base_of_join hfound

/-- Unit algebra is arithmetic of degrees. Products, inverses and powers of canonical units are
canonical; their degrees are the sums, the negatives and the multiples. A product keeps the base
units of its left side, and side by side only units go together that measure no category in
different base units. Powers of one unit combine as those of a number, and in the same order. -/
theorem algebra_of_degrees (ha : a.Canonical) (hb : b.Canonical) (hu : u.Canonical) (m n : Int) :
    ((a.combine b).Canonical ∧ a.invert.Canonical ∧ (a.raise n).Canonical) ∧
    (∀ c, (a.combine b).degree c = a.degree c + b.degree c ∧ a.invert.degree c = -a.degree c ∧
      (a.raise n).degree c = n * a.degree c) ∧
    (∀ t ∈ (a.combine b).terms, t.category ≠ .none →
      ((a.find? t.category).or (b.find? t.category)).map Term.base = some t.base) ∧
    ((a.adjoin b = unknown ↔ a.Mixes b) ∧ (¬ a.Mixes b → a.adjoin b = a.combine b)) ∧
    (u.raise m).raise n = u.raise (m * n) ∧
    (u.raise m).combine (u.raise n) = u.raise (m + n) ∧
    u.invert = u.raise (-1) := by
  have hproduct := canonical_combine ha hb
  refine ⟨⟨hproduct, canonical_invert ha, canonical_raise ha n⟩, fun c => ⟨?_, ?_, ?_⟩,
    fun t ht hc => base_of_mem_combine ha hb ht hc, ?_, hu.raise_raise m n, hu.combine_raise m n,
    hu.invert_eq_raise⟩
  · rw [degree_combine ha hb, Pi.add_apply]
  · rw [degree_invert ha, Pi.neg_apply]
  · rw [degree_raise ha, Pi.smul_apply, smul_eq_mul]
  · rcases adjoin_eq ha hb with ⟨hm, hunit⟩ | ⟨hm, hunit⟩
    · exact ⟨iff_of_true hunit hm, absurd hm⟩
    · have hknown : a.adjoin b ≠ unknown := by
        intro h
        rw [← hunit, h] at hproduct
        cases hproduct.isUnknown_eq_false
      exact ⟨iff_of_false hknown hm, fun _ => hunit⟩

/-- A force and a distance times the square of a time, counted in other base units, so that the time
cancels. The powers of the force cancel each other as a whole. -/
theorem algebra_of_degrees_of_force :
    let force : CompoundUnit := ⟨[⟨.kilogram, 1⟩, ⟨.meter, 1⟩, ⟨.second, -2⟩]⟩
    let other : CompoundUnit := ⟨[⟨.hour, 2⟩, ⟨.mile, 1⟩]⟩
    (force.Canonical ∧ other.Canonical) ∧
    force.combine other = ⟨[⟨.kilogram, 1⟩, ⟨.meter, 2⟩]⟩ ∧
    (force.combine other).degree .distance = 1 + 1 ∧ force.adjoin other = unknown ∧
    (force.raise 3).combine (force.raise (-3)) = none := by
  intro force other
  have hforce : force.Canonical := .inr ⟨by decide, by decide, by decide, by decide⟩
  have hother : other.Canonical := .inr ⟨by decide, by decide, by decide, by decide⟩
  have hmixes : force.Mixes other :=
    ⟨⟨.meter, 1⟩, by decide, ⟨.mile, 1⟩, by decide, rfl, by decide⟩
  obtain ⟨-, hdegree, -, ⟨hside, -⟩, -, hpowers, -⟩ :=
    algebra_of_degrees hforce hother hforce 3 (-3)
  exact ⟨⟨hforce, hother⟩, by decide, (hdegree .distance).1, hside.mpr hmixes,
    hpowers.trans hforce.raise_zero⟩

end CompoundUnit

end Quantities
