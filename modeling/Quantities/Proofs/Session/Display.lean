import Quantities.Proofs.Expr.Magnitude
import Quantities.Proofs.Grammar.Display
import Quantities.Proofs.Number.Whole
import Quantities.Proofs.Session.Assignment

namespace Quantities

namespace CompoundUnit

variable {es ts : List Term} {t : Term}

theorem Proper.sublist (h : (CompoundUnit.mk ts).Proper) (hne : es ≠ []) (hs : es.Sublist ts) :
    (CompoundUnit.mk es).Proper where
  ne_nil := hne
  isMarker e he := h.isMarker e (hs.subset he)
  degree e he := h.degree e (hs.subset he)
  distinct := h.distinct.sublist (hs.map _)

theorem Proper.isWritable (h : (CompoundUnit.mk ts).Proper) (hw : ∀ t ∈ ts, t.isWritable = true) :
    (CompoundUnit.mk ts).isWritable = true :=
  Canonical.isWritable_iff (.inr h) |>.mpr hw

theorem absorb_of_not_mem (h : t.category ∉ es.map Term.category) : absorb es t = es := by
  induction es with
  | nil => rfl
  | cons e es ih =>
    rw [List.map_cons, List.mem_cons, not_or] at h
    rw [absorb, if_neg (Ne.symm h.1), ih h.2]

theorem Proper.adjoin_term (hne : es ≠ []) (h : (CompoundUnit.mk (es ++ [t])).Proper) :
    (CompoundUnit.mk es).adjoin ⟨[t]⟩ = ⟨es ++ [t]⟩ := by
  have hes : (CompoundUnit.mk es).Proper := h.sublist hne (List.sublist_append_left _ _)
  have ht : (CompoundUnit.mk [t]).Proper :=
    h.sublist (List.cons_ne_nil _ _) (List.sublist_append_right _ _)
  have hnew : t.category ∉ es.map Term.category := by
    have hdistinct := h.distinct
    rw [List.map_append, List.nodup_append] at hdistinct
    exact fun hmem => hdistinct.2.2 _ hmem t.category (by simp) rfl
  have hfind : (CompoundUnit.mk es).find? t.category = Option.none := find?_eq_none_iff.mpr hnew
  have hclashes : (CompoundUnit.mk es).clashes ⟨[t]⟩ = false := by simp [clashes, hfind]
  have hmerge : mergeTerms ⟨es⟩ ⟨[t]⟩ = es ++ [t] := by
    have hdegree : es.filter (fun t => t.degree ≠ 0) = es := by
      simpa using hes.degree
    simp only [mergeTerms, List.foldl_cons, List.foldl_nil, absorb_of_not_mem hnew, hdegree]
    simp [hfind]
  rw [adjoin, hclashes, hes.combine_eq ht, hmerge]
  simp

theorem Proper.display_eq {u : CompoundUnit} (h : u.Proper) (explicit : Bool) :
    u.display explicit = " ".intercalate (u.terms.map Term.text) := by
  simp [display, text, h.isNone_eq_false, h.isUnknown_eq_false]

theorem Proper.display_ne_empty {u : CompoundUnit} (h : u.Proper) (explicit : Bool) :
    u.display explicit ≠ "" := by
  obtain ⟨t, ts, hts⟩ := List.exists_cons_of_ne_nil h.ne_nil
  have hsymbol : t.base.symbol ≠ "" := by cases t.base <;> decide
  have htext : t.text ≠ "" := by
    unfold Term.text
    split <;> simp [hsymbol]
  rw [h.display_eq, hts]
  cases ts <;> simp [htext]

end CompoundUnit

variable {ν : Type} {A : Arithmetic ν}

namespace Expr

theorem wholeValue?_degreeExpr {d : Int} (hd : A.Counts d.natAbs) :
    (degreeExpr A d).wholeValue? A = some d := by
  cases d with
  | ofNat n =>
    rw [degreeExpr, wholeValue?, evaluate]
    exact hd.whole?
  | negSucc n =>
    rw [degreeExpr, wholeValue?, evaluate, evaluate]
    exact hd.whole?_neg

theorem unit?_degreeExpr (d : Int) : (degreeExpr A d).unit? A = some .none := by
  cases d <;> simp [degreeExpr]

theorem unit?_term {t : Term} (ht : (CompoundUnit.mk [t]).Proper) (hd : A.Counts t.degree.natAbs)
    (hw : t.isWritable = true) : (t.expr A).unit? A = some ⟨[t]⟩ := by
  have hmarker := ht.isMarker t (by simp)
  have hdegree := ht.degree t (by simp)
  have hknown := (CompoundUnit.canonical_ofBase hmarker).isUnknown_eq_false
  have hnone : (CompoundUnit.ofBase t.base).isNone = false := by
    simpa [CompoundUnit.isNone, CompoundUnit.ofBase] using BaseUnit.ne_none_of_isMarker hmarker
  have hbase : (unit (.ofBase t.base) : Expr ν).unit? A = some (.ofBase t.base) := unit?_unit hknown
  unfold Term.expr
  split
  next hone => rw [hbase, CompoundUnit.ofBase, ← hone]
  next =>
    refine unit?_bin_eq_some_iff.mpr ⟨_, _, hbase, unit?_degreeExpr _, ?_, ht.isUnknown_eq_false,
      ht.isWritable (by simpa using hw)⟩
    have hallowed : powerAllowed (.ofBase t.base) .none = true := by
      rw [powerAllowed, hnone]
      rfl
    have hraise : (CompoundUnit.ofBase t.base).raise t.degree = ⟨[t]⟩ := by
      rw [CompoundUnit.raise, hnone, hknown, if_neg (by simp), if_neg hdegree]
      simp [CompoundUnit.ofBase]
    rw [jointUnit?, if_pos rfl, if_pos hallowed, wholeValue?_degreeExpr hd, Option.map_some, hraise]

theorem unit?_terms {es ts : List Term} {e : Expr ν} (he : e.unit? A = some ⟨es⟩) (hne : es ≠ [])
    (h : (CompoundUnit.mk (es ++ ts)).Proper) (hd : ∀ t ∈ ts, A.Counts t.degree.natAbs)
    (hw : ∀ t ∈ es ++ ts, t.isWritable = true) :
    (ts.foldl (fun e t => .bin .unitProduct e (t.expr A)) e).unit? A = some ⟨es ++ ts⟩ := by
  induction ts generalizing es e with
  | nil => simpa using he
  | cons t ts ih =>
    obtain ⟨hdt, hds⟩ := List.forall_mem_cons.mp hd
    have hsub : (es ++ [t]).Sublist (es ++ t :: ts) := by simp
    have hes : (CompoundUnit.mk (es ++ [t])).Proper := h.sublist (by simp) hsub
    have hws : ∀ x ∈ es ++ [t], x.isWritable = true := fun x hx => hw x (hsub.subset hx)
    have hterm := unit?_term (hes.sublist (by simp) (List.sublist_append_right es [t])) hdt
      (hws t (by simp))
    have hjoint : (bin .unitProduct e (t.expr A)).unit? A = some ⟨es ++ [t]⟩ := by
      refine unit?_bin_eq_some_iff.mpr ⟨_, _, he, hterm, ?_, hes.isUnknown_eq_false,
        hes.isWritable hws⟩
      simp [jointUnit?, jointUnit, hes.adjoin_term hne, hes.isUnknown_eq_false]
    have hrest := ih hjoint (by simp) (by simpa using h) hds (by simpa using hw)
    simpa using hrest

theorem unit?_expr {u : CompoundUnit} (hu : u.Proper)
    (hd : ∀ t ∈ u.terms, A.Counts t.degree.natAbs) (hw : ∀ t ∈ u.terms, t.isWritable = true) :
    (u.expr A).unit? A = some u := by
  obtain ⟨terms⟩ := u
  obtain ⟨t, ts, rfl⟩ := List.exists_cons_of_ne_nil hu.ne_nil
  obtain ⟨hdt, hds⟩ := List.forall_mem_cons.mp hd
  have hterm := unit?_term (hu.sublist (List.cons_ne_nil t []) (by simp)) hdt (hw t (by simp))
  exact unit?_terms hterm (by simp) hu hds hw

theorem substitute_expr (s : Store ν) (u : CompoundUnit) : (u.expr A).substitute s = u.expr A := by
  have hterm (t : Term) : (t.expr A).substitute s = t.expr A := by
    unfold Term.expr
    split
    · rfl
    · cases t.degree <;> rfl
  have hterms (ts : List Term) (e : Expr ν) (he : e.substitute s = e) :
      (ts.foldl (fun e t => .bin .unitProduct e (t.expr A)) e).substitute s =
        ts.foldl (fun e t => .bin .unitProduct e (t.expr A)) e := by
    induction ts generalizing e with
    | nil => exact he
    | cons t ts ih => exact ih _ (by rw [substitute, he, hterm])
  unfold CompoundUnit.expr
  split
  · rfl
  · exact hterms _ _ (hterm _)

theorem isNumber_expr {u : CompoundUnit} (hu : u.terms ≠ []) : (u.expr A).isNumber = false := by
  have hphrase : Phrase ({} : Store ν) .unit _ (u.expr A) := .ofCompound (phrase_unit hu)
  have hnumber := hphrase.isNumber_eq_false
  rwa [substitute_expr] at hnumber

end Expr

namespace Session

variable (s : Session ν) {u : CompoundUnit} (hu : u.Proper)
  (hd : ∀ t ∈ u.terms, A.Counts t.degree.natAbs) (explicit : Bool)
  (hlimit : (u.display explicit).length ≤ s.config.maxLineLength)

include hu hd hlimit

/-- A displayed unit is a line of the language, and its expression is that of the unit. -/
theorem asked?_display : s.asked? A (u.display explicit) = some (none, u.expr A) := by
  have htext : (u.display explicit).toList =
      [' '].intercalate (u.terms.map fun t => t.text.toList) := by
    rw [hu.display_eq, String.toList_intercalate, List.map_map]
    rfl
  have hlexemes := Token.lexemes_tokenize A (Int.ofNat_le.mpr hlimit)
  rw [htext, Token.visible_terms hu.isMarker hd] at hlexemes
  have hphrase : Phrase s.store .unit (u.terms.flatMap (Term.tokens A)) (u.expr A) :=
    .ofCompound (phrase_unit hu.ne_nil)
  have hdisplayed : IsLine s.store (u.terms.flatMap (Term.tokens A) ++ [⟨.endOfLine, 0⟩])
      (u.expr A) := ⟨_, 0, rfl, .ofExpression (.ofUnit hphrase)⟩
  have hline : IsLine s.store (Token.tokenize A s.config.maxLineLength (u.display explicit))
      (u.expr A) := hdisplayed.of_lexemes (by rw [hlexemes, Token.lexemes_append]; rfl)
  have hadmits := (Phrase.ofUnit hphrase).valid.2 (by decide)
  rw [Expr.substitute_expr] at hadmits
  rw [s.asked?_of_isLine A hline, Expr.substitute_expr, question?_of_admits hadmits]

theorem execute_display_of_counts (hw : ∀ t ∈ u.terms, t.isWritable = true) :
    s.execute A (u.display explicit) = (.ok (.unit u (u.display explicit)), s) := by
  have hnumber : (u.expr A).isNumber = false := Expr.isNumber_expr hu.ne_nil
  have hinfer : (Expr.inferUnit A (u.expr A)).perform {} = (.ok u, {}) :=
    Stage.yield?_eq_some_iff.mp (Expr.unit?_eq_some_iff.mp (Expr.unit?_expr hu hd hw)).1
  have hformat : s.format A (.unit u) = .ok (u.display explicit) := by
    have hdisplay : u.display s.config.debugUnits = u.display explicit := by
      rw [hu.display_eq, hu.display_eq]
    refine formatUnit_eq_ok_iff.mpr ⟨hu.isWritable hw, ?_⟩
    rw [hdisplay, if_neg (hu.display_ne_empty explicit)]
  rw [s.execute_of_asked? A (s.asked?_display hu hd explicit hlimit), Expr.result?_perform, hinfer]
  simp only [hu.isUnknown_eq_false, hnumber, Bool.not_false, Bool.false_eq_true, if_false, if_true]
  rw [hformat]
  rfl

end Session

theorem Arithmetic.counts_machine {n : Nat} (hn : 0 < n) (hle : n ≤ 2 ^ 53) :
    Arithmetic.machine.Counts n := by
  obtain ⟨x, hread, hwhole, hneg⟩ := Number.exists_ofDecimal?_whole hn hle
  have hcount : Arithmetic.machine.count n = x := by
    show (Number.ofDecimal? { digits := n }).getD 0 = x
    rw [hread, Option.getD_some]
  exact ⟨by rw [hcount]; exact hread, by rw [hcount]; exact hwhole, by rw [hcount]; exact hneg⟩

/-- Machine numbers count far enough for degrees of at most 53 bits. -/
theorem Session.execute_display (s : Session Float) {u : CompoundUnit} (hu : u.Proper)
    (hdegree : ∀ t ∈ u.terms, t.degree.natAbs ≤ 2 ^ 53) (explicit : Bool)
    (hlimit : (u.display explicit).length ≤ s.config.maxLineLength) :
    s.execute .machine (u.display explicit) = (.ok (.unit u (u.display explicit)), s) := by
  have hcounts : ∀ t ∈ u.terms, Arithmetic.machine.Counts t.degree.natAbs := fun t ht =>
    Arithmetic.counts_machine (Int.natAbs_pos.mpr (hu.degree t ht)) (hdegree t ht)
  have hwritable : ∀ t ∈ u.terms, t.isWritable = true := fun t ht =>
    Term.isWritable_of_lt_pow (k := 16) (by decide) (Nat.lt_of_le_of_lt (hdegree t ht) (by decide))
  exact s.execute_display_of_counts hu hcounts explicit hlimit hwritable

theorem Session.execute_display_of_widest_degree :
    let s := (({} : Session Float).execute .machine "x = 5 m").2
    let u : CompoundUnit := ⟨[⟨.kilogram, 1⟩, ⟨.meter, 9007199254740992⟩, ⟨.second, -2⟩]⟩
    s.store.names = ["x"] ∧ s.execute .machine "kg m^9007199254740992 s^-2" =
      (.ok (.unit u "kg m^9007199254740992 s^-2"), s) := by
  intro s u
  have hproper : u.Proper := ⟨by decide, by decide, by decide, by decide⟩
  exact ⟨by decide +kernel,
    s.execute_display hproper (by decide) true (by show _ ≤ s.config.maxLineLength; decide +kernel)⟩

end Quantities
