import Quantities.Proofs.Grammar.Bounds

namespace Quantities

namespace Bounds

section Extract

variable {α : Type} {l : List α} {start stop : Nat}

theorem extract_eq_cons {x : α} (hx : l[start]? = some x) (h : start < stop) :
    l.extract start stop = x :: l.extract (start + 1) stop := by
  obtain ⟨hi, rfl⟩ := List.getElem?_eq_some_iff.mp hx
  rw [List.extract_eq_take_drop, List.extract_eq_take_drop, List.drop_eq_getElem_cons hi,
    show stop - start = stop - (start + 1) + 1 by omega, List.take_succ_cons]

theorem extract_append_extract {i : Nat} (hstart : start ≤ i) (hstop : i ≤ stop) :
    l.extract start i ++ l.extract i stop = l.extract start stop := by
  simp only [List.extract_eq_take_drop]
  rw [show stop - start = (i - start) + (stop - i) by omega, List.take_add, List.drop_drop,
    show start + (i - start) = i by omega]

theorem length_extract (h : stop ≤ l.length) : (l.extract start stop).length = stop - start := by
  rw [List.extract_eq_take_drop, List.length_take, List.length_drop]
  omega

theorem isEmpty_extract (hle : start ≤ stop) (h : stop ≤ l.length) :
    (l.extract start stop).isEmpty = decide (start = stop) := by
  rw [Bool.eq_iff_iff, List.isEmpty_iff_length_eq_zero, length_extract h, decide_eq_true_eq]
  omega

theorem getLast?_extract (hle : start ≤ stop) (h : stop ≤ l.length) :
    (l.extract start stop).getLast? = if stop = start then none else l[stop - 1]? := by
  split
  next heq => simp [heq]
  next hne =>
    have hx : l[stop - 1]? = some l[stop - 1] := List.getElem?_eq_getElem (by omega)
    rw [← extract_append_extract (show start ≤ stop - 1 by omega) (Nat.sub_le _ _),
      extract_eq_cons hx (by omega), show stop - 1 + 1 = stop by omega]
    simp [hx]

theorem dropLast_extract (h : stop ≤ l.length) :
    (l.extract start stop).dropLast = l.extract start (stop - 1) := by
  rw [List.dropLast_eq_take, length_extract h, List.extract_eq_take_drop, List.take_take,
    List.extract_eq_take_drop, Nat.min_eq_left (Nat.sub_le _ _), Nat.sub_right_comm]

end Extract

variable {ν : Type} {ref : Reference} {w : List (Token ν)} {b : Bounds}

/-- The bounds of a window that lies in a row. -/
structure Fits (b : Bounds) (w : List (Token ν)) : Prop where
  start_le_stop : b.start ≤ b.stop
  stop_le_length : b.stop ≤ w.length

theorem Inside.fits {v : Bounds} (h : v.Inside b) (hb : b.Fits w) : v.Fits w :=
  ⟨h.start_le_stop, Nat.le_trans h.stop_le_stop hb.stop_le_length⟩

theorem Fits.trim (h : b.Fits w) : (b.trim w).Fits w := by
  obtain ⟨hstart, hstop⟩ := h
  unfold Bounds.trim
  split
  next hend => exact ⟨by simp only; omega, by simp only; omega⟩
  next => exact ⟨hstart, hstop⟩

theorem dropEnd_row (h : b.Fits w) : dropEnd (b.row w) = (b.trim w).row w := by
  have hle := h.start_le_stop
  unfold dropEnd trim
  rw [row, getLast?_extract hle h.stop_le_length]
  by_cases heq : b.stop = b.start
  · simp [heq, row]
  · simp only [heq, if_false, show b.start < b.stop by omega, true_and]
    cases w[b.stop - 1]? with
    | none => simp [row]
    | some t =>
      simp only [Option.any_some]
      split
      · exact dropLast_extract h.stop_le_length
      · rfl

theorem previous?_start : b.previous? w b.start = none := if_pos rfl

theorem lexeme?_stop : b.lexeme? w b.stop = none := if_neg (Nat.lt_irrefl _)

section Index

variable {i : Nat} {t : Token ν}

theorem previous?_succ (ht : w[i]? = some t) (h : b.start ≤ i) :
    b.previous? w (i + 1) = some t.lexeme := by
  rw [previous?, if_neg (by omega), Nat.add_sub_cancel, ht, Option.map_some]

theorem lexeme?_of_lt (ht : w[i]? = some t) (h : i < b.stop) :
    b.lexeme? w i = some t.lexeme := by
  rw [lexeme?, if_pos h, ht, Option.map_some]

theorem row_eq_append_cons (ht : w[i]? = some t) (hstart : b.start ≤ i) (hstop : i < b.stop) :
    b.row w = w.extract b.start i ++ t :: w.extract (i + 1) b.stop := by
  rw [row, ← extract_append_extract hstart (Nat.le_of_lt hstop), extract_eq_cons ht hstop]

end Index

theorem Fits.map_getLast?_extract (h : b.Fits w) {i : Nat} (hstart : b.start ≤ i)
    (hstop : i ≤ b.stop) : (w.extract b.start i).getLast?.map Token.lexeme = b.previous? w i := by
  rw [getLast?_extract hstart (Nat.le_trans hstop h.stop_le_length), previous?]
  split <;> rfl

theorem Fits.map_head?_extract (h : b.Fits w) {i : Nat} (hstop : i ≤ b.stop) :
    (w.extract i b.stop).head?.map Token.lexeme = b.lexeme? w i := by
  have hlength := h.stop_le_length
  rcases Nat.eq_or_lt_of_le hstop with rfl | hlt
  · simp [lexeme?]
  · have ht : w[i]? = some w[i] := List.getElem?_eq_getElem (by omega)
    rw [extract_eq_cons ht hlt, lexeme?_of_lt ht hlt]
    rfl

theorem Fits.rulesBetween_extract (h : b.Fits w) {n i : Nat} (hstart : b.start ≤ i)
    (hstop : i + n ≤ b.stop) :
    rulesBetween ref (b.previous? w i) (w.extract i (i + n)) (b.lexeme? w (i + n)) =
      (List.range' i n).map (b.ruleAt ref w) := by
  have hlength := h.stop_le_length
  -- The tokens are taken off the front, so that each one becomes what stands before the next.
  induction n generalizing i with
  | zero => simp [rulesBetween]
  | succ n ih =>
    have ht : w[i]? = some w[i] := List.getElem?_eq_getElem (by omega)
    have hnext : ((w.extract (i + 1) (i + 1 + n)).head?.map Token.lexeme).or
        (b.lexeme? w (i + 1 + n)) = b.lexeme? w (i + 1) := by
      cases n with
      | zero => simp
      | succ n =>
        have hu : w[i + 1]? = some w[i + 1] := List.getElem?_eq_getElem (by omega)
        rw [extract_eq_cons hu (by omega), lexeme?_of_lt hu (by omega)]
        rfl
    rw [← Nat.add_assoc, Nat.add_right_comm, extract_eq_cons ht (by omega), rulesBetween, hnext,
      List.range'_succ, List.map_cons, ruleAt_eq ht, ← previous?_succ ht hstart,
      ih (by omega) (by omega)]

theorem Fits.exists_ruleAt_eq (h : b.Fits w) {i k : Nat} (hstart : b.start ≤ i) (hle : i ≤ k)
    (hstop : k ≤ b.stop) {q : Rule}
    (hq : q ∈ rulesBetween ref (b.previous? w i) (w.extract i k) (b.lexeme? w k)) :
    ∃ j, i ≤ j ∧ j < k ∧ b.ruleAt ref w j = q := by
  obtain ⟨n, rfl⟩ := Nat.exists_eq_add_of_le hle
  rw [h.rulesBetween_extract hstart hstop] at hq
  obtain ⟨j, hj, rfl⟩ := List.mem_map.mp hq
  rw [List.mem_range'_1] at hj
  exact ⟨j, hj.1, hj.2, rfl⟩

theorem Fits.find?_row (h : b.Fits w) (hlt : b.start < b.stop) {t : Token ν}
    (ht : w[b.pivot ref w]? = some t) :
    Pivot.find? ref none (b.row w) = some ⟨w.extract b.start (b.pivot ref w), t,
      w.extract (b.pivot ref w + 1) b.stop, b.ruleAt ref w (b.pivot ref w)⟩ := by
  obtain ⟨hstart, hstop, hbefore, hbehind⟩ := leads_pivot ref w hlt
  generalize b.pivot ref w = i at *
  rw [row_eq_append_cons ht hstart hstop]
  refine Pivot.find?_append_cons ?_ (fun q hq => ?_) fun q hq => ?_
  · rw [Option.or_none, h.map_getLast?_extract hstart (Nat.le_of_lt hstop),
      h.map_head?_extract hstop, ← ruleAt_eq ht]
  · rw [← previous?_start (w := w), ← lexeme?_of_lt ht hstop] at hq
    obtain ⟨j, hj, hji, rfl⟩ :=
      h.exists_ruleAt_eq (Nat.le_refl _) hstart (Nat.le_of_lt hstop) hq
    exact hbefore j hj hji
  · rw [← previous?_succ ht hstart, ← lexeme?_stop (w := w)] at hq
    obtain ⟨j, hij, hj, rfl⟩ :=
      h.exists_ruleAt_eq (Nat.le_succ_of_le hstart) hstop (Nat.le_refl _) hq
    exact hbehind j hij hj

/-- The parts of a window as rows of tokens. -/
def Split.onRow (w : List (Token ν)) : Split ν → Quantities.Split ν
  | leaf e => .leaf e
  | negation o => .negation (o.row w)
  | assignment t v => .assignment (t.row w) (v.row w)
  | joint op l r => .joint op (l.row w) (r.row w)

theorem Fits.onRow_splitAt (h : b.Fits w) {i : Nat} {t : Token ν} (ht : w[i]? = some t)
    (hstart : b.start ≤ i) (hstop : i < b.stop) :
    (b.splitAt ref w i t).onRow w =
      (Pivot.mk (w.extract b.start i) t (w.extract (i + 1) b.stop) (b.ruleAt ref w i)).split := by
  have hlength := h.stop_le_length
  have hbefore : (w.extract b.start i).isEmpty = decide (i = b.start) := by
    rw [isEmpty_extract hstart (by omega), decide_eq_decide, eq_comm]
  have hafter : (w.extract (i + 1) b.stop).isEmpty = decide (i = b.stop - 1) := by
    rw [isEmpty_extract hstop hlength, decide_eq_decide]
    omega
  have hoperator := Lexeme.isOperator_eq ref t.lexeme (b.previous? w i) (b.lexeme? w (i + 1))
  rw [← ruleAt_eq ht] at hoperator
  have hquantity : (b.ruleAt ref w i).kind = .quantity → i = b.start := eq_start_of_quantity ht
  unfold splitAt Pivot.split
  rw [row_eq_append_cons ht hstart hstop]
  generalize b.ruleAt ref w i = r at *
  cases r with
  | noSplit => rfl
  | negate | degreeMinus =>
    simp only [Rule.kind, hbefore, decide_eq_true_eq]
    split
    next heq => simp [Split.onRow, row, heq]
    next => rfl
  | leadingNumber =>
    obtain rfl := hquantity rfl
    have hleft : w.extract b.start (b.start + 1) = [t] := by
      rw [extract_eq_cons ht (Nat.lt_succ_self _)]
      simp
    simp [Rule.kind, hoperator, Rule.operator?, Split.onRow, row, hleft]
  | adjacentUnit =>
    have hright := extract_eq_cons ht hstop
    simp [Rule.kind, hoperator, Rule.operator?, Split.onRow, row, hright]
  | _ =>
    simp only [Rule.kind, hoperator, Rule.operator?, hbefore, hafter]
    by_cases hend : i = b.start ∨ i = b.stop - 1
    · simp [hend, Split.onRow]
    · simp [hend, Split.onRow, row]

theorem Fits.onRow_split (h : b.Fits w) :
    (b.split ref w).onRow w = Quantities.Split.ofWindow ref (b.row w) := by
  have hfits := h.trim
  unfold split Quantities.Split.ofWindow
  rw [dropEnd_row h]
  generalize b.trim w = v at *
  have hlength := hfits.stop_le_length
  have hrow : (v.row w).length = v.size := length_extract hlength
  simp only
  split
  next hsize =>
    rw [hsize, List.length_eq_zero_iff] at hrow
    rw [hrow]
    rfl
  next hsize =>
    unfold size at hsize
    have ht : w[v.start]? = some w[v.start] := List.getElem?_eq_getElem (by omega)
    have hone : v.row w = [w[v.start]] := by
      rw [row, extract_eq_cons ht (by omega), show v.stop = v.start + 1 by omega]
      simp
    rw [hone, ht]
    rfl
  next n hsize =>
    have hlt : v.start < v.stop := by
      unfold size at hsize
      omega
    obtain ⟨hstart, hstop, -, -⟩ := leads_pivot ref w hlt
    have ht : w[v.pivot ref w]? = some w[v.pivot ref w] := List.getElem?_eq_getElem (by omega)
    rw [ht, Option.elim_some, hfits.onRow_splitAt ht hstart hstop]
    match v.row w, show 2 ≤ (v.row w).length by omega, hfits.find?_row hlt ht with
    | _ :: _ :: _, _, hfind => simp only [hfind]

end Bounds

namespace Expr

variable {ν : Type}

theorem ofBounds_eq_ofTokens {ref : Reference} {w : List (Token ν)} {b : Bounds} (h : b.Fits w) :
    ofBounds ref w b = ofTokens ref (b.row w) := by
  induction hn : b.size using Nat.strongRecOn generalizing b with
  | ind n ih =>
    have hpart : ∀ v ∈ (b.split ref w).parts, ofBounds ref w v = ofTokens ref (v.row w) := by
      intro v hv
      have hinside := Bounds.inside_of_mem_parts hv
      exact ih v.size (hn ▸ hinside.size_lt) (hinside.fits h) rfl
    rw [ofTokens_eq_expr, ← h.onRow_split, ofBounds]
    split
    next e hs =>
      rw [hs]
      rfl
    next o hs =>
      rw [hs, Bounds.Split.onRow, Split.expr, hpart o (by simp [hs, Bounds.Split.parts])]
    next t v hs =>
      rw [hs, Bounds.Split.onRow, Split.expr, hpart t (by simp [hs, Bounds.Split.parts]),
        hpart v (by simp [hs, Bounds.Split.parts])]
    next l r hs =>
      rw [hs, Bounds.Split.onRow, Split.expr, hpart l (by simp [hs, Bounds.Split.parts]),
        hpart r (by simp [hs, Bounds.Split.parts])]

theorem ofBounds_length (ref : Reference) (w : List (Token ν)) :
    ofBounds ref w ⟨0, w.length⟩ = ofTokens ref w := by
  rw [ofBounds_eq_ofTokens ⟨Nat.zero_le _, Nat.le_refl _⟩, Bounds.row, List.extract_eq_take_drop,
    List.drop_zero, Nat.sub_zero, List.take_length]

/-- A window makes up what its tokens make up on their own, whatever stands around it, and every
window that is parsed on the way lies in it and is shorter. -/
theorem ofBounds_local (ref : Reference) (w : List (Token ν)) (b : Bounds)
    (hstart : b.start ≤ b.stop) (hstop : b.stop ≤ w.length) :
    let own := w.extract b.start b.stop
    ofBounds ref w b = ofTokens ref own ∧ ofBounds ref w b = ofBounds ref own ⟨0, own.length⟩ ∧
      ∀ v, b.Calls ref w v → b.start ≤ v.start ∧ v.start ≤ v.stop ∧ v.stop ≤ b.stop ∧
        v.stop - v.start < b.stop - b.start := by
  intro own
  have hown : ofBounds ref w b = ofTokens ref own := ofBounds_eq_ofTokens ⟨hstart, hstop⟩
  refine ⟨hown, hown.trans (ofBounds_length ref own).symm, fun v hv => ?_⟩
  obtain ⟨hfrom, hordered, hto, hshorter⟩ := hv.inside
  exact ⟨hfrom, hordered, hto, hshorter⟩

/-- Behind `^` a minus would belong to a degree, but not in a window that it starts, and a window
that ends in two end marks leaves one to its part. -/
theorem ofBounds_local_of_minus :
    let w : List (Token Nat) := [⟨.number 2, 0⟩, ⟨.operator .caret (some "^"), 1⟩,
      ⟨.operator .sub (some "-"), 2⟩, ⟨.number 5, 3⟩, ⟨.unit .kilometer, 4⟩, ⟨.endOfLine, 6⟩,
      ⟨.endOfLine, 6⟩, ⟨.operator .div (some "/"), 6⟩, ⟨.unit .second, 7⟩]
    let b : Bounds := ⟨2, 7⟩
    let e : Expr Nat := .neg (.bin .quantity (.const 5) (.unit (.ofBase .kilometer)))
    b.start ≤ b.stop ∧ b.stop ≤ w.length ∧ ofBounds .none w b = e ∧
      ofTokens .none (w.extract 2 7) = e ∧ b.Calls .none w ⟨4, 5⟩ ∧ 5 - 4 < b.stop - b.start := by
  intro w b e
  obtain ⟨htokens, -, hcalls⟩ := ofBounds_local .none w b (by decide) (by decide)
  have htree : ofTokens .none (w.extract 2 7) = e := by decide +kernel
  have hcall : b.Calls .none w ⟨4, 5⟩ :=
    .tail (.single (b := ⟨3, 6⟩) (by decide +kernel)) (by decide +kernel)
  exact ⟨by decide, by decide, htokens.trans htree, htree, hcall, (hcalls _ hcall).2.2.2⟩

end Expr

end Quantities
