import Mathlib.Logic.Relation
import Quantities.Proofs.Grammar.Splitting

namespace Quantities

/-- The window of a row from the index `start` up to, but without, the index `stop`. -/
structure Bounds where
  start : Nat
  stop : Nat
  deriving DecidableEq, Repr

namespace Bounds

/-- How a window is taken apart, by the bounds of its parts. -/
inductive Split (ν : Type) where
  | leaf (e : Expr ν)
  | negation (operand : Bounds)
  | assignment (target value : Bounds)
  | joint (op : Kind) (left right : Bounds)

def Split.parts {ν : Type} : Split ν → List Bounds
  | leaf _ => []
  | negation o => [o]
  | assignment t v => [t, v]
  | joint _ l r => [l, r]

def size (b : Bounds) : Nat := b.stop - b.start

/-- A shorter window within another one. -/
structure Inside (v b : Bounds) : Prop where
  start_le_start : b.start ≤ v.start
  start_le_stop : v.start ≤ v.stop
  stop_le_stop : v.stop ≤ b.stop
  size_lt : v.size < b.size

theorem Inside.trans {u v b : Bounds} (hu : u.Inside v) (hv : v.Inside b) : u.Inside b :=
  ⟨Nat.le_trans hv.1 hu.1, hu.2, Nat.le_trans hu.3 hv.3, Nat.lt_trans hu.4 hv.4⟩

theorem inside_of_stop_lt {b : Bounds} {i : Nat} (hstart : b.start ≤ i) (hstop : i < b.stop) :
    Inside ⟨b.start, i⟩ b :=
  ⟨Nat.le_refl _, hstart, Nat.le_of_lt hstop, by simp only [size]; omega⟩

theorem inside_of_start_lt {b : Bounds} {i : Nat} (hstart : b.start < i) (hstop : i ≤ b.stop) :
    Inside ⟨i, b.stop⟩ b :=
  ⟨Nat.le_of_lt hstart, hstop, Nat.le_refl _, by simp only [size]; omega⟩

variable {ν : Type} (ref : Reference) (w : List (Token ν)) (b : Bounds)

def row : List (Token ν) := w.extract b.start b.stop

/-- A window without the end mark that it ends in. -/
def trim : Bounds :=
  if b.start < b.stop ∧ (w[b.stop - 1]?).any (fun t => t.lexeme.isEnd) then ⟨b.start, b.stop - 1⟩
  else b

def previous? (i : Nat) : Option (Lexeme ν) :=
  if i = b.start then none else (w[i - 1]?).map Token.lexeme

/-- What stands at an index, unless the window ends before it. -/
def lexeme? (i : Nat) : Option (Lexeme ν) :=
  if i < b.stop then (w[i]?).map Token.lexeme else none

/-- The rule for the token at an index. -/
def ruleAt (i : Nat) : Rule :=
  (w[i]?).elim .noSplit fun t => t.lexeme.rule ref (b.previous? w i) (b.lexeme? w (i + 1))

/-- The index of the pivot. The window is gone through from its start, and a token that displaces
the one found so far takes its place. -/
def pivot : Nat :=
  (List.range' (b.start + 1) (b.stop - (b.start + 1))).foldl
    (fun best i => if (b.ruleAt ref w i).displaces (b.ruleAt ref w best) then i else best) b.start

/-- The parts into which the token at an index splits a window. -/
def splitAt (i : Nat) (t : Token ν) : Split ν :=
  match (b.ruleAt ref w i).kind with
  | .invalid => .leaf (invalidWindow (b.row w) .senseless)
  | .negation =>
    if i = b.start then .negation ⟨b.start + 1, b.stop⟩
    else .leaf (invalidWindow (b.row w) (.unexpectedMinus t.pos))
  | kind =>
    if t.lexeme.isOperator ∧ (i = b.start ∨ i = b.stop - 1) then
      .leaf (invalidWindow (b.row w) (.missingOperand t.lexeme.spelling))
    else if kind = .assignment then .assignment ⟨b.start, i⟩ ⟨i + 1, b.stop⟩
    else .joint kind ⟨b.start, if kind = .quantity then i + 1 else i⟩
      ⟨if kind = .unitProduct then i else i + 1, b.stop⟩

/-- A window of one token is a leaf, a longer one is split at its pivot. There is no token at an
index beyond the row. -/
def split : Split ν :=
  let v := b.trim w
  match v.size with
  | 0 => .leaf .empty
  | 1 => .leaf ((w[v.start]?).elim .empty Expr.ofToken)
  | _ + 2 =>
    let i := v.pivot ref w
    (w[i]?).elim (.leaf .empty) (v.splitAt ref w i)

/-- An index whose rule displaces all before it and is displaced by none behind it. -/
structure Leads (rule : Nat → Rule) (start i stop : Nat) : Prop where
  start_le : start ≤ i
  lt_stop : i < stop
  before : ∀ j, start ≤ j → j < i → (rule i).displaces (rule j) = true
  behind : ∀ j, i < j → j < stop → (rule j).displaces (rule i) = false

theorem leads_single (rule : Nat → Rule) (start : Nat) : Leads rule start start (start + 1) :=
  ⟨Nat.le_refl _, Nat.lt_succ_self _, fun j _ _ => by omega, fun j _ _ => by omega⟩

theorem Leads.next {rule : Nat → Rule} {start i stop : Nat} (h : Leads rule start i stop) :
    Leads rule start (if (rule stop).displaces (rule i) then stop else i) (stop + 1) := by
  have hstart := h.start_le
  have hstop := h.lt_stop
  split
  next hd =>
    refine ⟨by omega, by omega, fun j hj hlt => ?_, fun j hj hlt => by omega⟩
    -- No token so far binds more loosely than the leading one, on either side of it.
    have hle : (rule j).looseness ≤ (rule i).looseness := by
      rcases Nat.lt_trichotomy j i with hji | rfl | hij
      · exact Rule.looseness_le_of_displaces (h.before j hj hji)
      · exact Nat.le_refl _
      · exact Rule.looseness_le_of_not_displaces (h.behind j hij hlt)
    exact Rule.displaces_of_le hle hd
  next hd =>
    refine ⟨hstart, by omega, h.before, fun j hj hlt => ?_⟩
    rcases Nat.lt_succ_iff_lt_or_eq.mp hlt with hlt | rfl
    · exact h.behind j hj hlt
    · exact Bool.eq_false_iff.mpr hd

theorem leads_foldl (rule : Nat → Rule) (start n : Nat) :
    Leads rule start
      ((List.range' (start + 1) n).foldl
        (fun best i => if (rule i).displaces (rule best) then i else best) start)
      (start + 1 + n) := by
  induction n with
  | zero => exact leads_single rule start
  | succ n ih =>
    rw [List.range'_concat, List.foldl_append]
    simpa [Nat.add_assoc] using ih.next

variable {b} in
theorem leads_pivot (h : b.start < b.stop) :
    Leads (b.ruleAt ref w) b.start (b.pivot ref w) b.stop := by
  have := leads_foldl (b.ruleAt ref w) b.start (b.stop - (b.start + 1))
  rwa [show b.start + 1 + (b.stop - (b.start + 1)) = b.stop by omega] at this

section Pivot

variable {ref w b} {i : Nat} {t : Token ν}

theorem ruleAt_eq (ht : w[i]? = some t) :
    b.ruleAt ref w i = t.lexeme.rule ref (b.previous? w i) (b.lexeme? w (i + 1)) := by
  rw [ruleAt, ht, Option.elim_some]

theorem eq_start_of_quantity (ht : w[i]? = some t)
    (hk : (b.ruleAt ref w i).kind = .quantity) : i = b.start := by
  have hr := Rule.eq_leadingNumber_of_kind hk
  rw [ruleAt_eq ht] at hr
  have hprevious := Lexeme.previous_eq_none_of_rule_leadingNumber hr
  have hi : i < w.length := (List.getElem?_eq_some_iff.mp ht).1
  unfold previous? at hprevious
  split at hprevious
  next heq => exact heq
  next =>
    simp only [Option.map_eq_none_iff, List.getElem?_eq_none_iff] at hprevious
    omega

theorem ne_start_of_unitProduct (ht : w[i]? = some t)
    (hk : (b.ruleAt ref w i).kind = .unitProduct) : i ≠ b.start := by
  rintro rfl
  have hr := Rule.eq_adjacentUnit_of_kind hk
  rw [ruleAt_eq ht, previous?, if_pos rfl] at hr
  exact Lexeme.rule_none_ne_adjacentUnit ref _ _ hr

theorem inside_of_mem_parts_splitAt (ht : w[i]? = some t) (hsize : 2 ≤ b.size)
    (hstart : b.start ≤ i) (hstop : i < b.stop) {v : Bounds}
    (hv : v ∈ (b.splitAt ref w i t).parts) : v.Inside b := by
  -- The pivot stays in a part under two kinds. A part is shorter even so, for the one stands at the
  -- start of the window and the other does not.
  have hquantity : (b.ruleAt ref w i).kind = .quantity → i = b.start := eq_start_of_quantity ht
  have hproduct : (b.ruleAt ref w i).kind = .unitProduct → i ≠ b.start := ne_start_of_unitProduct ht
  unfold size at hsize
  unfold splitAt at hv
  split at hv
  next => cases hv
  next =>
    split at hv
    next =>
      obtain rfl := List.mem_singleton.mp hv
      exact inside_of_start_lt (by omega) (by omega)
    next => cases hv
  next =>
    split at hv
    next => cases hv
    next =>
      split at hv
      next =>
        obtain rfl | rfl : v = ⟨b.start, i⟩ ∨ v = ⟨i + 1, b.stop⟩ := by
          simpa [Split.parts] using hv
        · exact inside_of_stop_lt hstart hstop
        · exact inside_of_start_lt (by omega) hstop
      next =>
        simp only [Split.parts, List.mem_cons, List.not_mem_nil, or_false] at hv
        rcases hv with rfl | rfl
        · split
          next hk =>
            have := hquantity hk
            exact inside_of_stop_lt (by omega) (by omega)
          next => exact inside_of_stop_lt hstart hstop
        · split
          next hk =>
            have := hproduct hk
            exact inside_of_start_lt (by omega) (by omega)
          next => exact inside_of_start_lt (by omega) hstop

end Pivot

theorem trim_le : b.start = (b.trim w).start ∧ (b.trim w).stop ≤ b.stop := by
  unfold trim
  split
  · exact ⟨rfl, Nat.sub_le _ _⟩
  · exact ⟨rfl, Nat.le_refl _⟩

variable {ref w b} in
theorem inside_of_mem_parts {v : Bounds} (hv : v ∈ (b.split ref w).parts) : v.Inside b := by
  obtain ⟨hstart, hstop⟩ := trim_le w b
  suffices h : v.Inside (b.trim w) by
    have hlt := h.size_lt
    unfold size at hlt
    exact ⟨hstart ▸ h.1, h.2, Nat.le_trans h.3 hstop, by unfold size; omega⟩
  unfold split at hv
  simp only at hv
  split at hv
  next => cases hv
  next => cases hv
  next n hsize =>
    cases ht : w[(b.trim w).pivot ref w]? with
    | none =>
      rw [ht] at hv
      cases hv
    | some t =>
      rw [ht] at hv
      have hlt : (b.trim w).start < (b.trim w).stop := by
        unfold size at hsize
        omega
      have hleads := leads_pivot ref w hlt
      exact inside_of_mem_parts_splitAt ht (by omega) hleads.start_le hleads.lt_stop hv

end Bounds

/-- The expression that a window makes up. -/
def Expr.ofBounds {ν : Type} (ref : Reference) (w : List (Token ν)) (b : Bounds) : Expr ν :=
  match _h : b.split ref w with
  | .leaf e => e
  | .negation o => .neg (Expr.ofBounds ref w o)
  | .assignment t v => .assign (Expr.ofBounds ref w t) (Expr.ofBounds ref w v)
  | .joint op l r => .bin op (Expr.ofBounds ref w l) (Expr.ofBounds ref w r)
termination_by b.size
decreasing_by
  all_goals
    refine (Bounds.inside_of_mem_parts (?_ : _ ∈ (b.split ref w).parts)).size_lt
    simp [_h, Bounds.Split.parts]

/-- The windows that are parsed on the way when a window is parsed. -/
def Bounds.Calls {ν : Type} (ref : Reference) (w : List (Token ν)) : Bounds → Bounds → Prop :=
  Relation.TransGen fun b v => v ∈ (b.split ref w).parts

theorem Bounds.Calls.inside {ν : Type} {ref : Reference} {w : List (Token ν)} {b v : Bounds}
    (h : b.Calls ref w v) : v.Inside b := by
  induction h with
  | single hv => exact inside_of_mem_parts hv
  | tail _ hv ih => exact (inside_of_mem_parts hv).trans ih

end Quantities
