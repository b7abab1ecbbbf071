import Quantities.Expr.Evaluate
import Quantities.Expr.Parse
import Quantities.Store
import Quantities.Proofs.Stage

namespace Quantities

theorem Kind.isNumber_of_leadsUnit {k : Kind} (h : k.leadsUnit = true) : k.isNumber = true := by
  cases k <;> first | rfl | cases h

namespace Expr

variable {ν : Type}

def Valid (e : Expr ν) : Prop := e.objection? = .ok none

theorem valid_neg_iff {e : Expr ν} : (neg e).Valid ↔ e.Valid ∧ e.kind.isNumber = true := by
  unfold Valid
  rw [objection?]
  cases h : e.objection? with
  | error f => simp [bind, Except.bind]
  | ok d =>
    cases d with
    | some d => simp [bind, Except.bind, pure, Except.pure]
    | none => cases hk : e.kind.isNumber <;> simp [bind, Except.bind, pure, Except.pure]

theorem valid_assign_iff {t v : Expr ν} : (assign t v).Valid ↔
    v.Valid ∧ (∃ name, t = var name) ∧ (v.kind.isNumber || v.kind.isUnit) = true := by
  unfold Valid
  rw [objection?]
  cases h : v.objection? with
  | error f => simp [bind, Except.bind]
  | ok d =>
    cases d with
    | some d => simp [bind, Except.bind, pure, Except.pure]
    | none =>
      cases t <;> cases hk : (v.kind.isNumber || v.kind.isUnit) <;>
        simp [bind, Except.bind, pure, Except.pure, assignedObjection?, hk]

theorem valid_bin_iff {op : Kind} {l r : Expr ν} (hop : op.isBinary = true) :
    (bin op l r).Valid ↔ l.Valid ∧ r.Valid ∧ op.admits l.kind r.kind = true := by
  have hleaf : op.isLeaf = false := by cases op <;> first | rfl | cases hop
  unfold Valid
  rw [objection?, hleaf, hop]
  cases hl : l.objection? with
  | error f => simp [bind, Except.bind]
  | ok d =>
    cases d with
    | some d => simp [bind, Except.bind, pure, Except.pure]
    | none =>
      cases hr : r.objection? with
      | error f => simp [bind, Except.bind]
      | ok d =>
        cases d with
        | some d => simp [bind, Except.bind, pure, Except.pure]
        | none =>
          cases ha : op.admits l.kind r.kind <;>
            simp [bind, Except.bind, pure, Except.pure, operandObjection?, ha]

theorem not_valid_invalid (reason : Option SyntaxError) : ¬ (invalid reason : Expr ν).Valid := by
  simp [Valid, objection?, pure, Except.pure]

theorem kind_ne_invalid_of_valid {e : Expr ν} (h : e.Valid) : e.kind ≠ .invalid := by
  intro hk
  cases e with
  | invalid reason => exact not_valid_invalid reason h
  | bin op l r =>
    obtain rfl : op = .invalid := hk
    simp [Valid, objection?, Kind.isLeaf, Kind.isBinary, throw, throwThe, MonadExceptOf.throw,
      bind, Except.bind] at h
  | _ => cases hk

/-- Every two expressions are joined by an operator that takes two. -/
def Joined : Expr ν → Prop
  | neg e => e.Joined
  | bin op l r => op.isBinary = true ∧ l.Joined ∧ r.Joined
  | assign t v => t.Joined ∧ v.Joined
  | _ => True

theorem joined_substitute {e : Expr ν} (h : e.Joined) (s : Store ν) :
    (e.substitute s).Joined := by
  induction e with
  | var name =>
    rw [substitute]
    split
    next b _ => cases b <;> simp [Binding.expr, quantity, Joined, Kind.isBinary]
    next => trivial
  | neg e ih => exact ih h
  | bin op l r ihl ihr => exact ⟨h.1, ihl h.2.1, ihr h.2.2⟩
  | assign t v _ ihv => exact ⟨h.1, ihv h.2⟩
  | _ => trivial

theorem joined_ofToken (t : Token ν) : (ofToken t).Joined := by
  unfold ofToken
  split <;> trivial

end Expr

/-- A window is joined by a binary operator or else is joined already. -/
def Split.Joined {ν : Type} : Split ν → Prop
  | .leaf e => e.Joined
  | .joint op _ _ => op.isBinary = true
  | _ => True

theorem Pivot.joined_split {ν : Type} (p : Pivot ν) : p.split.Joined := by
  obtain ⟨b, t, a, r⟩ := p
  cases r with
  | noSplit => exact trivial
  | leadingNumber => exact rfl
  | adjacentUnit => exact rfl
  | _ =>
    simp only [Pivot.split]
    split <;> first | exact trivial | exact rfl

theorem Split.joined_ofWindow {ν : Type} (ref : Reference) (w : List (Token ν)) :
    (Split.ofWindow ref w).Joined := by
  unfold Split.ofWindow
  split
  · exact trivial
  · exact Expr.joined_ofToken _
  · split
    next p _ => exact p.joined_split
    next => exact trivial

namespace Expr

variable {ν : Type}

theorem joined_ofTokens (ref : Reference) (w : List (Token ν)) : (ofTokens ref w).Joined := by
  have hsplit := Split.joined_ofWindow ref w
  rw [ofTokens]
  split
  next e h => simpa [h, Split.Joined] using hsplit
  next o h => exact joined_ofTokens ref o
  next t v h => exact ⟨joined_ofTokens ref t, joined_ofTokens ref v⟩
  next op l r h =>
    have hop : op.isBinary = true := by simpa [h, Split.Joined] using hsplit
    exact ⟨hop, joined_ofTokens ref l, joined_ofTokens ref r⟩
termination_by w.length
decreasing_by
  all_goals
    refine Split.length_lt_of_mem_parts ref ?_
    simp [*, Split.parts]

theorem exists_objection?_of_joined {e : Expr ν} (h : e.Joined) : ∃ d, e.objection? = .ok d := by
  induction e with
  | neg e ih =>
    obtain ⟨d, hd⟩ := ih h
    rw [objection?, hd]
    cases d with
    | some d => exact ⟨_, rfl⟩
    | none => cases hk : e.kind.isNumber <;> exact ⟨_, rfl⟩
  | assign t v _ ihv =>
    obtain ⟨d, hd⟩ := ihv h.2
    rw [objection?, hd]
    cases d <;> exact ⟨_, rfl⟩
  | bin op l r ihl ihr =>
    obtain ⟨hop, hl, hr⟩ := h
    obtain ⟨d, hd⟩ := ihl hl
    obtain ⟨c, hc⟩ := ihr hr
    have hleaf : op.isLeaf = false := by cases op <;> first | rfl | cases hop
    rw [objection?, hleaf, hop, hd, hc]
    cases d <;> cases c <;> exact ⟨_, rfl⟩
  | _ => exact ⟨_, rfl⟩

theorem checkValid_perform (e : Expr ν) (r : Report) : e.checkValid.perform r =
    if r.isSet then (.ok false, r) else match e.objection? with
      | .ok none => (.ok true, r)
      | .ok (some d) => (.ok false, r.add d)
      | .error f => (.error f, r) := by
  unfold checkValid
  rw [Stage.perform_bind, Stage.perform_failed]
  cases r.isSet with
  | true => rfl
  | false =>
    simp only [Bool.false_eq_true, if_false, Stage.perform_bind, Stage.perform_liftExcept]
    cases e.objection? with
    | error f => rfl
    | ok d => cases d <;> rfl

theorem checkValid_eq_true_iff {e : Expr ν} : (e.checkValid.perform {}).1 = .ok true ↔ e.Valid := by
  rw [checkValid_perform]
  unfold Valid
  cases e.objection? with
  | error f => simp [Report.isSet]
  | ok d => cases d <;> simp [Report.isSet]

end Expr

end Quantities
