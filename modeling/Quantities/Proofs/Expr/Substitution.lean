import Quantities.Store
import Quantities.Proofs.Entries

namespace Quantities

variable {ν : Type}

namespace Expr

/-- The steps from a node to its parts. None leads to the target of an assignment. -/
inductive Side where
  | operand | left | right | value
  deriving DecidableEq, Repr

def part? : Expr ν → Side → Option (Expr ν)
  | neg e, .operand => some e
  | bin _ l _, .left => some l
  | bin _ _ r, .right => some r
  | assign _ v, .value => some v
  | _, _ => none

def at? (e : Expr ν) : List Side → Option (Expr ν)
  | [] => some e
  | d :: p => (e.part? d).bind (·.at? p)

def IsValue : Expr ν → Prop
  | const _ | unit _ => True
  | _ => False

variable {s : Store ν} {e n m : Expr ν}

theorem IsValue.eq_of_at? (h : n.IsValue) {p : List Side} (hp : n.at? p = some m) : m = n := by
  cases p with
  | nil => exact (Option.some.inj hp).symm
  | cons d p =>
    obtain ⟨k, hk, -⟩ := Option.bind_eq_some_iff.mp hp
    cases n with
    | const | unit => cases hk
    | _ => cases h

theorem part?_substitute {d : Side} (h : e.part? d = some n) :
    (e.substitute s).part? d = some (n.substitute s) := by
  cases e <;> cases d <;> cases h <;> rfl

theorem exists_of_part?_substitute {d : Side} (h : (e.substitute s).part? d = some m) :
    (∃ n, e.part? d = some n ∧ m = n.substitute s) ∨ m.IsValue := by
  cases e with
  | var name =>
    rw [substitute] at h
    split at h
    next b _ =>
      refine .inr ?_
      cases b <;> cases d <;> cases h <;> trivial
    next => cases h
  | neg | bin | assign => cases d <;> cases h <;> exact .inl ⟨_, rfl, rfl⟩
  | _ => cases h

theorem at?_substitute {p : List Side} (h : e.at? p = some n) :
    (e.substitute s).at? p = some (n.substitute s) := by
  induction p generalizing e with
  | nil =>
    cases h
    rfl
  | cons d p ih =>
    obtain ⟨k, hk, hn⟩ := Option.bind_eq_some_iff.mp h
    rw [at?, part?_substitute hk]
    exact ih hn

theorem exists_of_at?_substitute {p : List Side} (h : (e.substitute s).at? p = some m) :
    (∃ n, e.at? p = some n ∧ m = n.substitute s) ∨ m.IsValue := by
  induction p generalizing e with
  | nil => exact .inl ⟨e, rfl, (Option.some.inj h).symm⟩
  | cons d p ih =>
    obtain ⟨k, hk, hm⟩ := Option.bind_eq_some_iff.mp h
    rcases exists_of_part?_substitute hk with ⟨n, hn, rfl⟩ | hvalue
    · refine (ih hm).imp_left ?_
      rintro ⟨o, ho, rfl⟩
      exact ⟨o, by rw [at?, hn]; exact ho, rfl⟩
    · rw [hvalue.eq_of_at? hm]
      exact .inr hvalue

theorem substitute_eq_var_iff {name : String} :
    n.substitute s = var name ↔ n = var name ∧ s.get? name = none := by
  cases n with
  | var name' =>
    rw [substitute]
    split
    next b hb =>
      constructor
      · cases b <;> nofun
      · rintro ⟨⟨⟩, hnone⟩
        rw [hb] at hnone
        cases hnone
    next hb =>
      constructor
      · rintro ⟨⟩
        exact ⟨rfl, hb⟩
      · exact And.left
  | _ => simp [substitute]

theorem substitute_eq_assign_iff {t v : Expr ν} :
    n.substitute s = assign t v ↔ ∃ w, n = assign t w ∧ v = w.substitute s := by
  cases n with
  | var name =>
    rw [substitute]
    split
    next b _ => cases b <;> simp [Binding.expr, quantity]
    next => simp
  | assign t' w =>
    rw [substitute]
    constructor
    · rintro ⟨⟩
      exact ⟨w, rfl, rfl⟩
    · rintro ⟨_, ⟨⟩, rfl⟩
      rfl
  | _ => simp [substitute]

theorem at?_substitute_eq_var_iff {p : List Side} {name : String} :
    (e.substitute s).at? p = some (var name) ↔ e.at? p = some (var name) ∧ s.get? name = none := by
  constructor
  · intro h
    rcases exists_of_at?_substitute h with ⟨n, hn, hvar⟩ | hvalue
    · obtain ⟨rfl, hnone⟩ := substitute_eq_var_iff.mp hvar.symm
      exact ⟨hn, hnone⟩
    · cases hvalue
  · rintro ⟨h, hnone⟩
    rw [at?_substitute h, substitute_eq_var_iff.mpr ⟨rfl, hnone⟩]

theorem at?_substitute_eq_assign_iff {p : List Side} {t v : Expr ν} :
    (e.substitute s).at? p = some (assign t v) ↔
      ∃ w, e.at? p = some (assign t w) ∧ v = w.substitute s := by
  constructor
  · intro h
    rcases exists_of_at?_substitute h with ⟨n, hn, hassign⟩ | hvalue
    · obtain ⟨w, rfl, hw⟩ := substitute_eq_assign_iff.mp hassign.symm
      exact ⟨w, hn, hw⟩
    · cases hvalue
  · rintro ⟨w, h, rfl⟩
    rw [at?_substitute h, substitute]

theorem substitute_expr_self (b : Binding ν) : b.expr.substitute s = b.expr := by
  cases b <;> rfl

theorem substitute_substitute (s : Store ν) (e : Expr ν) :
    (e.substitute s).substitute s = e.substitute s := by
  induction e with
  | var name =>
    rw [substitute]
    split
    next b _ => exact substitute_expr_self b
    next h => rw [substitute, h]
  | neg e ih => rw [substitute, substitute, ih]
  | bin op l r ihl ihr => rw [substitute, substitute, ihl, ihr]
  | assign t v _ ih => rw [substitute, substitute, ih]
  | _ => rfl

end Expr

namespace Store

/-- Sets variables one after the other. What cannot be stored is refused and changes nothing. -/
def insertAll (s : Store ν) (settings : List (String × Expr ν)) : Store ν :=
  settings.foldl (fun s a => (s.insertExpr a.1 a.2).toOption.getD s) s

/-- The settings that are not refused. -/
def accepted (settings : List (String × Expr ν)) : List (String × Binding ν) :=
  settings.filterMap fun a => (Binding.ofExpr? a.2).map (a.1, ·)

theorem entries_insertAll (s : Store ν) (settings : List (String × Expr ν)) :
    (s.insertAll settings).entries = Entries.replay (accepted settings) s.entries := by
  induction settings generalizing s with
  | nil => rfl
  | cons a settings ih =>
    obtain ⟨name, e⟩ := a
    cases hb : Binding.ofExpr? e with
    | none =>
      have hrefused : (s.insertExpr name e).toOption.getD s = s := by
        rw [insertExpr, hb]
        rfl
      rw [insertAll, List.foldl_cons, hrefused, accepted, List.filterMap_cons, hb]
      exact ih s
    | some b =>
      have hset : (s.insertExpr name e).toOption.getD s = s.insert name b := by
        rw [insertExpr, hb]
        rfl
      rw [insertAll, List.foldl_cons, hset, accepted, List.filterMap_cons, hb]
      exact ih (s.insert name b)

theorem get?_insertAll (settings : List (String × Expr ν)) (name : String) :
    (empty.insertAll settings).get? name = (accepted settings).reverse.lookup name := by
  rw [get?, entries_insertAll]
  exact Entries.lookup_replay name _

end Store

namespace Expr

/-- Once the values of variables are put in, the variables that stand outside the targets of
assignments are those that stood there without a value, the targets are what they were, and putting
the values in again changes nothing. The variables may have been set in any way, with settings among
them that were refused. -/
theorem at?_substitute_insertAll (settings : List (String × Expr ν)) (e : Expr ν) :
    let s := Store.empty.insertAll settings
    (∀ name, s.get? name = (Store.accepted settings).reverse.lookup name) ∧
      (∀ p name, (e.substitute s).at? p = some (var name) ↔
        e.at? p = some (var name) ∧ s.get? name = none) ∧
      (∀ p target value, (e.substitute s).at? p = some (assign target value) ↔
        ∃ v, e.at? p = some (assign target v) ∧ value = v.substitute s) ∧
      (e.substitute s).substitute s = e.substitute s :=
  ⟨Store.get?_insertAll settings, fun _ _ => at?_substitute_eq_var_iff,
    fun _ _ _ => at?_substitute_eq_assign_iff, substitute_substitute _ e⟩

end Expr

end Quantities
