import Quantities.Proofs.Grammar.Splitting

namespace Quantities

/-- The operator that is written for a kind of node. -/
def Kind.operator? : Kind → Option Operator
  | assignment => some .equals
  | convert => some .convert
  | add => some .add
  | negation | sub => some .sub
  | mul => some .mul
  | div | unitQuotient => some .div
  | power => some .caret
  | _ => none

variable {ν : Type} {ref : Reference}

theorem isPrefix_dropEnd (w : List (Token ν)) : dropEnd w <+: w := by
  unfold dropEnd
  split
  · split
    · exact List.dropLast_prefix w
    · exact List.prefix_refl w
  · exact List.prefix_refl w

namespace Split

/-- How a window can be taken apart. -/
inductive Cuts : List (Token ν) → Split ν → Prop
  | nothing : Cuts [] (.leaf .empty)
  | token (t : Token ν) : Cuts [t] (.leaf (Expr.ofToken t))
  | refused (w : List (Token ν)) (reason : SyntaxError) : Cuts w (.leaf (invalidWindow w reason))
  | minus (c : Option String) (p : Nat) (o : List (Token ν)) :
      Cuts (⟨.operator .sub c, p⟩ :: o) (.negation o)
  | equals (t : List (Token ν)) (c : Option String) (p : Nat) (v : List (Token ν)) :
      Cuts (t ++ ⟨.operator .equals c, p⟩ :: v) (.assignment t v)
  | between {op : Operator} {kind : Kind} (h : kind.operator? = some op) (l : List (Token ν))
      (c : Option String) (p : Nat) (r : List (Token ν)) :
      Cuts (l ++ ⟨.operator op c, p⟩ :: r) (.joint kind l r)
  | adjacent {kind : Kind} (h : kind.operator? = none) (l r : List (Token ν)) :
      Cuts (l ++ r) (.joint kind l r)

theorem Cuts.isInfix {w v : List (Token ν)} {s : Split ν} (h : Cuts w s) (hv : v ∈ s.parts) :
    v <:+: w := by
  cases h with
  | nothing | token | refused => cases hv
  | minus c p o =>
    obtain rfl := List.mem_singleton.mp hv
    exact (List.suffix_cons _ _).isInfix
  | equals l c p r | between _ l c p r =>
    obtain rfl | rfl : v = l ∨ v = r := by simpa [Split.parts] using hv
    · exact (List.prefix_append _ _).isInfix
    · exact ((List.suffix_cons _ _).trans (List.suffix_append _ _)).isInfix
  | adjacent _ l r =>
    obtain rfl | rfl : v = l ∨ v = r := by simpa [Split.parts] using hv
    · exact (List.prefix_append _ _).isInfix
    · exact (List.suffix_append _ _).isInfix

end Split

open Split

theorem Pivot.cuts_split {w : List (Token ν)} {p : Pivot ν} (h : Pivot.find? ref none w = some p) :
    Cuts w p.split := by
  have hrule := Pivot.rule_of_find? ref h
  obtain rfl := Pivot.before_append_of_find? ref h
  obtain ⟨b, t, a, r⟩ := p
  simp only at hrule
  have operator {op : Operator} (hop : r.operator? = some op) :
      ∃ c pos, t = ⟨.operator op c, pos⟩ := by
    rw [hrule] at hop
    obtain ⟨c, hc⟩ := Lexeme.exists_operator_of_rule hop
    exact ⟨c, t.pos, by rw [← hc]⟩
  cases r with
  | noSplit => exact .refused _ _
  | negate | degreeMinus =>
    obtain ⟨c, pos, rfl⟩ := operator rfl
    simp only [Pivot.split]
    split
    next hb =>
      obtain rfl := List.isEmpty_iff.mp hb
      exact .minus c pos a
    next => exact .refused _ _
  | leadingNumber =>
    have hb := Lexeme.previous_eq_none_of_rule_leadingNumber hrule.symm
    obtain rfl : b = [] := by simpa using hb
    exact .adjacent rfl [t] a
  | adjacentUnit => exact .adjacent rfl b (t :: a)
  | assign =>
    obtain ⟨c, pos, rfl⟩ := operator rfl
    simp only [Pivot.split]
    split
    · exact .refused _ _
    · exact .equals b c pos a
  | convert | add | sub | mul | div | unitStroke | power =>
    obtain ⟨c, pos, rfl⟩ := operator rfl
    rw [Pivot.split_of_isInfix rfl]
    split
    · exact .refused _ _
    · exact .between rfl b c pos a

namespace Split

variable (ref) (w : List (Token ν))

theorem cuts_ofWindow : Cuts (dropEnd w) (Split.ofWindow ref w) := by
  unfold Split.ofWindow
  split
  next h =>
    rw [h]
    exact .nothing
  next t h =>
    rw [h]
    exact .token t
  next hne _ =>
    split
    next p hp => exact Pivot.cuts_split hp
    next hp => exact absurd (Pivot.eq_nil_of_find?_eq_none hp) hne

variable {ref w} in
theorem isInfix_of_mem_parts {v : List (Token ν)} (hv : v ∈ (Split.ofWindow ref w).parts) :
    v <:+: w :=
  ((cuts_ofWindow ref w).isInfix hv).trans (isPrefix_dropEnd w).isInfix

theorem induction {motive : List (Token ν) → Prop}
    (step : ∀ w, (∀ v ∈ (Split.ofWindow ref w).parts, motive v) → motive w)
    (w : List (Token ν)) : motive w :=
  step w fun v _ => induction step v
termination_by w.length
decreasing_by
  exact Split.length_lt_of_mem_parts ref ‹_›

end Split

/-- What holds of everything that is a leaf of a row holds of the expression of the row, if it holds
of an expression whenever it holds of its parts. -/
theorem Expr.ofTokens_of_leaves {P : Expr ν → Prop} {w : List (Token ν)}
    (leaf : ∀ v e, v <:+: w → Split.ofWindow ref v = .leaf e → P e) (neg : ∀ e, P e → P (.neg e))
    (assign : ∀ t v, P t → P v → P (.assign t v))
    (bin : ∀ op l r, P l → P r → P (.bin op l r)) : P (ofTokens ref w) := by
  induction w using Split.induction ref with
  | step w ih =>
    have hpart : ∀ v ∈ (Split.ofWindow ref w).parts, P (ofTokens ref v) := fun v hv =>
      ih v hv fun u e hu => leaf u e (hu.trans (Split.isInfix_of_mem_parts hv))
    rw [ofTokens_eq_expr]
    cases hs : Split.ofWindow ref w with
    | leaf e => exact leaf w e (List.infix_refl w) hs
    | negation o => exact neg _ (hpart o (by simp [hs, Split.parts]))
    | assignment t v =>
      exact assign _ _ (hpart t (by simp [hs, Split.parts])) (hpart v (by simp [hs, Split.parts]))
    | joint op l r =>
      exact bin _ _ _ (hpart l (by simp [hs, Split.parts])) (hpart r (by simp [hs, Split.parts]))

end Quantities
