import Quantities.Proofs.Grammar.Level
import Quantities.Expr.Parse

namespace Quantities

variable {ν : Type}

theorem dropEnd_eq_self {w : List (Token ν)} (h : ∀ t ∈ w, t.lexeme.isEnd = false) :
    dropEnd w = w := by
  unfold dropEnd
  split
  next t ht => simp [h t (List.mem_of_getLast? ht)]
  next => rfl

theorem dropEnd_append_end {w : List (Token ν)} {pos : Nat} :
    dropEnd (w ++ [⟨.endOfLine, pos⟩]) = w := by
  simp [dropEnd, Lexeme.isEnd]

def Split.expr (ref : Reference) : Split ν → Expr ν
  | leaf e => e
  | negation o => .neg (Expr.ofTokens ref o)
  | assignment t v => .assign (Expr.ofTokens ref t) (Expr.ofTokens ref v)
  | joint op l r => .bin op (Expr.ofTokens ref l) (Expr.ofTokens ref r)

namespace Expr

variable {ref : Reference}

theorem ofTokens_eq_expr (w : List (Token ν)) :
    ofTokens ref w = (Split.ofWindow ref w).expr ref := by
  rw [ofTokens]
  split <;> simp [*, Split.expr]

theorem ofTokens_append_end {w : List (Token ν)} {pos : Nat}
    (h : ∀ t ∈ w, t.lexeme.isEnd = false) :
    ofTokens ref (w ++ [⟨.endOfLine, pos⟩]) = ofTokens ref w := by
  rw [ofTokens_eq_expr, ofTokens_eq_expr, Split.ofWindow, Split.ofWindow, dropEnd_append_end,
    dropEnd_eq_self h]

theorem ofTokens_nil : ofTokens ref ([] : List (Token ν)) = .empty := by
  rw [ofTokens_eq_expr]
  rfl

theorem ofTokens_singleton {t : Token ν} (h : t.lexeme.isEnd = false) :
    ofTokens ref [t] = ofToken t := by
  have hd : dropEnd [t] = [t] := dropEnd_eq_self (by simpa using h)
  rw [ofTokens_eq_expr, Split.ofWindow, hd]
  rfl

theorem ofTokens_eq_of_find? {w : List (Token ν)} {p : Pivot ν}
    (h : ∀ t ∈ w, t.lexeme.isEnd = false) (hw : 2 ≤ w.length)
    (hp : Pivot.find? ref none w = some p) : ofTokens ref w = p.split.expr ref := by
  rw [ofTokens_eq_expr, Split.ofWindow, dropEnd_eq_self h]
  match w, hw with
  | _ :: _ :: _, _ => simp only [hp]

/-- A token that binds more loosely than all others splits the window. One that binds like those
before it does so too if it groups to the left, and like those behind it if it does not. -/
theorem ofTokens_append_cons {b a : List (Token ν)} {t : Token ν} {r : Rule} {j k : Nat}
    (h : ∀ x ∈ b ++ t :: a, x.lexeme.isEnd = false) (hba : b ≠ [] ∨ a ≠ [])
    (hr : t.lexeme.rule ref (b.getLast?.map Token.lexeme) (a.head?.map Token.lexeme) = r)
    (hb : ∀ q ∈ rulesBetween ref none b (some t.lexeme), q.looseness ≤ j)
    (hj : j < r.looseness ∨ j = r.looseness ∧ r.groupsLeft = true)
    (ha : ∀ q ∈ rulesBetween ref (some t.lexeme) a none, q.looseness ≤ k)
    (hk : k < r.looseness ∨ k = r.looseness ∧ r.groupsLeft = false) :
    ofTokens ref (b ++ t :: a) = (Pivot.mk b t a r).split.expr ref := by
  have hlen : 2 ≤ (b ++ t :: a).length := by
    have hpos : 0 < b.length ∨ 0 < a.length := by simpa [List.length_pos_iff] using hba
    simp only [List.length_append, List.length_cons]
    omega
  refine ofTokens_eq_of_find? h hlen (Pivot.find?_append_cons (by simpa using hr) ?_ ?_)
  · intro q hq
    have hle := hb q hq
    refine Rule.displaces_iff.mpr ?_
    rcases hj with hj | ⟨hj, hleft⟩
    · exact .inl (by omega)
    · rcases Nat.lt_or_eq_of_le (show q.looseness ≤ r.looseness by omega) with hlt | heq
      · exact .inl hlt
      · exact .inr ⟨heq, hleft⟩
  · intro q hq
    have hle := ha q hq
    apply Bool.eq_false_iff.mpr
    rw [Ne, Rule.displaces_iff]
    rintro (hlt | ⟨heq, hleft⟩)
    · omega
    · have hsame := Rule.groupsLeft_eq_of_looseness_eq heq
      rw [hleft] at hsame
      rcases hk with hk | ⟨_, hk⟩
      · omega
      · simp [hsame] at hk

end Expr

theorem Numeral.ofToken_eq {s : Store ν} {t : Token ν} {e : Expr ν} (h : Numeral s t.lexeme e) :
    Expr.ofTokens s.reference [t] = e := by
  obtain ⟨l, pos⟩ := t
  cases h <;> exact Expr.ofTokens_singleton rfl

theorem UnitWord.ofToken_eq {s : Store ν} {t : Token ν} {e : Expr ν} (h : UnitWord s t.lexeme e) :
    Expr.ofTokens s.reference [t] = e := by
  obtain ⟨l, pos⟩ := t
  cases h <;> exact Expr.ofTokens_singleton rfl

theorem Numeral.isEnd_eq_false {s : Store ν} {t : Lexeme ν} {e : Expr ν} (h : Numeral s t e) :
    t.isEnd = false := by
  cases h <;> rfl

namespace Phrase

variable {s : Store ν} {N : Nonterminal} {w : List (Token ν)} {e : Expr ν}

theorem forall_not_isEnd (h : Phrase s N w e) : ∀ t ∈ w, t.lexeme.isEnd = false :=
  fun t ht => (h.not_isEnd_of_mem t ht).1

theorem ofTokens_infix {v a : List (Token ν)} {l r : Expr ν} {op : Operator} {c : Option String}
    {pos : Nat} (rule : Rule) {kind : Kind} {k : Nat}
    (hl : Phrase s N v l) (hN : N ≠ .statement)
    (hne : a ≠ []) (hend : ∀ x ∈ a, x.lexeme.isEnd = false)
    (hrule : (Lexeme.operator op c : Lexeme ν).rule s.reference (v.getLast?.map Token.lexeme)
      (a.head?.map Token.lexeme) = rule)
    (hj : N.looseness < rule.looseness ∨ N.looseness = rule.looseness ∧ rule.groupsLeft = true)
    (ha : ∀ q ∈ rulesBetween s.reference (some (.operator op c)) a none, q.looseness ≤ k)
    (hk : k < rule.looseness)
    (hsplit : v ≠ [] → a ≠ [] →
      (Pivot.mk v ⟨.operator op c, pos⟩ a rule).split = .joint kind v a)
    (hvl : Expr.ofTokens s.reference v = l) (har : Expr.ofTokens s.reference a = r) :
    Expr.ofTokens s.reference (v ++ ⟨.operator op c, pos⟩ :: a) = .bin kind l r := by
  have hv := hl.ne_nil hN
  have hall : ∀ x ∈ v ++ (⟨.operator op c, pos⟩ : Token ν) :: a, x.lexeme.isEnd = false := by
    intro x hx
    rcases List.mem_append.mp hx with hx | hx
    · exact hl.forall_not_isEnd x hx
    · rcases List.mem_cons.mp hx with rfl | hx
      · rfl
      · exact hend x hx
  rw [Expr.ofTokens_append_cons hall (.inl hv) hrule
    (hl.looseness_le (Nat.le_refl _) Nonterminal.follows_none _) hj ha (.inl hk),
    hsplit hv hne, Split.expr, hvl, har]

theorem ofTokens_minus {a : List (Token ν)} {d : Expr ν} {c : Option String} {p : Nat}
    (hne : a ≠ []) (hend : ∀ x ∈ a, x.lexeme.isEnd = false)
    (ha : ∀ q ∈ rulesBetween s.reference (some (.operator .sub c)) a none, q.looseness ≤ 6)
    (had : Expr.ofTokens s.reference a = d) :
    Expr.ofTokens s.reference (⟨.operator .sub c, p⟩ :: a) = .neg d := by
  have hall : ∀ x ∈ [] ++ (⟨.operator .sub c, p⟩ : Token ν) :: a, x.lexeme.isEnd = false := by
    intro x hx
    rcases List.mem_cons.mp hx with rfl | hx
    · rfl
    · exact hend x hx
  have hread := Expr.ofTokens_append_cons (r := .negate) (j := 0) hall (.inr hne) rfl
    (by simp [rulesBetween]) (.inl (by decide)) ha (.inr ⟨rfl, rfl⟩)
  rw [List.nil_append] at hread
  rw [hread, ← had]
  rfl

theorem ofTokens_between {M : Nonterminal} {v a : List (Token ν)} {l r : Expr ν} {op : Operator}
    {c : Option String} {p : Nat} (rule : Rule) {kind : Kind}
    (hl : Phrase s N v l) (hr : Phrase s M a r) (hN : N ≠ .statement) (hM : M ≠ .statement)
    (hrule : (Lexeme.operator op c : Lexeme ν).rule s.reference (v.getLast?.map Token.lexeme)
      (a.head?.map Token.lexeme) = rule)
    (hj : N.looseness < rule.looseness ∨ N.looseness = rule.looseness ∧ rule.groupsLeft = true)
    (hop : op ≠ .caret) (h3 : 3 ≤ M.looseness) (hk : M.looseness < rule.looseness)
    (hsplit : v ≠ [] → a ≠ [] →
      (Pivot.mk v ⟨.operator op c, p⟩ a rule).split = .joint kind v a)
    (hvl : Expr.ofTokens s.reference v = l) (har : Expr.ofTokens s.reference a = r) :
    Expr.ofTokens s.reference (v ++ ⟨.operator op c, p⟩ :: a) = .bin kind l r :=
  ofTokens_infix rule hl hN (hr.ne_nil hM) hr.forall_not_isEnd hrule hj
    (hr.looseness_le (Nat.le_refl _) (Nonterminal.follows_operator hop h3 _) _) hk hsplit hvl har

theorem ofTokens_adjacent {v a : List (Token ν)} {l r : Expr ν} (hl : Phrase s .compound v l)
    (hr : Phrase s .power a r) (hvl : Expr.ofTokens s.reference v = l)
    (har : Expr.ofTokens s.reference a = r) :
    Expr.ofTokens s.reference (v ++ a) = .bin .unitProduct l r := by
  obtain ⟨t, ts, rfl, ht⟩ := hr.head (by decide)
  have hu : t.lexeme.isUnit s.reference = true := ht (by decide)
  obtain ⟨x, hx, _⟩ := hl.last (by decide)
  have hv := hl.ne_nil (by decide)
  have htail := hr.looseness_le (Nat.le_refl _) Nonterminal.follows_none none
  simp only [rulesBetween, List.mem_cons, forall_eq_or_imp] at htail
  have hall : ∀ y ∈ v ++ t :: ts, y.lexeme.isEnd = false :=
    fun y hy => (List.mem_append.mp hy).elim (hl.forall_not_isEnd y) (hr.forall_not_isEnd y)
  rw [Expr.ofTokens_append_cons (r := .adjacentUnit) hall (.inl hv)
    (by rw [hx]; exact Lexeme.rule_of_isUnit _ hu _ _)
    (hl.looseness_le (Nat.le_refl _) Nonterminal.follows_none _) (.inr ⟨rfl, rfl⟩)
    htail.2 (.inl (by decide))]
  simp [Pivot.split, Split.expr, hvl, har]

theorem ofTokens_quantity {t : Token ν} {a : List (Token ν)} {l r : Expr ν}
    (hl : Numeral s t.lexeme l) (hr : Phrase s .unit a r)
    (har : Expr.ofTokens s.reference a = r) :
    Expr.ofTokens s.reference (t :: a) = .bin .quantity l r := by
  have ha := hr.ne_nil (by decide)
  have hall : ∀ x ∈ [] ++ t :: a, x.lexeme.isEnd = false := by
    intro x hx
    rcases List.mem_cons.mp hx with rfl | hx
    · exact hl.isEnd_eq_false
    · exact hr.forall_not_isEnd x hx
  have hread := Expr.ofTokens_append_cons (r := .leadingNumber) (j := 0) hall (.inr ha)
    (hl.rule_none _) (by simp [rulesBetween]) (.inl (by decide))
    (hr.looseness_le (Nat.le_refl _) (Nonterminal.follows_of_isUnit rfl (by decide) _) _)
    (.inl (by decide))
  rw [List.nil_append] at hread
  rw [hread, ← har, ← hl.ofToken_eq]
  rfl

theorem ofTokens_assignment {name : String} {a : List (Token ν)} {r : Expr ν} {c : Option String}
    {p q : Nat} (hr : Phrase s .expression a r) (har : Expr.ofTokens s.reference a = r) :
    Expr.ofTokens s.reference (⟨.var name, p⟩ :: ⟨.operator .equals c, q⟩ :: a) =
      .assign (.var name) r := by
  have ha := hr.ne_nil (by decide)
  have hall : ∀ x ∈ [⟨.var name, p⟩] ++ (⟨.operator .equals c, q⟩ : Token ν) :: a,
      x.lexeme.isEnd = false := by
    intro x hx
    simp only [List.cons_append, List.nil_append, List.mem_cons] at hx
    rcases hx with rfl | rfl | hx
    · rfl
    · rfl
    · exact hr.forall_not_isEnd x hx
  have hread := Expr.ofTokens_append_cons (r := .assign) (j := 5) hall (.inl (by simp)) rfl
    (by simpa [rulesBetween] using Lexeme.looseness_rule_var_le _ _ _ _) (.inl (by decide))
    (hr.looseness_le (Nat.le_refl _) (Nonterminal.follows_operator (by decide) (by decide) _) _)
    (.inl (by decide))
  have hname : Expr.ofTokens s.reference [(⟨.var name, p⟩ : Token ν)] = .var name :=
    Expr.ofTokens_singleton rfl
  simp only [List.cons_append, List.nil_append] at hread
  rw [hread]
  simp [Pivot.split, Split.expr, ha, hname, har]

theorem ofTokens_eq (h : Phrase s N w e) : Expr.ofTokens s.reference w = e := by
  induction h with
  | word h => exact h.ofToken_eq
  | number h => exact h.ofToken_eq
  | raised hl hr ih =>
    refine ofTokens_infix .power hl (by decide) (by simp)
      (by simp [hr.isEnd_eq_false]) rfl (.inr ⟨rfl, rfl⟩) (hr.looseness_le _ _ 0) (by decide) ?_
      ih hr.ofToken_eq
    intro hv ha
    simp [Pivot.split, hv]
  | @raisedMinus v t l r c p m q hl hr ih =>
    have hneg := ofTokens_minus (c := m) (p := q) (by simp) (by simp [hr.isEnd_eq_false])
      (hr.looseness_le _ _ 6) hr.ofToken_eq
    refine ofTokens_infix .power (k := 1) hl (by decide) (by simp)
      (by simp [hr.isEnd_eq_false]) rfl (.inr ⟨rfl, rfl⟩) ?_ (by decide) ?_ ih hneg
    · simp only [rulesBetween, hr.rule_some, List.mem_cons, List.not_mem_nil, or_false,
        forall_eq_or_imp, forall_eq]
      exact ⟨Nat.le_refl _, Nat.zero_le _⟩
    · intro hv ha
      simp [Pivot.split, hv]
  | adjacent hl hr ihl ihr => exact ofTokens_adjacent hl hr ihl ihr
  | stroke hl hr ihl ihr =>
    obtain ⟨t, ts, rfl, ht⟩ := hr.head (by decide)
    have hu : t.lexeme.isUnit s.reference = true := ht (by decide)
    refine ofTokens_between .unitStroke hl hr (by decide) (by decide)
      (by simp [Lexeme.rule, hu]) (.inr ⟨rfl, rfl⟩) (by decide) (by decide) (by decide) ?_ ihl ihr
    intro hv ha
    simp [Pivot.split, hv]
  | minus h ih =>
    exact ofTokens_minus (h.ne_nil (by decide)) h.forall_not_isEnd
      (h.looseness_le (Nat.le_refl _) (Nonterminal.follows_operator (by decide) (by decide) _) _) ih
  | quantity hl hr ih => exact ofTokens_quantity hl hr ih
  | times hl hr ihl ihr =>
    refine ofTokens_between .mul hl hr (by decide) (by decide) rfl (.inr ⟨rfl, rfl⟩)
      (by decide) (by decide) (by decide) ?_ ihl ihr
    intro hv ha
    simp [Pivot.split, hv, ha]
  | divided hl hr ihl ihr =>
    obtain ⟨t, ts, rfl, ht⟩ := hr.head (by decide)
    have hu : t.lexeme.isUnit s.reference = false := ht (by decide)
    refine ofTokens_between .div hl hr (by decide) (by decide)
      (by simp [Lexeme.rule, hu]) (.inr ⟨rfl, rfl⟩) (by decide) (by decide) (by decide) ?_ ihl ihr
    intro hv ha
    simp [Pivot.split, hv]
  | plus hl hr ihl ihr =>
    refine ofTokens_between .add hl hr (by decide) (by decide) rfl (.inr ⟨rfl, rfl⟩)
      (by decide) (by decide) (by decide) ?_ ihl ihr
    intro hv ha
    simp [Pivot.split, hv, ha]
  | less hl hr ihl ihr =>
    obtain ⟨x, hx, hop⟩ := hl.last (by decide)
    refine ofTokens_between .sub hl hr (by decide) (by decide)
      (by rw [hx]; exact Lexeme.rule_sub_of_not_isOperator _ hop _ _) (.inr ⟨rfl, rfl⟩)
      (by decide) (by decide) (by decide) ?_ ihl ihr
    intro hv ha
    simp [Pivot.split, hv, ha]
  | converted hl hr ihl ihr =>
    refine ofTokens_between .convert hl hr (by decide) (by decide) rfl (.inl (by decide))
      (by decide) (by decide) (by decide) ?_ ihl ihr
    intro hv ha
    simp [Pivot.split, hv, ha]
  | ofPower h ih | ofCompound h ih | ofSigned h ih | ofProduct h ih | ofUnit h ih | ofSum h ih
  | ofExpression h ih => exact ih
  | blank => exact Expr.ofTokens_nil
  | quit | help | named => exact Expr.ofTokens_singleton rfl
  | assignment h ih => exact ofTokens_assignment h ih

end Phrase

end Quantities
