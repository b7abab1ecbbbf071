import Quantities.Proofs.Grammar.Looseness

namespace Quantities

namespace Nonterminal

def looseness : Nonterminal → Nat
  | power => 2
  | compound => 3
  | unit => 4
  | signed => 6
  | product => 7
  | sum => 8
  | expression => 9
  | statement => 10

def isUnit : Nonterminal → Bool
  | power | compound | unit => true
  | _ => false

end Nonterminal

/-- An operator behind which a minus sign negates a number. -/
def Lexeme.separates {ν : Type} : Lexeme ν → Bool
  | operator op _ => op ≠ .caret
  | _ => false

variable {ν : Type} {s : Store ν}

/-- Whether phrases of a sort keep their level behind a token: a unit may stand behind anything,
since its first token then binds as an adjacent unit, and all else behind a separating operator. -/
def Nonterminal.Follows (N : Nonterminal) (k : Nat) (previous : Option (Lexeme ν)) : Prop :=
  ∀ l ∈ previous, 3 ≤ k ∧ (N.isUnit = true ∨ l.separates = true)

namespace Nonterminal

variable {N : Nonterminal} {k : Nat}

theorem follows_none : N.Follows k (none : Option (Lexeme ν)) := by
  simp [Follows]

theorem follows_of_isUnit (hN : N.isUnit = true) (hk : 3 ≤ k) (previous : Option (Lexeme ν)) :
    N.Follows k previous :=
  fun _ _ => ⟨hk, .inl hN⟩

theorem follows_operator {op : Operator} (hop : op ≠ .caret) (hk : 3 ≤ k) (c : Option String) :
    N.Follows k (some (.operator op c : Lexeme ν)) := by
  rintro _ ⟨⟩
  exact ⟨hk, .inr (by simpa [Lexeme.separates] using hop)⟩

end Nonterminal

namespace Numeral

variable {t : Lexeme ν} {e : Expr ν}

theorem rule_none (h : Numeral s t e) (next : Option (Lexeme ν)) :
    t.rule s.reference none next = .leadingNumber := by
  have hn := h.isNumber_eq_true
  cases h <;> simp_all [Lexeme.rule]

theorem rule_some (h : Numeral s t e) (previous : Lexeme ν) (next : Option (Lexeme ν)) :
    t.rule s.reference (some previous) next = .noSplit := by
  have hu := h.isUnit_eq_false
  cases h <;> simp_all [Lexeme.rule]

theorem looseness_le {t : Token ν} (h : Numeral s t.lexeme e) (previous : Lexeme ν)
    (next : Option (Lexeme ν)) (k : Nat) :
    ∀ q ∈ rulesBetween s.reference (some previous) [t] next, q.looseness ≤ k := by
  simp [rulesBetween, h.rule_some, Rule.looseness]

end Numeral

namespace UnitWord

variable {t : Lexeme ν} {e : Expr ν}

theorem rule_none (h : UnitWord s t e) (next : Option (Lexeme ν)) :
    t.rule s.reference none next = .noSplit := by
  have hn := h.isNumber_eq_false
  cases h <;> simp_all [Lexeme.rule]

theorem rule_some (h : UnitWord s t e) (previous : Lexeme ν) (next : Option (Lexeme ν)) :
    t.rule s.reference (some previous) next = .adjacentUnit := by
  have hu := h.isUnit_eq_true
  cases h <;> simp_all [Lexeme.rule]

end UnitWord

namespace Lexeme

variable (ref : Reference)

@[simp] theorem isEnd_operator (op : Operator) (c : Option String) :
    (operator op c : Lexeme ν).isEnd = false := rfl

theorem rule_of_isUnit {t : Lexeme ν} (h : t.isUnit ref = true) (previous : Lexeme ν)
    (next : Option (Lexeme ν)) : t.rule ref (some previous) next = .adjacentUnit := by
  cases t <;> simp_all [rule, isUnit]

theorem rule_sub_of_separates {previous : Option (Lexeme ν)}
    (h : ∀ l ∈ previous, l.separates = true) (c : Option String) (next : Option (Lexeme ν)) :
    (operator .sub c : Lexeme ν).rule ref previous next = .negate := by
  cases previous with
  | none => rfl
  | some l =>
    have hl := h l rfl
    cases l with
    | operator op d =>
      cases op with
      | caret => simp [separates] at hl
      | _ => rfl
    | _ => simp [separates] at hl

theorem rule_sub_of_not_isOperator {l : Lexeme ν} (h : l.isOperator = false) (c : Option String)
    (next : Option (Lexeme ν)) :
    (operator .sub c : Lexeme ν).rule ref (some l) next = .sub := by
  cases l with
  | operator op d => simp [isOperator] at h
  | _ => rfl

theorem looseness_rule_var_le (name : String) (previous next : Option (Lexeme ν)) :
    ((var name : Lexeme ν).rule ref previous next).looseness ≤ 5 := by
  unfold rule
  cases previous <;> simp only <;> split <;> decide

theorem looseness_rule_sub_le (c : Option String) (previous next : Option (Lexeme ν)) :
    ((operator .sub c : Lexeme ν).rule ref previous next).looseness ≤ 8 := by
  unfold rule
  simp only
  split
  · decide
  · split <;> decide
  · decide

theorem looseness_rule_div_le (c : Option String) (previous next : Option (Lexeme ν)) :
    ((operator .div c : Lexeme ν).rule ref previous next).looseness ≤ 7 := by
  unfold rule
  simp only
  split <;> decide

end Lexeme

namespace Phrase

variable {N : Nonterminal} {w : List (Token ν)} {e : Expr ν}

/-- A phrase has a first token, which is a unit exactly in a phrase of that sort. -/
theorem head (h : Phrase s N w e) (hN : N ≠ .statement) :
    ∃ t ts, w = t :: ts ∧ (N ≠ .expression → t.lexeme.isUnit s.reference = N.isUnit) := by
  induction h with
  | word h => exact ⟨_, _, rfl, fun _ => h.isUnit_eq_true⟩
  | number h => exact ⟨_, _, rfl, fun _ => h.isUnit_eq_false⟩
  | quantity hl hr ih => exact ⟨_, _, rfl, fun _ => hl.isUnit_eq_false⟩
  | minus h ih => exact ⟨_, _, rfl, fun _ => rfl⟩
  | raised hl hr ih | raisedMinus hl hr ih =>
    obtain ⟨t, ts, rfl, ht⟩ := ih (by decide)
    exact ⟨t, _, rfl, ht⟩
  | adjacent hl hr ih _ | stroke hl hr ih _ | times hl hr ih _ | divided hl hr ih _
  | plus hl hr ih _ | less hl hr ih _ =>
    obtain ⟨t, ts, rfl, ht⟩ := ih (by decide)
    exact ⟨t, _, rfl, ht⟩
  | converted hl hr ih _ =>
    obtain ⟨t, ts, rfl, ht⟩ := ih (by decide)
    exact ⟨t, _, rfl, fun hne => absurd rfl hne⟩
  | ofPower h ih | ofCompound h ih | ofSigned h ih | ofProduct h ih =>
    obtain ⟨t, ts, rfl, ht⟩ := ih (by decide)
    exact ⟨t, ts, rfl, fun _ => ht (by decide)⟩
  | ofUnit h ih | ofSum h ih =>
    obtain ⟨t, ts, rfl, ht⟩ := ih (by decide)
    exact ⟨t, ts, rfl, fun hne => absurd rfl hne⟩
  | blank | quit | help | named | assignment | ofExpression => exact absurd rfl hN

theorem ne_nil (h : Phrase s N w e) (hN : N ≠ .statement) : w ≠ [] := by
  obtain ⟨t, ts, rfl, _⟩ := h.head hN
  simp

theorem last (h : Phrase s N w e) (hN : N ≠ .statement) :
    ∃ t, w.getLast? = some t ∧ t.lexeme.isOperator = false := by
  induction h with
  | word h => exact ⟨_, rfl, h.isOperator_eq_false⟩
  | number h => exact ⟨_, rfl, h.isOperator_eq_false⟩
  | raised hl hr => exact ⟨_, by simp, hr.isOperator_eq_false⟩
  | raisedMinus hl hr => exact ⟨_, by simp, hr.isOperator_eq_false⟩
  | quantity hl hr ih | minus hr ih =>
    obtain ⟨t, ht, hop⟩ := ih (by decide)
    exact ⟨t, by simp [List.getLast?_cons, ht], hop⟩
  | adjacent hl hr _ ih | stroke hl hr _ ih | times hl hr _ ih | divided hl hr _ ih
  | plus hl hr _ ih | less hl hr _ ih | converted hl hr _ ih =>
    obtain ⟨t, ht, hop⟩ := ih (by decide)
    exact ⟨t, by simp [List.getLast?_append, List.getLast?_cons, ht], hop⟩
  | ofPower h ih | ofCompound h ih | ofSigned h ih | ofProduct h ih | ofUnit h ih
  | ofSum h ih => exact ih (by decide)
  | blank | quit | help | named | assignment | ofExpression => exact absurd rfl hN

theorem not_isEnd_of_mem (h : Phrase s N w e) :
    ∀ t ∈ w, t.lexeme.isEnd = false ∧ t.lexeme.isInvalid = false := by
  have number {t : Lexeme ν} {d : Expr ν} (h : Numeral s t d) :
      t.isEnd = false ∧ t.isInvalid = false := by cases h <;> exact ⟨rfl, rfl⟩
  have unit {t : Lexeme ν} {d : Expr ν} (h : UnitWord s t d) :
      t.isEnd = false ∧ t.isInvalid = false := by cases h <;> exact ⟨rfl, rfl⟩
  have op (o : Operator) (c : Option String) :
      (Lexeme.operator o c : Lexeme ν).isEnd = false ∧
        (Lexeme.operator o c : Lexeme ν).isInvalid = false := ⟨rfl, rfl⟩
  induction h with
  | word h => simpa using unit h
  | number h => simpa using number h
  | raised hl hr ih => simpa [or_imp, forall_and, number hr, op] using ih
  | raisedMinus hl hr ih => simpa [or_imp, forall_and, number hr, op] using ih
  | quantity hl hr ih => simpa [or_imp, forall_and, number hl] using ih
  | minus h ih => simpa [or_imp, forall_and, op] using ih
  | adjacent hl hr ihl ihr => exact fun t ht => (List.mem_append.mp ht).elim (ihl t) (ihr t)
  | stroke hl hr ihl ihr | times hl hr ihl ihr | divided hl hr ihl ihr | plus hl hr ihl ihr
  | less hl hr ihl ihr | converted hl hr ihl ihr =>
    intro t ht
    rcases List.mem_append.mp ht with ht | ht
    · exact ihl t ht
    · rcases List.mem_cons.mp ht with rfl | ht
      · exact op _ _
      · exact ihr t ht
  | ofPower h ih | ofCompound h ih | ofSigned h ih | ofProduct h ih | ofUnit h ih | ofSum h ih
  | ofExpression h ih => exact ih
  | blank => simp
  | quit | help | named => simp [Lexeme.isEnd, Lexeme.isInvalid]
  | assignment h ih => simpa [Lexeme.isEnd, Lexeme.isInvalid] using ih

/-- No token of a phrase binds more loosely than its sort. -/
theorem looseness_le (h : Phrase s N w e) {k : Nat} (hk : N.looseness ≤ k)
    {previous : Option (Lexeme ν)} (hp : N.Follows k previous) (next : Option (Lexeme ν)) :
    ∀ r ∈ rulesBetween s.reference previous w next, r.looseness ≤ k := by
  induction h generalizing k previous next with
  | word h =>
    simp only [rulesBetween, List.mem_singleton]
    rintro r rfl
    cases previous with
    | none => simp [h.rule_none, Rule.looseness]
    | some l => simpa [h.rule_some, Rule.looseness] using (hp l rfl).1
  | number h =>
    simp only [rulesBetween, List.mem_singleton]
    rintro r rfl
    cases previous with
    | none => simpa [h.rule_none] using Nat.le_trans (by decide) hk
    | some l => simp [h.rule_some, Rule.looseness]
  | raised hl hr ih =>
    exact looseness_le_append_cons _ (ih hk hp _) hk (hr.looseness_le _ _ _)
  | raisedMinus hl hr ih =>
    refine looseness_le_append_cons _ (ih hk hp _) hk ?_
    simp only [rulesBetween, hr.rule_some, List.mem_cons, List.not_mem_nil, or_false,
      forall_eq_or_imp, forall_eq]
    exact ⟨Nat.le_trans (show 1 ≤ 2 by omega) hk, Nat.zero_le _⟩
  | adjacent hl hr ihl ihr =>
    intro r h
    rw [rulesBetween_append] at h
    rcases List.mem_append.mp h with h | h
    · exact ihl hk hp _ r h
    · exact ihr (Nat.le_trans (by decide) hk) (Nonterminal.follows_of_isUnit rfl hk _) _ r h
  | stroke hl hr ihl ihr =>
    have h3 : 3 ≤ k := Nat.le_trans (by decide) hk
    refine looseness_le_append_cons _ (ihl hk hp _) ?_
      (ihr h3 (Nonterminal.follows_of_isUnit rfl h3 _) _)
    obtain ⟨t, ts, rfl, ht⟩ := hr.head (by decide)
    have hu : t.lexeme.isUnit s.reference = true := ht (by decide)
    simp only [Lexeme.rule, List.head?_cons, Option.map_some, Option.some_or, Option.any_some, hu,
      if_true]
    exact hk
  | minus h ih =>
    have hs : ∀ l ∈ previous, l.separates = true :=
      fun l hl => (hp l hl).2.resolve_left (by decide)
    simp only [rulesBetween, List.mem_cons, forall_eq_or_imp, Lexeme.rule_sub_of_separates _ hs]
    have h3 : 3 ≤ k := Nat.le_trans (by decide) hk
    exact ⟨hk, ih hk (Nonterminal.follows_operator (by decide) h3 _) _⟩
  | quantity hl hr ih =>
    have h4 : 4 ≤ k := Nat.le_trans (by decide) hk
    simp only [rulesBetween, List.mem_cons, forall_eq_or_imp]
    refine ⟨?_, ih h4 (Nonterminal.follows_of_isUnit rfl (by omega) _) _⟩
    cases previous with
    | none => simpa [hl.rule_none] using Nat.le_trans (by decide) hk
    | some l => simp [hl.rule_some, Rule.looseness]
  | times hl hr ihl ihr =>
    have h3 : 3 ≤ k := Nat.le_trans (by decide) hk
    exact looseness_le_append_cons _ (ihl hk hp _) hk
      (ihr (Nat.le_trans (by decide) hk) (Nonterminal.follows_operator (by decide) h3 _) _)
  | divided hl hr ihl ihr =>
    have h3 : 3 ≤ k := Nat.le_trans (by decide) hk
    exact looseness_le_append_cons _ (ihl hk hp _)
      (Nat.le_trans (Lexeme.looseness_rule_div_le _ _ _ _) hk)
      (ihr (Nat.le_trans (by decide) hk) (Nonterminal.follows_operator (by decide) h3 _) _)
  | plus hl hr ihl ihr =>
    have h3 : 3 ≤ k := Nat.le_trans (by decide) hk
    exact looseness_le_append_cons _ (ihl hk hp _) hk
      (ihr (Nat.le_trans (by decide) hk) (Nonterminal.follows_operator (by decide) h3 _) _)
  | less hl hr ihl ihr =>
    have h3 : 3 ≤ k := Nat.le_trans (by decide) hk
    exact looseness_le_append_cons _ (ihl hk hp _)
      (Nat.le_trans (Lexeme.looseness_rule_sub_le _ _ _ _) hk)
      (ihr (Nat.le_trans (by decide) hk) (Nonterminal.follows_operator (by decide) h3 _) _)
  | converted hl hr ihl ihr =>
    have h3 : 3 ≤ k := Nat.le_trans (by decide) hk
    exact looseness_le_append_cons _ (ihl (Nat.le_trans (by decide) hk) hp _) hk
      (ihr (Nat.le_trans (by decide) hk) (Nonterminal.follows_of_isUnit rfl h3 _) _)
  | ofPower h ih | ofCompound h ih => exact ih (Nat.le_trans (by decide) hk) hp next
  | ofSigned h ih | ofProduct h ih | ofSum h ih | ofExpression h ih =>
    exact ih (Nat.le_trans (by decide) hk) hp next
  | ofUnit h ih =>
    have h3 : 3 ≤ k := Nat.le_trans (by decide) hk
    exact ih (Nat.le_trans (by decide) hk) (Nonterminal.follows_of_isUnit rfl h3 _) next
  | blank | quit | help | named | assignment =>
    exact fun r _ => Nat.le_trans r.looseness_le_ten hk

end Phrase

end Quantities
