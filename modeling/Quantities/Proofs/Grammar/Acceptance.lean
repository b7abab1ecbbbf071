import Quantities.Proofs.Grammar.Splitting

namespace Quantities

namespace Nonterminal

/-- The kinds of node that a phrase of a sort has at its root once its variables are put in. -/
def admits : Nonterminal → Kind → Bool
  | power, k | compound, k | unit, k => k.isUnit
  | signed, k | product, k | sum, k => k.isNumber
  | expression, k => k.isNumber || k.isUnit
  | statement, _ => false

end Nonterminal

namespace Rule

/-- The tightest sort of the phrases that are split under a rule. -/
def sort : Rule → Nonterminal
  | power => .power
  | adjacentUnit => .compound
  | unitStroke => .unit
  | negate | degreeMinus | leadingNumber => .signed
  | mul | div => .product
  | add | sub => .sum
  | convert => .expression
  | assign | noSplit => .statement

theorem admits_sort {r : Rule} {N : Nonterminal} (h : N.admits r.kind = true) :
    r.sort.admits r.kind = true := by
  cases r <;> first | rfl | cases N <;> cases h

theorem looseness_sort_le {r : Rule} {N : Nonterminal} (hk : N.admits r.kind = true)
    (h : r.looseness ≤ N.looseness) : r.sort.looseness ≤ N.looseness := by
  cases r with
  | leadingNumber => cases N <;> first | decide | cases hk
  | degreeMinus => cases N <;> first | decide | cases hk
  | assign | noSplit => cases N <;> cases hk
  | _ => exact h

end Rule

variable {ν : Type} {s : Store ν}

namespace Phrase

variable {w : List (Token ν)} {e : Expr ν}

theorem climb {M N : Nonterminal} {k : Kind} (h : Phrase s M w e) (hM : M.admits k = true)
    (hN : N.admits k = true) (hMN : M.looseness ≤ N.looseness) : Phrase s N w e := by
  have hside : k.isNumber = true → k.isUnit = false := Kind.not_isUnit_of_isNumber
  cases M with
  | power =>
    cases N with
    | power => exact h
    | compound => exact .ofPower h
    | unit => exact .ofCompound (.ofPower h)
    | expression => exact .ofUnit (.ofCompound (.ofPower h))
    | _ => simp_all [Nonterminal.admits]
  | compound =>
    cases N with
    | compound => exact h
    | unit => exact .ofCompound h
    | expression => exact .ofUnit (.ofCompound h)
    | _ => simp_all [Nonterminal.admits, Nonterminal.looseness]
  | unit =>
    cases N with
    | unit => exact h
    | expression => exact .ofUnit h
    | _ => simp_all [Nonterminal.admits, Nonterminal.looseness]
  | signed =>
    cases N with
    | signed => exact h
    | product => exact .ofSigned h
    | sum => exact .ofProduct (.ofSigned h)
    | expression => exact .ofSum (.ofProduct (.ofSigned h))
    | _ => simp_all [Nonterminal.admits]
  | product =>
    cases N with
    | product => exact h
    | sum => exact .ofProduct h
    | expression => exact .ofSum (.ofProduct h)
    | _ => simp_all [Nonterminal.admits, Nonterminal.looseness]
  | sum =>
    cases N with
    | sum => exact h
    | expression => exact .ofSum h
    | _ => simp_all [Nonterminal.admits, Nonterminal.looseness]
  | expression =>
    cases N with
    | expression => exact h
    | _ => simp_all [Nonterminal.admits, Nonterminal.looseness]
  | statement => simp [Nonterminal.admits] at hM

/-- What follows the sign of a degree is one number, with at most one minus before it. -/
theorem degree {c : Option String} (h : Phrase s .signed w e)
    (hw : ∀ q ∈ rulesBetween s.reference (some (.operator .caret c)) w none, q.looseness ≤ 1) :
    (∃ t, w = [t] ∧ Numeral s t.lexeme e) ∨
      ∃ m p t d, w = [⟨.operator .sub m, p⟩, t] ∧ Numeral s t.lexeme d ∧ e = .neg d := by
  have unitBehind {t : Token ν} {a : List (Token ν)} {r : Expr ν} (l : Lexeme ν)
      (hr : Phrase s .unit a r)
      (ha : ∀ q ∈ rulesBetween s.reference (some l) (t :: a) none, q.looseness ≤ 1) : False := by
    obtain ⟨x, xs, rfl, hx⟩ := hr.head (by decide)
    have hu : x.lexeme.isUnit s.reference = true := hx (by decide)
    have hrule := ha .adjacentUnit (by simp [rulesBetween, Lexeme.rule_of_isUnit _ hu])
    simp [Rule.looseness] at hrule
  cases h with
  | number h => exact .inl ⟨_, rfl, h⟩
  | quantity hl hr => exact (unitBehind _ hr hw).elim
  | minus h =>
    simp only [rulesBetween, List.mem_cons, forall_eq_or_imp] at hw
    cases h with
    | number h => exact .inr ⟨_, _, _, _, rfl, h, rfl⟩
    | quantity hl hr => exact (unitBehind _ hr hw.2).elim
    | minus h =>
      have hrule := hw.2 .negate (by simp [rulesBetween, Lexeme.rule, Lexeme.isOperator])
      simp [Rule.looseness] at hrule

end Phrase

theorem unitWord_of_isUnit {t : Token ν} (h : t.lexeme.isEnd = false)
    (hk : (Expr.resolved s [t]).kind.isUnit = true) :
    UnitWord s t.lexeme (Expr.ofTokens s.reference [t]) := by
  obtain ⟨l, pos⟩ := t
  rw [Expr.resolved, Expr.ofTokens_singleton h] at hk
  rw [Expr.ofTokens_singleton h]
  cases l with
  | unit base => exact .literal base
  | var name =>
    simp only [Expr.ofToken, Expr.substitute] at hk
    cases hb : s.get? name with
    | none => simp [hb, Expr.kind, Kind.isUnit] at hk
    | some v =>
      cases v with
      | number x u => simp [hb, Binding.expr, Expr.quantity, Expr.kind, Kind.isUnit] at hk
      | unit u => exact .bound hb
  | command c _ => cases c <;> simp [Expr.ofToken, Expr.substitute, Expr.kind, Kind.isUnit] at hk
  | _ => simp [Expr.ofToken, Expr.substitute, Expr.kind, Kind.isUnit] at hk

theorem numeral_of_isNumber {t : Token ν} (h : t.lexeme.isEnd = false)
    (hk : (Expr.resolved s [t]).kind.isNumber = true) :
    Numeral s t.lexeme (Expr.ofTokens s.reference [t]) := by
  obtain ⟨l, pos⟩ := t
  rw [Expr.resolved, Expr.ofTokens_singleton h] at hk
  rw [Expr.ofTokens_singleton h]
  cases l with
  | number x => exact .literal x
  | var name =>
    simp only [Expr.ofToken, Expr.substitute] at hk
    cases hb : s.get? name with
    | none => simp [hb, Expr.kind, Kind.isNumber] at hk
    | some v =>
      cases v with
      | number x u => exact .bound hb
      | unit u => simp [hb, Binding.expr, Expr.kind, Kind.isNumber] at hk
  | command c _ => cases c <;> simp [Expr.ofToken, Expr.substitute, Expr.kind, Kind.isNumber] at hk
  | _ => simp [Expr.ofToken, Expr.substitute, Expr.kind, Kind.isNumber] at hk

variable {w : List (Token ν)}

theorem resolved_nil : Expr.resolved s ([] : List (Token ν)) = .empty := by
  rw [Expr.resolved, Expr.ofTokens_nil]
  rfl

theorem looseness_le_of_isUnit (hend : ∀ t ∈ w, t.lexeme.isEnd = false)
    (hv : (Expr.resolved s w).Valid) (hk : (Expr.resolved s w).kind.isUnit = true) :
    ∀ q ∈ rulesBetween s.reference none w none, q.looseness ≤ 4 := by
  match w with
  | [] => simp [rulesBetween]
  | [t] =>
    have hu := unitWord_of_isUnit (hend t (by simp)) hk
    simp [rulesBetween, hu.rule_none, Rule.looseness]
  | x :: y :: zs =>
    obtain ⟨b, t, a, r, h⟩ := exists_splitAt s hend (by simp)
    rw [h.kind_resolved hv] at hk
    have hr : r.looseness ≤ 4 := by cases r <;> first | decide | cases hk
    exact fun q hq => Nat.le_trans (h.looseness_le q hq) hr

theorem looseness_le_of_isNumber (hend : ∀ t ∈ w, t.lexeme.isEnd = false)
    (hv : (Expr.resolved s w).Valid) (hk : (Expr.resolved s w).kind.isNumber = true) :
    ∀ q ∈ rulesBetween s.reference none w none, q.looseness ≤ 9 := by
  match w with
  | [] => simp [rulesBetween]
  | [t] =>
    have hn := numeral_of_isNumber (hend t (by simp)) hk
    simp [rulesBetween, hn.rule_none, Rule.looseness]
  | x :: y :: zs =>
    obtain ⟨b, t, a, r, h⟩ := exists_splitAt s hend (by simp)
    rw [h.kind_resolved hv] at hk
    have hr : r.looseness ≤ 9 := by cases r <;> first | decide | cases hk
    exact fun q hq => Nat.le_trans (h.looseness_le q hq) hr

namespace Phrase

theorem singleton {N : Nonterminal} {t : Token ν} (h : t.lexeme.isEnd = false)
    (hk : N.admits (Expr.resolved s [t]).kind = true) :
    Phrase s N [t] (Expr.ofTokens s.reference [t]) := by
  cases hu : (Expr.resolved s [t]).kind.isUnit with
  | true =>
    refine (Phrase.word (unitWord_of_isUnit h hu)).climb hu hk ?_
    cases N <;> decide
  | false =>
    have hn : (Expr.resolved s [t]).kind.isNumber = true := by
      cases N <;> simp_all [Nonterminal.admits]
    refine (Phrase.number (numeral_of_isNumber h hn)).climb hn hk ?_
    cases N <;> first | decide | simp_all [Nonterminal.admits]

end Phrase

/-- A row that is a phrase of every sort its kind and its looseness allow. -/
def Covered (s : Store ν) (w : List (Token ν)) : Prop :=
  (Expr.resolved s w).Valid → ∀ N : Nonterminal, N.admits (Expr.resolved s w).kind = true →
    (∀ q ∈ rulesBetween s.reference none w none, q.looseness ≤ N.looseness) →
      Phrase s N w (Expr.ofTokens s.reference w)

theorem Covered.unit (h : Covered s w) (hend : ∀ t ∈ w, t.lexeme.isEnd = false)
    (hv : (Expr.resolved s w).Valid) (hk : (Expr.resolved s w).kind.isUnit = true) :
    Phrase s .unit w (Expr.ofTokens s.reference w) :=
  h hv .unit hk (looseness_le_of_isUnit hend hv hk)

namespace SplitAt

variable {b a : List (Token ν)} {t : Token ν} {r : Rule} {N : Nonterminal}

theorem phrase_before (h : SplitAt s w b t a r) (hb : Covered s b)
    (ht : t.lexeme.isUnit s.reference = false) (hv : (Expr.resolved s b).Valid)
    (hk : N.admits (Expr.resolved s b).kind = true)
    (hN : r.looseness ≤ N.looseness ∨ r.groupsLeft = false ∧ r.looseness ≤ N.looseness + 1) :
    Phrase s N b (Expr.ofTokens s.reference b) :=
  hb hv N hk (h.looseness_le_before ht hN)

theorem phrase_after (h : SplitAt s w b t a r) (ha : Covered s a)
    (hv : (Expr.resolved s a).Valid) (hk : N.admits (Expr.resolved s a).kind = true)
    (h6 : 6 ≤ N.looseness)
    (hN : r.looseness ≤ N.looseness ∨ r.groupsLeft = true ∧ r.looseness ≤ N.looseness + 1) :
    Phrase s N a (Expr.ofTokens s.reference a) :=
  ha hv N hk (looseness_le_of_behind h6 (h.looseness_le_after hN))

theorem looseness_le_unit {k : Nat} {x : Token ν} {xs : List (Token ν)} {l : Option (Lexeme ν)}
    (hx : x.lexeme.isUnit s.reference = true)
    (h : ∀ q ∈ rulesBetween s.reference l (x :: xs) none, q.looseness ≤ k) :
    ∀ q ∈ rulesBetween s.reference none (x :: xs) none, q.looseness ≤ k := by
  simp only [rulesBetween, List.mem_cons, forall_eq_or_imp] at h ⊢
  exact ⟨by simp [Lexeme.rule_none_of_isUnit hx, Rule.looseness], h.2⟩

end SplitAt

/-- A row that passes the check, split where all its parts are covered. -/
structure CoveredSplit (s : Store ν) (w b : List (Token ν)) (t : Token ν) (a : List (Token ν))
    (r : Rule) : Prop extends SplitAt s w b t a r where
  valid : (Expr.resolved s w).Valid
  ends : ∀ x ∈ b ++ t :: a, x.lexeme.isEnd = false
  left : Covered s b
  right : Covered s a
  rest : b ≠ [] → Covered s (t :: a)

namespace CoveredSplit

variable {b a : List (Token ν)} {t : Token ν} {r : Rule}

theorem exists_operator {op : Operator} (h : SplitAt s w b t a r) (ho : r.operator? = some op) :
    ∃ c p, t = ⟨.operator op c, p⟩ := by
  have hop : (t.lexeme.rule s.reference (b.getLast?.map Token.lexeme)
      (a.head?.map Token.lexeme)).operator? = some op := by rw [h.rule, ho]
  obtain ⟨c, hc⟩ := Lexeme.exists_operator_of_rule hop
  exact ⟨c, t.pos, by rw [← hc]⟩

theorem right_isUnit (h : CoveredSplit s w b t a r) (hv : (Expr.resolved s a).Valid)
    (hk : (Expr.resolved s a).kind.isUnit = true) :
    Phrase s .unit a (Expr.ofTokens s.reference a) :=
  h.right.unit (fun x hx => h.ends x (by simp [hx])) hv hk

theorem operands {op : Operator} (h : CoveredSplit s w b t a r) (M L : Nonterminal)
    (ho : r.operator? = some op) (hr : r.isInfix = true)
    (hk : ∀ x y, r.kind.admits x y = true → M.admits x = true ∧ L.admits y = true)
    (hM : r.looseness ≤ M.looseness) (h6 : 6 ≤ L.looseness)
    (hL : r.looseness ≤ L.looseness ∨ r.groupsLeft = true ∧ r.looseness ≤ L.looseness + 1) :
    ∃ c p, t = ⟨.operator op c, p⟩ ∧
      Expr.ofTokens s.reference w =
        .bin r.kind (Expr.ofTokens s.reference b) (Expr.ofTokens s.reference a) ∧
      Phrase s M b (Expr.ofTokens s.reference b) ∧ Phrase s L a (Expr.ofTokens s.reference a) := by
  obtain ⟨htree, hvb, hva, hadm⟩ := h.infix_parts hr h.valid
  obtain ⟨hkb, hka⟩ := hk _ _ hadm
  obtain ⟨c, p, rfl⟩ := exists_operator h.toSplitAt ho
  exact ⟨c, p, rfl, htree, h.phrase_before h.left rfl hvb hkb (.inl hM),
    h.phrase_after h.right hva hka h6 hL⟩

theorem phrase_add (h : CoveredSplit s w b t a .add) :
    Phrase s .sum w (Expr.ofTokens s.reference w) := by
  obtain ⟨c, p, rfl, htree, hl, hr⟩ := h.operands .sum .product rfl rfl
    (fun _ _ hk => Bool.and_eq_true_iff.mp hk) (by decide) (by decide) (.inr ⟨rfl, by decide⟩)
  rw [htree, h.row]
  exact .plus hl hr

theorem phrase_sub (h : CoveredSplit s w b t a .sub) :
    Phrase s .sum w (Expr.ofTokens s.reference w) := by
  obtain ⟨c, p, rfl, htree, hl, hr⟩ := h.operands .sum .product rfl rfl
    (fun _ _ hk => Bool.and_eq_true_iff.mp hk) (by decide) (by decide) (.inr ⟨rfl, by decide⟩)
  rw [htree, h.row]
  exact .less hl hr

theorem phrase_mul (h : CoveredSplit s w b t a .mul) :
    Phrase s .product w (Expr.ofTokens s.reference w) := by
  obtain ⟨c, p, rfl, htree, hl, hr⟩ := h.operands .product .signed rfl rfl
    (fun _ _ hk => Bool.and_eq_true_iff.mp hk) (by decide) (by decide) (.inr ⟨rfl, by decide⟩)
  rw [htree, h.row]
  exact .times hl hr

theorem phrase_div (h : CoveredSplit s w b t a .div) :
    Phrase s .product w (Expr.ofTokens s.reference w) := by
  obtain ⟨htree, hvb, hva, hadm⟩ := h.infix_parts rfl h.valid
  obtain ⟨c, p, rfl⟩ := exists_operator h.toSplitAt rfl
  simp only [Rule.kind, Kind.admits, Bool.or_eq_true, Bool.and_eq_true] at hadm
  rcases hadm with ⟨hkb, hka⟩ | ⟨_, hka⟩
  · have hl := h.phrase_before (N := .product) h.left rfl hvb hkb (.inl (by decide))
    have hr := h.phrase_after (N := .signed) h.right hva hka (by decide) (.inr ⟨rfl, by decide⟩)
    rw [htree, h.row]
    exact .divided hl hr
  · -- a unit behind the stroke would have made it a stroke before a unit
    obtain ⟨x, xs, rfl, hx⟩ := (h.right_isUnit hva hka).head (by decide)
    have hu : x.lexeme.isUnit s.reference = true := hx (by decide)
    have hrule := h.rule
    simp [Lexeme.rule, hu] at hrule

theorem phrase_convert (h : CoveredSplit s w b t a .convert) :
    Phrase s .expression w (Expr.ofTokens s.reference w) := by
  obtain ⟨htree, hvb, hva, hadm⟩ := h.infix_parts rfl h.valid
  obtain ⟨c, p, rfl⟩ := exists_operator h.toSplitAt rfl
  obtain ⟨hkb, hka⟩ := Bool.and_eq_true_iff.mp hadm
  have hl := h.phrase_before (N := .sum) h.left rfl hvb hkb (.inr ⟨rfl, by decide⟩)
  rw [htree, h.row]
  exact .converted hl (h.right_isUnit hva hka)

theorem phrase_unitStroke (h : CoveredSplit s w b t a .unitStroke) :
    Phrase s .unit w (Expr.ofTokens s.reference w) := by
  obtain ⟨htree, hvb, hva, hadm⟩ := h.infix_parts rfl h.valid
  obtain ⟨c, p, rfl⟩ := exists_operator h.toSplitAt rfl
  obtain ⟨hkb, hka⟩ := Bool.and_eq_true_iff.mp hadm
  have hl := h.phrase_before (N := .unit) h.left rfl hvb hkb (.inl (by decide))
  obtain ⟨x, xs, rfl, hx⟩ := (h.right_isUnit hva hka).head (by decide)
  have hr := h.right hva .compound hka
    (SplitAt.looseness_le_unit (hx (by decide)) (h.looseness_le_after (.inr ⟨rfl, by decide⟩)))
  rw [htree, h.row]
  exact .stroke hl hr

theorem phrase_power (h : CoveredSplit s w b t a .power) :
    Phrase s .power w (Expr.ofTokens s.reference w) := by
  obtain ⟨c, p, rfl, htree, hl, hr⟩ := h.operands .power .signed rfl rfl
    (fun _ _ hk => Bool.and_eq_true_iff.mp hk) (by decide) (by decide) (.inl (by decide))
  have hbehind := h.looseness_le_after (k := 1) (.inr ⟨rfl, by decide⟩)
  rw [htree, h.row]
  obtain ⟨t, rfl, ht⟩ | ⟨m, q, t, d, rfl, ht, hd⟩ := hr.degree hbehind
  · exact .raised hl ht
  · rw [hd]
    exact .raisedMinus hl ht

theorem phrase_adjacentUnit (h : CoveredSplit s w b t a .adjacentUnit) :
    Phrase s .compound w (Expr.ofTokens s.reference w) := by
  have hu := Lexeme.isUnit_of_rule_adjacentUnit h.rule
  have hne : b ≠ [] := by
    rintro rfl
    exact Lexeme.rule_none_ne_adjacentUnit _ _ _ h.rule
  have htree : Expr.ofTokens s.reference w = .bin .unitProduct (Expr.ofTokens s.reference b)
      (Expr.ofTokens s.reference (t :: a)) := h.tree
  have hv := h.valid
  rw [Expr.resolved, htree] at hv
  obtain ⟨hvb, hva, hadm⟩ := (Expr.valid_bin_iff rfl).mp hv
  obtain ⟨hkb, hka⟩ := Bool.and_eq_true_iff.mp hadm
  have hfront : ∀ q ∈ rulesBetween s.reference none b (some t.lexeme), q.looseness ≤ 3 :=
    fun q hq => Rule.looseness_le_of_displaces (h.before q hq)
  have hbehind : ∀ q ∈ rulesBetween s.reference none (t :: a) none, q.looseness ≤ 2 := by
    have hafter := h.looseness_le_after (k := 2) (.inr ⟨rfl, by decide⟩)
    simp only [rulesBetween, List.mem_cons, forall_eq_or_imp]
    exact ⟨by simp [Lexeme.rule_none_of_isUnit hu, Rule.looseness], hafter⟩
  have hl := h.left hvb .compound hkb (rulesBetween_next_eq_of_le hfront ▸ hfront)
  have hr := h.rest hne hva .power hka hbehind
  rw [htree, h.row]
  exact .adjacent hl hr

theorem phrase_leadingNumber (h : CoveredSplit s w b t a .leadingNumber) :
    Phrase s .signed w (Expr.ofTokens s.reference w) := by
  obtain rfl : b = [] := by
    simpa using Lexeme.previous_eq_none_of_rule_leadingNumber h.rule
  have htree : Expr.ofTokens s.reference w = .bin .quantity
      (Expr.ofTokens s.reference [t]) (Expr.ofTokens s.reference a) := h.tree
  have hv := h.valid
  rw [Expr.resolved, htree] at hv
  obtain ⟨_, hva, hadm⟩ := (Expr.valid_bin_iff rfl).mp hv
  obtain ⟨hkt, hka⟩ := Bool.and_eq_true_iff.mp hadm
  have hnumber := numeral_of_isNumber (h.ends t (by simp)) (Kind.isNumber_of_leadsUnit hkt)
  rw [htree, h.row]
  exact .quantity hnumber (h.right_isUnit hva hka)

theorem phrase_negate (h : CoveredSplit s w b t a .negate) :
    Phrase s .signed w (Expr.ofTokens s.reference w) := by
  obtain ⟨c, p, rfl⟩ := exists_operator h.toSplitAt rfl
  have hv := h.valid
  have htree := h.tree
  simp only [Pivot.split] at htree
  rw [Expr.resolved] at hv
  split at htree
  next hb =>
    obtain rfl : b = [] := by simpa using hb
    rw [htree] at hv
    obtain ⟨hva, hk⟩ := Expr.valid_neg_iff.mp hv
    have hr := h.phrase_after (N := .signed) h.right hva hk (by decide) (.inl (by decide))
    rw [htree, h.row]
    exact .minus hr
  next =>
    rw [htree] at hv
    exact (Expr.not_valid_invalidWindow _ _ _ hv).elim

theorem not_degreeMinus (h : CoveredSplit s w b t a .degreeMinus) : False := by
  have hb : b.isEmpty = false := by
    cases b with
    | nil =>
      obtain ⟨c, p, rfl⟩ := exists_operator h.toSplitAt rfl
      exact absurd h.rule (by simp [Lexeme.rule])
    | cons x xs => rfl
  have hv := h.valid
  have htree := h.tree
  simp only [Pivot.split, hb] at htree
  rw [Expr.resolved, htree] at hv
  exact Expr.not_valid_invalidWindow _ _ _ hv

theorem phrase (h : CoveredSplit s w b t a r) (hr : r.sort ≠ .statement) :
    Phrase s r.sort w (Expr.ofTokens s.reference w) := by
  cases r with
  | convert => exact h.phrase_convert
  | add => exact h.phrase_add
  | sub => exact h.phrase_sub
  | mul => exact h.phrase_mul
  | div => exact h.phrase_div
  | negate => exact h.phrase_negate
  | leadingNumber => exact h.phrase_leadingNumber
  | unitStroke => exact h.phrase_unitStroke
  | adjacentUnit => exact h.phrase_adjacentUnit
  | power => exact h.phrase_power
  | degreeMinus => exact h.not_degreeMinus.elim
  | assign | noSplit => exact absurd rfl hr

end CoveredSplit

theorem covered (hend : ∀ t ∈ w, t.lexeme.isEnd = false) : Covered s w := by
  induction hn : w.length using Nat.strongRecOn generalizing w with
  | ind n ih =>
  intro hv N hk hl
  match hw : w with
  | [] =>
    rw [resolved_nil] at hk
    cases N <;> cases hk
  | [t] => exact Phrase.singleton (hend t (by simp)) hk
  | x :: y :: zs =>
    rw [← hw] at hend hn hv hk hl ⊢
    obtain ⟨b, t, a, r, h⟩ := exists_splitAt s hend (by simp [hw])
    have hlength := congrArg List.length h.row
    simp only [List.length_append, List.length_cons] at hlength
    have hmem : ∀ t' ∈ b ++ t :: a, t'.lexeme.isEnd = false := h.row ▸ hend
    have hkind : N.admits r.kind = true := h.kind_resolved hv ▸ hk
    have hparts : CoveredSplit s w b t a r := by
      refine ⟨h, hv, hmem, ?_, ?_, fun hne => ?_⟩
      · exact ih b.length (by omega) (fun t' ht => hmem t' (by simp [ht])) rfl
      · exact ih a.length (by omega) (fun t' ht => hmem t' (by simp [ht])) rfl
      · have hpos := List.length_pos_iff.mpr hne
        refine ih (t :: a).length ?_ (fun t' ht => hmem t' (List.mem_append_right b ht)) rfl
        simp only [List.length_cons]
        omega
    have hsort : r.sort ≠ .statement := by
      intro hr
      have := Rule.admits_sort hkind
      rw [hr] at this
      cases this
    exact (hparts.phrase hsort).climb (Rule.admits_sort hkind) hkind
      (Rule.looseness_sort_le hkind (hl r h.rule_mem))

end Quantities
