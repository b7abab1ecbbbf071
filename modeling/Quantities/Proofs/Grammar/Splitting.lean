import Quantities.Proofs.Grammar.Reading
import Quantities.Proofs.Validity

namespace Quantities

namespace Rule

/-- The kind of node that a rule makes of the window it splits. -/
def kind : Rule → Kind
  | assign => .assignment
  | convert => .convert
  | add => .add
  | sub => .sub
  | mul => .mul
  | div => .div
  | negate | degreeMinus => .negation
  | leadingNumber => .quantity
  | unitStroke => .unitQuotient
  | adjacentUnit => .unitProduct
  | power => .power
  | noSplit => .invalid

/-- The operator that is read under a rule. -/
def operator? : Rule → Option Operator
  | assign => some .equals
  | convert => some .convert
  | add => some .add
  | sub | negate | degreeMinus => some .sub
  | mul => some .mul
  | div | unitStroke => some .div
  | power => some .caret
  | leadingNumber | adjacentUnit | noSplit => none

/-- The rules of the operators that stand between two operands. -/
def isInfix : Rule → Bool
  | convert | add | sub | mul | div | unitStroke | power => true
  | _ => false

theorem eq_leadingNumber_of_kind {r : Rule} (h : r.kind = .quantity) : r = .leadingNumber := by
  cases r <;> first | rfl | cases h

theorem eq_adjacentUnit_of_kind {r : Rule} (h : r.kind = .unitProduct) : r = .adjacentUnit := by
  cases r <;> first | rfl | cases h

end Rule

variable {ν : Type}

theorem Lexeme.exists_operator_of_rule {ref : Reference} {previous next : Option (Lexeme ν)}
    {t : Lexeme ν} {op : Operator} (h : (t.rule ref previous next).operator? = some op) :
    ∃ c, t = operator op c := by
  cases t with
  | operator o c =>
    refine ⟨c, ?_⟩
    suffices o = op by rw [this]
    cases o with
    | sub =>
      unfold rule at h
      simp only at h
      split at h
      · exact Option.some.inj h
      · split at h <;> exact Option.some.inj h
      · exact Option.some.inj h
    | div =>
      unfold rule at h
      simp only at h
      split at h <;> exact Option.some.inj h
    | _ => exact Option.some.inj h
  | _ =>
    unfold rule at h
    simp only at h
    split at h <;> split at h <;> simp [Rule.operator?] at h

theorem Lexeme.isOperator_eq (ref : Reference) (t : Lexeme ν)
    (previous next : Option (Lexeme ν)) :
    t.isOperator = (t.rule ref previous next).operator?.isSome := by
  cases t with
  | operator op c =>
    cases op with
    | sub =>
      unfold rule
      simp only
      split
      · rfl
      · split <;> rfl
      · rfl
    | div =>
      unfold rule
      simp only
      split <;> rfl
    | _ => rfl
  | _ =>
    unfold rule
    simp only
    split <;> split <;> rfl

namespace Lexeme

variable {ref : Reference} {previous next : Option (Lexeme ν)} {t : Lexeme ν}

theorem isUnit_of_rule_adjacentUnit (h : t.rule ref previous next = .adjacentUnit) :
    t.isUnit ref = true := by
  unfold rule at h
  repeat' split at h
  all_goals simp_all

theorem previous_eq_none_of_rule_leadingNumber (h : t.rule ref previous next = .leadingNumber) :
    previous = none := by
  unfold rule at h
  repeat' split at h
  all_goals simp_all

theorem rule_none_of_isUnit {s : Store ν} (h : t.isUnit s.reference = true) :
    t.rule s.reference none next = .noSplit := by
  cases t with
  | unit b => rfl
  | var name =>
    have hn : s.holdsNumber name = false := by
      simp only [isUnit, Store.reference, Store.holdsUnit] at h
      cases hb : s.get? name with
      | none => simp [hb] at h
      | some v => simp_all [Store.holdsNumber]
    simp [rule, isNumber, Store.reference, hn]
  | _ => cases h

end Lexeme

/-- An operator between two operands joins them, unless one of them is missing. -/
theorem Pivot.split_of_isInfix {p : Pivot ν} (h : p.rule.isInfix = true) :
    p.split = if p.before.isEmpty || p.after.isEmpty
      then .leaf (invalidWindow (p.before ++ p.token :: p.after)
        (.missingOperand p.token.lexeme.spelling))
      else .joint p.rule.kind p.before p.after := by
  obtain ⟨b, t, a, r⟩ := p
  cases r <;> first | rfl | cases h

/-- The expression of a row of tokens with the values of its variables put in. -/
def Expr.resolved (s : Store ν) (w : List (Token ν)) : Expr ν :=
  (Expr.ofTokens s.reference w).substitute s

theorem Expr.kind_substitute {s : Store ν} {e : Expr ν} (h : e.kind ≠ .var) :
    (e.substitute s).kind = e.kind := by
  cases e <;> first | rfl | exact absurd rfl h

theorem Expr.not_valid_invalidWindow (s : Store ν) (w : List (Token ν)) (reason : SyntaxError) :
    ¬ ((invalidWindow w reason).substitute s).Valid :=
  Expr.not_valid_invalid _

structure SplitAt (s : Store ν) (w b : List (Token ν)) (t : Token ν) (a : List (Token ν))
    (r : Rule) : Prop where
  row : w = b ++ t :: a
  rule : t.lexeme.rule s.reference (b.getLast?.map Token.lexeme) (a.head?.map Token.lexeme) = r
  before : ∀ q ∈ rulesBetween s.reference none b (some t.lexeme), r.displaces q = true
  after : ∀ q ∈ rulesBetween s.reference (some t.lexeme) a none, q.displaces r = false
  tree : Expr.ofTokens s.reference w = (Pivot.mk b t a r).split.expr s.reference

theorem exists_splitAt (s : Store ν) {w : List (Token ν)} (h : ∀ t ∈ w, t.lexeme.isEnd = false)
    (hw : 2 ≤ w.length) : ∃ b t a r, SplitAt s w b t a r := by
  cases hp : Pivot.find? s.reference none w with
  | none =>
    obtain rfl := Pivot.eq_nil_of_find?_eq_none hp
    simp at hw
  | some p =>
    obtain ⟨hbefore, hafter⟩ := Pivot.displaces_of_find? hp
    have hrule := Pivot.rule_of_find? s.reference hp
    exact ⟨p.before, p.token, p.after, p.rule,
      (Pivot.before_append_of_find? s.reference hp).symm, by simpa using hrule.symm, hbefore,
      hafter, Expr.ofTokens_eq_of_find? h hw hp⟩

namespace SplitAt

variable {s : Store ν} {w b a : List (Token ν)} {t : Token ν} {r : Rule}

theorem rule_mem (h : SplitAt s w b t a r) : r ∈ rulesBetween s.reference none w none := by
  rw [h.row, rulesBetween_append_cons]
  simp [h.rule]

theorem looseness_le (h : SplitAt s w b t a r) :
    ∀ q ∈ rulesBetween s.reference none w none, q.looseness ≤ r.looseness := by
  rw [h.row]
  refine looseness_le_append_cons _ (fun q hq => Rule.looseness_le_of_displaces (h.before q hq)) ?_
    fun q hq => Rule.looseness_le_of_not_displaces (h.after q hq)
  simp [h.rule]

theorem looseness_le_before (h : SplitAt s w b t a r) (ht : t.lexeme.isUnit s.reference = false)
    {k : Nat} (hk : r.looseness ≤ k ∨ r.groupsLeft = false ∧ r.looseness ≤ k + 1) :
    ∀ q ∈ rulesBetween s.reference none b none, q.looseness ≤ k := by
  intro q hq
  rw [← rulesBetween_next_eq ht] at hq
  rcases Rule.displaces_iff.mp (h.before q hq) with hlt | ⟨heq, hleft⟩
  · omega
  · rcases hk with hk | ⟨hk, _⟩
    · omega
    · simp [hleft] at hk

theorem looseness_le_after (h : SplitAt s w b t a r) {k : Nat}
    (hk : r.looseness ≤ k ∨ r.groupsLeft = true ∧ r.looseness ≤ k + 1) :
    ∀ q ∈ rulesBetween s.reference (some t.lexeme) a none, q.looseness ≤ k := by
  intro q hq
  have hle := Rule.looseness_le_of_not_displaces (h.after q hq)
  rcases hk with hk | ⟨hleft, hk⟩
  · omega
  · by_cases heq : r.looseness = q.looseness
    · have hq' : q.displaces r = true :=
        Rule.displaces_iff.mpr (.inr ⟨heq, (Rule.groupsLeft_eq_of_looseness_eq heq).symm.trans hleft⟩)
      simp [h.after q hq] at hq'
    · omega

theorem infix_parts (h : SplitAt s w b t a r) (hr : r.isInfix = true)
    (hv : (Expr.resolved s w).Valid) :
    Expr.ofTokens s.reference w =
        .bin r.kind (Expr.ofTokens s.reference b) (Expr.ofTokens s.reference a) ∧
      (Expr.resolved s b).Valid ∧ (Expr.resolved s a).Valid ∧
        r.kind.admits (Expr.resolved s b).kind (Expr.resolved s a).kind = true := by
  have hbinary : r.kind.isBinary = true := by cases r <;> first | rfl | cases hr
  have htree := h.tree
  rw [Pivot.split_of_isInfix hr] at htree
  split at htree
  · rw [Expr.resolved, htree] at hv
    exact (Expr.not_valid_invalidWindow _ _ _ hv).elim
  · refine ⟨htree, ?_⟩
    rw [Expr.resolved, htree] at hv
    exact (Expr.valid_bin_iff hbinary).mp hv

theorem kind_ofTokens (h : SplitAt s w b t a r) :
    (Expr.ofTokens s.reference w).kind = r.kind ∨
      (Expr.ofTokens s.reference w).kind = .invalid := by
  rw [h.tree]
  cases r <;> simp only [Pivot.split] <;> first | exact .inl rfl | exact .inr rfl | skip
  all_goals split <;> first | exact .inl rfl | exact .inr rfl

theorem kind_resolved (h : SplitAt s w b t a r) (hv : (Expr.resolved s w).Valid) :
    (Expr.resolved s w).kind = r.kind := by
  have hne := Expr.kind_ne_invalid_of_valid hv
  have hvar : r.kind ≠ .var := by cases r <;> decide
  rcases h.kind_ofTokens with hk | hk
  · rw [Expr.resolved, Expr.kind_substitute (hk ▸ hvar), hk]
  · rw [Expr.resolved, Expr.kind_substitute (by simp [hk]), hk] at hne
    exact absurd rfl hne

end SplitAt

end Quantities
