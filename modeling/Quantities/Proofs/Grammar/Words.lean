import Quantities.Proofs.Expr.Derivation
import Quantities.Proofs.Grammar.Window
import Quantities.Proofs.Token.Words

namespace Quantities

variable {ν : Type} {P : String → Prop}

/-- What holds of all words that a message may repeat from a row of tokens. -/
def Token.AllWords (P : String → Prop) (w : List (Token ν)) : Prop :=
  ∀ t ∈ w, ∀ x ∈ t.lexeme.words, P x

theorem Token.AllWords.mono {v w : List (Token ν)} (h : Token.AllWords P w) (hv : v ⊆ w) :
    Token.AllWords P v :=
  fun t ht => h t (hv ht)

theorem Lexeme.words_subset_of_filter {reason : Option SyntaxError} {e : SyntaxError}
    (h : reason.filter SyntaxError.saysSomething = some e) :
    e.words ⊆ (invalid reason : Lexeme ν).words := by
  obtain ⟨rfl, -⟩ := Option.filter_eq_some_iff.mp h
  exact List.subset_cons_self _ _

namespace Expr

theorem forall_mem_words_invalidWindow {w : List (Token ν)} {reason : SyntaxError}
    (h : Token.AllWords P w) (hreason : ∀ x ∈ reason.words, P x) :
    ∀ x ∈ (invalidWindow w reason).words, P x := by
  unfold invalidWindow
  cases hfound : w.findSome? _ with
  | none => exact hreason
  | some e =>
    obtain ⟨t, ht, he⟩ := List.exists_of_findSome?_eq_some hfound
    split at he
    next r hl =>
      intro x hx
      refine h t ht x ?_
      rw [hl]
      exact Lexeme.words_subset_of_filter he hx
    next => cases he

theorem forall_mem_words_ofToken {t : Token ν} (h : ∀ x ∈ t.lexeme.words, P x) :
    ∀ x ∈ (ofToken t).words, P x := by
  obtain ⟨l, pos⟩ := t
  cases l with
  | invalid reason =>
    cases hr : reason.filter SyntaxError.saysSomething with
    | none => simp [ofToken, hr, words]
    | some e =>
      intro x hx
      simp only [ofToken, hr] at hx
      exact h x (Lexeme.words_subset_of_filter hr hx)
  | number | unit => exact List.forall_mem_nil _
  | command command => cases command <;> exact List.forall_mem_nil _
  | _ => exact h

end Expr

theorem Pivot.exists_of_split_eq_leaf {p : Pivot ν} {e : Expr ν} (h : p.split = .leaf e) :
    ∃ reason, e = invalidWindow (p.before ++ p.token :: p.after) reason ∧
      reason.words ⊆ p.token.lexeme.words := by
  obtain ⟨b, t, a, r⟩ := p
  cases r with
  | noSplit => exact ⟨_, (Split.leaf.inj h).symm, List.nil_subset _⟩
  | leadingNumber | adjacentUnit => cases h
  | negate | degreeMinus =>
    simp only [split] at h
    split at h
    · cases h
    · exact ⟨_, (Split.leaf.inj h).symm, List.nil_subset _⟩
  | _ =>
    simp only [split] at h
    split at h
    · exact ⟨_, (Split.leaf.inj h).symm, by simp [SyntaxError.words, Lexeme.words]⟩
    · cases h

theorem Split.forall_mem_words_leaf {ref : Reference} {w : List (Token ν)} {e : Expr ν}
    (h : Token.AllWords P w) (he : Split.ofWindow ref w = .leaf e) : ∀ x ∈ e.words, P x := by
  have hw := h.mono (isPrefix_dropEnd w).subset
  unfold Split.ofWindow at he
  split at he
  next =>
    cases he
    exact List.forall_mem_nil _
  next t ht =>
    cases he
    rw [ht] at hw
    exact Expr.forall_mem_words_ofToken (hw t List.mem_cons_self)
  next =>
    split at he
    next p hp =>
      obtain ⟨reason, rfl, hreason⟩ := Pivot.exists_of_split_eq_leaf he
      rw [← Pivot.before_append_of_find? ref hp] at hw
      exact Expr.forall_mem_words_invalidWindow hw fun x hx => hw p.token (by simp) x (hreason hx)
    next =>
      cases he
      exact List.forall_mem_nil _

namespace Expr

/-- The words of an expression stand in the row that it was made of. -/
theorem forall_mem_words_ofTokens {ref : Reference} {w : List (Token ν)}
    (h : Token.AllWords P w) : ∀ x ∈ (ofTokens ref w).words, P x := by
  refine ofTokens_of_leaves (P := fun e => ∀ x ∈ e.words, P x) (fun v e hv he => ?_)
    (fun e he => he) (fun t v ht hv => ?_) fun op l r hl hr => ?_
  · exact Split.forall_mem_words_leaf (h.mono hv.subset) he
  · exact List.forall_mem_append.mpr ⟨ht, hv⟩
  · exact List.forall_mem_append.mpr ⟨hl, hr⟩

theorem words_substitute_subset (e : Expr ν) (s : Store ν) : (e.substitute s).words ⊆ e.words := by
  induction e with
  | var name =>
    rw [substitute]
    split
    next b _ => cases b <;> exact List.nil_subset _
    next => exact List.Subset.refl _
  | neg e ih => exact ih
  | bin op l r ihl ihr =>
    exact List.append_subset.mpr ⟨List.subset_append_of_subset_left _ ihl,
      List.subset_append_of_subset_right _ ihr⟩
  | assign t v _ ih => exact List.append_subset.mpr ⟨List.subset_append_left _ _,
      List.subset_append_of_subset_right _ ih⟩
  | _ => exact List.Subset.refl _

end Expr

end Quantities
