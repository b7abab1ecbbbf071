import Quantities.Proofs.Grammar.Acceptance
import Quantities.Proofs.Token.Tokenize

namespace Quantities

variable {ν : Type} {s : Store ν}

theorem Numeral.substitute_eq {t : Lexeme ν} {e : Expr ν} (h : Numeral s t e) :
    (∃ x, e.substitute s = .const x) ∨ ∃ x u, e.substitute s = .quantity x u := by
  cases h with
  | literal x => exact .inl ⟨x, rfl⟩
  | bound h => exact .inr ⟨_, _, by rw [Expr.substitute, h]; rfl⟩

theorem Numeral.valid {t : Lexeme ν} {e : Expr ν} (h : Numeral s t e) :
    (e.substitute s).Valid ∧ (e.substitute s).kind.leadsUnit = true := by
  rcases h.substitute_eq with ⟨x, hx⟩ | ⟨x, u, hx⟩ <;> rw [hx] <;> exact ⟨rfl, rfl⟩

theorem UnitWord.substitute_eq {t : Lexeme ν} {e : Expr ν} (h : UnitWord s t e) :
    ∃ u, e.substitute s = .unit u := by
  cases h with
  | literal b => exact ⟨_, rfl⟩
  | bound h => exact ⟨_, by rw [Expr.substitute, h]; rfl⟩

theorem UnitWord.valid {t : Lexeme ν} {e : Expr ν} (h : UnitWord s t e) :
    (e.substitute s).Valid ∧ (e.substitute s).kind.isUnit = true := by
  obtain ⟨u, hu⟩ := h.substitute_eq
  rw [hu]
  exact ⟨rfl, rfl⟩

namespace Phrase

variable {N : Nonterminal} {w : List (Token ν)} {e : Expr ν}

theorem valid (h : Phrase s N w e) : (e.substitute s).Valid ∧
    (N ≠ .statement → N.admits (e.substitute s).kind = true) := by
  have joint {op : Kind} {l r : Expr ν} (hop : op.isBinary = true) (hl : (l.substitute s).Valid)
      (hr : (r.substitute s).Valid)
      (ha : op.admits (l.substitute s).kind (r.substitute s).kind = true) :
      ((Expr.bin op l r).substitute s).Valid :=
    (Expr.valid_bin_iff hop).mpr ⟨hl, hr, ha⟩
  induction h with
  | word h => exact ⟨h.valid.1, fun _ => h.valid.2⟩
  | number h => exact ⟨h.valid.1, fun _ => Kind.isNumber_of_leadsUnit h.valid.2⟩
  | raised hl hr ih =>
    have hk := ih.2 (by decide)
    have hn := hr.valid
    refine ⟨joint rfl ih.1 hn.1 ?_, fun _ => rfl⟩
    exact Bool.and_eq_true_iff.mpr ⟨hk, Kind.isNumber_of_leadsUnit hn.2⟩
  | raisedMinus hl hr ih =>
    have hk := ih.2 (by decide)
    have hn := hr.valid
    have hd := Expr.valid_neg_iff.mpr ⟨hn.1, Kind.isNumber_of_leadsUnit hn.2⟩
    exact ⟨joint rfl ih.1 hd (Bool.and_eq_true_iff.mpr ⟨hk, rfl⟩), fun _ => rfl⟩
  | ofPower h ih | ofCompound h ih | ofSigned h ih | ofProduct h ih =>
    exact ⟨ih.1, fun _ => ih.2 (by decide)⟩
  | ofUnit h ih =>
    exact ⟨ih.1, fun _ => Bool.or_eq_true_iff.mpr (.inr (ih.2 (by decide)))⟩
  | ofSum h ih =>
    exact ⟨ih.1, fun _ => Bool.or_eq_true_iff.mpr (.inl (ih.2 (by decide)))⟩
  | ofExpression h ih => exact ⟨ih.1, fun hN => absurd rfl hN⟩
  | minus h ih => exact ⟨Expr.valid_neg_iff.mpr ⟨ih.1, ih.2 (by decide)⟩, fun _ => rfl⟩
  | quantity hl hr ih =>
    have hn := hl.valid
    refine ⟨joint rfl hn.1 ih.1 ?_, fun _ => rfl⟩
    exact Bool.and_eq_true_iff.mpr ⟨hn.2, ih.2 (by decide)⟩
  | divided hl hr ihl ihr =>
    refine ⟨joint rfl ihl.1 ihr.1 ?_, fun _ => rfl⟩
    exact Bool.or_eq_true_iff.mpr
      (.inl (Bool.and_eq_true_iff.mpr ⟨ihl.2 (by decide), ihr.2 (by decide)⟩))
  | adjacent hl hr ihl ihr | stroke hl hr ihl ihr | times hl hr ihl ihr | plus hl hr ihl ihr
  | less hl hr ihl ihr | converted hl hr ihl ihr =>
    refine ⟨joint rfl ihl.1 ihr.1 ?_, fun _ => rfl⟩
    exact Bool.and_eq_true_iff.mpr ⟨ihl.2 (by decide), ihr.2 (by decide)⟩
  | blank | quit | help => exact ⟨rfl, fun hN => absurd rfl hN⟩
  | named =>
    refine ⟨?_, fun hN => absurd rfl hN⟩
    rw [Expr.substitute]
    split
    next b _ => cases b <;> rfl
    next => rfl
  | assignment h ih =>
    exact ⟨Expr.valid_assign_iff.mpr ⟨ih.1, ⟨_, rfl⟩, ih.2 (by decide)⟩,
      fun hN => absurd rfl hN⟩

end Phrase

variable {w : List (Token ν)}

theorem eq_singleton_of_ofTokens_eq_var (hend : ∀ t ∈ w, t.lexeme.isEnd = false) {name : String}
    (h : Expr.ofTokens s.reference w = .var name) : ∃ p, w = [⟨.var name, p⟩] := by
  match w with
  | [] =>
    rw [Expr.ofTokens_nil] at h
    cases h
  | [⟨l, p⟩] =>
    rw [Expr.ofTokens_singleton (hend _ (by simp))] at h
    cases l with
    | var n =>
      obtain rfl : n = name := by simpa [Expr.ofToken] using h
      exact ⟨p, rfl⟩
    | command c _ => cases c <;> simp [Expr.ofToken] at h
    | _ => simp [Expr.ofToken] at h
  | x :: y :: zs =>
    obtain ⟨b, t, a, r, hs⟩ := exists_splitAt s hend (by simp)
    have hvar : r.kind ≠ .var := by cases r <;> decide
    rcases hs.kind_ofTokens with hk | hk
    · rw [h] at hk
      exact absurd hk.symm hvar
    · rw [h] at hk
      cases hk

theorem SplitAt.assign_parts {b a : List (Token ν)} {t : Token ν}
    (h : SplitAt s w b t a .assign) (hv : (Expr.resolved s w).Valid) :
    Expr.ofTokens s.reference w =
        .assign (Expr.ofTokens s.reference b) (Expr.ofTokens s.reference a) ∧
      (Expr.resolved s a).Valid ∧ (∃ name, Expr.ofTokens s.reference b = .var name) ∧
        Nonterminal.expression.admits (Expr.resolved s a).kind = true := by
  have htree := h.tree
  simp only [Pivot.split] at htree
  split at htree
  · rw [Expr.resolved, htree] at hv
    exact (Expr.not_valid_invalidWindow _ _ _ hv).elim
  · refine ⟨htree, ?_⟩
    rw [Expr.resolved, htree] at hv
    exact Expr.valid_assign_iff.mp hv

theorem Phrase.expression_of_admits (hend : ∀ t ∈ w, t.lexeme.isEnd = false)
    (hv : (Expr.resolved s w).Valid)
    (hk : Nonterminal.expression.admits (Expr.resolved s w).kind = true) :
    Phrase s .expression w (Expr.ofTokens s.reference w) := by
  refine covered hend hv .expression hk fun q hq => ?_
  rcases Bool.or_eq_true _ _ ▸ hk with hn | hu
  · exact looseness_le_of_isNumber hend hv hn q hq
  · exact Nat.le_trans (looseness_le_of_isUnit hend hv hu q hq) (by decide)

theorem Phrase.statement_singleton {t : Token ν} (hend : t.lexeme.isEnd = false)
    (hv : (Expr.resolved s [t]).Valid) :
    Phrase s .statement [t] (Expr.ofTokens s.reference [t]) := by
  have hends : ∀ x ∈ [t], x.lexeme.isEnd = false := by simpa using hend
  have htree : Expr.ofTokens s.reference [t] = Expr.ofToken t := Expr.ofTokens_singleton hend
  have hexpression (hk : Nonterminal.expression.admits (Expr.resolved s [t]).kind = true) :=
    Phrase.ofExpression (Phrase.expression_of_admits hends hv hk)
  rw [Expr.resolved, htree] at hv hexpression
  rw [htree]
  obtain ⟨l, p⟩ := t
  cases l with
  | number x => exact hexpression rfl
  | unit b => exact hexpression rfl
  | var name => exact .named
  | command c _ =>
    cases c with
    | quit => exact .quit
    | help => exact .help
  | endOfLine => cases hend
  | _ => exact (Expr.not_valid_invalid _ hv).elim

/-- A row that passes the check is a statement, and its tree is that of the statement. -/
theorem Phrase.statement_of_valid (hend : ∀ t ∈ w, t.lexeme.isEnd = false)
    (hv : (Expr.resolved s w).Valid) : Phrase s .statement w (Expr.ofTokens s.reference w) := by
  match hw : w with
  | [] =>
    rw [Expr.ofTokens_nil]
    exact .blank
  | [t] => exact Phrase.statement_singleton (hend t (by simp)) hv
  | x :: y :: zs =>
    rw [← hw] at hend hv ⊢
    obtain ⟨b, ⟨l, p⟩, a, r, h⟩ := exists_splitAt s hend (by simp [hw])
    have hk := h.kind_resolved hv
    cases r with
    | assign =>
      have hop : (l.rule s.reference (b.getLast?.map Token.lexeme)
          (a.head?.map Token.lexeme)).operator? = some .equals := h.rule ▸ rfl
      obtain ⟨c, rfl⟩ := Lexeme.exists_operator_of_rule hop
      obtain ⟨htree, hva, ⟨name, hname⟩, hka⟩ := h.assign_parts hv
      have hmem : ∀ t ∈ b ++ (⟨.operator .equals c, p⟩ : Token ν) :: a, t.lexeme.isEnd = false :=
        h.row ▸ hend
      have hendb : ∀ t ∈ b, t.lexeme.isEnd = false := fun t ht => hmem t (by simp [ht])
      have henda : ∀ t ∈ a, t.lexeme.isEnd = false := fun t ht => hmem t (by simp [ht])
      have hvalue := Phrase.expression_of_admits henda hva hka
      rw [htree, hname, h.row]
      obtain ⟨q, rfl⟩ := eq_singleton_of_ofTokens_eq_var hendb hname
      exact .assignment hvalue
    | noSplit =>
      exact absurd hk (Expr.kind_ne_invalid_of_valid hv)
    | _ =>
      refine .ofExpression (Phrase.expression_of_admits hend hv ?_)
      rw [hk]
      rfl

/-- The tokens of a line that is a statement. -/
def IsLine (s : Store ν) (ts : List (Token ν)) (tree : Expr ν) : Prop :=
  ∃ w pos, ts = w ++ [⟨.endOfLine, pos⟩] ∧ Phrase s .statement w tree

theorem IsLine.ofTokens_eq {ts : List (Token ν)} {tree : Expr ν} (h : IsLine s ts tree) :
    Expr.ofTokens s.reference ts = tree := by
  obtain ⟨w, pos, rfl, hphrase⟩ := h
  rw [Expr.ofTokens_append_end hphrase.forall_not_isEnd, hphrase.ofTokens_eq]

theorem isLine_of_valid (A : Arithmetic ν) {limit : Int} {source : String}
    (hv : ((Expr.ofLine s.reference A limit source).substitute s).Valid) :
    IsLine s (Token.tokenize A limit source) (Expr.ofLine s.reference A limit source) := by
  obtain ⟨w, ⟨l, pos⟩, hw, hbefore, hl⟩ := Token.exists_tokenize_eq A limit source
  have hend : ∀ t ∈ w, t.lexeme.isEnd = false := by
    intro t ht
    have := hbefore t ht
    simp_all [Lexeme.stops]
  rw [Expr.ofLine, hw] at hv ⊢
  cases l with
  | endOfLine =>
    rw [Expr.ofTokens_append_end hend] at hv ⊢
    exact ⟨w, pos, rfl, Phrase.statement_of_valid hend hv⟩
  | invalid reason =>
    have hends : ∀ t ∈ w ++ [(⟨.invalid reason, pos⟩ : Token ν)], t.lexeme.isEnd = false := by
      simpa [Lexeme.isEnd, or_imp, forall_and] using hend
    have hphrase := Phrase.statement_of_valid hends hv
    have hvalid := (hphrase.not_isEnd_of_mem ⟨.invalid reason, pos⟩ (by simp)).2
    cases hvalid
  | _ => cases hl

theorem checkValid_ofLine_iff (A : Arithmetic ν) (s : Store ν) (limit : Int) (source : String) :
    let e := Expr.ofLine s.reference A limit source
    let verdict := ((e.substitute s).checkValid.perform {}).1
    (verdict = .ok true ↔ ∃ tree, IsLine s (Token.tokenize A limit source) tree) ∧
      (∀ tree, IsLine s (Token.tokenize A limit source) tree → e = tree) ∧
      (verdict = .ok true ∨ verdict = .ok false) := by
  intro e verdict
  have htree : ∀ tree, IsLine s (Token.tokenize A limit source) tree → e = tree :=
    fun tree h => h.ofTokens_eq
  refine ⟨⟨fun h => ?_, fun ⟨tree, h⟩ => ?_⟩, htree, ?_⟩
  · exact ⟨e, isLine_of_valid A (Expr.checkValid_eq_true_iff.mp h)⟩
  · obtain ⟨w, pos, _, hphrase⟩ := id h
    exact Expr.checkValid_eq_true_iff.mpr (htree tree h ▸ hphrase.valid.1)
  · have hjoined : e.Joined := Expr.joined_ofTokens _ _
    obtain ⟨d, hd⟩ := Expr.exists_objection?_of_joined (Expr.joined_substitute hjoined s)
    simp only [verdict, Expr.checkValid_perform, hd]
    cases d with
    | none => exact .inl rfl
    | some d => exact .inr rfl

end Quantities
