import Quantities.Proofs.Entries
import Quantities.Proofs.Grammar.Statement
import Quantities.Proofs.Unit.Canonical

namespace Quantities

variable {ν : Type}

namespace Expr

def IsPlain : Expr ν → Prop
  | const _ => True
  | bin .quantity (const _) (unit u) => u.Canonical
  | _ => False

/-- A number, perhaps with a minus. -/
def IsDegree : Expr ν → Prop
  | neg e => e.IsPlain
  | e => e.IsPlain

def Computable : Expr ν → Prop
  | const _ => True
  | unit u => u.Canonical
  | neg e => e.Computable
  | bin op l r =>
    op.isBinary = true ∧ (op = .power → r.IsDegree) ∧ l.Computable ∧ r.Computable
  | _ => False

theorem IsPlain.isDegree {e : Expr ν} (h : e.IsPlain) : e.IsDegree := by
  cases e with
  | neg e => cases h
  | _ => exact h

theorem IsPlain.computable {e : Expr ν} (h : e.IsPlain) : e.Computable := by
  unfold IsPlain at h
  split at h
  · trivial
  · exact ⟨rfl, by simp, trivial, h⟩
  · exact h.elim

end Expr

def Binding.Canonical : Binding ν → Prop
  | number _ u => u.Canonical
  | unit u => u.Canonical

namespace Store

def Canonical (s : Store ν) : Prop := ∀ p ∈ s.entries, p.2.Canonical

theorem canonical_empty : (empty : Store ν).Canonical := by
  simp [Canonical, empty]

theorem Canonical.get? {s : Store ν} (h : s.Canonical) {name : String} {b : Binding ν}
    (hb : s.get? name = some b) : b.Canonical := by
  obtain ⟨before, after, heq, _⟩ := List.lookup_eq_some_iff.mp hb
  exact h (name, b) (by simp [heq])

theorem Canonical.insert {s : Store ν} (h : s.Canonical) {name : String} {b : Binding ν}
    (hb : b.Canonical) : (s.insert name b).Canonical := by
  intro p hp
  rcases Entries.mem_of_mem_set hp with hp | rfl
  · exact h p hp
  · exact hb

end Store

variable {s : Store ν}

theorem Numeral.isPlain (hs : s.Canonical) {t : Lexeme ν} {e : Expr ν} (h : Numeral s t e) :
    (e.substitute s).IsPlain := by
  cases h with
  | literal x => exact trivial
  | bound h =>
    rw [Expr.substitute, h]
    exact hs.get? h

theorem UnitWord.computable (hs : s.Canonical) {t : Token ν} {e : Expr ν} (ht : t.IsLiteral)
    (h : UnitWord s t.lexeme e) : (e.substitute s).Computable := by
  obtain ⟨l, p⟩ := t
  cases h with
  | literal b => exact CompoundUnit.canonical_ofBase (ht b rfl)
  | bound h =>
    rw [Expr.substitute, h]
    exact hs.get? h

theorem Phrase.computable (hs : s.Canonical) {N : Nonterminal} {w : List (Token ν)} {e : Expr ν}
    (h : Phrase s N w e) (hN : N ≠ .statement) (hw : ∀ t ∈ w, t.IsLiteral) :
    (e.substitute s).Computable := by
  induction h with
  | word h => exact h.computable hs (hw _ (by simp))
  | number h => exact (h.isPlain hs).computable
  | raised hl hr ih =>
    have hd := hr.isPlain hs
    have hleft := ih (by decide) fun t ht => hw t (by simp [ht])
    exact ⟨rfl, fun _ => hd.isDegree, hleft, hd.computable⟩
  | raisedMinus hl hr ih =>
    have hd := hr.isPlain hs
    have hleft := ih (by decide) fun t ht => hw t (by simp [ht])
    exact ⟨rfl, fun _ => hd, hleft, hd.computable⟩
  | ofPower h ih | ofCompound h ih | ofSigned h ih | ofProduct h ih | ofUnit h ih
  | ofSum h ih => exact ih (by decide) hw
  | minus h ih => exact ih (by decide) fun t ht => hw t (by simp [ht])
  | quantity hl hr ih =>
    have hright := ih (by decide) fun t ht => hw t (by simp [ht])
    exact ⟨rfl, by simp, (hl.isPlain hs).computable, hright⟩
  | adjacent hl hr ihl ihr | stroke hl hr ihl ihr | times hl hr ihl ihr | divided hl hr ihl ihr
  | plus hl hr ihl ihr | less hl hr ihl ihr | converted hl hr ihl ihr =>
    have hleft := ihl (by decide) fun t ht => hw t (by simp [ht])
    have hright := ihr (by decide) fun t ht => hw t (by simp [ht])
    exact ⟨rfl, by simp, hleft, hright⟩
  | blank | quit | help | named | assignment | ofExpression => exact absurd rfl hN

/-- A line that passes the check is a statement whose units are those of words. -/
theorem exists_literal_phrase (A : Arithmetic ν) {limit : Int} {source : String}
    (hv : ((Expr.ofLine s.reference A limit source).substitute s).Valid) :
    ∃ w, Phrase s .statement w (Expr.ofLine s.reference A limit source) ∧
      ∀ t ∈ w, t.IsLiteral := by
  obtain ⟨w, pos, htokens, hphrase⟩ := isLine_of_valid A hv
  have hliteral : ∀ t ∈ Token.tokenize A limit source, t.IsLiteral :=
    Token.isLiteral_of_mem_tokenize A
  exact ⟨w, hphrase, fun t ht => hliteral t (by simp [htokens, ht])⟩

end Quantities
