import Quantities.Proofs.Session.Step

namespace Quantities

variable {ν : Type} (A : Arithmetic ν)

theorem Binding.canonical_iff_computable {b : Binding ν} : b.expr.Computable ↔ b.Canonical := by
  cases b with
  | number x u => simp [expr, Expr.quantity, Expr.Computable, Canonical, Kind.isBinary]
  | unit u => rfl

theorem Binding.numeric_of_isNumber (b : Binding ν) (h : b.expr.isNumber = true) :
    b.expr.Numeric := by
  cases b with
  | number x u => trivial
  | unit u => cases h

theorem Expr.Computable.question?_eq {e : Expr ν} (h : e.Computable) :
    Session.question? e = some (none, e) := by
  cases e with
  | const | unit | neg | bin => rfl
  | _ => cases h

theorem Phrase.answerable {s : Store ν} (hs : s.Canonical) {w : List (Token ν)} {tree e : Expr ν}
    {target : Option String} (h : Phrase s .statement w tree) (hw : ∀ t ∈ w, t.IsLiteral)
    (hq : Session.question? (tree.substitute s) = some (target, e)) : e.Answerable := by
  cases h with
  | blank | quit | help => cases hq
  | named =>
    rw [Expr.substitute] at hq
    split at hq
    next b hb =>
      have hc := Binding.canonical_iff_computable.mpr (hs.get? hb)
      rw [hc.question?_eq] at hq
      cases hq
      exact .inl ⟨hc, fun hn => b.numeric_of_isNumber hn⟩
    next =>
      cases hq
      exact .inr ⟨_, rfl⟩
  | assignment h =>
    cases hq
    exact .inl ⟨h.computable hs (by decide) fun t ht => hw t (by simp [ht]), h.numeric_of_expression⟩
  | ofExpression h =>
    have hc := h.computable hs (by decide) hw
    rw [hc.question?_eq] at hq
    cases hq
    exact .inl ⟨hc, h.numeric_of_expression⟩

theorem CompoundUnit.isWritable_ofBase (b : BaseUnit) : (ofBase b).isWritable = true := by
  have hterm : Term.isWritable ⟨b, 1⟩ = true :=
    Term.isWritable_of_lt_pow (k := 1) (by decide) (show 1 < Nat.pow 10 1 by decide)
  simp [isWritable, ofBase, hterm]

theorem Numeral.isWritable {s : Store ν} {t : Lexeme ν} {e : Expr ν} (h : Numeral s t e) :
    e.isWritable = true := by
  cases h <;> rfl

theorem UnitWord.isWritable {s : Store ν} {t : Lexeme ν} {e : Expr ν} (h : UnitWord s t e) :
    e.isWritable = true := by
  cases h with
  | literal b => exact CompoundUnit.isWritable_ofBase b
  | bound h => rfl

theorem Phrase.isWritable {s : Store ν} {N : Nonterminal} {w : List (Token ν)} {e : Expr ν}
    (h : Phrase s N w e) : e.isWritable = true := by
  induction h with
  | word h => exact h.isWritable
  | number h => exact h.isWritable
  | raised hl hr ih | raisedMinus hl hr ih => exact Bool.and_eq_true_iff.mpr ⟨ih, hr.isWritable⟩
  | quantity hl hr ih => exact Bool.and_eq_true_iff.mpr ⟨hl.isWritable, ih⟩
  | adjacent hl hr ihl ihr | stroke hl hr ihl ihr | times hl hr ihl ihr | divided hl hr ihl ihr
  | plus hl hr ihl ihr | less hl hr ihl ihr | converted hl hr ihl ihr =>
    exact Bool.and_eq_true_iff.mpr ⟨ihl, ihr⟩
  | minus h ih | ofPower h ih | ofCompound h ih | ofSigned h ih | ofProduct h ih | ofUnit h ih
  | ofSum h ih | ofExpression h ih | assignment h ih => exact ih
  | blank | quit | help | named => rfl

/-- All variables hold units that can be written. -/
def Store.Writable (s : Store ν) : Prop := ∀ p ∈ s.entries, p.2.expr.isWritable = true

theorem Store.Writable.get? {s : Store ν} (h : s.Writable) {name : String} {b : Binding ν}
    (hb : s.get? name = some b) : b.expr.isWritable = true := by
  obtain ⟨before, after, heq, _⟩ := List.lookup_eq_some_iff.mp hb
  exact h (name, b) (by simp [heq])

theorem Store.Writable.insert {s : Store ν} (h : s.Writable) {name : String} {b : Binding ν}
    (hb : b.expr.isWritable = true) : (s.insert name b).Writable := by
  intro p hp
  rcases Entries.mem_of_mem_set hp with hp | rfl
  · exact h p hp
  · exact hb

theorem Expr.isWritable_substitute {s : Store ν} (hs : s.Writable) {e : Expr ν}
    (h : e.isWritable = true) : (e.substitute s).isWritable = true := by
  induction e with
  | var name =>
    rw [substitute]
    split
    next b hb => exact hs.get? hb
    next => rfl
  | neg e ih => exact ih h
  | bin op l r ihl ihr =>
    obtain ⟨hl, hr⟩ := Bool.and_eq_true_iff.mp h
    exact Bool.and_eq_true_iff.mpr ⟨ihl hl, ihr hr⟩
  | assign t v _ ih =>
    obtain ⟨ht, hv⟩ := Bool.and_eq_true_iff.mp h
    exact Bool.and_eq_true_iff.mpr ⟨ht, ih hv⟩
  | _ => exact h

theorem Session.isWritable_of_question? {e v : Expr ν} {target : Option String}
    (h : Session.question? e = some (target, v)) (hw : e.isWritable = true) :
    v.isWritable = true := by
  unfold Session.question? at h
  split at h <;> cases h
  · exact (Bool.and_eq_true_iff.mp hw).2
  · exact hw

namespace Session

variable {s : Session ν}

theorem answerable_of_asked? (hs : s.store.Canonical) {line : String} {target : Option String}
    {e : Expr ν} (h : s.asked? A line = some (target, e)) : e.Answerable := by
  obtain ⟨hvalid, hq⟩ := valid_of_asked? A h
  obtain ⟨w, hphrase, hliteral⟩ := exists_literal_phrase A (s := s.store) hvalid
  exact hphrase.answerable hs hliteral hq

theorem canonical_execute (hs : s.store.Canonical) (line : String) :
    (s.execute A line).2.store.Canonical := by
  rcases s.session_execute A line with h | ⟨name, e, b, r, hasked, hresult, h⟩ <;> rw [h]
  · exact hs
  · exact hs.insert ((answerable_of_asked? A hs hasked).canonical_of_result? hresult)

theorem canonical_executeAll (hs : s.store.Canonical) (lines : List String) :
    (s.executeAll A lines).2.store.Canonical := by
  induction lines generalizing s with
  | nil => exact hs
  | cons line lines ih => exact ih (canonical_execute A hs line)

theorem isWritable_of_asked? (hs : s.store.Writable) {line : String} {target : Option String}
    {e : Expr ν} (h : s.asked? A line = some (target, e)) : e.isWritable = true := by
  obtain ⟨hvalid, hq⟩ := valid_of_asked? A h
  obtain ⟨w, hphrase, _⟩ := exists_literal_phrase A (s := s.store) hvalid
  exact isWritable_of_question? hq (Expr.isWritable_substitute hs hphrase.isWritable)

theorem writable_execute (hc : s.store.Canonical) (hs : s.store.Writable) (line : String) :
    (s.execute A line).2.store.Writable := by
  rcases s.session_execute A line with h | ⟨name, e, b, r, hasked, hresult, h⟩ <;> rw [h]
  · exact hs
  · have hw := isWritable_of_asked? A hs hasked
    exact hs.insert ((answerable_of_asked? A hc hasked).isWritable_of_result? hw hresult)

/-- Variables as they are in a session at all times. -/
structure Sound (s : Session ν) : Prop where
  canonical : s.store.Canonical
  writable : s.store.Writable

theorem sound_fresh (config : Config) : Sound ({ config } : Session ν) :=
  ⟨Store.canonical_empty, by simp [Store.Writable]⟩

theorem Sound.execute (h : s.Sound) (line : String) : (s.execute A line).2.Sound :=
  ⟨canonical_execute A h.canonical line, writable_execute A h.canonical h.writable line⟩

theorem Sound.executeAll (h : s.Sound) (lines : List String) :
    (s.executeAll A lines).2.Sound := by
  induction lines generalizing s with
  | nil => exact h
  | cons line lines ih => exact ih (h.execute A line)

theorem config_execute (line : String) : (s.execute A line).2.config = s.config := by
  rcases s.session_execute A line with h | ⟨_, _, _, _, _, _, h⟩ <;> rw [h]

theorem config_executeAll (lines : List String) : (s.executeAll A lines).2.config = s.config := by
  induction lines generalizing s with
  | nil => rfl
  | cons line lines ih => exact ih.trans (config_execute A line)

end Session

end Quantities
