import Quantities.Proofs.Grammar.Statement
import Quantities.Proofs.Token.Position

namespace Quantities

variable {ν : Type} {s : Store ν}

namespace Token

variable {w : List (Token ν)}

theorem lexemes_append (v w : List (Token ν)) : lexemes (v ++ w) = lexemes v ++ lexemes w :=
  List.map_append

theorem lexemes_eq_cons {t : Token ν} {ts : List (Token ν)} (ht : t.lexeme.isInvalid = false)
    (h : lexemes w = lexemes (t :: ts)) :
    ∃ p us, w = ⟨t.lexeme, p⟩ :: us ∧ lexemes us = lexemes ts := by
  obtain ⟨⟨l, p⟩, us, rfl, hl, hus⟩ := List.map_eq_cons_iff.mp h
  obtain rfl : l = t.lexeme := Lexeme.eq_of_bare_eq ht hl
  exact ⟨p, us, rfl, hus⟩

theorem lexemes_eq_append {u v : List (Token ν)} (h : lexemes w = lexemes (u ++ v)) :
    ∃ u' v', w = u' ++ v' ∧ lexemes u' = lexemes u ∧ lexemes v' = lexemes v := by
  rw [lexemes_append] at h
  exact List.map_eq_append_iff.mp h

theorem lexemes_eq_infix {u v : List (Token ν)} {op : Operator} {c : Option String} {p : Nat}
    (h : lexemes w = lexemes (u ++ ⟨.operator op c, p⟩ :: v)) :
    ∃ u' q v', w = u' ++ ⟨.operator op c, q⟩ :: v' ∧ lexemes u' = lexemes u ∧
      lexemes v' = lexemes v := by
  obtain ⟨u', w', rfl, hu, hw⟩ := lexemes_eq_append h
  obtain ⟨q, v', rfl, hv⟩ := lexemes_eq_cons rfl hw
  exact ⟨u', q, v', rfl, hu, hv⟩

theorem lexemes_eq_singleton {t : Token ν} (ht : t.lexeme.isInvalid = false)
    (h : lexemes w = lexemes [t]) : ∃ p, w = [⟨t.lexeme, p⟩] := by
  obtain ⟨p, us, rfl, hus⟩ := lexemes_eq_cons ht h
  obtain rfl : us = [] := List.map_eq_nil_iff.mp hus
  exact ⟨p, rfl⟩

end Token

open Token

theorem Numeral.isInvalid_eq_false {t : Lexeme ν} {e : Expr ν} (h : Numeral s t e) :
    t.isInvalid = false := by
  cases h <;> rfl

theorem UnitWord.isInvalid_eq_false {t : Lexeme ν} {e : Expr ν} (h : UnitWord s t e) :
    t.isInvalid = false := by
  cases h <;> rfl

theorem Phrase.of_lexemes {N : Nonterminal} {v w : List (Token ν)} {e : Expr ν}
    (h : Phrase s N w e) (hv : lexemes v = lexemes w) : Phrase s N v e := by
  induction h generalizing v with
  | word h =>
    obtain ⟨p, rfl⟩ := lexemes_eq_singleton h.isInvalid_eq_false hv
    exact .word h
  | number h =>
    obtain ⟨p, rfl⟩ := lexemes_eq_singleton h.isInvalid_eq_false hv
    exact .number h
  | raised hl hr ih =>
    obtain ⟨u, q, ts, rfl, hu, hts⟩ := lexemes_eq_infix hv
    obtain ⟨p, rfl⟩ := lexemes_eq_singleton hr.isInvalid_eq_false hts
    exact .raised (ih hu) hr
  | raisedMinus hl hr ih =>
    obtain ⟨u, q, ts, rfl, hu, hts⟩ := lexemes_eq_infix hv
    obtain ⟨p, us, rfl, hus⟩ := lexemes_eq_cons rfl hts
    obtain ⟨o, rfl⟩ := lexemes_eq_singleton hr.isInvalid_eq_false hus
    exact .raisedMinus (ih hu) hr
  | ofPower h ih => exact .ofPower (ih hv)
  | ofCompound h ih => exact .ofCompound (ih hv)
  | ofSigned h ih => exact .ofSigned (ih hv)
  | ofProduct h ih => exact .ofProduct (ih hv)
  | ofUnit h ih => exact .ofUnit (ih hv)
  | ofSum h ih => exact .ofSum (ih hv)
  | ofExpression h ih => exact .ofExpression (ih hv)
  | adjacent hl hr ihl ihr =>
    obtain ⟨u, u', rfl, hu, hu'⟩ := lexemes_eq_append hv
    exact .adjacent (ihl hu) (ihr hu')
  | stroke hl hr ihl ihr =>
    obtain ⟨u, q, u', rfl, hu, hu'⟩ := lexemes_eq_infix hv
    exact .stroke (ihl hu) (ihr hu')
  | minus h ih =>
    obtain ⟨p, u, rfl, hu⟩ := lexemes_eq_cons rfl hv
    exact .minus (ih hu)
  | quantity hl hr ih =>
    obtain ⟨p, u, rfl, hu⟩ := lexemes_eq_cons hl.isInvalid_eq_false hv
    exact .quantity hl (ih hu)
  | times hl hr ihl ihr =>
    obtain ⟨u, q, u', rfl, hu, hu'⟩ := lexemes_eq_infix hv
    exact .times (ihl hu) (ihr hu')
  | divided hl hr ihl ihr =>
    obtain ⟨u, q, u', rfl, hu, hu'⟩ := lexemes_eq_infix hv
    exact .divided (ihl hu) (ihr hu')
  | plus hl hr ihl ihr =>
    obtain ⟨u, q, u', rfl, hu, hu'⟩ := lexemes_eq_infix hv
    exact .plus (ihl hu) (ihr hu')
  | less hl hr ihl ihr =>
    obtain ⟨u, q, u', rfl, hu, hu'⟩ := lexemes_eq_infix hv
    exact .less (ihl hu) (ihr hu')
  | converted hl hr ihl ihr =>
    obtain ⟨u, q, u', rfl, hu, hu'⟩ := lexemes_eq_infix hv
    exact .converted (ihl hu) (ihr hu')
  | blank =>
    obtain rfl : v = [] := List.map_eq_nil_iff.mp hv
    exact .blank
  | quit =>
    obtain ⟨p, rfl⟩ := lexemes_eq_singleton rfl hv
    exact .quit
  | help =>
    obtain ⟨p, rfl⟩ := lexemes_eq_singleton rfl hv
    exact .help
  | named =>
    obtain ⟨p, rfl⟩ := lexemes_eq_singleton rfl hv
    exact .named
  | assignment h ih =>
    obtain ⟨p, us, rfl, hus⟩ := lexemes_eq_cons rfl hv
    obtain ⟨q, u, rfl, hu⟩ := lexemes_eq_cons rfl hus
    exact .assignment (ih hu)

theorem Phrase.ofBound {name : String} {b : Binding ν} {p : Nat}
    (h : s.get? name = some b) : Phrase s .expression [⟨.var name, p⟩] (.var name) := by
  cases b with
  | number x u => exact .ofSum (.ofProduct (.ofSigned (.number (.bound h))))
  | unit u => exact .ofUnit (.ofCompound (.ofPower (.word (.bound h))))

/-- No expression holds an equals sign behind a name, for it would split there first. -/
theorem Phrase.not_expression_of_equals {name : String} {c : Option String} {p q : Nat}
    {w : List (Token ν)} {e : Expr ν} :
    ¬ Phrase s .expression (⟨.var name, p⟩ :: ⟨.operator .equals c, q⟩ :: w) e := by
  intro h
  have hle := h.looseness_le (Nat.le_refl _) Nonterminal.follows_none none .assign
    (by simp [rulesBetween, Lexeme.rule])
  exact absurd hle (by decide)

theorem IsLine.of_lexemes {ts us : List (Token ν)} {tree : Expr ν} (h : IsLine s ts tree)
    (hus : lexemes us = lexemes ts) : IsLine s us tree := by
  obtain ⟨w, pos, rfl, hphrase⟩ := h
  obtain ⟨v, last, rfl, hv, hlast⟩ := lexemes_eq_append hus
  obtain ⟨p, rfl⟩ := lexemes_eq_singleton rfl hlast
  exact ⟨v, p, rfl, hphrase.of_lexemes hv⟩

theorem isLine_assignment_iff {ts us : List (Token ν)} {name : String} {c : Option String}
    (h : lexemes us = .var name :: .operator .equals c :: lexemes ts) {tree : Expr ν} :
    IsLine s us tree ↔ ∃ w pos e, ts = w ++ [⟨.endOfLine, pos⟩] ∧ Phrase s .expression w e ∧
      tree = .assign (.var name) e := by
  have hsame : lexemes us =
      lexemes (⟨.var name, 0⟩ :: ⟨.operator .equals c, 0⟩ :: ts : List (Token ν)) := h
  constructor
  · intro hline
    obtain ⟨w, pos, hw, hphrase⟩ := hline.of_lexemes hsame.symm
    match w, hw with
    | [], hw | [_], hw => simp at hw
    | a :: b :: w, hw =>
      simp only [List.cons_append, List.cons.injEq] at hw
      obtain ⟨rfl, rfl, hw⟩ := hw
      cases hphrase with
      | assignment he => exact ⟨w, pos, _, hw, he, rfl⟩
      | ofExpression he => exact (Phrase.not_expression_of_equals he).elim
  · rintro ⟨w, pos, e, rfl, he, rfl⟩
    have hline : IsLine s (⟨.var name, 0⟩ :: ⟨.operator .equals c, 0⟩ ::
        (w ++ [⟨.endOfLine, pos⟩])) (.assign (.var name) e) :=
      ⟨_ :: _ :: w, pos, rfl, .assignment he⟩
    exact hline.of_lexemes hsame

end Quantities
