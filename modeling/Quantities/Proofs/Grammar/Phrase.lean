import Quantities.Store
import Quantities.Expr.Window

namespace Quantities

/-- The sorts of phrase, from the tightest to the loosest of units, then of numbers. -/
inductive Nonterminal where
  /-- A unit with its degrees. -/
  | power
  /-- Units side by side. -/
  | compound
  | unit
  /-- A number with its unit, behind any minus signs. -/
  | signed
  | product
  | sum
  | expression
  | statement
  deriving DecidableEq, Repr

variable {ν : Type}

/-- A number, or a variable bound to one. -/
inductive Numeral (s : Store ν) : Lexeme ν → Expr ν → Prop
  | literal (x : ν) : Numeral s (.number x) (.const x)
  | bound {name : String} {x : ν} {u : CompoundUnit} (h : s.get? name = some (.number x u)) :
      Numeral s (.var name) (.var name)

/-- A unit, or a variable bound to one. -/
inductive UnitWord (s : Store ν) : Lexeme ν → Expr ν → Prop
  | literal (b : BaseUnit) : UnitWord s (.unit b) (.unit (.ofBase b))
  | bound {name : String} {u : CompoundUnit} (h : s.get? name = some (.unit u)) :
      UnitWord s (.var name) (.var name)

/-- The rows of tokens of each sort and the expressions they stand for. -/
inductive Phrase (s : Store ν) : Nonterminal → List (Token ν) → Expr ν → Prop
  | word {t e} (h : UnitWord s t.lexeme e) : Phrase s .power [t] e
  | raised {v t l r c p} (hl : Phrase s .power v l) (hr : Numeral s t.lexeme r) :
      Phrase s .power (v ++ [⟨.operator .caret c, p⟩, t]) (.bin .power l r)
  | raisedMinus {v t l r c p m q} (hl : Phrase s .power v l) (hr : Numeral s t.lexeme r) :
      Phrase s .power (v ++ [⟨.operator .caret c, p⟩, ⟨.operator .sub m, q⟩, t])
        (.bin .power l (.neg r))
  | ofPower {w e} (h : Phrase s .power w e) : Phrase s .compound w e
  | adjacent {v w l r} (hl : Phrase s .compound v l) (hr : Phrase s .power w r) :
      Phrase s .compound (v ++ w) (.bin .unitProduct l r)
  | ofCompound {w e} (h : Phrase s .compound w e) : Phrase s .unit w e
  | stroke {v w l r c p} (hl : Phrase s .unit v l) (hr : Phrase s .compound w r) :
      Phrase s .unit (v ++ ⟨.operator .div c, p⟩ :: w) (.bin .unitQuotient l r)
  | minus {w e c p} (h : Phrase s .signed w e) :
      Phrase s .signed (⟨.operator .sub c, p⟩ :: w) (.neg e)
  | number {t e} (h : Numeral s t.lexeme e) : Phrase s .signed [t] e
  | quantity {t w l r} (hl : Numeral s t.lexeme l) (hr : Phrase s .unit w r) :
      Phrase s .signed (t :: w) (.bin .quantity l r)
  | ofSigned {w e} (h : Phrase s .signed w e) : Phrase s .product w e
  | times {v w l r c p} (hl : Phrase s .product v l) (hr : Phrase s .signed w r) :
      Phrase s .product (v ++ ⟨.operator .mul c, p⟩ :: w) (.bin .mul l r)
  | divided {v w l r c p} (hl : Phrase s .product v l) (hr : Phrase s .signed w r) :
      Phrase s .product (v ++ ⟨.operator .div c, p⟩ :: w) (.bin .div l r)
  | ofProduct {w e} (h : Phrase s .product w e) : Phrase s .sum w e
  | plus {v w l r c p} (hl : Phrase s .sum v l) (hr : Phrase s .product w r) :
      Phrase s .sum (v ++ ⟨.operator .add c, p⟩ :: w) (.bin .add l r)
  | less {v w l r c p} (hl : Phrase s .sum v l) (hr : Phrase s .product w r) :
      Phrase s .sum (v ++ ⟨.operator .sub c, p⟩ :: w) (.bin .sub l r)
  | ofUnit {w e} (h : Phrase s .unit w e) : Phrase s .expression w e
  | ofSum {w e} (h : Phrase s .sum w e) : Phrase s .expression w e
  | converted {v w l r c p} (hl : Phrase s .sum v l) (hr : Phrase s .unit w r) :
      Phrase s .expression (v ++ ⟨.operator .convert c, p⟩ :: w) (.bin .convert l r)
  | blank : Phrase s .statement [] .empty
  | quit {c p} : Phrase s .statement [⟨.command .quit c, p⟩] .quit
  | help {c p} : Phrase s .statement [⟨.command .help c, p⟩] .help
  | named {name p} : Phrase s .statement [⟨.var name, p⟩] (.var name)
  | assignment {name w e c p q} (h : Phrase s .expression w e) :
      Phrase s .statement (⟨.var name, p⟩ :: ⟨.operator .equals c, q⟩ :: w)
        (.assign (.var name) e)
  | ofExpression {w e} (h : Phrase s .expression w e) : Phrase s .statement w e

namespace Numeral

variable {s : Store ν} {t : Lexeme ν} {e : Expr ν}

theorem isNumber_eq_true (h : Numeral s t e) : t.isNumber s.reference = true := by
  cases h with
  | literal x => rfl
  | bound h => simp [Lexeme.isNumber, Store.reference, Store.holdsNumber, h, Binding.isNumber]

theorem isUnit_eq_false (h : Numeral s t e) : t.isUnit s.reference = false := by
  cases h with
  | literal x => rfl
  | bound h => simp [Lexeme.isUnit, Store.reference, Store.holdsUnit, h, Binding.isNumber]

theorem isOperator_eq_false (h : Numeral s t e) : t.isOperator = false := by
  cases h <;> rfl

end Numeral

namespace UnitWord

variable {s : Store ν} {t : Lexeme ν} {e : Expr ν}

theorem isUnit_eq_true (h : UnitWord s t e) : t.isUnit s.reference = true := by
  cases h with
  | literal b => rfl
  | bound h => simp [Lexeme.isUnit, Store.reference, Store.holdsUnit, h, Binding.isNumber]

theorem isNumber_eq_false (h : UnitWord s t e) : t.isNumber s.reference = false := by
  cases h with
  | literal b => rfl
  | bound h => simp [Lexeme.isNumber, Store.reference, Store.holdsNumber, h, Binding.isNumber]

theorem isOperator_eq_false (h : UnitWord s t e) : t.isOperator = false := by
  cases h <;> rfl

end UnitWord

end Quantities
