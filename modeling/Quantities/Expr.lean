import Quantities.Arithmetic
import Quantities.CompoundUnit
import Quantities.SyntaxError

namespace Quantities

inductive Expr (ν : Type) where
  | const (value : ν)
  | unit (u : CompoundUnit)
  | var (name : String)
  | neg (operand : Expr ν)
  /-- Two expressions joined by an operator, which may be unwritten. Only the binary kinds have a
  meaning as operators. -/
  | bin (op : Kind) (left right : Expr ν)
  | assign (target value : Expr ν)
  | empty
  | quit
  | help
  | invalid (reason : Option SyntaxError)
  deriving DecidableEq, Repr

namespace Expr

variable {ν : Type}

def kind : Expr ν → Kind
  | const _ => .constant
  | unit _ => .unit
  | var _ => .var
  | neg _ => .negation
  | bin op _ _ => op
  | assign _ _ => .assignment
  | empty => .empty
  | quit => .quit
  | help => .help
  | invalid _ => .invalid

/-- The normal form of a number with its unit. -/
def quantity (x : ν) (u : CompoundUnit) : Expr ν := bin .quantity (const x) (unit u)

/-- Whether an expression only describes a unit. A quotient does if both its sides do. -/
def isUnit : Expr ν → Bool
  | bin .div l r => l.isUnit && r.isUnit
  | e => e.kind.isUnit

def isNumber : Expr ν → Bool
  | bin .div l r => !(bin .div l r).isUnit
  | e => e.kind.isNumber

def isWritable : Expr ν → Bool
  | unit u => u.isWritable
  | neg e => e.isWritable
  | bin _ l r | assign l r => l.isWritable && r.isWritable
  | _ => true

/-- The text of an expression, with parentheses around every joined pair. -/
def text (A : Arithmetic ν) : Expr ν → String
  | const x => A.shortText x
  | unit u => if u.text = "" then "none" else u.text
  | var name => name
  | neg e => "-" ++ e.text A
  | bin op l r =>
    let joint := match op with
      | .quantity | .unitProduct => " "
      | .unitQuotient => " / "
      | op => " " ++ op.name ++ " "
    "(" ++ l.text A ++ joint ++ r.text A ++ ")"
  | assign t v => t.text A ++ " = " ++ v.text A
  | empty => "<empty>"
  | quit => "<quit>"
  | help => "<help>"
  | invalid _ => "<invalid>"

end Expr

end Quantities
