import Quantities.BaseUnit
import Quantities.SyntaxError

namespace Quantities

inductive Operator where
  | equals | convert | add | sub | mul | div | caret
  deriving DecidableEq, Repr

inductive Command where
  | help | quit
  deriving DecidableEq, Repr

/-- Operators and commands keep the spelling they had in the line. -/
inductive Lexeme (ν : Type) where
  | number (value : ν)
  | unit (base : BaseUnit)
  | var (name : String)
  | operator (op : Operator) (spelling : Option String)
  | command (command : Command) (spelling : Option String)
  | blank
  | endOfLine
  | invalid (reason : Option SyntaxError)
  deriving Repr

namespace Lexeme

variable {ν : Type}

def isBlank : Lexeme ν → Bool
  | blank => true
  | _ => false

def isInvalid : Lexeme ν → Bool
  | invalid _ => true
  | _ => false

def isEnd : Lexeme ν → Bool
  | endOfLine => true
  | _ => false

def isOperator : Lexeme ν → Bool
  | operator .. => true
  | _ => false

/-- The text of a lexeme within a message. -/
def spelling : Lexeme ν → String
  | operator _ s | command _ s => s.getD "None"
  | unit b => b.symbol
  | var name => name
  | _ => "None"

/-- Numbers are compared by the number system, which may hold two of them equal that differ in
sign, or one of them unequal to itself. -/
def agrees [BEq ν] : Lexeme ν → Lexeme ν → Bool
  | number x, number y => x == y
  | unit a, unit b => a = b
  | var x, var y => x = y
  | operator o s, operator p t => o = p && s = t
  | command c s, command d t => c = d && s = t
  | blank, blank | endOfLine, endOfLine => true
  | invalid r, invalid s => r.map SyntaxError.message = s.map SyntaxError.message
  | _, _ => false

end Lexeme

structure Token (ν : Type) where
  lexeme : Lexeme ν
  pos : Nat
  deriving Repr

instance {ν : Type} [BEq ν] : BEq (Token ν) := ⟨fun s t => s.lexeme.agrees t.lexeme⟩

end Quantities
