import Quantities.CompoundUnit
import Quantities.Kind
import Quantities.SyntaxError

namespace Quantities

/-- Why a value in one unit cannot be expressed in another. -/
inductive Mismatch where
  | unknownUnit
  | size (left right : Nat)
  | missing (term : Term)
  | degree (term counterpart : Term)
  deriving DecidableEq, Repr

def Mismatch.isWritable : Mismatch → Bool
  | unknownUnit | size .. => true
  | missing t => t.isWritable
  | degree t o => t.isWritable && o.isWritable

def Mismatch.message : Mismatch → String
  | unknownUnit => "unknown unit"
  | size m n => s!"{m} unit term(s) vs {n}"
  | missing t => s!"no {t.category.name} unit to match '{t.text}'"
  | degree t o => s!"degree of '{t.text}' does not match '{o.text}'"

inductive Diagnostic where
  /-- The line is no expression. The reason is missing where none is known. -/
  | invalidExpression (reason : Option SyntaxError)
  | undefinedVariable (name : String)
  | negationOperand (kind : Kind)
  | assignmentTarget (kind : Kind)
  | assignmentValue (kind : Kind) (name : String)
  | operands (op left right : Kind)
  | unitsDiffer (left : CompoundUnit) (op : Kind) (right : CompoundUnit)
  | notConvertible (left right : CompoundUnit) (reason : Mismatch)
  | sameCategory (left right : CompoundUnit)
  | powerOperands (left right : CompoundUnit)
  | degreeNotWhole (degree : String)
  | divisionByZero
  /-- A failure that nothing else was said about. -/
  | unexplained
  | other (text : String)
  deriving DecidableEq, Repr

namespace Diagnostic

def isWritable : Diagnostic → Bool
  | unitsDiffer l _ r | notConvertible l r _ | sameCategory l r | powerOperands l r =>
    l.isWritable && r.isWritable
  | _ => true

def message : Diagnostic → String
  | invalidExpression none => "Invalid expression: could not parse input"
  | invalidExpression (some reason) => s!"Invalid expression: {reason.message}"
  | undefinedVariable name => s!"Variable '{name}' is not defined"
  | negationOperand kind => s!"Invalid operand for negation: {kind.name}"
  | assignmentTarget kind => s!"Cannot assign to {kind.name}: expected a variable name"
  | assignmentValue kind name => s!"Cannot assign {kind.name} to '{name}'"
  | operands op l r => s!"Invalid operands for '{op.name}': {l.name} and {r.name}"
  | unitsDiffer l op r =>
    s!"Units do not match: {l.display true} {op.name} {r.display true}"
  | notConvertible l r reason =>
    s!"Cannot convert {l.display true} to {r.display true}: {reason.message}"
  | sameCategory l r => s!"Cannot combine units of the same category: {l.text} {r.text}"
  | powerOperands l r =>
    s!"Expected single degree unit ^ constant: {l.display true} ^ {r.display true}"
  | degreeNotWhole degree => s!"Degree must be an integer, got {degree}"
  | divisionByZero => "Division by zero"
  | unexplained => "Invalid expression"
  | other text => text

end Diagnostic

/-- What a line is told, if anything. The first diagnostic stays, so that what happens after a
failure cannot mask its cause. -/
structure Report where
  first : Option Diagnostic := none
  deriving DecidableEq, Repr

namespace Report

def isSet (r : Report) : Bool := r.first.isSome

def add (r : Report) (d : Diagnostic) : Report :=
  ⟨r.first.or (some d)⟩

def message? (r : Report) : Option String := r.first.map Diagnostic.message

theorem add_of_isSet {r : Report} (h : r.isSet = true) (d : Diagnostic) : r.add d = r := by
  obtain ⟨_ | x⟩ := r
  · cases h
  · rfl

theorem isSet_add (r : Report) (d : Diagnostic) : (r.add d).isSet = true := by
  obtain ⟨_ | x⟩ := r <;> rfl

end Report

end Quantities
