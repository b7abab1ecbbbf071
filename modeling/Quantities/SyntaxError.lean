import Quantities.Text.Quoted

namespace Quantities

inductive SyntaxError where
  | tooLong (limit : Int)
  /-- A null character ends the line early. -/
  | endOfInput (pos : Nat)
  | unexpectedCharacter (c : Char) (pos : Nat)
  | negativeExponent
  | malformedNumber (pos : Nat)
  | numberTooLarge (pos : Nat)
  /-- No token tells how the others belong together. -/
  | senseless
  | unexpectedMinus (pos : Nat)
  | missingOperand (spelling : String)
  | unexpectedToken (spelling : String) (pos : Nat)
  | other (text : String)
  deriving DecidableEq, Repr

namespace SyntaxError

def message : SyntaxError → String
  | tooLong limit => s!"Input exceeds maximum length of {limit} characters"
  | endOfInput pos => s!"Unexpected end of input at position {pos}"
  | unexpectedCharacter c pos =>
    s!"Unexpected character {Text.quoted (String.singleton c)} at position {pos}"
  | negativeExponent => "Negative exponents are not supported in scientific notation"
  | malformedNumber pos => s!"Malformed number at position {pos}"
  | numberTooLarge pos => s!"Number too large at position {pos}"
  | senseless => "Cannot make sense of this expression"
  | unexpectedMinus pos => s!"Unexpected '-' at position {pos}"
  | missingOperand spelling => s!"Operator '{spelling}' is missing an operand"
  | unexpectedToken spelling pos => s!"Unexpected '{spelling}' at position {pos}"
  | other text => text

/-- An empty reason counts as none. -/
def saysSomething (e : SyntaxError) : Bool := e.message ≠ ""

end SyntaxError

end Quantities
