import Quantities.Token

namespace Quantities

/-- What the variables of a line stand for while it is parsed. -/
structure Reference where
  holdsNumber : String → Bool
  holdsUnit : String → Bool

def Reference.none : Reference := ⟨fun _ => false, fun _ => false⟩

/-- The ways a token can split its window. -/
inductive Rule where
  | assign
  | convert
  | add
  | sub
  | mul
  | div
  /-- A minus in front of what it negates. -/
  | negate
  /-- A number before its unit. -/
  | leadingNumber
  /-- A stroke before a unit. -/
  | unitStroke
  /-- A unit behind another one. -/
  | adjacentUnit
  | power
  /-- A minus in front of a degree. -/
  | degreeMinus
  | noSplit
  deriving DecidableEq, Repr

namespace Rule

/-- The loosest rule splits first. -/
def looseness : Rule → Nat
  | assign => 10
  | convert => 9
  | add | sub => 8
  | mul | div => 7
  | negate => 6
  | leadingNumber => 5
  | unitStroke => 4
  | adjacentUnit => 3
  | power => 2
  | degreeMinus => 1
  | noSplit => 0

/-- Of several tokens that bind equally, the last one splits if they group to the left. -/
def groupsLeft : Rule → Bool
  | add | sub | mul | div | unitStroke | adjacentUnit | power => true
  | _ => false

/-- Whether a token under this rule is the pivot rather than an earlier one. -/
def displaces (later earlier : Rule) : Bool :=
  earlier.looseness < later.looseness
    || (earlier.looseness = later.looseness && later.groupsLeft)

end Rule

variable {ν : Type} (ref : Reference)

namespace Lexeme

/-- A number, or a variable that holds one. -/
def isNumber : Lexeme ν → Bool
  | number _ => true
  | var name => ref.holdsNumber name
  | _ => false

/-- A unit, or a variable that holds one. -/
def isUnit : Lexeme ν → Bool
  | unit _ => true
  | var name => ref.holdsUnit name
  | _ => false

def rule (previous : Option (Lexeme ν)) (t : Lexeme ν) (next : Option (Lexeme ν)) : Rule :=
  match t with
  | operator .equals _ => .assign
  | operator .convert _ => .convert
  | operator .add _ => .add
  | operator .mul _ => .mul
  | operator .caret _ => .power
  | operator .sub _ =>
    match previous with
    | some (operator .caret _) => .degreeMinus
    | some p => if p.isOperator then .negate else .sub
    | none => .negate
  | operator .div _ => if next.any (·.isUnit ref) then .unitStroke else .div
  | t =>
    match previous with
    | none => if t.isNumber ref then .leadingNumber else .noSplit
    | some _ => if t.isUnit ref then .adjacentUnit else .noSplit

theorem rule_none_ne_adjacentUnit (t : Lexeme ν) (next : Option (Lexeme ν)) :
    t.rule ref none next ≠ .adjacentUnit := by
  unfold rule
  repeat' split
  all_goals simp_all

end Lexeme

end Quantities
