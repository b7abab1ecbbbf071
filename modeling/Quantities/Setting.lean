namespace Quantities

inductive Moment where
  | date
  | time
  | dateAndTime
  deriving DecidableEq, Repr

/-- A value in a configuration. No setting looks into the fraction of a real number, or into a date
or a time. -/
inductive Setting where
  | null
  | text (s : String)
  | whole (n : Int)
  | real
  | boolean (b : Bool)
  | moment (sort : Moment)
  | list (items : List Setting)
  | table (entries : List (String × Setting))

namespace Setting

def typeName : Setting → String
  | null => "NoneType"
  | text _ => "str"
  | whole _ => "int"
  | real => "float"
  | boolean _ => "bool"
  | moment .date => "date"
  | moment .time => "time"
  | moment .dateAndTime => "datetime"
  | list _ => "list"
  | table _ => "dict"

/-- Lists and tables are written in one piece and cannot be added to later. -/
def isPiece : Setting → Bool
  | list _ | table _ => true
  | _ => false

end Setting

end Quantities
