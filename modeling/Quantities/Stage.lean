import Quantities.Diagnostic
import Quantities.Fault

namespace Quantities

/-- A stage of a line's computation reads and extends the line's report. A fault leaves the report
as it is. -/
abbrev Stage (α : Type) := ExceptT Fault (StateM Report) α

namespace Stage

variable {α : Type}

def report (d : Diagnostic) : Stage PUnit := modify (·.add d)

def failed : Stage Bool := return (← get).isSet

def perform (s : Stage α) (r : Report) : Except Fault α × Report := s.run.run r

end Stage

end Quantities
