import Quantities.Text.Blank

namespace Quantities

structure History where
  limit : Nat
  entries : List String := []
  deriving DecidableEq, Repr

namespace History

/-- An empty history, which needs a limit that is not negative. -/
def new? (limit : Int) : Option History :=
  if limit < 0 then none else some { limit := limit.toNat }

def accepts (h : History) (line : String) : Bool :=
  !Text.isBlank line && h.entries.getLast? ≠ some line

def add (h : History) (line : String) : History :=
  if h.accepts line then
    let entries := h.entries ++ [line]
    { h with entries := entries.drop (entries.length - h.limit) }
  else h

end History

end Quantities
