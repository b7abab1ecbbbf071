import Quantities.Expr.Window
import Quantities.Token.Scan

namespace Quantities

variable {ν : Type} (ref : Reference)

def Expr.ofTokens (w : List (Token ν)) : Expr ν :=
  match _h : Split.ofWindow ref w with
  | .leaf e => e
  | .negation o => .neg (Expr.ofTokens o)
  | .assignment t v => .assign (Expr.ofTokens t) (Expr.ofTokens v)
  | .joint op l r => .bin op (Expr.ofTokens l) (Expr.ofTokens r)
termination_by w.length
decreasing_by
  all_goals
    refine Split.length_lt_of_mem_parts ref ?_
    simp [_h, Split.parts]

/-- The expression that a line makes up. -/
def Expr.ofLine (A : Arithmetic ν) (limit : Int) (source : String) : Expr ν :=
  Expr.ofTokens ref (Token.tokenize A limit source)

end Quantities
