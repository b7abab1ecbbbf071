import Quantities.Main
import Quantities.History
import Quantities.Proofs.Grammar.Acceptance
import Quantities.Proofs.Grammar.Splitting
import Quantities.Proofs.Grammar.Statement
import Quantities.Proofs.Unit.Canonical
import Quantities.Proofs.Unit.Factor
import Quantities.Proofs.Expr.Computable
import Quantities.Proofs.Expr.Units
import Quantities.Proofs.Expr.Conversions
import Quantities.Proofs.Expr.Result
import Quantities.Proofs.Session.Reachable
import Quantities.Proofs.Session.Fault
import Quantities.Proofs.Session.Replay
import Quantities.Proofs.Session.Canonical
import Quantities.Proofs.Unit.Convertible
import Quantities.Proofs.Unit.Power
import Quantities.Proofs.Expr.Derivation
import Quantities.Proofs.Expr.Dimension
import Quantities.Proofs.Unit.Scale
import Quantities.Proofs.Expr.Magnitude
import Quantities.Proofs.Expr.Division
import Quantities.Proofs.Expr.Explanation
import Quantities.Proofs.Grammar.Assignment
import Quantities.Proofs.Session.Assignment
import Quantities.Proofs.Grammar.Window
import Quantities.Proofs.Grammar.Occurrence
import Quantities.Proofs.Session.Commute
import Quantities.Proofs.Token.Longest
import Quantities.Proofs.Token.Decimal
import Quantities.Proofs.Token.Lexeme
import Quantities.Proofs.Token.Lossless
import Quantities.Proofs.Grammar.Yield
import Quantities.Proofs.Grammar.Display
import Quantities.Proofs.Number.Whole
import Quantities.Proofs.Session.Display
import Quantities.Proofs.Session.Recall
import Quantities.Proofs.Session.Settings
import Quantities.Proofs.Session.Sources
import Quantities.Proofs.Session.Adjacency
import Quantities.Proofs.Session.Explanation
import Quantities.Proofs.Expr.Placeholder
import Quantities.Proofs.Unit.Identity
import Quantities.Proofs.Unit.Rounding
import Quantities.Proofs.Unit.Adjacent
import Quantities.Proofs.Number.Unity
import Quantities.Proofs.Expr.Unscaled
import Quantities.Proofs.Expr.Shape
import Quantities.Proofs.Expr.FirstDiagnostic
import Quantities.Proofs.Expr.Substitution
import Quantities.Proofs.Session.WellFormed
import Quantities.Proofs.History
import Quantities.Proofs.Grammar.Locality
