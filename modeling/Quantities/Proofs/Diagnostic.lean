import Quantities.Arithmetic
import Quantities.Diagnostic

namespace Quantities

variable {ν : Type}

/-- The words that a reason repeats. -/
def SyntaxError.words : SyntaxError → List String
  | missingOperand spelling | unexpectedToken spelling _ => [spelling]
  | other text => [text]
  | _ => []

namespace Diagnostic

/-- The words that a diagnostic repeats. -/
def words : Diagnostic → List String
  | invalidExpression (some reason) => reason.words
  | undefinedVariable name | assignmentValue _ name => [name]
  | degreeNotWhole degree => [degree]
  | other text => [text]
  | _ => []

/-- Whether a diagnostic names a cause of its own. -/
def isSpecific : Diagnostic → Bool
  | unexplained | other _ => false
  | _ => true

/-- The texts differ from the start, so that names and units in them do not matter. -/
theorem toList_message_ne {d : Diagnostic} (h : d.isSpecific = true) :
    d.message.toList ≠ [] ∧ d.message.toList ≠ unexplained.message.toList := by
  cases d with
  | unexplained | other => cases h
  | invalidExpression reason =>
    cases reason <;> delta message <;> simp [toString]
  | _ =>
    delta message
    simp [toString]

theorem message_ne {d : Diagnostic} (h : d.isSpecific = true) :
    d.message ≠ "" ∧ d.message ≠ unexplained.message := by
  obtain ⟨hempty, hother⟩ := toList_message_ne h
  exact ⟨fun heq => hempty (by rw [heq]; rfl), fun heq => hother (by rw [heq])⟩

/-- A cause that may be found in an expression which has these words. Apart from them, only a degree
is repeated. -/
def Arises (A : Arithmetic ν) (ws : List String) (d : Diagnostic) : Prop :=
  d.isSpecific = true ∧ (d.words ⊆ ws ∨ ∃ x, d = .degreeNotWhole (A.shortText x))

theorem Arises.mono {A : Arithmetic ν} {ws ws' : List String} {d : Diagnostic}
    (h : d.Arises A ws) (hw : ws ⊆ ws') : d.Arises A ws' :=
  ⟨h.1, h.2.imp_left fun hd => List.Subset.trans hd hw⟩

end Diagnostic

namespace Report

theorem eq_clear {r : Report} (h : r.isSet = false) : r = {} := by
  obtain ⟨_ | d⟩ := r
  · rfl
  · cases h

end Report

end Quantities
