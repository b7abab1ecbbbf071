import Quantities.Proofs.Diagnostic
import Quantities.Proofs.Text.Legible

namespace Quantities

open Text

theorem Kind.legible_name (k : Kind) : Legible k.name.toList := by
  cases k <;> exact legible_of_plain rfl

theorem Category.legible_name (c : Category) : Legible c.name.toList := by
  cases c <;> exact legible_of_plain rfl

theorem BaseUnit.legible_symbol (b : BaseUnit) : Legible b.symbol.toList := by
  cases b <;> exact legible_of_plain rfl

theorem Term.legible_text (t : Term) : Legible t.text.toList := by
  unfold text
  split
  · exact t.base.legible_symbol
  · exact (t.base.legible_symbol.append (legible_of_plain rfl)).append (legible_repr_int t.degree)

namespace CompoundUnit

theorem legible_text (u : CompoundUnit) : Legible u.text.toList := by
  unfold text
  repeat' split
  · exact legible_nil
  · exact legible_of_plain rfl
  · rw [String.toList_intercalate]
    refine legible_intercalate (legible_of_plain rfl) fun row hrow => ?_
    simp only [List.map_map, List.mem_map] at hrow
    obtain ⟨t, -, rfl⟩ := hrow
    exact t.legible_text

theorem legible_display (u : CompoundUnit) (explicit : Bool) :
    Legible (u.display explicit).toList := by
  unfold display
  split
  · exact legible_of_plain rfl
  · exact u.legible_text

end CompoundUnit

theorem Mismatch.legible_message (m : Mismatch) : Legible m.message.toList := by
  delta message
  cases m with
  | unknownUnit => exact legible_of_plain rfl
  | size m n => exact ((legible_repr m).append (legible_of_plain rfl)).append (legible_repr n)
  | missing t =>
    exact ((((legible_of_plain rfl).append t.category.legible_name).append
      (legible_of_plain rfl)).append t.legible_text).append (legible_of_plain rfl)
  | degree t o =>
    exact ((((legible_of_plain rfl).append t.legible_text).append
      (legible_of_plain rfl)).append o.legible_text).append (legible_of_plain rfl)

theorem SyntaxError.legible_message {e : SyntaxError} (h : ∀ w ∈ e.words, Legible w.toList) :
    Legible e.message.toList := by
  delta message
  cases e with
  | tooLong limit =>
    exact ((legible_of_plain rfl).append (legible_repr_int limit)).append (legible_of_plain rfl)
  | endOfInput pos | malformedNumber pos | numberTooLarge pos | unexpectedMinus pos =>
    exact (legible_of_plain rfl).append (legible_repr pos)
  | unexpectedCharacter c pos =>
    exact (((legible_of_plain rfl).append (legible_quoted _)).append
      (legible_of_plain rfl)).append (legible_repr pos)
  | negativeExponent | senseless => exact legible_of_plain rfl
  | missingOperand spelling =>
    exact ((legible_of_plain rfl).append (h _ List.mem_cons_self)).append (legible_of_plain rfl)
  | unexpectedToken spelling pos =>
    exact (((legible_of_plain rfl).append (h _ List.mem_cons_self)).append
      (legible_of_plain rfl)).append (legible_repr pos)
  | other text => exact h _ List.mem_cons_self

theorem Diagnostic.legible_message {d : Diagnostic} (h : ∀ w ∈ d.words, Legible w.toList) :
    Legible d.message.toList := by
  delta message
  cases d with
  | invalidExpression reason =>
    cases reason with
    | none => exact legible_of_plain rfl
    | some e => exact (legible_of_plain rfl).append (SyntaxError.legible_message h)
  | undefinedVariable name =>
    exact ((legible_of_plain rfl).append (h _ List.mem_cons_self)).append (legible_of_plain rfl)
  | negationOperand kind => exact (legible_of_plain rfl).append kind.legible_name
  | assignmentTarget kind =>
    exact ((legible_of_plain rfl).append kind.legible_name).append (legible_of_plain rfl)
  | assignmentValue kind name =>
    exact ((((legible_of_plain rfl).append kind.legible_name).append
      (legible_of_plain rfl)).append (h _ List.mem_cons_self)).append (legible_of_plain rfl)
  | operands op l r =>
    exact (((((legible_of_plain rfl).append op.legible_name).append
      (legible_of_plain rfl)).append l.legible_name).append (legible_of_plain rfl)).append
        r.legible_name
  | unitsDiffer l op r =>
    exact (((((legible_of_plain rfl).append (l.legible_display true)).append
      (legible_of_plain rfl)).append op.legible_name).append (legible_of_plain rfl)).append
        (r.legible_display true)
  | notConvertible l r reason =>
    exact (((((legible_of_plain rfl).append (l.legible_display true)).append
      (legible_of_plain rfl)).append (r.legible_display true)).append
        (legible_of_plain rfl)).append reason.legible_message
  | sameCategory l r =>
    exact (((legible_of_plain rfl).append l.legible_text).append (legible_of_plain rfl)).append
      r.legible_text
  | powerOperands l r =>
    exact (((legible_of_plain rfl).append (l.legible_display true)).append
      (legible_of_plain rfl)).append (r.legible_display true)
  | degreeNotWhole degree => exact (legible_of_plain rfl).append (h _ List.mem_cons_self)
  | divisionByZero | unexplained => exact legible_of_plain rfl
  | other text => exact h _ List.mem_cons_self

end Quantities
