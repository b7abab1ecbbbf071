import Quantities.Number.Machine
import Quantities.Proofs.Text.Legible

namespace Quantities.Number

open Text

variable {ds : List Char}

theorem dropTrailingZeros_subset (ds : List Char) : dropTrailingZeros ds ⊆ ds := by
  intro c hc
  have hreverse : c ∈ ds.reverse.dropWhile (· = '0') := List.mem_reverse.mp hc
  exact List.mem_reverse.mp ((List.dropWhile_sublist _).subset hreverse)

theorem legible_zeros (n : Nat) : Legible (List.replicate n '0') :=
  legible_replicate n (isPrintable_of_isPlain rfl)

theorem legible_fractionText (h : Legible ds) : Legible (fractionText ds) := by
  cases ds with
  | nil => exact legible_nil
  | cons d ds => exact legible_cons_of_plain rfl h

theorem legible_exponentText (e : Int) : Legible (exponentText e) := by
  have hdigits : Legible (Nat.toDigits 10 e.natAbs) := legible_toDigits (by decide) _
  have hfilled := legible_append_iff.mpr
    ⟨legible_zeros (2 - (Nat.toDigits 10 e.natAbs).length), hdigits⟩
  unfold exponentText
  split <;> exact legible_cons_of_plain rfl hfilled

theorem legible_scientific (h : Legible ds) (e : Int) : Legible (scientific ds e) := by
  have htake := h.mono (List.take_subset 1 ds)
  have hdrop := legible_fractionText (h.mono (List.drop_subset 1 ds))
  exact legible_append_iff.mpr ⟨legible_append_iff.mpr ⟨htake, hdrop⟩,
    legible_cons_of_plain rfl (legible_exponentText e)⟩

theorem legible_positional (h : Legible ds) (e : Int) : Legible (positional ds e) := by
  unfold positional
  split
  · exact legible_cons_of_plain rfl (legible_cons_of_plain rfl
      (legible_append_iff.mpr ⟨legible_zeros _, h⟩))
  · have htake := h.mono (List.take_subset (e.toNat + 1) ds)
    have hdrop := legible_fractionText (h.mono (List.drop_subset (e.toNat + 1) ds))
    exact legible_append_iff.mpr ⟨legible_append_iff.mpr ⟨htake, legible_zeros _⟩, hdrop⟩

theorem positional_ne_nil (ds : List Char) (e : Int) : positional ds e ≠ [] := by
  unfold positional
  split
  · exact List.cons_ne_nil _ _
  · intro h
    have hlength := congrArg List.length h
    simp only [List.length_append, List.length_take, List.length_replicate, List.length_nil]
      at hlength
    omega

theorem legible_unsignedText (count : Nat) (parts : Parts) :
    Legible (unsignedText count parts) ∧ unsignedText count parts ≠ [] := by
  have hdigits (n : Nat) : Legible (dropTrailingZeros (Nat.toDigits 10 n)) :=
    (legible_toDigits (by decide) n).mono (dropTrailingZeros_subset _)
  unfold unsignedText
  cases parts with
  | nan | infinite => exact ⟨legible_of_plain rfl, List.cons_ne_nil _ _⟩
  | finite negative m e =>
    simp only
    split
    · exact ⟨legible_of_plain rfl, List.cons_ne_nil _ _⟩
    · unfold fractionDigits
      simp only
      split
      · exact ⟨legible_scientific (hdigits _) _, by simp [scientific]⟩
      · exact ⟨legible_positional (hdigits _) _, positional_ne_nil _ _⟩

end Quantities.Number

namespace Quantities.Arithmetic

/-- A number system in which every number has a text that can be seen. -/
def Writes {ν : Type} (A : Arithmetic ν) : Prop := ∀ count x, Text.Shown (A.text count x)

theorem writes_machine : machine.Writes := by
  intro count x
  obtain ⟨hlegible, hne⟩ := Number.legible_unsignedText count (Number.Parts.ofFloat x)
  refine .of_toList String.toList_ofList (Text.legible_append_iff.mpr ⟨?_, hlegible⟩) ?_
  · split
    · exact Text.legible_of_plain rfl
    · exact Text.legible_nil
  · exact fun hempty => hne (List.append_eq_nil_iff.mp hempty).2

end Quantities.Arithmetic
