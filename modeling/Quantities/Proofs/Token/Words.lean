import Quantities.Proofs.Diagnostic
import Quantities.Proofs.Text.Legible
import Quantities.Proofs.Token.Tokenize

namespace Quantities

open Text

variable {ν : Type}

/-- The words that a message may repeat from a lexeme. -/
def Lexeme.words (l : Lexeme ν) : List String :=
  l.spelling :: match l with
    | invalid (some reason) => reason.words
    | _ => []

theorem Lexeme.legible_of_unspelled {l : Lexeme ν} (h : l.words = ["None"]) :
    ∀ w ∈ l.words, Legible w.toList := by
  rw [h]
  exact List.forall_mem_singleton.mpr (legible_of_plain rfl)

namespace Token

theorem isPlain_of_isWordChar {c : Char} (h : isWordChar c = true) : isPlain c = true := by
  have between {low high : Char} (hlow : 32 ≤ low.toNat) (hhigh : high.toNat ≤ 126)
      (hc : low.val ≤ c.val) (hc' : c.val ≤ high.val) : isPlain c = true := by
    refine Bool.and_eq_true_iff.mpr ⟨decide_eq_true ?_, decide_eq_true ?_⟩
    · exact Nat.le_trans hlow (UInt32.le_iff_toNat_le.mp hc)
    · exact Nat.le_trans (UInt32.le_iff_toNat_le.mp hc') hhigh
  rcases Bool.or_eq_true_iff.mp h with h | hunderscore
  · rcases Bool.or_eq_true_iff.mp h with h | hdigit
    · rcases Bool.or_eq_true_iff.mp h with hupper | hlower
      · obtain ⟨hc, hc'⟩ := of_decide_eq_true hupper
        exact between (by decide) (by decide) hc hc'
      · obtain ⟨hc, hc'⟩ := Bool.and_eq_true_iff.mp hlower
        exact between (by decide) (by decide) (of_decide_eq_true hc) (of_decide_eq_true hc')
    · obtain ⟨hc, hc'⟩ := Bool.and_eq_true_iff.mp hdigit
      exact between (by decide) (by decide) (of_decide_eq_true hc) (of_decide_eq_true hc')
  · rw [of_decide_eq_true hunderscore]
    rfl

end Token

theorem IsWord.legible {cs : List Char} (h : IsWord cs) : Legible cs := by
  match cs, h with
  | c :: cs, ⟨hc, hcs⟩ =>
    have hfirst : Token.isWordChar c = true := by simp [Token.isWordChar, Char.isAlphanum, hc]
    refine legible_of_plain (List.all_eq_true.mpr (List.forall_mem_cons.mpr ⟨?_, fun d hd => ?_⟩))
    · exact Token.isPlain_of_isWordChar hfirst
    · exact Token.isPlain_of_isWordChar (hcs d hd)

theorem Operator.legible_symbol (op : Operator) : Legible op.symbol.toList := by
  cases op <;> exact legible_of_plain rfl

namespace Token

variable (A : Arithmetic ν) (pos : Nat)

theorem words_ofWord (w : String) : (ofWord w : Lexeme ν).words = [w] := by
  unfold ofWord
  repeat' split
  · rfl
  · rfl
  next b hb => exact congrArg ([·]) (BaseUnit.symbol_of_ofSymbol? hb).1
  · rfl

theorem words_ofDecimal (d : Decimal) : (ofDecimal A pos d).words = ["None"] := by
  unfold ofDecimal
  split <;> rfl

theorem words_readNumber (cs : List Char) : (readNumber A pos cs).lexeme.words = ["None"] := by
  unfold readNumber
  simp only
  repeat' split
  all_goals first | exact words_ofDecimal A pos _ | rfl

theorem legible_of_mem_words_read (c : Char) (cs : List Char) :
    ∀ w ∈ (read A pos c cs).lexeme.words, Legible w.toList := by
  unfold read
  split
  · exact Lexeme.legible_of_unspelled rfl
  split
  next hc =>
    have hword : IsWord (c :: cs.takeWhile isWordChar) := ⟨hc, forall_mem_takeWhile _ _⟩
    rw [words_ofWord, List.forall_mem_singleton, String.toList_ofList]
    exact hword.legible
  split
  · exact Lexeme.legible_of_unspelled rfl
  split
  · exact List.forall_mem_singleton.mpr (Operator.legible_symbol .convert)
  split
  · exact Lexeme.legible_of_unspelled (words_readNumber A pos _)
  split
  next op hop =>
    refine List.forall_mem_singleton.mpr ?_
    have hspelling := (symbol_of_operator? hop).2.1
    rw [Lexeme.spelling, Option.getD_some, hspelling]
    exact op.legible_symbol
  next => exact Lexeme.legible_of_unspelled rfl

theorem legible_of_mem_words_scanFrom (cs : List Char) :
    ∀ t ∈ scanFrom A pos cs, ∀ w ∈ t.lexeme.words, Legible w.toList := by
  induction pos, cs using scanFrom.induct A with
  | case1 pos =>
    rw [scanFrom, List.forall_mem_singleton]
    exact Lexeme.legible_of_unspelled rfl
  | case2 pos c cs r hinvalid =>
    rw [scanFrom, if_pos hinvalid, List.forall_mem_singleton]
    exact legible_of_mem_words_read A pos c cs
  | case3 pos c cs r hinvalid ih =>
    rw [scanFrom, if_neg hinvalid, List.forall_mem_cons]
    exact ⟨legible_of_mem_words_read A pos c cs, ih⟩

/-- The words of a line can be seen, whatever characters stand in it. -/
theorem legible_of_mem_words_tokenize (limit : Int) (source : String) :
    ∀ t ∈ tokenize A limit source, ∀ w ∈ t.lexeme.words, Legible w.toList := by
  intro t ht
  have hmem := (List.mem_filter.mp ht).1
  unfold scan at hmem
  split at hmem
  · obtain rfl := List.mem_singleton.mp hmem
    exact Lexeme.legible_of_unspelled rfl
  · exact legible_of_mem_words_scanFrom A 0 _ t hmem

end Token

end Quantities
