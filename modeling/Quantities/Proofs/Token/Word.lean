import Quantities.Token.Scan

namespace Quantities

/-- A letter, then letters, digits and underscores. -/
def IsWord : List Char → Prop
  | [] => False
  | c :: cs => c.isAlpha = true ∧ ∀ d ∈ cs, Token.isWordChar d = true

/-- A word that a variable can be named by. -/
structure IsName (name : String) : Prop where
  isWord : IsWord name.toList
  ne_symbol : ∀ b ∈ BaseUnit.literals, name ≠ b.symbol
  ne_command : name ≠ "quit" ∧ name ≠ "exit" ∧ name ≠ "help"

variable {ν : Type}

theorem BaseUnit.ofSymbol?_eq_none_iff {word : String} :
    ofSymbol? word = Option.none ↔ ∀ b ∈ literals, word ≠ b.symbol := by
  rw [ofSymbol?, List.find?_eq_none]
  simp only [decide_eq_true_eq, ne_eq, @eq_comm _ word]

namespace Token

theorem ofWord_eq_var_iff {word name : String} : (ofWord word : Lexeme ν) = .var name ↔
    word = name ∧ (∀ b ∈ BaseUnit.literals, name ≠ b.symbol) ∧
      name ≠ "quit" ∧ name ≠ "exit" ∧ name ≠ "help" := by
  rw [← BaseUnit.ofSymbol?_eq_none_iff]
  unfold ofWord
  by_cases hquit : word = "quit" ∨ word = "exit"
  · rw [if_pos (by simpa using hquit)]
    refine ⟨nofun, ?_⟩
    rintro ⟨rfl, _, hq, he, _⟩
    exact (hquit.elim hq he).elim
  rw [if_neg (by simpa using hquit)]
  by_cases hhelp : word = "help"
  · rw [if_pos hhelp]
    refine ⟨nofun, ?_⟩
    rintro ⟨rfl, _, _, _, hh⟩
    exact (hh hhelp).elim
  rw [if_neg hhelp]
  rw [not_or] at hquit
  cases hs : BaseUnit.ofSymbol? word with
  | some b =>
    refine ⟨nofun, ?_⟩
    rintro ⟨rfl, hnone, _⟩
    simp [hs] at hnone
  | none =>
    constructor
    · rintro ⟨⟩
      exact ⟨rfl, hs, hquit.1, hquit.2, hhelp⟩
    · rintro ⟨rfl, _⟩
      rfl

end Token

end Quantities
