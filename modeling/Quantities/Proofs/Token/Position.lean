import Quantities.Proofs.Token.Lexeme

namespace Quantities

variable {ν : Type}

/-- A lexeme without the reason for which it is invalid. -/
def Lexeme.bare : Lexeme ν → Lexeme ν
  | invalid _ => invalid none
  | l => l

namespace Lexeme

variable {l m : Lexeme ν}

theorem eq_of_bare_eq (hl : l.isInvalid = false) (h : m.bare = l.bare) : m = l := by
  cases l with
  | invalid reason => cases hl
  | _ => cases m <;> first | exact h | cases h

theorem isInvalid_of_bare_eq (h : m.bare = l.bare) : m.isInvalid = l.isInvalid := by
  cases l <;> cases m <;> first | rfl | cases h

end Lexeme

namespace Token

variable (A : Arithmetic ν)

/-- The lexemes of a row of tokens, without the reasons of invalid ones. -/
def lexemes (ts : List (Token ν)) : List (Lexeme ν) := ts.map fun t => t.lexeme.bare

@[simp] theorem lexemes_cons (t : Token ν) (ts : List (Token ν)) :
    lexemes (t :: ts) = t.lexeme.bare :: lexemes ts := rfl

theorem ofDecimal_bare (p q : Nat) (d : Decimal) :
    (ofDecimal A p d).bare = (ofDecimal A q d).bare := by
  unfold ofDecimal
  split <;> rfl

theorem readNumber_bare (p q : Nat) (cs : List Char) :
    (readNumber A p cs).lexeme.bare = (readNumber A q cs).lexeme.bare ∧
      (readNumber A p cs).rest = (readNumber A q cs).rest := by
  unfold readNumber
  rcases readMantissa cs with ⟨⟨whole, fraction⟩, text, rest⟩
  cases rest with
  | nil => exact ⟨ofDecimal_bare A p q _, rfl⟩
  | cons e r =>
    simp only
    split
    · split
      · exact ⟨rfl, rfl⟩
      · exact ⟨ofDecimal_bare A p q _, rfl⟩
    · exact ⟨ofDecimal_bare A p q _, rfl⟩

theorem read_bare (p q : Nat) (c : Char) (cs : List Char) :
    (read A p c cs).lexeme.bare = (read A q c cs).lexeme.bare ∧
      (read A p c cs).rest = (read A q c cs).rest := by
  unfold read
  repeat' split
  all_goals first | exact ⟨rfl, rfl⟩ | exact readNumber_bare A p q _

theorem lexemes_scanFrom (p q : Nat) (cs : List Char) :
    lexemes (scanFrom A p cs) = lexemes (scanFrom A q cs) := by
  induction p, cs using scanFrom.induct A generalizing q with
  | case1 p =>
    rw [scanFrom, scanFrom]
    rfl
  | case2 p c cs r hinvalid =>
    obtain ⟨hlexeme, _⟩ := read_bare A p q c cs
    have hq := (Lexeme.isInvalid_of_bare_eq hlexeme).symm.trans hinvalid
    rw [scanFrom, scanFrom, if_pos hinvalid, if_pos hq]
    exact congrArg (· :: []) hlexeme
  | case3 p c cs r hinvalid ih =>
    obtain ⟨hlexeme, hrest⟩ := read_bare A p q c cs
    have hq : ¬ (read A q c cs).lexeme.isInvalid = true := by
      rwa [← Lexeme.isInvalid_of_bare_eq hlexeme]
    rw [scanFrom, scanFrom, if_neg hinvalid, if_neg hq, lexemes_cons, lexemes_cons, hlexeme]
    exact congrArg (_ :: ·) (hrest ▸ ih _)

/-- The lexemes of a text but for its blanks. -/
def visible (cs : List Char) : List (Lexeme ν) :=
  (lexemes (scanFrom A 0 cs)).filter fun l => !l.isBlank

@[simp] theorem visible_nil : visible A [] = [.endOfLine] := by
  rw [visible, scanFrom]
  rfl

theorem lexemes_tokenize {limit : Int} {source : String} (h : source.length ≤ limit) :
    lexemes (tokenize A limit source) = visible A source.toList := by
  have hblank (l : Lexeme ν) : l.bare.isBlank = l.isBlank := by cases l <;> rfl
  rw [tokenize, scan, if_neg (by omega), visible]
  generalize scanFrom A 0 source.toList = ts
  induction ts with
  | nil => rfl
  | cons t ts ih => cases ht : t.lexeme.isBlank <;> simp [ht, hblank, ih]

variable {A} in
theorem Reads.visible_append {text rest : List Char} {l : Lexeme ν} (h : Reads A text rest l)
    (hl : l.isBlank = false) : visible A (text ++ rest) = l :: visible A rest := by
  have hbare : l.bare = l := Lexeme.eq_of_bare_eq h.isInvalid_eq_false (by cases l <;> rfl)
  rw [visible, h.scanFrom_eq, lexemes_cons, hbare, List.filter_cons_of_pos (by simp [hl]),
    lexemes_scanFrom A _ 0]
  rfl

theorem visible_space (cs : List Char) : visible A (' ' :: cs) = visible A cs := by
  have hspace {c : Char} (cs : List Char) (hc : isSpace c = true) :
      visible A (c :: cs) = visible A (cs.dropWhile isSpace) := by
    rw [visible, scanFrom, read_of_isSpace A hc]
    simp only [Lexeme.isInvalid, Bool.false_eq_true, if_false, lexemes_cons]
    rw [lexemes_scanFrom A _ 0]
    rfl
  rw [hspace cs (by decide)]
  cases cs with
  | nil => rfl
  | cons c cs =>
    cases hc : isSpace c with
    | true => rw [List.dropWhile_cons_of_pos hc, hspace cs hc]
    | false => rw [List.dropWhile_cons_of_neg (by simp [hc])]

theorem reads_name {x : String} (hx : IsName x) {rest : List Char}
    (hrest : ∀ c ∈ rest.head?, isWordChar c = false) : Reads A x.toList rest (.var x) := by
  have hname : (ofWord (String.ofList x.toList) : Lexeme ν) = .var x := by
    rw [String.ofList_toList]
    exact ofWord_eq_var_iff.mpr ⟨rfl, hx.ne_symbol, hx.ne_command⟩
  rw [← hname]
  exact .word hx.isWord hrest

theorem lexemes_tokenize_name {x : String} {limit : Int} (hx : IsName x)
    (hlimit : (x.length : Int) ≤ limit) :
    lexemes (tokenize A limit x) = [.var x, .endOfLine] := by
  have hword : Reads A x.toList [] (.var x) := reads_name A hx nofun
  have hvisible := hword.visible_append rfl
  rw [List.append_nil, visible_nil] at hvisible
  rw [lexemes_tokenize A hlimit, hvisible]

/-- The tokens of an assignment are its name, an equals sign and the tokens of its value. -/
theorem lexemes_tokenize_assignment {x e : String} {limit : Int} (hx : IsName x)
    (hlimit : ((x ++ " = " ++ e).length : Int) ≤ limit) :
    lexemes (tokenize A limit (x ++ " = " ++ e)) =
      .var x :: .operator .equals (some "=") :: lexemes (tokenize A limit e) := by
  have hvalue : (e.length : Int) ≤ limit := by
    simp only [String.length_append] at hlimit
    omega
  have hword : Reads A x.toList (' ' :: (['='] ++ ' ' :: e.toList)) (.var x) :=
    reads_name A hx (by simp; decide)
  have hequals : Reads A ['='] (' ' :: e.toList) (.operator .equals (some "=")) :=
    .operator .equals nofun
  have hline : (x ++ " = " ++ e).toList = x.toList ++ ' ' :: (['='] ++ ' ' :: e.toList) := by
    simp [String.toList_append]
  rw [lexemes_tokenize A hlimit, lexemes_tokenize A hvalue, hline]
  rw [hword.visible_append rfl, visible_space, hequals.visible_append rfl, visible_space]

end Token

end Quantities
