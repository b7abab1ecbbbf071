import Quantities.CompoundUnit
import Quantities.Proofs.Grammar.Assignment

namespace Quantities

variable {ν : Type} (A : Arithmetic ν)

namespace Arithmetic

/-- The number that the digits of a count stand for. -/
def count (n : Nat) : ν := (A.ofDecimal? { digits := n }).getD A.zero

/-- A count that is read as itself, and whose negation is its negation. -/
structure Counts (n : Nat) : Prop where
  ofDecimal? : A.ofDecimal? { digits := n } = some (A.count n)
  whole? : A.whole? (A.count n) = some (n : Int)
  whole?_neg : A.whole? (A.neg (A.count n)) = some (-n : Int)

end Arithmetic

/-- The text of a degree. -/
def degreeText : Int → List Char
  | .ofNat n => Nat.toDigits 10 n
  | .negSucc n => '-' :: Nat.toDigits 10 (n + 1)

def degreeTokens : Int → List (Token ν)
  | .ofNat n => [⟨.number (A.count n), 0⟩]
  | .negSucc n => [⟨.operator .sub (some "-"), 0⟩, ⟨.number (A.count (n + 1)), 0⟩]

def degreeExpr : Int → Expr ν
  | .ofNat n => .const (A.count n)
  | .negSucc n => .neg (.const (A.count (n + 1)))

namespace Term

def tokens (t : Term) : List (Token ν) :=
  ⟨.unit t.base, 0⟩ :: if t.degree = 1 then []
    else ⟨.operator .caret (some "^"), 0⟩ :: degreeTokens A t.degree

def expr (t : Term) : Expr ν :=
  if t.degree = 1 then .unit (.ofBase t.base)
  else .bin .power (.unit (.ofBase t.base)) (degreeExpr A t.degree)

end Term

theorem toList_repr (d : Int) : d.repr.toList = degreeText d := by
  cases d <;> simp [Int.repr, degreeText, Nat.repr]

theorem Term.toList_text (t : Term) : t.text.toList = t.base.symbol.toList ++
    if t.degree = 1 then [] else '^' :: degreeText t.degree := by
  unfold text
  split <;> simp [toList_repr]

theorem isDigits_toDigits (n : Nat) : IsDigits (Nat.toDigits 10 n) :=
  ⟨Nat.toDigits_ne_nil, fun _ hc => Nat.isDigit_of_mem_toDigits (by decide) (by decide) hc⟩

/-- The digits of a count. -/
def DecimalText.ofNat (n : Nat) : DecimalText where
  mantissa :=
    { whole := Nat.toDigits 10 n
      fraction := none
      isDigits := isDigits_toDigits n
      isDigit := nofun }
  exponent := none
  isMark := nofun
  isDigits := nofun

theorem DecimalText.text_ofNat (n : Nat) : (ofNat n).text = Nat.toDigits 10 n := by
  simp [text, MantissaText.text, ofNat]

theorem DecimalText.decimal_ofNat (n : Nat) : (ofNat n).decimal = { digits := n } := by
  have hvalue : Token.digitsValue (Nat.toDigits 10 n) = n :=
    Nat.ofDigitChars_toDigits (by decide) (by decide)
  simp [decimal, ofNat, hvalue]

namespace Token

variable {A} {rest : List Char}

theorem reads_symbol {b : BaseUnit} (hb : b.isMarker = false)
    (hrest : ∀ c ∈ rest.head?, isWordChar c = false) : Reads A b.symbol.toList rest (.unit b) := by
  have hword : (ofWord (String.ofList b.symbol.toList) : Lexeme ν) = .unit b := by
    cases b <;> first | rfl | cases hb
  have hsymbol : IsWord b.symbol.toList := by
    cases b <;> simp [BaseUnit.symbol, IsWord] <;> decide
  rw [← hword]
  exact .word hsymbol hrest

theorem reads_count {n : Nat} (hn : A.Counts n) (hrest : ∀ c ∈ rest.head?, c = ' ') :
    Reads A (Nat.toDigits 10 n) rest (.number (A.count n)) := by
  have hends : (DecimalText.ofNat n).Ends rest := by
    intro c hc
    obtain rfl := hrest c hc
    exact ⟨by decide, fun _ => ⟨by decide, by decide, fun _ => by decide⟩⟩
  rw [← DecimalText.text_ofNat]
  refine .number _ hends ?_
  rw [DecimalText.decimal_ofNat]
  exact hn.ofDecimal?

theorem visible_degreeText {d : Int} (hd : A.Counts d.natAbs) (hrest : ∀ c ∈ rest.head?, c = ' ') :
    visible A (degreeText d ++ rest) = lexemes (degreeTokens A d) ++ visible A rest := by
  cases d with
  | ofNat n => exact (reads_count hd hrest).visible_append rfl
  | negSucc n =>
    have hminus : Reads A ['-'] (Nat.toDigits 10 (n + 1) ++ rest) (.operator .sub (some "-")) := by
      refine .operator .sub fun _ => ?_
      obtain ⟨hne, hdigit⟩ := isDigits_toDigits (n + 1)
      obtain ⟨c, cs, hc⟩ := List.exists_cons_of_ne_nil hne
      rw [hc] at hdigit ⊢
      rintro ⟨⟩
      exact absurd (hdigit '>' (by simp)) (by decide)
    have hcount := (reads_count hd hrest).visible_append rfl
    exact (hminus.visible_append rfl).trans (congrArg _ hcount)

theorem visible_term {t : Term} (ht : t.base.isMarker = false) (hd : A.Counts t.degree.natAbs)
    (hrest : ∀ c ∈ rest.head?, c = ' ') :
    visible A (t.text.toList ++ rest) = lexemes (t.tokens A) ++ visible A rest := by
  rw [Term.toList_text, Term.tokens]
  split
  · have hsymbol : Reads A t.base.symbol.toList rest (.unit t.base) := by
      refine reads_symbol ht fun c hc => ?_
      obtain rfl := hrest c hc
      decide
    rw [List.append_nil]
    exact hsymbol.visible_append rfl
  · have hsymbol : Reads A t.base.symbol.toList (['^'] ++ (degreeText t.degree ++ rest))
        (.unit t.base) := reads_symbol ht (by simp; decide)
    have hcaret : Reads A ['^'] (degreeText t.degree ++ rest) (.operator .caret (some "^")) :=
      .operator .caret nofun
    rw [List.append_assoc]
    refine (hsymbol.visible_append rfl).trans (congrArg _ ?_)
    refine (hcaret.visible_append rfl).trans (congrArg _ ?_)
    exact visible_degreeText hd hrest

theorem visible_terms {ts : List Term} (hts : ∀ t ∈ ts, t.base.isMarker = false)
    (hd : ∀ t ∈ ts, A.Counts t.degree.natAbs) :
    visible A ([' '].intercalate (ts.map fun t => t.text.toList)) =
      lexemes (ts.flatMap (Term.tokens A)) ++ [.endOfLine] := by
  induction ts with
  | nil => exact visible_nil A
  | cons t ts ih =>
    obtain ⟨ht, hts⟩ := List.forall_mem_cons.mp hts
    obtain ⟨hdt, hds⟩ := List.forall_mem_cons.mp hd
    have hrest := ih hts hds
    rw [List.flatMap_cons, lexemes_append, List.append_assoc, ← hrest]
    cases ts with
    | nil =>
      have hnil : ∀ c ∈ ([] : List Char).head?, c = ' ' := nofun
      simpa using visible_term ht hdt hnil
    | cons u us =>
      rw [List.map_cons, List.map_cons, List.intercalate_cons_cons, List.append_assoc,
        visible_term ht hdt (by simp)]
      exact congrArg _ (visible_space A _)

end Token

/-- The expression of a row of terms, which groups to the left. -/
def CompoundUnit.expr (u : CompoundUnit) : Expr ν :=
  match u.terms with
  | [] => .empty
  | t :: ts => ts.foldl (fun e t => .bin .unitProduct e (t.expr A)) (t.expr A)

section Phrase

variable {A} {s : Store ν}

theorem phrase_term (t : Term) : Phrase s .power (t.tokens A) (t.expr A) := by
  have hbase : Phrase s .power [⟨.unit t.base, 0⟩] (.unit (.ofBase t.base)) :=
    .word (.literal t.base)
  unfold Term.tokens Term.expr
  split
  · exact hbase
  · cases t.degree with
    | ofNat n => exact .raised hbase (.literal _)
    | negSucc n => exact .raisedMinus hbase (.literal _)

theorem phrase_terms {w : List (Token ν)} {e : Expr ν} (h : Phrase s .compound w e)
    (ts : List Term) : Phrase s .compound (w ++ ts.flatMap (Term.tokens A))
      (ts.foldl (fun e t => .bin .unitProduct e (t.expr A)) e) := by
  induction ts generalizing w e with
  | nil => simpa using h
  | cons t ts ih =>
    rw [List.flatMap_cons, ← List.append_assoc, List.foldl_cons]
    exact ih (.adjacent h (phrase_term t))

theorem phrase_unit {u : CompoundUnit} (hu : u.terms ≠ []) :
    Phrase s .compound (u.terms.flatMap (Term.tokens A)) (u.expr A) := by
  obtain ⟨t, ts, hts⟩ := List.exists_cons_of_ne_nil hu
  rw [CompoundUnit.expr, hts, List.flatMap_cons]
  exact phrase_terms (.ofPower (phrase_term t)) ts

end Phrase

end Quantities
