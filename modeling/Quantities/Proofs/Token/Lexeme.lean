import Quantities.Proofs.Token.Decimal
import Quantities.Proofs.Token.Word

namespace Quantities

def Operator.symbol : Operator → String
  | equals => "="
  | convert => "->"
  | add => "+"
  | sub => "-"
  | mul => "*"
  | div => "/"
  | caret => "^"

/-- The sorts of lexemes. -/
inductive LexemeClass where
  | word | number | blank | operator
  deriving DecidableEq, Repr

/-- Whether a text is of a sort. -/
def LexemeClass.Holds : LexemeClass → List Char → Prop
  | word, cs => IsWord cs
  | number, cs => ∃ n : DecimalText, cs = n.text
  | blank, cs => cs ≠ [] ∧ ∀ c ∈ cs, Token.isSpace c = true
  | operator, cs => ∃ op : Operator, cs = op.symbol.toList

variable {ν : Type}

namespace Lexeme

theorem exists_eq_invalid {l : Lexeme ν} (h : l.isInvalid = true) : ∃ reason, l = invalid reason := by
  cases l with
  | invalid reason => exact ⟨reason, rfl⟩
  | _ => cases h

def class? : Lexeme ν → Option LexemeClass
  | unit _ | var _ | command .. => some .word
  | number _ => some .number
  | blank => some .blank
  | operator .. => some .operator
  | endOfLine | invalid _ => none

/-- Whether nothing is read behind a lexeme. -/
def stops (l : Lexeme ν) : Bool := l.isEnd || l.isInvalid

end Lexeme

namespace Token

variable (A : Arithmetic ν)

/-- A text that is read as a lexeme, with what stands behind it. -/
inductive Reads : List Char → List Char → Lexeme ν → Prop
  | word {text rest : List Char} (h : IsWord text)
      (hrest : ∀ c ∈ rest.head?, isWordChar c = false) :
      Reads text rest (ofWord (String.ofList text))
  | blank {text rest : List Char} (hne : text ≠ []) (h : ∀ c ∈ text, isSpace c = true)
      (hrest : ∀ c ∈ rest.head?, isSpace c = false) : Reads text rest .blank
  | number (n : DecimalText) {rest : List Char} {x : ν} (hrest : n.Ends rest)
      (hx : A.ofDecimal? n.decimal = some x) : Reads n.text rest (.number x)
  | operator (op : Operator) {rest : List Char} (hrest : op = .sub → rest.head? ≠ some '>') :
      Reads op.symbol.toList rest (.operator op (some op.symbol))

theorem read_of_isAlpha {c : Char} (h : c.isAlpha = true) (pos : Nat) (cs : List Char) :
    read A pos c cs = ⟨ofWord (String.ofList (c :: cs.takeWhile isWordChar)),
      c :: cs.takeWhile isWordChar, cs.dropWhile isWordChar⟩ := by
  have hnull : c ≠ '\x00' := by
    rintro rfl
    revert h
    decide
  rw [read, if_neg hnull, if_pos h]

theorem read_of_isSpace {c : Char} (h : isSpace c = true) (pos : Nat) (cs : List Char) :
    read A pos c cs = ⟨.blank, c :: cs.takeWhile isSpace, cs.dropWhile isSpace⟩ := by
  simp only [isSpace, Bool.or_eq_true, decide_eq_true_eq] at h
  rcases h with ((rfl | rfl) | rfl) | rfl <;> rfl

theorem isAlpha_eq_false_of_isDigit {c : Char} (h : c.isDigit = true) : c.isAlpha = false := by
  have hdigit : c.val ≤ '9'.val := of_decide_eq_true (Bool.and_eq_true_iff.mp h).2
  have above {d : UInt32} (hd : ¬ d ≤ '9'.val) : ¬ d ≤ c.val := fun hc =>
    hd (UInt32.le_trans hc hdigit)
  have hupper : c.isUpper = false := decide_eq_false fun hc => above (by decide) hc.1
  have hlower : c.isLower = false :=
    Bool.and_eq_false_iff.mpr (.inl (decide_eq_false (above (by decide))))
  exact Bool.or_eq_false_iff.mpr ⟨hupper, hlower⟩

theorem read_of_isDigit {c : Char} (h : c.isDigit = true) (pos : Nat) (cs : List Char) :
    read A pos c cs = readNumber A pos (c :: cs) := by
  have hnull : c ≠ '\x00' := by
    rintro rfl
    revert h
    decide
  have hminus : ¬ (c = '-' && cs.head? = some '>') = true := by
    intro hc
    obtain rfl : c = '-' := by simp_all
    revert h
    decide
  have halpha : c.isAlpha = false := isAlpha_eq_false_of_isDigit h
  have hspace : isSpace c = false := by
    apply Bool.eq_false_iff.mpr
    intro hc
    simp only [isSpace, Bool.or_eq_true, decide_eq_true_eq] at hc
    rcases hc with ((rfl | rfl) | rfl) | rfl <;> cases h
  simp [read, hnull, halpha, hspace, hminus, h]

theorem symbol_of_operator? {c : Char} {op : Operator} (h : operator? c = some op) :
    [c] = op.symbol.toList ∧ String.singleton c = op.symbol ∧ (op = .sub → c = '-') := by
  unfold operator? at h
  split at h <;> cases h <;> exact ⟨by simp [Operator.symbol], by decide, by decide⟩

variable {A} {text rest : List Char} {l : Lexeme ν}

theorem Reads.ne_nil (h : Reads A text rest l) : text ≠ [] := by
  cases h with
  | word h => rintro rfl; exact h
  | blank hne => exact hne
  | number n =>
    obtain ⟨c, cs, htext, _⟩ := n.exists_text_eq
    simp [htext]
  | operator op => cases op <;> decide

theorem Reads.read_eq {c : Char} {cs : List Char} (h : Reads A (c :: cs) rest l) (pos : Nat) :
    read A pos c (cs ++ rest) = ⟨l, c :: cs, rest⟩ := by
  generalize htext : c :: cs = text at h
  cases h with
  | word h hrest =>
    subst htext
    obtain ⟨hc, hcs⟩ := h
    rw [read_of_isAlpha A hc, takeWhile_append_eq hcs hrest, dropWhile_append_eq hcs hrest]
  | blank hne h hrest =>
    subst htext
    obtain ⟨hc, hcs⟩ := List.forall_mem_cons.mp h
    rw [read_of_isSpace A hc, takeWhile_append_eq hcs hrest, dropWhile_append_eq hcs hrest]
  | number n hrest hx =>
    obtain ⟨d, ds, hd, hdigit⟩ := n.exists_text_eq
    obtain ⟨rfl, rfl⟩ := List.cons.inj (htext.trans hd)
    rw [read_of_isDigit A hdigit, ← List.cons_append, htext, n.readNumber_append A hrest, ofDecimal,
      hx]
  | operator op hrest =>
    cases op with
    | convert =>
      obtain ⟨rfl, rfl⟩ : c = '-' ∧ cs = ['>'] := by simpa [Operator.symbol] using htext
      rfl
    | sub =>
      obtain ⟨rfl, rfl⟩ : c = '-' ∧ cs = [] := by simpa [Operator.symbol] using htext
      have hrest := hrest rfl
      simp [read, hrest, isSpace, operator?, Operator.symbol]
    | _ =>
      simp [Operator.symbol] at htext
      obtain ⟨rfl, rfl⟩ := htext
      rfl

theorem reads_of_read {pos : Nat} {c : Char} {cs : List Char}
    (h : (read A pos c cs).lexeme.isInvalid = false) :
    (read A pos c cs).text ++ (read A pos c cs).rest = c :: cs ∧
      Reads A (read A pos c cs).text (read A pos c cs).rest (read A pos c cs).lexeme := by
  generalize hr : read A pos c cs = r at h ⊢
  unfold read at hr
  split at hr
  · subst hr
    cases h
  split at hr
  next hc =>
    subst hr
    exact ⟨by simp, .word ⟨hc, forall_mem_takeWhile _ _⟩ (forall_mem_head?_dropWhile _ _)⟩
  split at hr
  next hc =>
    subst hr
    refine ⟨by simp, .blank nofun ?_ (forall_mem_head?_dropWhile _ _)⟩
    exact List.forall_mem_cons.mpr ⟨hc, forall_mem_takeWhile _ _⟩
  split at hr
  next hc =>
    subst hr
    simp only [Bool.and_eq_true, decide_eq_true_eq] at hc
    obtain ⟨rfl, hhead⟩ := hc
    obtain ⟨rest, rfl⟩ := List.head?_eq_some_iff.mp hhead
    exact ⟨rfl, .operator .convert nofun⟩
  next hconvert =>
    split at hr
    next hc =>
      subst hr
      have hdigits : (c :: cs).takeWhile Char.isDigit ≠ [] := by
        rw [List.takeWhile_cons_of_pos hc]
        exact List.cons_ne_nil _ _
      obtain ⟨n, rest, htext, hends⟩ := DecimalText.exists_append A hdigits h
      rw [htext, n.readNumber_append A hends] at h ⊢
      refine ⟨rfl, ?_⟩
      unfold ofDecimal at h ⊢
      cases hx : A.ofDecimal? n.decimal with
      | none => simp [hx, Lexeme.isInvalid] at h
      | some x => exact .number n hends hx
    next =>
      split at hr
      next op hop =>
        subst hr
        refine ⟨rfl, ?_⟩
        have hminus : c = '-' → cs.head? ≠ some '>' := by simpa using hconvert
        obtain ⟨htext, hspelling, hsub⟩ := symbol_of_operator? hop
        simp only [htext, hspelling]
        exact .operator op fun h => hminus (hsub h)
      next =>
        subst hr
        cases h

theorem class?_ofWord (w : String) : (ofWord w : Lexeme ν).class? = some .word := by
  unfold ofWord
  repeat' split
  all_goals rfl

/-- A text is read as the same lexeme if nothing stands behind it. -/
theorem Reads.alone (h : Reads A text rest l) : Reads A text [] l := by
  cases h with
  | word h => exact .word h nofun
  | blank hne h => exact .blank hne h nofun
  | number n _ hx => exact .number n nofun hx
  | operator op => exact .operator op nofun

theorem length_symbol_le {op op' : Operator} (hrest : op = .sub → rest.head? ≠ some '>')
    (h : op'.symbol.toList <+: op.symbol.toList ++ rest) :
    op'.symbol.toList.length ≤ op.symbol.toList.length := by
  by_cases hop' : op' = .convert
  · subst hop'
    cases op with
    | convert => exact Nat.le_refl _
    | sub =>
      obtain ⟨r, hr⟩ := h
      obtain rfl : '>' :: r = rest := by simpa [Operator.symbol] using hr
      exact absurd rfl (hrest rfl)
    | _ =>
      obtain ⟨r, hr⟩ := h
      simp [Operator.symbol] at hr
  · have hone : op'.symbol.toList.length = 1 := by
      cases op' <;> first | rfl | exact absurd rfl hop'
    have hpos : 0 < op.symbol.toList.length := by cases op <;> decide
    omega

theorem Reads.isLongest (h : Reads A text rest l) :
    ∃ k, l.class? = some k ∧ IsLongest k.Holds (text ++ rest) text := by
  have hprefix := List.prefix_append text rest
  cases h with
  | word h hrest =>
    refine ⟨.word, class?_ofWord _, h, hprefix, fun p hp hle => ?_⟩
    match p, text, hp, h with
    | d :: ds, c :: cs, ⟨_, hds⟩, ⟨_, hcs⟩ =>
      have hle : ds <+: cs ++ rest := (List.cons_prefix_cons.mp hle).2
      have hlength := length_le_takeWhile hds hle
      rw [takeWhile_append_eq hcs hrest] at hlength
      exact Nat.succ_le_succ hlength
  | blank hne h hrest =>
    refine ⟨.blank, rfl, ⟨hne, h⟩, hprefix, fun p hp hle => ?_⟩
    have hlength := length_le_takeWhile hp.2 hle
    rwa [takeWhile_append_eq h hrest] at hlength
  | number n hrest => exact ⟨.number, rfl, DecimalText.isLongest hrest⟩
  | operator op hrest =>
    refine ⟨.operator, rfl, ⟨op, rfl⟩, hprefix, ?_⟩
    rintro _ ⟨op', rfl⟩ hle
    exact length_symbol_le hrest hle

theorem Reads.stops_eq_false (h : Reads A text rest l) : l.stops = false := by
  obtain ⟨k, hk, _⟩ := h.isLongest
  cases l <;> first | rfl | cases hk

theorem Reads.isInvalid_eq_false (h : Reads A text rest l) : l.isInvalid = false :=
  (Bool.or_eq_false_iff.mp h.stops_eq_false).2

theorem Reads.scanFrom_eq (h : Reads A text rest l) (pos : Nat) :
    scanFrom A pos (text ++ rest) = ⟨l, pos⟩ :: scanFrom A (pos + text.length) rest := by
  obtain ⟨c, cs, rfl⟩ := List.exists_cons_of_ne_nil h.ne_nil
  rw [List.cons_append, scanFrom, h.read_eq, if_neg (by simp [h.isInvalid_eq_false])]

theorem not_reads_of_isInvalid {pos : Nat} {c : Char} {cs : List Char}
    (h : (read A pos c cs).lexeme.isInvalid = true) (hreads : Reads A text rest l) :
    c :: cs ≠ text ++ rest := by
  intro htext
  obtain ⟨d, ds, rfl⟩ := List.exists_cons_of_ne_nil hreads.ne_nil
  obtain ⟨rfl, rfl⟩ := List.cons_eq_cons.mp (htext.trans (List.cons_append ..))
  rw [hreads.read_eq] at h
  exact absurd h (by simp [hreads.isInvalid_eq_false])

variable (A)

/-- The tokens of a text whose first character stands at a position. -/
inductive Scans : Nat → List Char → List (Token ν) → Prop
  | done (pos : Nat) : Scans pos [] [⟨.endOfLine, pos⟩]
  | stuck (pos : Nat) (cs : List Char) (reason : Option SyntaxError)
      (h : ∀ {text rest l}, Reads A text rest l → cs ≠ text ++ rest) :
      Scans pos cs [⟨.invalid reason, pos⟩]
  | step {pos : Nat} {text rest : List Char} {l : Lexeme ν} {ts : List (Token ν)}
      (h : Reads A text rest l) (hs : Scans (pos + text.length) rest ts) :
      Scans pos (text ++ rest) (⟨l, pos⟩ :: ts)

theorem scans_scanFrom (pos : Nat) (cs : List Char) : Scans A pos cs (scanFrom A pos cs) := by
  induction pos, cs using scanFrom.induct A with
  | case1 pos =>
    rw [scanFrom]
    exact .done pos
  | case2 pos c cs r hinvalid =>
    rw [scanFrom, if_pos hinvalid]
    obtain ⟨reason, hreason⟩ := Lexeme.exists_eq_invalid hinvalid
    rw [hreason]
    exact .stuck pos _ reason (not_reads_of_isInvalid hinvalid)
  | case3 pos c cs r hinvalid ih =>
    obtain ⟨happend, hreads⟩ := reads_of_read (by simpa using hinvalid)
    rw [← happend, hreads.scanFrom_eq]
    exact .step hreads ih

end Token

end Quantities
