import Quantities.Text.Quoted
import Mathlib.Data.List.Basic

namespace Quantities.Text

def Legible (cs : List Char) : Prop := ∀ c ∈ cs, isPrintable c = true

/-- The printable characters of ASCII. -/
def isPlain (c : Char) : Bool := 32 ≤ c.toNat && c.toNat ≤ 126

variable {cs ds : List Char} {c : Char}

theorem isPrintable_of_isPlain (h : isPlain c = true) : isPrintable c = true := by
  simp only [isPlain, Bool.and_eq_true, decide_eq_true_eq] at h
  exact isPrintable_of_ascii h.1 h.2

theorem legible_of_plain (h : cs.all isPlain = true) : Legible cs :=
  fun c hc => isPrintable_of_isPlain (List.all_eq_true.mp h c hc)

/-- The characters that a text can be broken into lines at. -/
def lineBreaks : List Char :=
  ['\n', '\x0b', '\x0c', '\r', '\x1c', '\x1d', '\x1e', '\x85', '\u2028', '\u2029']

theorem not_isPrintable_of_mem_lineBreaks (hc : c ∈ lineBreaks) : (!isPrintable c) = true := by
  have hall : lineBreaks.all (!isPrintable ·) = true := by decide +kernel
  exact List.all_eq_true.mp hall c hc

theorem Legible.not_mem_of_mem_lineBreaks (h : Legible cs) (hc : c ∈ lineBreaks) : c ∉ cs := by
  intro hcs
  have hhidden := not_isPrintable_of_mem_lineBreaks hc
  rw [h c hcs] at hhidden
  cases hhidden

@[simp] theorem legible_nil : Legible [] := List.forall_mem_nil _

@[simp] theorem legible_cons_iff : Legible (c :: cs) ↔ isPrintable c = true ∧ Legible cs :=
  List.forall_mem_cons

@[simp] theorem legible_append_iff : Legible (cs ++ ds) ↔ Legible cs ∧ Legible ds :=
  List.forall_mem_append

theorem Legible.append {s t : String} (hs : Legible s.toList) (ht : Legible t.toList) :
    Legible (s ++ t).toList := by
  rw [String.toList_append, legible_append_iff]
  exact ⟨hs, ht⟩

structure Shown (s : String) : Prop where
  legible : Legible s.toList
  ne_empty : s ≠ ""

theorem Shown.of_toList {s : String} {cs : List Char} (hs : s.toList = cs) (h : Legible cs)
    (hne : cs ≠ []) : Shown s := by
  refine ⟨by rwa [hs], ?_⟩
  rintro rfl
  exact hne hs.symm

theorem Shown.prepend {s t : String} (hs : Legible s.toList) (ht : Shown t) : Shown (s ++ t) :=
  ⟨hs.append ht.legible, fun h => ht.ne_empty (String.append_eq_empty_iff.mp h).2⟩

theorem legible_cons_of_plain (hc : isPlain c = true) (h : Legible cs) : Legible (c :: cs) :=
  legible_cons_iff.mpr ⟨isPrintable_of_isPlain hc, h⟩

theorem Legible.mono (h : Legible cs) (hd : ds ⊆ cs) : Legible ds := fun c hc => h c (hd hc)

theorem legible_replicate (n : Nat) (h : isPrintable c = true) :
    Legible (List.replicate n c) := by
  intro d hd
  rw [List.eq_of_mem_replicate hd]
  exact h

theorem legible_flatMap {f : Char → List Char} (h : ∀ c ∈ cs, Legible (f c)) :
    Legible (cs.flatMap f) := by
  intro d hd
  obtain ⟨c, hc, hd⟩ := List.mem_flatMap.mp hd
  exact h c hc d hd

theorem legible_intercalate {rows : List (List Char)} (hc : Legible cs)
    (h : ∀ row ∈ rows, Legible row) : Legible (cs.intercalate rows) := by
  induction rows with
  | nil => exact legible_nil
  | cons row rows ih =>
    obtain ⟨hrow, hrows⟩ := List.forall_mem_cons.mp h
    cases rows with
    | nil => simpa using hrow
    | cons next rows =>
      rw [List.intercalate_cons_cons, legible_append_iff, legible_append_iff]
      exact ⟨⟨hrow, hc⟩, ih hrows⟩

theorem isPlain_digitChar (n : Nat) : isPlain n.digitChar = true := by
  simp only [Nat.digitChar, apply_ite isPlain]
  simp [isPlain]

theorem legible_toDigits {b : Nat} (hb : 1 < b) (n : Nat) : Legible (Nat.toDigits b n) := by
  induction n using Nat.strongRecOn with
  | ind n ih =>
    have hdigit (k : Nat) : isPrintable k.digitChar = true :=
      isPrintable_of_isPlain (isPlain_digitChar k)
    rcases Nat.lt_or_ge n b with hlt | hge
    · rw [Nat.toDigits_of_lt_base hlt]
      simp [hdigit]
    · have hless : n / b < n := Nat.div_lt_self (by omega) hb
      rw [Nat.toDigits_of_base_le hb hge]
      simp [hdigit, ih _ hless]

theorem legible_repr (n : Nat) : Legible n.repr.toList := by
  simpa [Nat.repr] using legible_toDigits (by decide) n

theorem legible_repr_int (n : Int) : Legible n.repr.toList := by
  cases n with
  | ofNat n => exact legible_repr n
  | negSucc n =>
    have hminus : isPrintable '-' = true := isPrintable_of_isPlain rfl
    simpa [Int.repr, Nat.repr] using ⟨hminus, legible_toDigits (by decide) (n + 1)⟩

section Quoted

theorem legible_hex (width n : Nat) : Legible (hex width n) :=
  legible_append_iff.mpr ⟨legible_replicate _ (isPrintable_of_isPlain rfl),
    legible_toDigits (by decide) n⟩

/-- A character is shown as itself only if it can be seen. -/
theorem legible_escape {quote : Char} (hq : isPrintable quote = true) (c : Char) :
    Legible (escape quote c) := by
  have backslash {cs : List Char} (h : Legible cs) : Legible ('\\' :: cs) :=
    legible_cons_of_plain rfl h
  unfold escape
  repeat' split
  next h =>
    refine backslash (legible_cons_iff.mpr ⟨?_, legible_nil⟩)
    rcases Bool.or_eq_true_iff.mp h with h | h <;> rw [of_decide_eq_true h]
    · exact hq
    · exact isPrintable_of_isPlain rfl
  next => exact backslash (legible_cons_of_plain rfl legible_nil)
  next => exact backslash (legible_cons_of_plain rfl legible_nil)
  next => exact backslash (legible_cons_of_plain rfl legible_nil)
  next h => exact legible_cons_iff.mpr ⟨h, legible_nil⟩
  next => exact backslash (legible_cons_of_plain rfl (legible_hex _ _))
  next => exact backslash (legible_cons_of_plain rfl (legible_hex _ _))
  next => exact backslash (legible_cons_of_plain rfl (legible_hex _ _))

theorem legible_quotedChars (cs : List Char) : Legible (quotedChars cs) := by
  have hquote : isPrintable (quoteFor cs) = true := by
    unfold quoteFor
    split <;> exact isPrintable_of_isPlain rfl
  simp [quotedChars, hquote, legible_flatMap fun c _ => legible_escape hquote c]

theorem legible_quoted (s : String) : Legible (quoted s).toList := by
  rw [quoted, String.toList_ofList]
  exact legible_quotedChars _

end Quoted

end Quantities.Text
