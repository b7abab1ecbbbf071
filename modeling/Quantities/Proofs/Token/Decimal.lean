import Quantities.Token.Scan
import Quantities.Proofs.Token.Longest

namespace Quantities

/-- One digit or more. -/
def IsDigits (cs : List Char) : Prop := cs ≠ [] ∧ ∀ c ∈ cs, c.isDigit = true

/-- Digits, and those behind the point if there is one. -/
structure MantissaText where
  whole : List Char
  fraction : Option (List Char)
  isDigits : IsDigits whole
  isDigit : ∀ ds ∈ fraction, ∀ c ∈ ds, c.isDigit = true

/-- A mantissa, and the digits of an exponent behind its mark if there is one. -/
structure DecimalText where
  mantissa : MantissaText
  exponent : Option (Char × List Char)
  isMark : ∀ x ∈ exponent, x.1 = 'e' ∨ x.1 = 'E'
  isDigits : ∀ x ∈ exponent, IsDigits x.2

namespace MantissaText

variable (m : MantissaText)

def text : List Char := m.whole ++ m.fraction.elim [] ('.' :: ·)

/-- Whether a mantissa does not go on in what stands behind it. -/
def Ends (rest : List Char) : Prop :=
  ∀ c ∈ rest.head?, c.isDigit = false ∧ (m.fraction = none → c ≠ '.')

variable {m} {rest : List Char}

theorem readMantissa_append (h : m.Ends rest) :
    Token.readMantissa (m.text ++ rest) = ((m.whole, m.fraction.getD []), m.text, rest) := by
  obtain ⟨whole, fraction, ⟨_, hwhole⟩, hfraction⟩ := m
  have hdigit := fun c hc => (h c hc).1
  cases fraction with
  | none =>
    have hpoint : ∀ r, rest ≠ '.' :: r := by
      rintro r rfl
      exact (h '.' rfl).2 rfl rfl
    simp only [text, Option.elim_none, List.append_nil, Token.readMantissa,
      takeWhile_append_eq hwhole hdigit, dropWhile_append_eq hwhole hdigit, Option.getD_none]
  | some ds =>
    have hds := hfraction ds rfl
    have hpoint : ∀ c ∈ ('.' :: (ds ++ rest)).head?, c.isDigit = false := by simp
    simp only [text, Option.elim_some, List.append_assoc, List.cons_append, Token.readMantissa,
      takeWhile_append_eq hwhole hpoint, dropWhile_append_eq hwhole hpoint,
      takeWhile_append_eq hds hdigit, dropWhile_append_eq hds hdigit, Option.getD_some]

theorem exists_append {cs : List Char} (h : cs.takeWhile Char.isDigit ≠ []) :
    ∃ (m : MantissaText) (rest : List Char), cs = m.text ++ rest ∧ m.Ends rest := by
  have hwhole : IsDigits (cs.takeWhile Char.isDigit) := ⟨h, forall_mem_takeWhile _ _⟩
  have hcs := (List.takeWhile_append_dropWhile (p := Char.isDigit) (l := cs)).symm
  have hrest := forall_mem_head?_dropWhile Char.isDigit cs
  generalize cs.takeWhile Char.isDigit = whole at hwhole hcs
  generalize cs.dropWhile Char.isDigit = rest at hcs hrest
  subst hcs
  by_cases hpoint : rest.head? = some '.'
  · obtain ⟨r, rfl⟩ := List.head?_eq_some_iff.mp hpoint
    refine ⟨⟨whole, some (r.takeWhile Char.isDigit), hwhole, ?_⟩, r.dropWhile Char.isDigit, ?_, ?_⟩
    · rintro _ ⟨⟩
      exact forall_mem_takeWhile _ _
    · simp [text]
    · exact fun c hc => ⟨forall_mem_head?_dropWhile _ _ c hc, nofun⟩
  · refine ⟨⟨whole, none, hwhole, nofun⟩, rest, by simp [text], fun c hc => ⟨hrest c hc, ?_⟩⟩
    rintro - rfl
    exact hpoint hc

theorem length_le_readMantissa (m : MantissaText) (rest : List Char) :
    m.text.length ≤ (Token.readMantissa (m.text ++ rest)).2.1.length := by
  obtain ⟨whole, fraction, ⟨_, hwhole⟩, hfraction⟩ := m
  cases fraction with
  | none =>
    have hle := length_le_takeWhile hwhole (List.prefix_append whole rest)
    simp only [text, Option.elim_none, List.append_nil, Token.readMantissa]
    split
    · simp only [List.length_append]
      omega
    · exact hle
  | some ds =>
    have hpoint : ∀ c ∈ ('.' :: (ds ++ rest)).head?, c.isDigit = false := by simp
    have hle := length_le_takeWhile (hfraction ds rfl) (List.prefix_append ds rest)
    simp only [text, Option.elim_some, List.append_assoc, List.cons_append, Token.readMantissa,
      takeWhile_append_eq hwhole hpoint, dropWhile_append_eq hwhole hpoint, List.length_append,
      List.length_cons]
    omega

end MantissaText

namespace DecimalText

variable (n : DecimalText)

def text : List Char := n.mantissa.text ++ n.exponent.elim [] fun x => x.1 :: x.2

/-- The number that is written. -/
def decimal : Decimal where
  digits := Token.digitsValue (n.mantissa.whole ++ n.mantissa.fraction.getD [])
  places := (n.mantissa.fraction.getD []).length
  exponent := n.exponent.elim 0 fun x => Token.digitsValue x.2

def Ends (rest : List Char) : Prop :=
  ∀ c ∈ rest.head?, c.isDigit = false ∧
    (n.exponent = none → c ≠ 'e' ∧ c ≠ 'E' ∧ (n.mantissa.fraction = none → c ≠ '.'))

variable {n} {ν : Type} (A : Arithmetic ν) {rest : List Char}

theorem exists_text_eq (n : DecimalText) : ∃ c cs, n.text = c :: cs ∧ c.isDigit = true := by
  obtain ⟨⟨whole, fraction, ⟨hne, hwhole⟩, _⟩, exponent, _, _⟩ := n
  cases whole with
  | nil => exact absurd rfl hne
  | cons c cs => exact ⟨c, _, rfl, hwhole c (by simp)⟩

theorem mantissa_ends_of_exponent {x : Char × List Char} (hx : n.exponent = some x)
    (cs : List Char) : n.mantissa.Ends (x.1 :: cs) := by
  rintro c ⟨⟩
  rcases n.isMark x hx with he | he <;> simp [he]

theorem mantissa_ends (h : n.Ends rest) :
    n.mantissa.Ends ((n.exponent.elim [] fun x => x.1 :: x.2) ++ rest) := by
  cases hx : n.exponent with
  | none => exact fun c hc => ⟨(h c hc).1, ((h c hc).2 hx).2.2⟩
  | some x => exact mantissa_ends_of_exponent hx (x.2 ++ rest)

theorem readNumber_append (h : n.Ends rest) (pos : Nat) :
    Token.readNumber A pos (n.text ++ rest) = ⟨Token.ofDecimal A pos n.decimal, n.text, rest⟩ := by
  have hmantissa := MantissaText.readMantissa_append (mantissa_ends h)
  obtain ⟨m, exponent, hmark, hdigits⟩ := n
  simp only at hmantissa
  simp only [text, List.append_assoc, Token.readNumber, hmantissa]
  cases exponent with
  | none =>
    cases rest with
    | nil => simp [decimal]
    | cons c rest =>
      obtain ⟨he, hE, _⟩ := (h c rfl).2 rfl
      simp [he, hE, decimal]
  | some x =>
    obtain ⟨e, ds⟩ := x
    have hmark : (e = 'e' || e = 'E') = true := by simpa using hmark _ rfl
    obtain ⟨hne, hds⟩ := hdigits _ rfl
    have hrest := fun c hc => (h c hc).1
    simp only [Option.elim_some, List.cons_append, if_pos hmark, takeWhile_append_eq hds hrest,
      dropWhile_append_eq hds hrest]
    rfl

/-- What starts with a digit starts with a number, unless its exponent has no digits. -/
theorem exists_append {cs : List Char} {pos : Nat} (hcs : cs.takeWhile Char.isDigit ≠ [])
    (h : (Token.readNumber A pos cs).lexeme.isInvalid = false) :
    ∃ (n : DecimalText) (rest : List Char), cs = n.text ++ rest ∧ n.Ends rest := by
  obtain ⟨m, rest, rfl, hm⟩ := MantissaText.exists_append hcs
  by_cases he : ∃ e r, rest = e :: r ∧ (e = 'e' ∨ e = 'E')
  · obtain ⟨e, r, rfl, he⟩ := he
    have hdigits : IsDigits (r.takeWhile Char.isDigit) := by
      refine ⟨fun hnil => ?_, forall_mem_takeWhile _ _⟩
      have hmark : (e = 'e' || e = 'E') = true := by simpa using he
      simp [Token.readNumber, MantissaText.readMantissa_append hm, hmark, hnil,
        Lexeme.isInvalid] at h
    refine ⟨⟨m, some (e, r.takeWhile Char.isDigit), ?_, ?_⟩, r.dropWhile Char.isDigit, ?_, ?_⟩
    · rintro _ ⟨⟩
      exact he
    · rintro _ ⟨⟩
      exact hdigits
    · simp [text]
    · exact fun c hc => ⟨forall_mem_head?_dropWhile _ _ c hc, nofun⟩
  · refine ⟨⟨m, none, nofun, nofun⟩, rest, by simp [text], fun c hc => ?_⟩
    obtain ⟨r, rfl⟩ := List.head?_eq_some_iff.mp hc
    exact ⟨(hm c hc).1, fun _ => ⟨fun hce => he ⟨c, r, rfl, .inl hce⟩,
      fun hce => he ⟨c, r, rfl, .inr hce⟩, (hm c hc).2⟩⟩

theorem isLongest (h : n.Ends rest) :
    IsLongest (fun cs => ∃ n : DecimalText, cs = n.text) (n.text ++ rest) n.text := by
  refine ⟨⟨n, rfl⟩, List.prefix_append _ _, ?_⟩
  rintro _ ⟨m, rfl⟩ ⟨r, hr⟩
  have hn := MantissaText.readMantissa_append (mantissa_ends h)
  rw [← List.append_assoc, ← text, ← hr] at hn
  cases hm : m.exponent with
  | none =>
    have hle := MantissaText.length_le_readMantissa m.mantissa r
    have htext : m.text = m.mantissa.text := by simp [text, hm]
    rw [← htext, hn] at hle
    simp only [text, List.length_append] at hle ⊢
    omega
  | some x =>
    obtain ⟨e, ds⟩ := x
    have hds : ∀ c ∈ ds, c.isDigit = true := (m.isDigits _ hm).2
    have htext : m.text = m.mantissa.text ++ e :: ds := by simp [text, hm]
    have hread := MantissaText.readMantissa_append (mantissa_ends_of_exponent hm (ds ++ r))
    rw [← List.cons_append, ← List.append_assoc, ← htext, hn] at hread
    simp only [Prod.mk.injEq] at hread
    obtain ⟨-, hmantissa, htail⟩ := hread
    cases hx : n.exponent with
    | none =>
      obtain rfl : rest = e :: (ds ++ r) := by simpa [hx] using htail
      obtain ⟨he, hE, -⟩ := (h e rfl).2 hx
      exact absurd (m.isMark _ hm) (by simp [he, hE])
    | some y =>
      obtain ⟨rfl, hdigits⟩ : y.1 = e ∧ y.2 ++ rest = ds ++ r := by simpa [hx] using htail
      have hle := length_le_takeWhile hds (List.prefix_append ds r)
      rw [← hdigits, takeWhile_append_eq (n.isDigits y hx).2 fun c hc => (h c hc).1] at hle
      simp only [text, hm, hx, hmantissa, Option.elim_some, List.length_append, List.length_cons]
      omega

end DecimalText

end Quantities
