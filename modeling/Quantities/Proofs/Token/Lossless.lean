import Mathlib.Data.List.Chain
import Quantities.Number.Machine
import Quantities.Proofs.Token.Tokenize

namespace Quantities.Token

variable {ν : Type} (A : Arithmetic ν)

/-- The characters from one token to another. -/
def slice (cs : List Char) (t u : Token ν) : List Char := (cs.take u.pos).drop t.pos

/-- The characters of all tokens but the last one. -/
def slices (cs : List Char) (ts : List (Token ν)) : List (List Char) :=
  List.zipWith (slice cs) ts ts.tail

/-- A token that covers the characters up to the next one. -/
structure Covers (cs : List Char) (t u : Token ν) : Prop where
  pos_lt : t.pos < u.pos
  ne_nil : slice cs t u ≠ []
  longest : ∃ k, t.lexeme.class? = some k ∧ IsLongest k.Holds (cs.drop t.pos) (slice cs t u)
  alone : ∀ limit : Int, (slice cs t u).length ≤ limit →
    scan A limit (String.ofList (slice cs t u)) =
      [⟨t.lexeme, 0⟩, ⟨.endOfLine, (slice cs t u).length⟩]

variable {A} {text rest : List Char} {l : Lexeme ν}

theorem Reads.scan_alone (h : Reads A text rest l) {limit : Int} (hlimit : text.length ≤ limit) :
    scan A limit (String.ofList text) = [⟨l, 0⟩, ⟨.endOfLine, text.length⟩] := by
  have hscan := h.alone.scanFrom_eq 0
  rw [List.append_nil, Nat.zero_add, scanFrom] at hscan
  rw [scan, if_neg (by simpa using hlimit), String.toList_ofList, hscan]

theorem slice_append (before text rest : List Char) (l m : Lexeme ν) :
    slice (before ++ (text ++ rest)) ⟨l, before.length⟩ ⟨m, before.length + text.length⟩ =
      text := by
  rw [slice, ← List.append_assoc, List.take_left' (by simp), List.drop_left]

theorem Reads.covers (h : Reads A text rest l) (before : List Char) (m : Lexeme ν) :
    Covers A (before ++ (text ++ rest)) ⟨l, before.length⟩
      ⟨m, before.length + text.length⟩ := by
  have hne := h.ne_nil
  have hpos := List.length_pos_iff.mpr hne
  constructor
  · simp only
    omega
  all_goals rw [slice_append]
  · exact hne
  · rw [List.drop_left]
    exact h.isLongest
  · exact fun limit hlimit => h.scan_alone hlimit

variable {pos : Nat} {cs : List Char} {ts : List (Token ν)}

theorem Scans.exists_cons (h : Scans A pos cs ts) : ∃ l us, ts = ⟨l, pos⟩ :: us := by
  cases h <;> exact ⟨_, _, rfl⟩

theorem Scans.isChain (h : Scans A pos cs ts) (before : List Char) (hpos : before.length = pos) :
    ts.IsChain (Covers A (before ++ cs)) := by
  induction h generalizing before with
  | done => exact .singleton _
  | stuck => exact .singleton _
  | @step pos text rest l ts hreads hs ih =>
    have htail := ih (before ++ text) (by simp [hpos])
    rw [List.append_assoc] at htail
    obtain ⟨m, us, rfl⟩ := hs.exists_cons
    subst hpos
    exact .cons_cons (hreads.covers before m) htail

/-- The end mark stands behind the last character, and what was read before it is the whole text. -/
theorem Scans.flatten_slices (h : Scans A pos cs ts) (before : List Char)
    (hpos : before.length = pos) {t : Token ν} (ht : t ∈ ts.getLast?)
    (hend : t.lexeme.isEnd = true) :
    t.pos = (before ++ cs).length ∧ (slices (before ++ cs) ts).flatten = cs := by
  induction h generalizing before with
  | done =>
    obtain rfl : _ = t := by simpa using ht
    simp [hpos, slices]
  | stuck =>
    obtain rfl : _ = t := by simpa using ht
    cases hend
  | @step pos text rest l ts hreads hs ih =>
    obtain ⟨m, us, rfl⟩ := hs.exists_cons
    obtain ⟨hlast, hrest⟩ := ih (before ++ text) (by simp [hpos]) (by simpa using ht)
    rw [List.append_assoc] at hlast hrest
    subst hpos
    refine ⟨hlast, ?_⟩
    have hcons : slices (before ++ (text ++ rest)) (⟨l, before.length⟩ ::
        ⟨m, before.length + text.length⟩ :: us) =
        text :: slices (before ++ (text ++ rest)) (⟨m, before.length + text.length⟩ :: us) := by
      conv_lhs => rw [slices, List.tail_cons, List.zipWith_cons_cons, slice_append]
      rfl
    rw [hcons, List.flatten_cons, hrest]

theorem Scans.not_reads (h : Scans A pos cs ts) (before : List Char) (hpos : before.length = pos)
    {t : Token ν} (ht : t ∈ ts.getLast?) (hend : t.lexeme.isEnd = false)
    (hreads : Reads A text rest l) : (before ++ cs).drop t.pos ≠ text ++ rest := by
  induction h generalizing before with
  | done =>
    obtain rfl : _ = t := by simpa using ht
    cases hend
  | stuck pos cs reason hstuck =>
    obtain rfl : _ = t := by simpa using ht
    rw [← hpos, List.drop_left]
    exact hstuck hreads
  | step _ hs ih =>
    obtain ⟨m, us, rfl⟩ := hs.exists_cons
    rw [← List.append_assoc]
    exact ih _ (by simp [hpos]) (by simpa using ht)

variable (A) in
/-- Reading a line loses nothing and cuts it at the ends of its longest lexemes. Its tokens stand
at ascending positions and exactly the last one ends it. If that is the end mark then the tokens
before it make up the line, and if not then no lexeme can be read where it stands. -/
theorem scan_lossless {limit : Int} {source : String} (h : source.length ≤ limit) :
    ∃ w last, scan A limit source = w ++ [last] ∧
      (∀ t ∈ w, t.lexeme.stops = false) ∧ last.lexeme.stops = true ∧
      (scan A limit source).head?.map Token.pos = some 0 ∧
      (scan A limit source).Pairwise (·.pos < ·.pos) ∧
      (scan A limit source).IsChain (Covers A source.toList) ∧
      (last.lexeme.isEnd = true → last.pos = source.length ∧
        (slices source.toList (scan A limit source)).flatten = source.toList) ∧
      (last.lexeme.isEnd = false → ∀ text rest l, Reads A text rest l →
        source.toList.drop last.pos ≠ text ++ rest) := by
  have hscans := scans_scan A h
  obtain ⟨w, last, hw, hbefore, hlast⟩ := hscans.exists_eq
  have hmem : last ∈ (scan A limit source).getLast? := by simp [hw]
  have hchain := hscans.isChain [] rfl
  obtain ⟨l, us, hcons⟩ := hscans.exists_cons
  refine ⟨w, last, hw, hbefore, hlast, ?_, ?_, hchain, fun hend => ?_, fun hend text rest l hl => ?_⟩
  · rw [hcons]
    rfl
  · have htrans : IsTrans (Token ν) (·.pos < ·.pos) := ⟨fun _ _ _ => Nat.lt_trans⟩
    exact List.isChain_iff_pairwise.mp (hchain.imp fun t u h => h.pos_lt)
  · rw [← String.length_toList]
    exact hscans.flatten_slices [] rfl hmem hend
  · exact hscans.not_reads [] rfl hmem hend hl

/-- A number that ends in an exponent, a unit, and two operators side by side. -/
theorem scan_lossless_operators :
    let source := "12.e2km--> "
    let tokens := scan Arithmetic.machine 11 source
    source.length ≤ (11 : Int) ∧ tokens.map Token.pos = [0, 5, 7, 8, 10, 11] ∧
      (slices source.toList tokens).map String.ofList = ["12.e2", "km", "-", "->", " "] ∧
      tokens.IsChain (Covers Arithmetic.machine source.toList) := by
  intro source tokens
  have hlength : source.length ≤ (11 : Int) := by decide
  obtain ⟨_, _, _, _, _, _, _, hchain, _⟩ := scan_lossless Arithmetic.machine hlength
  exact ⟨hlength, by decide +kernel, by decide +kernel, hchain⟩

end Quantities.Token
