import Quantities.Proofs.Token.Lexeme

namespace Quantities.Token

variable {ν : Type} {A : Arithmetic ν} {pos : Nat} {cs : List Char} {ts : List (Token ν)}

theorem Scans.exists_eq (h : Scans A pos cs ts) : ∃ w t, ts = w ++ [t] ∧
    (∀ x ∈ w, x.lexeme.stops = false) ∧ t.lexeme.stops = true := by
  induction h with
  | done pos => exact ⟨[], _, rfl, nofun, rfl⟩
  | stuck pos cs reason => exact ⟨[], _, rfl, nofun, rfl⟩
  | @step pos text rest l ts hreads hs ih =>
    obtain ⟨w, t, rfl, hbefore, ht⟩ := ih
    exact ⟨⟨l, pos⟩ :: w, t, rfl, List.forall_mem_cons.mpr ⟨hreads.stops_eq_false, hbefore⟩, ht⟩

theorem Scans.forall_mem {P : Lexeme ν → Prop} (h : Scans A pos cs ts) (hend : P .endOfLine)
    (hinvalid : ∀ reason, P (.invalid reason))
    (hreads : ∀ {text rest l}, Reads A text rest l → P l) : ∀ t ∈ ts, P t.lexeme := by
  induction h with
  | done pos => exact List.forall_mem_singleton.mpr hend
  | stuck pos cs reason => exact List.forall_mem_singleton.mpr (hinvalid reason)
  | step hread hs ih => exact List.forall_mem_cons.mpr ⟨hreads hread, ih⟩

variable (A)

theorem scans_scan {limit : Int} {source : String} (h : source.length ≤ limit) :
    Scans A 0 source.toList (scan A limit source) := by
  rw [scan, if_neg (by omega)]
  exact scans_scanFrom A 0 _

theorem scan_of_lt {limit : Int} {source : String} (h : limit < source.length) :
    scan A limit source = [⟨.invalid (some (.tooLong limit)), 0⟩] := by
  rw [scan, if_pos h]

theorem exists_tokenize_eq (limit : Int) (source : String) :
    ∃ w t, tokenize A limit source = w ++ [t] ∧
      (∀ x ∈ w, x.lexeme.stops = false) ∧ t.lexeme.stops = true := by
  have hscan : ∃ w t, scan A limit source = w ++ [t] ∧
      (∀ x ∈ w, x.lexeme.stops = false) ∧ t.lexeme.stops = true := by
    rcases Int.lt_or_le limit source.length with hlt | hle
    · exact ⟨[], _, scan_of_lt A hlt, nofun, rfl⟩
    · exact (scans_scan A hle).exists_eq
  obtain ⟨w, t, hw, hbefore, ht⟩ := hscan
  have hblank : t.lexeme.isBlank = false := by
    obtain ⟨l, _⟩ := t
    cases l <;> first | rfl | cases ht
  refine ⟨w.filter fun x => !x.lexeme.isBlank, t, ?_, ?_, ht⟩
  · simp [tokenize, hw, hblank]
  · exact fun x hx => hbefore x (List.mem_filter.mp hx).1

/-- What holds of the end mark, of invalid lexemes and of all that is read holds of all tokens. -/
theorem forall_mem_tokenize {P : Lexeme ν → Prop} (hend : P .endOfLine)
    (hinvalid : ∀ reason, P (.invalid reason))
    (hreads : ∀ {text rest l}, Reads A text rest l → P l) {limit : Int} {source : String} :
    ∀ t ∈ tokenize A limit source, P t.lexeme := by
  intro t ht
  have hmem := (List.mem_filter.mp ht).1
  rcases Int.lt_or_le limit source.length with hlt | hle
  · rw [scan_of_lt A hlt] at hmem
    obtain rfl := List.mem_singleton.mp hmem
    exact hinvalid _
  · exact (scans_scan A hle).forall_mem hend hinvalid hreads t hmem

def IsLiteral (t : Token ν) : Prop := ∀ b, t.lexeme = .unit b → b.isMarker = false

theorem isMarker_of_ofWord {w : String} {b : BaseUnit} (h : (ofWord w : Lexeme ν) = .unit b) :
    b.isMarker = false := by
  unfold ofWord at h
  repeat' split at h
  all_goals cases h
  next hb => exact (BaseUnit.symbol_of_ofSymbol? hb).2

theorem isLiteral_of_mem_tokenize {limit : Int} {source : String} :
    ∀ t ∈ tokenize A limit source, t.IsLiteral := by
  refine forall_mem_tokenize A (P := fun l => ∀ b, l = .unit b → b.isMarker = false) nofun nofun ?_
  intro text rest l h b hb
  cases h with
  | word => exact isMarker_of_ofWord hb
  | _ => cases hb

theorem isName_of_mem_tokenize {limit : Int} {source : String} {t : Token ν} {name : String}
    (ht : t ∈ tokenize A limit source) (hname : t.lexeme = .var name) : IsName name := by
  refine forall_mem_tokenize A (P := fun l => ∀ name, l = .var name → IsName name) nofun nofun ?_
    t ht name hname
  intro text rest l h name hl
  cases h with
  | word hword =>
    obtain ⟨rfl, hunit, hcommand⟩ := ofWord_eq_var_iff.mp hl
    exact ⟨by rwa [String.toList_ofList], hunit, hcommand⟩
  | _ => cases hl

end Quantities.Token
