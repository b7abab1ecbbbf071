import Quantities.Number.Machine
import Quantities.Proofs.Expr.Derivation
import Quantities.Proofs.Grammar.Window
import Quantities.Proofs.Token.Tokenize

namespace Quantities

variable {ν : Type}

namespace Lexeme

/-- The command that ends a session goes by two names. -/
def standard : Lexeme ν → Lexeme ν
  | command .quit _ => command .quit (some "quit")
  | l => l

/-- Operators are spelled as their symbols and commands as their names. -/
def Spelled : Lexeme ν → Prop
  | operator op spelling => spelling = some op.symbol
  | command .quit spelling => spelling = some "quit" ∨ spelling = some "exit"
  | command .help spelling => spelling = some "help"
  | _ => True

end Lexeme

namespace Token

variable (A : Arithmetic ν)

theorem spelled_ofWord (w : String) : (ofWord w : Lexeme ν).Spelled := by
  unfold ofWord
  split
  next h => simpa [Lexeme.Spelled] using h
  next =>
    split
    next h => simpa [Lexeme.Spelled] using h
    next => split <;> trivial

variable {A} in
theorem Reads.spelled {text rest : List Char} {l : Lexeme ν} (h : Reads A text rest l) :
    l.Spelled := by
  cases h with
  | word => exact spelled_ofWord _
  | operator op => rfl
  | _ => trivial

theorem spelled_of_mem_tokenize (limit : Int) (source : String) :
    ∀ t ∈ tokenize A limit source, t.lexeme.Spelled :=
  forall_mem_tokenize A trivial (fun _ => trivial) Reads.spelled

end Token

namespace Expr

/-- The lexemes of an expression from left to right. A base unit is the only unit that is written as
one lexeme, and joined expressions have a lexeme between them unless they stand side by side. -/
def yield : Expr ν → List (Lexeme ν)
  | const x => [.number x]
  | unit ⟨[⟨b, 1⟩]⟩ => [.unit b]
  | unit _ => []
  | var name => [.var name]
  | neg e => .operator .sub (some "-") :: e.yield
  | bin op l r =>
    l.yield ++ (op.operator?.map fun o => .operator o (some o.symbol)).toList ++ r.yield
  | assign t v => t.yield ++ .operator .equals (some "=") :: v.yield
  | empty => []
  | quit => [.command .quit (some "quit")]
  | help => [.command .help (some "help")]
  | invalid _ => []

def isInvalid : Expr ν → Bool
  | invalid _ => true
  | _ => false

/-- An expression without invalid parts. -/
def Clean (e : Expr ν) : Prop := ∀ n ∈ e.nodes, n.isInvalid = false

theorem clean_neg_iff {e : Expr ν} : (neg e).Clean ↔ e.Clean := by
  rw [Clean, nodes, List.forall_mem_cons]
  exact and_iff_right rfl

theorem clean_bin_iff {op : Kind} {l r : Expr ν} :
    (bin op l r).Clean ↔ l.Clean ∧ r.Clean := by
  rw [Clean, nodes, List.forall_mem_cons, List.forall_mem_append]
  exact and_iff_right rfl

theorem clean_assign_iff {t v : Expr ν} : (assign t v).Clean ↔ t.Clean ∧ v.Clean := by
  rw [Clean, nodes, List.forall_mem_cons, List.forall_mem_append]
  exact and_iff_right rfl

theorem not_clean_invalid (reason : Option SyntaxError) : ¬ (invalid reason : Expr ν).Clean := by
  simp [Clean, nodes, isInvalid]

theorem isInvalid_eq_false_of_mem_yield {e : Expr ν} : ∀ l ∈ e.yield, l.isInvalid = false := by
  induction e with
  | unit u =>
    unfold yield
    split <;> simp_all [Lexeme.isInvalid]
  | neg e ih =>
    rw [yield, List.forall_mem_cons]
    exact ⟨rfl, ih⟩
  | bin op l r ihl ihr =>
    rw [yield, List.forall_mem_append, List.forall_mem_append]
    refine ⟨⟨ihl, ?_⟩, ihr⟩
    cases op.operator? <;> simp [Lexeme.isInvalid]
  | assign t v iht ihv =>
    rw [yield, List.forall_mem_append, List.forall_mem_cons]
    exact ⟨iht, rfl, ihv⟩
  | _ => simp [yield, Lexeme.isInvalid]

theorem yield_ofToken {t : Token ν} (ht : t.lexeme.Spelled) (h : (ofToken t).Clean) :
    (ofToken t).yield = [t.lexeme.standard] := by
  obtain ⟨l, pos⟩ := t
  cases l with
  | command c spelling =>
    cases c with
    | quit => rfl
    | help =>
      obtain rfl : spelling = some "help" := ht
      rfl
  | number | unit | var => rfl
  | _ => exact absurd h (not_clean_invalid _)

variable {ref : Reference} {w : List (Token ν)}

theorem yield_ofTokens (hend : ∀ t ∈ w, t.lexeme.isEnd = false)
    (hspelled : ∀ t ∈ w, t.lexeme.Spelled) (h : (ofTokens ref w).Clean) :
    (ofTokens ref w).yield = w.map fun t => t.lexeme.standard := by
  induction w using Split.induction ref with
  | step w ih =>
    have hparts : ∀ v ∈ (Split.ofWindow ref w).parts, (ofTokens ref v).Clean →
        (ofTokens ref v).yield = v.map fun t => t.lexeme.standard := by
      intro v hv
      have hsubset := (Split.isInfix_of_mem_parts hv).subset
      exact ih v hv (fun t ht => hend t (hsubset ht)) fun t ht => hspelled t (hsubset ht)
    have hcuts := Split.cuts_ofWindow ref w
    rw [dropEnd_eq_self hend] at hcuts
    rw [ofTokens_eq_expr] at h ⊢
    generalize Split.ofWindow ref w = s at hparts hcuts h ⊢
    clear ih hend
    cases hcuts with
    | nothing => rfl
    | token t => exact yield_ofToken (hspelled t (by simp)) h
    | refused => exact absurd h (not_clean_invalid _)
    | minus c p o =>
      obtain rfl : c = some "-" := hspelled ⟨.operator .sub c, p⟩ (by simp)
      rw [Split.expr, yield, hparts o (by simp [Split.parts]) (clean_neg_iff.mp h)]
      rfl
    | equals t c p v =>
      obtain rfl : c = some "=" := hspelled ⟨.operator .equals c, p⟩ (by simp)
      obtain ⟨ht, hv⟩ := clean_assign_iff.mp h
      rw [Split.expr, yield, hparts t (by simp [Split.parts]) ht,
        hparts v (by simp [Split.parts]) hv, List.map_append]
      rfl
    | @between op kind hkind l c p r =>
      obtain rfl : c = some op.symbol := hspelled ⟨.operator op c, p⟩ (by simp)
      obtain ⟨hl, hr⟩ := clean_bin_iff.mp h
      rw [Split.expr, yield, hparts l (by simp [Split.parts]) hl,
        hparts r (by simp [Split.parts]) hr, hkind, List.map_append, List.append_assoc]
      rfl
    | adjacent hkind l r =>
      obtain ⟨hl, hr⟩ := clean_bin_iff.mp h
      rw [Split.expr, yield, hparts l (by simp [Split.parts]) hl,
        hparts r (by simp [Split.parts]) hr, hkind, List.map_append]
      simp

variable (A : Arithmetic ν)

/-- A line whose expression has no invalid parts is read to its end, and its tokens are what the
expression yields. -/
theorem yield_ofLine (ref : Reference) (limit : Int) (source : String) :
    ((ofLine ref A limit source).Clean → ∃ w pos,
      Token.tokenize A limit source = w ++ [⟨.endOfLine, pos⟩] ∧
        (ofLine ref A limit source).yield = w.map fun t => t.lexeme.standard) ∧
    ∀ w reason pos, Token.tokenize A limit source = w ++ [⟨.invalid reason, pos⟩] →
      ¬ (ofLine ref A limit source).Clean := by
  have hread (h : (ofLine ref A limit source).Clean) : ∃ w pos,
      Token.tokenize A limit source = w ++ [⟨.endOfLine, pos⟩] ∧
        (ofLine ref A limit source).yield = w.map fun t => t.lexeme.standard := by
    have hspelled := Token.spelled_of_mem_tokenize A limit source
    obtain ⟨w, last, hw, hbefore, hlast⟩ := Token.exists_tokenize_eq A limit source
    have hend : ∀ t ∈ w, t.lexeme.isEnd = false := fun t ht =>
      (Bool.or_eq_false_iff.mp (hbefore t ht)).1
    rw [ofLine, hw] at h ⊢
    rw [hw] at hspelled
    obtain ⟨l, pos⟩ := last
    cases l with
    | endOfLine =>
      rw [ofTokens_append_end hend] at h ⊢
      exact ⟨w, pos, rfl, yield_ofTokens hend (List.forall_mem_append.mp hspelled).1 h⟩
    | invalid reason =>
      have hall : ∀ t ∈ w ++ [⟨.invalid reason, pos⟩], t.lexeme.isEnd = false :=
        List.forall_mem_append.mpr ⟨hend, by simp [Lexeme.isEnd]⟩
      have hmem : .invalid reason ∈ (ofTokens ref (w ++ [⟨.invalid reason, pos⟩])).yield := by
        rw [yield_ofTokens hall hspelled h]
        simp [Lexeme.standard]
      exact absurd (isInvalid_eq_false_of_mem_yield _ hmem) (by simp [Lexeme.isInvalid])
    | _ => cases hlast
  refine ⟨hread, fun w reason pos hw hclean => ?_⟩
  obtain ⟨v, q, hv, _⟩ := hread hclean
  simp [hv] at hw

/-- The check refuses a line that leaves none of its tokens behind. -/
theorem yield_ofLine_refused :
    let e := ofLine .none Arithmetic.machine 100 "x = 5 km ^ -3 exit"
    e.Clean ∧ ¬ e.Valid ∧ e.yield.length = 8 ∧ ∃ w pos,
      Token.tokenize Arithmetic.machine 100 "x = 5 km ^ -3 exit" = w ++ [⟨.endOfLine, pos⟩] ∧
        e.yield = w.map fun t => t.lexeme.standard := by
  intro e
  have hclean : e.Clean := by
    unfold Clean
    decide +kernel
  have hinvalid : ¬ e.Valid := by
    have hobjection : e.objection?.toOption ≠ some none := by decide +kernel
    intro h
    exact hobjection (congrArg Except.toOption h)
  exact ⟨hclean, hinvalid, by decide +kernel,
    (yield_ofLine Arithmetic.machine .none 100 "x = 5 km ^ -3 exit").1 hclean⟩

end Expr

end Quantities
