import Quantities.Proofs.Expr.Derivation
import Quantities.Proofs.Grammar.Window

namespace Quantities

variable {ν : Type}

def Lexeme.name? : Lexeme ν → Option String
  | var name => some name
  | _ => none

namespace Token

/-- The variables of a row of tokens, in their order. -/
def varNames (w : List (Token ν)) : List String := w.filterMap fun t => t.lexeme.name?

theorem mem_varNames_iff {w : List (Token ν)} {name : String} :
    name ∈ varNames w ↔ ∃ t ∈ w, t.lexeme = .var name := by
  have hname (l : Lexeme ν) : l.name? = some name ↔ l = .var name := by
    cases l <;> simp [Lexeme.name?]
  simp only [varNames, List.mem_filterMap, hname]

theorem varNames_subset {v w : List (Token ν)} (h : v ⊆ w) : varNames v ⊆ varNames w := by
  intro name hname
  obtain ⟨t, ht, hvar⟩ := mem_varNames_iff.mp hname
  exact mem_varNames_iff.mpr ⟨t, h ht, hvar⟩

end Token

/-- Two references that take each variable of a row for the same. -/
def Reference.Agree (ref ref' : Reference) (w : List (Token ν)) : Prop :=
  ∀ name ∈ Token.varNames w,
    ref.holdsNumber name = ref'.holdsNumber name ∧ ref.holdsUnit name = ref'.holdsUnit name

namespace Reference.Agree

variable {ref ref' : Reference} {w : List (Token ν)}

theorem mono (h : ref.Agree ref' w) {v : List (Token ν)} (hv : v ⊆ w) : ref.Agree ref' v :=
  fun name hname => h name (Token.varNames_subset hv hname)

theorem isNumber_eq (h : ref.Agree ref' w) {t : Token ν} (ht : t ∈ w) :
    t.lexeme.isNumber ref = t.lexeme.isNumber ref' := by
  cases hl : t.lexeme with
  | var name => exact (h name (Token.mem_varNames_iff.mpr ⟨t, ht, hl⟩)).1
  | _ => rfl

theorem isUnit_eq (h : ref.Agree ref' w) {t : Token ν} (ht : t ∈ w) :
    t.lexeme.isUnit ref = t.lexeme.isUnit ref' := by
  cases hl : t.lexeme with
  | var name => exact (h name (Token.mem_varNames_iff.mpr ⟨t, ht, hl⟩)).2
  | _ => rfl

end Reference.Agree

section Agree

variable {ref ref' : Reference} {w : List (Token ν)}

theorem Lexeme.rule_congr {t : Lexeme ν} {previous next : Option (Lexeme ν)}
    (hnumber : t.isNumber ref = t.isNumber ref') (hunit : t.isUnit ref = t.isUnit ref')
    (hnext : ∀ l ∈ next, l.isUnit ref = l.isUnit ref') :
    t.rule ref previous next = t.rule ref' previous next := by
  have hany : next.any (·.isUnit ref) = next.any (·.isUnit ref') := by
    cases next with
    | none => rfl
    | some l => exact hnext l rfl
  cases t with
  | operator op c => cases op <;> simp only [rule, hany]
  | _ => simp only [rule, hnumber, hunit]

theorem Pivot.find?_congr (h : ref.Agree ref' w) (previous : Option (Lexeme ν)) :
    Pivot.find? ref previous w = Pivot.find? ref' previous w := by
  induction w generalizing previous with
  | nil => rfl
  | cons t ts ih =>
    have hrule : t.lexeme.rule ref previous (ts.head?.map Token.lexeme) =
        t.lexeme.rule ref' previous (ts.head?.map Token.lexeme) := by
      refine Lexeme.rule_congr (h.isNumber_eq (by simp)) (h.isUnit_eq (by simp)) fun l hl => ?_
      obtain ⟨u, hu, rfl⟩ := Option.map_eq_some_iff.mp hl
      exact h.isUnit_eq (List.mem_cons_of_mem t (List.mem_of_head? hu))
    rw [find?, find?, hrule, ih (h.mono (List.subset_cons_self t ts))]

theorem Split.ofWindow_congr (h : ref.Agree ref' w) :
    Split.ofWindow ref w = Split.ofWindow ref' w := by
  have hfind := Pivot.find?_congr (h.mono (isPrefix_dropEnd w).subset) none
  unfold Split.ofWindow
  split
  · rfl
  · rfl
  · rw [hfind]

theorem Expr.ofTokens_congr (h : ref.Agree ref' w) : ofTokens ref w = ofTokens ref' w := by
  induction w using Split.induction ref with
  | step w ih =>
    have hparts : ∀ v ∈ (Split.ofWindow ref w).parts, ofTokens ref v = ofTokens ref' v :=
      fun v hv => ih v hv (h.mono (Split.isInfix_of_mem_parts hv).subset)
    rw [ofTokens_eq_expr, ofTokens_eq_expr, ← Split.ofWindow_congr h]
    cases hs : Split.ofWindow ref w with
    | leaf e => rfl
    | negation o =>
      rw [Split.expr, Split.expr, hparts o (by simp [hs, Split.parts])]
    | assignment l r | joint _ l r =>
      rw [Split.expr, Split.expr, hparts l (by simp [hs, Split.parts]),
        hparts r (by simp [hs, Split.parts])]

end Agree

namespace Expr

theorem mem_varNames_of_leaf {w : List (Token ν)} {e : Expr ν} {name : String}
    (h : Split.Cuts w (.leaf e)) (hname : var name ∈ e.nodes) : name ∈ Token.varNames w := by
  cases h with
  | nothing => simp [nodes] at hname
  | refused => simp [invalidWindow, nodes] at hname
  | token t =>
    refine Token.mem_varNames_iff.mpr ⟨t, by simp, ?_⟩
    unfold ofToken at hname
    split at hname <;> simp_all [nodes]

theorem mem_varNames_of_mem_nodes {ref : Reference} {w : List (Token ν)} {name : String} :
    var name ∈ (ofTokens ref w).nodes → name ∈ Token.varNames w := by
  refine ofTokens_of_leaves (P := fun e => var name ∈ e.nodes → name ∈ Token.varNames w)
    (fun v e hv he hname => ?_) (fun e he hname => ?_) (fun t v ht hv hname => ?_)
    fun op l r hl hr hname => ?_
  · have hcuts := Split.cuts_ofWindow ref v
    rw [he] at hcuts
    exact Token.varNames_subset ((isPrefix_dropEnd v).isInfix.trans hv).subset
      (mem_varNames_of_leaf hcuts hname)
  · exact he (by simpa [nodes] using hname)
  · have hparts : var name ∈ t.nodes ∨ var name ∈ v.nodes := by simpa [nodes] using hname
    exact hparts.elim ht hv
  · have hparts : var name ∈ l.nodes ∨ var name ∈ r.nodes := by simpa [nodes] using hname
    exact hparts.elim hl hr

theorem substitute_congr {e : Expr ν} {s t : Store ν}
    (h : ∀ name, var name ∈ e.nodes → s.get? name = t.get? name) :
    e.substitute s = e.substitute t := by
  induction e with
  | var name => rw [substitute, substitute, h name (by simp [nodes])]
  | neg e ih => rw [substitute, substitute, ih fun name hn => h name (by simp [nodes, hn])]
  | bin op l r ihl ihr =>
    rw [substitute, substitute, ihl fun name hn => h name (by simp [nodes, hn]),
      ihr fun name hn => h name (by simp [nodes, hn])]
  | assign t v _ ih => rw [substitute, substitute, ih fun name hn => h name (by simp [nodes, hn])]
  | _ => rfl

end Expr

end Quantities
