import Quantities.Proofs.Grammar.Assignment
import Quantities.Proofs.Session.Step

namespace Quantities

variable {ν : Type} (A : Arithmetic ν)

namespace Session

/-- What assigning to a variable makes of the outcome of a plain line. An error may have another
cause, since its text stands elsewhere in the line. -/
inductive Assigned (name : String) :
    Except Fault (LineResult ν) → Except Fault (LineResult ν) → Prop
  | value (x : ν) (u : CompoundUnit) (text : String) :
      Assigned name (.ok (.value x u text)) (.ok (.assignment name (.number x u) text))
  | unit (u : CompoundUnit) (text : String) :
      Assigned name (.ok (.unit u text)) (.ok (.assignment name (.unit u) text))
  | error (d d' : Diagnostic) : Assigned name (.ok (.error d)) (.ok (.error d'))
  | fault (f : Fault) : Assigned name (.error f) (.error f)

variable (s : Session ν)

theorem parse_of_isLine {line : String} {tree : Expr ν}
    (h : IsLine s.store (Token.tokenize A s.config.maxLineLength line) tree) :
    s.parse A line = tree.substitute s.store := by
  rw [parse, Expr.ofLine, h.ofTokens_eq]

theorem asked?_of_isLine {line : String} {tree : Expr ν}
    (h : IsLine s.store (Token.tokenize A s.config.maxLineLength line) tree) :
    s.asked? A line = question? (tree.substitute s.store) := by
  obtain ⟨w, pos, _, hphrase⟩ := id h
  have hvalid : (tree.substitute s.store).objection? = .ok none := hphrase.valid.1
  rw [asked?, s.parse_of_isLine A h, hvalid]

theorem execute_of_unbound {line name : String} (h : s.asked? A line = some (none, .var name)) :
    ∃ d, s.execute A line = (.ok (.error d), s) := by
  rw [s.execute_of_asked? A h, Expr.result?_perform, Expr.inferUnit]
  exact ⟨_, rfl⟩

theorem assigned_of_asked? {plain line name : String} {e : Expr ν}
    (hp : s.asked? A plain = some (none, e)) (hl : s.asked? A line = some (some name, e)) :
    Assigned name (s.execute A plain).1 (s.execute A line).1 := by
  rw [s.execute_of_asked? A hp, s.execute_of_asked? A hl]
  rcases (e.result? A).perform {} with ⟨f | (_ | b), r⟩
  · exact .fault f
  · exact .error _ _
  · simp only
    cases s.format A b with
    | error f => exact .fault f
    | ok text =>
      cases b with
      | number x u => exact .value x u text
      | unit u => exact .unit u text

section Lines

variable {s} {x e : String} (hx : IsName x)
  (hlimit : (x ++ " = " ++ e).length ≤ s.config.maxLineLength)
  (hequals : ∀ t ∈ Token.tokenize A s.config.maxLineLength e, ∀ c, t.lexeme ≠ .operator .equals c)
  (hend : (Token.tokenize A s.config.maxLineLength e).map Token.lexeme ≠ [.endOfLine])
  (hcommand : ∀ command spelling, (Token.tokenize A s.config.maxLineLength e).map Token.lexeme ≠
    [.command command spelling, .endOfLine])

include hx hlimit in
theorem asked?_of_expression {w : List (Token ν)} {pos : Nat} {tree : Expr ν}
    (hw : Token.tokenize A s.config.maxLineLength e = w ++ [⟨.endOfLine, pos⟩])
    (h : Phrase s.store .expression w tree) :
    s.asked? A e = some (none, tree.substitute s.store) ∧
      s.asked? A (x ++ " = " ++ e) = some (some x, tree.substitute s.store) := by
  constructor
  · rw [s.asked?_of_isLine A ⟨w, pos, hw, .ofExpression h⟩]
    exact question?_of_admits (h.valid.2 (by decide))
  · have hlexemes := Token.lexemes_tokenize_assignment A hx (Int.ofNat_le.mpr hlimit)
    have hline := (isLine_assignment_iff hlexemes).mpr ⟨w, pos, tree, hw, h, rfl⟩
    rw [s.asked?_of_isLine A hline]
    rfl

include hx hlimit in
theorem valid_assignment_iff : (s.parse A (x ++ " = " ++ e)).Valid ↔ ∃ w pos tree,
    Token.tokenize A s.config.maxLineLength e = w ++ [⟨.endOfLine, pos⟩] ∧
      Phrase s.store .expression w tree := by
  constructor
  · intro hv
    have hlexemes := Token.lexemes_tokenize_assignment A hx (Int.ofNat_le.mpr hlimit)
    have hline := isLine_of_valid A (s := s.store) hv
    obtain ⟨w, pos, tree, hw, h, _⟩ := (isLine_assignment_iff hlexemes).mp hline
    exact ⟨w, pos, tree, hw, h⟩
  · rintro ⟨w, pos, tree, hw, h⟩
    exact (valid_of_asked? A (asked?_of_expression A hx hlimit hw h).2).1

include hequals hend hcommand in
theorem execute_of_not_expression (h : ∀ w pos tree,
    Token.tokenize A s.config.maxLineLength e = w ++ [⟨.endOfLine, pos⟩] →
      ¬ Phrase s.store .expression w tree) :
    ∃ d, s.execute A e = (.ok (.error d), s) := by
  by_cases hv : (s.parse A e).Valid
  · have hline := isLine_of_valid A (s := s.store) hv
    have hasked := s.asked?_of_isLine A hline
    obtain ⟨w, pos, hw, hphrase⟩ := hline
    generalize Expr.ofLine s.store.reference A s.config.maxLineLength e = tree at hasked hphrase
    cases hphrase with
    | blank => simp [hw] at hend
    | quit | help => exact absurd (by rw [hw]; rfl) (hcommand _ _)
    | @assignment _ _ _ c _ q _ =>
      exact absurd rfl (hequals ⟨.operator .equals c, q⟩ (by rw [hw]; simp) c)
    | ofExpression he => exact absurd he (h w pos tree hw)
    | @named name p =>
      cases hb : s.store.get? name with
      | some b => exact absurd (Phrase.ofBound hb) (h _ pos _ hw)
      | none =>
        rw [Expr.substitute, hb] at hasked
        exact s.execute_of_unbound A hasked
  · exact s.execute_of_not_valid A hv

include hx hlimit hequals hend hcommand in
theorem assigned_execute :
    Assigned x (s.execute A e).1 (s.execute A (x ++ " = " ++ e)).1 := by
  by_cases hv : (s.parse A (x ++ " = " ++ e)).Valid
  · obtain ⟨w, pos, tree, hw, h⟩ := (valid_assignment_iff A hx hlimit).mp hv
    obtain ⟨hplain, hnamed⟩ := asked?_of_expression A hx hlimit hw h
    exact s.assigned_of_asked? A hplain hnamed
  · obtain ⟨d, hd⟩ := execute_of_not_expression A hequals hend hcommand fun w pos tree hw h =>
      hv ((valid_assignment_iff A hx hlimit).mpr ⟨w, pos, tree, hw, h⟩)
    obtain ⟨d', hd'⟩ := s.execute_of_not_valid A hv
    rw [hd, hd']
    exact .error d d'

end Lines

/-- In any state an assignment gives a number or a unit, an error or a fault exactly where its value
gives the same on a line of its own, and it gives nothing else. -/
theorem execute_assignment_iff (s : Session ν) {x e : String} (hx : IsName x)
    (hlimit : (x ++ " = " ++ e).length ≤ s.config.maxLineLength)
    (hequals : ∀ t ∈ Token.tokenize A s.config.maxLineLength e, ∀ c,
      t.lexeme ≠ .operator .equals c)
    (hend : (Token.tokenize A s.config.maxLineLength e).map Token.lexeme ≠ [.endOfLine])
    (hcommand : ∀ command spelling,
      (Token.tokenize A s.config.maxLineLength e).map Token.lexeme ≠
        [.command command spelling, .endOfLine]) :
    let plain := (s.execute A e).1
    let named := (s.execute A (x ++ " = " ++ e)).1
    (∀ name v u text, named = .ok (.assignment name (.number v u) text) ↔
        name = x ∧ plain = .ok (.value v u text)) ∧
      (∀ name u text, named = .ok (.assignment name (.unit u) text) ↔
        name = x ∧ plain = .ok (.unit u text)) ∧
      (∀ f, named = .error f ↔ plain = .error f) ∧
      ((∀ f, plain ≠ .error f) → (∀ v u text, plain ≠ .ok (.value v u text)) →
        (∀ u text, plain ≠ .ok (.unit u text)) →
          (∃ d, plain = .ok (.error d)) ∧ ∃ d, named = .ok (.error d)) := by
  intro plain named
  have h : Assigned x plain named := assigned_execute A hx hlimit hequals hend hcommand
  generalize plain = p at h ⊢
  generalize named = n at h ⊢
  cases h <;> simp [eq_comm, and_assoc]

/-- The assigned value names another variable. -/
theorem execute_assignment_of_quotient :
    let s := (executeAll Arithmetic.machine {} ["y = 8 m"]).2
    let tokens := Token.tokenize Arithmetic.machine s.config.maxLineLength "y / 4"
    IsName "x" ∧ ("x" ++ " = " ++ "y / 4").length ≤ s.config.maxLineLength ∧ tokens.length = 4 ∧
      (s.execute Arithmetic.machine ("x" ++ " = " ++ "y / 4")).1 =
        .ok (.assignment "x" (.number 2 (.ofBase .meter)) "2 m") := by
  intro s tokens
  have hx : IsName "x" := ⟨by simp [IsWord], by decide, by decide⟩
  have hlimit : ("x" ++ " = " ++ "y / 4").length ≤ s.config.maxLineLength := by decide +kernel
  have hlength : tokens.length = 4 := by decide +kernel
  have hequals : ∀ t ∈ tokens, ∀ c, t.lexeme ≠ .operator .equals c := by
    intro t ht c hc
    have hall : ∀ t ∈ tokens, t.lexeme.rule .none none none ≠ .assign := by decide +kernel
    exact hall t ht (by rw [hc]; rfl)
  have hend : tokens.map Token.lexeme ≠ [.endOfLine] := fun h => by
    simpa [hlength] using congrArg List.length h
  have hcommand (c : Command) (spelling : Option String) :
      tokens.map Token.lexeme ≠ [.command c spelling, .endOfLine] := fun h => by
    simpa [hlength] using congrArg List.length h
  have hplain : (s.execute Arithmetic.machine "y / 4").1 =
      .ok (.value 2 (.ofBase .meter) "2 m") := by
    have hvalue : (s.execute Arithmetic.machine "y / 4").1.toOption =
        some (.value 2 (.ofBase .meter) "2 m") := by decide +kernel
    cases h : (s.execute Arithmetic.machine "y / 4").1 with
    | error f => simp [h, Except.toOption] at hvalue
    | ok r => simpa [h, Except.toOption] using hvalue
  have hiff := (execute_assignment_iff Arithmetic.machine s hx hlimit hequals hend hcommand).1
  exact ⟨hx, hlimit, hlength, (hiff "x" 2 (.ofBase .meter) "2 m").mpr ⟨rfl, hplain⟩⟩

end Session

end Quantities
