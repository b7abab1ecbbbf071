import Quantities.Proofs.Expr.Magnitude
import Quantities.Proofs.Session.Reachable

namespace Quantities

variable {ν : Type} (A : Arithmetic ν)

namespace Expr

/-- Whether a variable stands in front of a unit that measures some category of the variable's own
unit in another base unit. -/
def Folds (s : Store ν) (tree : Expr ν) : Prop :=
  ∃ name unit x u b, bin .quantity (var name) unit ∈ tree.nodes ∧
    s.get? name = some (.number x u) ∧ (unit.substitute s).unit? A = some b ∧ u.Mixes b

variable {A} {s : Store ν} {e l r : Expr ν} {op : Kind}

theorem folds_neg_iff : (neg e).Folds A s ↔ e.Folds A s := by
  simp [Folds, nodes]

theorem folds_assign_iff {name : String} : (assign (var name) e).Folds A s ↔ e.Folds A s := by
  simp [Folds, nodes]

theorem folds_bin_iff : (bin op l r).Folds A s ↔
    (op = .quantity ∧ ∃ name x u b, l = var name ∧ s.get? name = some (.number x u) ∧
      (r.substitute s).unit? A = some b ∧ u.Mixes b) ∨ l.Folds A s ∨ r.Folds A s := by
  constructor
  · rintro ⟨name, unit, x, u, b, hmem, hfold⟩
    simp only [nodes, List.mem_cons, List.mem_append] at hmem
    rcases hmem with heq | hmem | hmem
    · cases heq
      exact .inl ⟨rfl, name, x, u, b, rfl, hfold⟩
    · exact .inr (.inl ⟨name, unit, x, u, b, hmem, hfold⟩)
    · exact .inr (.inr ⟨name, unit, x, u, b, hmem, hfold⟩)
  · rintro (⟨rfl, name, x, u, b, rfl, hfold⟩ | ⟨name, unit, x, u, b, hmem, hfold⟩ |
      ⟨name, unit, x, u, b, hmem, hfold⟩)
    · exact ⟨name, r, x, u, b, by simp [nodes], hfold⟩
    · exact ⟨name, unit, x, u, b, by simp [nodes, hmem], hfold⟩
    · exact ⟨name, unit, x, u, b, by simp [nodes, hmem], hfold⟩

theorem exists_unit?_of_result? {b : Binding ν} {ρ : Report}
    (h : (e.result? A).perform {} = (.ok (some b), ρ)) : ∃ u, e.unit? A = some u := by
  obtain ⟨u, ρ', hu, hknown, -⟩ := exists_unit_of_result? h
  exact ⟨u, unit?_eq_some_iff.mpr ⟨yield?_inferUnit_of_known hu hknown, hknown⟩⟩

end Expr

variable {A} {s : Store ν}

theorem Binding.Canonical.unmixed_expr {b : Binding ν} (h : b.Canonical) :
    b.expr.Unmixed A .quantity := by
  cases b with
  | unit u => simp [expr, Expr.Unmixed, Expr.nodes]
  | number x u =>
    rw [expr, Expr.quantity, Expr.unmixed_bin_iff]
    refine ⟨fun _ a b ha hb hmix => ?_, ?_, ?_⟩
    · rw [Expr.unit?_const] at ha
      rw [Expr.unit?_unit (CompoundUnit.Canonical.isUnknown_eq_false h)] at hb
      cases ha
      cases hb
      exact CompoundUnit.Canonical.not_mixes_none h hmix.symm
    · simp [Expr.Unmixed, Expr.nodes]
    · simp [Expr.Unmixed, Expr.nodes]

theorem Store.Canonical.unmixed_var (hs : s.Canonical) (name : String) :
    ((Expr.var name).substitute s).Unmixed A .quantity := by
  rw [Expr.substitute]
  split
  next b hb => exact (hs.get? hb).unmixed_expr
  next => simp [Expr.Unmixed, Expr.nodes]

theorem Numeral.unmixed (hs : s.Canonical) {t : Lexeme ν} {e : Expr ν} (h : Numeral s t e) :
    (e.substitute s).Unmixed A .quantity ∧ ¬ e.Folds A s := by
  cases h with
  | literal x => simp [Expr.substitute, Expr.Unmixed, Expr.Folds, Expr.nodes]
  | bound h => exact ⟨hs.unmixed_var _, by simp [Expr.Folds, Expr.nodes]⟩

theorem UnitWord.unmixed (hs : s.Canonical) {t : Lexeme ν} {e : Expr ν} (h : UnitWord s t e) :
    (e.substitute s).Unmixed A .quantity ∧ ¬ e.Folds A s := by
  cases h with
  | literal b => simp [Expr.substitute, Expr.Unmixed, Expr.Folds, Expr.nodes]
  | bound h => exact ⟨hs.unmixed_var _, by simp [Expr.Folds, Expr.nodes]⟩

theorem Numeral.not_mixes_iff (hs : s.Canonical) (hwritable : s.Writable) {t : Lexeme ν} {l r : Expr ν}
    (hl : Numeral s t l) (hr : (r.substitute s).Derivable) :
    (∀ a b, (l.substitute s).unit? A = some a → (r.substitute s).unit? A = some b →
      ¬ a.Mixes b) ↔
    ¬ ∃ name x u b, l = .var name ∧ s.get? name = some (.number x u) ∧
      (r.substitute s).unit? A = some b ∧ u.Mixes b := by
  cases hl with
  | literal x =>
    refine iff_of_true (fun a b ha hb hmix => ?_) (by simp)
    have hnone : ((Expr.const x).substitute s).unit? A = some .none := Expr.unit?_const x
    rw [hnone] at ha
    cases ha
    exact (hr.canonical_of_unit? hb).1.not_mixes_none hmix.symm
  | @bound name x u h =>
    have hu : ((Expr.var name).substitute s).unit? A = some u := by
      rw [Expr.substitute, h]
      exact Expr.unit?_quantity (hs.get? h) (hwritable.get? h) x
    rw [hu]
    constructor
    · rintro hmix ⟨_, _, _, b, ⟨rfl⟩, hget, hb, hm⟩
      rw [h] at hget
      cases hget
      exact hmix u b rfl hb hm
    · rintro hfold a b ⟨⟩ hb hm
      exact hfold ⟨name, x, u, b, rfl, h, hb, hm⟩

/-- The units of a number and of the unit behind it can only differ where the number is that of a
variable. -/
theorem Phrase.unmixed_quantity_iff (hs : s.Canonical) (hwritable : s.Writable) {N : Nonterminal}
    {w : List (Token ν)} {tree : Expr ν} (h : Phrase s N w tree) (hw : ∀ t ∈ w, t.IsLiteral) :
    (tree.substitute s).Unmixed A .quantity ↔ ¬ tree.Folds A s := by
  have joint {op : Kind} {l r : Expr ν} (hop : op ≠ .quantity)
      (hl : (l.substitute s).Unmixed A .quantity ↔ ¬ l.Folds A s)
      (hr : (r.substitute s).Unmixed A .quantity ↔ ¬ r.Folds A s) :
      ((Expr.bin op l r).substitute s).Unmixed A .quantity ↔ ¬ (Expr.bin op l r).Folds A s := by
    rw [Expr.substitute, Expr.unmixed_bin_iff, Expr.folds_bin_iff]
    simp [hop, hl, hr]
  induction h with
  | word h => simp [h.unmixed hs]
  | number h => simp [h.unmixed hs]
  | raised hl hr ih =>
    exact joint (by decide) (ih fun t ht => hw t (by simp [ht])) (by simp [hr.unmixed hs])
  | raisedMinus hl hr ih =>
    refine joint (by decide) (ih fun t ht => hw t (by simp [ht])) ?_
    rw [Expr.substitute, Expr.unmixed_neg_iff, Expr.folds_neg_iff]
    simp [hr.unmixed hs]
  | ofPower h ih | ofCompound h ih | ofSigned h ih | ofProduct h ih | ofUnit h ih | ofSum h ih
  | ofExpression h ih => exact ih hw
  | minus h ih =>
    rw [Expr.substitute, Expr.unmixed_neg_iff, Expr.folds_neg_iff]
    exact ih fun t ht => hw t (by simp [ht])
  | quantity hl hr ih =>
    have hright := ih fun t ht => hw t (by simp [ht])
    have hc := (hr.computable hs (by decide) fun t ht => hw t (by simp [ht])).derivable
    rw [Expr.substitute, Expr.unmixed_bin_iff, Expr.folds_bin_iff]
    simp only [true_imp_iff, true_and, hl.not_mixes_iff hs hwritable hc, hl.unmixed hs, hright,
      not_or, not_false_iff]
  | adjacent hl hr ihl ihr | stroke hl hr ihl ihr | times hl hr ihl ihr | divided hl hr ihl ihr
  | plus hl hr ihl ihr | less hl hr ihl ihr | converted hl hr ihl ihr =>
    exact joint (by decide) (ihl fun t ht => hw t (by simp [ht]))
      (ihr fun t ht => hw t (by simp [ht]))
  | blank | quit | help => simp [Expr.substitute, Expr.Unmixed, Expr.Folds, Expr.nodes]
  | named => simp [hs.unmixed_var, Expr.Folds, Expr.nodes]
  | assignment h ih =>
    rw [Expr.substitute, Expr.unmixed_assign_iff, Expr.folds_assign_iff]
    exact ih fun t ht => hw t (by simp [ht])

namespace Session

theorem bin_mem_nodes_iff {e q : Expr ν} {target : Option String}
    (h : question? e = some (target, q)) (op : Kind) (l r : Expr ν) :
    Expr.bin op l r ∈ e.nodes ↔ Expr.bin op l r ∈ q.nodes := by
  cases e with
  | assign t v =>
    cases t with
    | var name =>
      cases h
      simp [Expr.nodes]
    | _ => cases h
  | empty | quit | help => cases h
  | _ =>
    cases h
    rfl

variable (A)

/-- Whatever was assigned before, the operands in a line that is not refused have units. Units side
by side measure each category in one base unit. A number and the unit behind it do so too, unless
the number is that of a variable. -/
theorem execute_adjacency (config : Config) (lines : List String) (line : String) :
    let s : Session ν := (executeAll A { config } lines).2
    let tree := Expr.ofLine s.store.reference A s.config.maxLineLength line
    let e := s.parse A line
    ∀ result, (s.execute A line).1 = .ok result → result.isSilent = false →
      (∀ op l r, .bin op l r ∈ e.nodes → (∃ a, l.unit? A = some a) ∧ ∃ b, r.unit? A = some b) ∧
      e.Unmixed A .unitProduct ∧
      (e.Unmixed A .quantity ↔ ¬ tree.Folds A s.store) := by
  intro s tree e result hresult hloud
  obtain ⟨hs, hwritable⟩ : s.Sound := (sound_fresh config).executeAll A lines
  obtain ⟨target, q, b, ρ, text, hasked, hq, -, -⟩ := exists_answer_of_execute A hresult hloud
  obtain ⟨hvalid, hquestion⟩ := valid_of_asked? A hasked
  have hnodes := bin_mem_nodes_iff hquestion
  obtain ⟨u, hu⟩ := Expr.exists_unit?_of_result? hq
  have hderivable : q.Derivable := by
    rcases answerable_of_asked? A hs hasked with ⟨hc, -⟩ | ⟨name, rfl⟩
    · exact hc.derivable
    · rw [Expr.unit?_var] at hu
      cases hu
  refine ⟨fun op l r hmem => ?_, fun l r hmem => ?_, ?_⟩
  · have hunits := hderivable.exists_unit?_of_mem_nodes hu _ ((hnodes op l r).mp hmem)
    obtain ⟨v, hv⟩ := hunits
    obtain ⟨a, b, ha, hb, -⟩ := Expr.unit?_bin_eq_some_iff.mp hv
    exact ⟨⟨a, ha⟩, b, hb⟩
  · exact (hderivable.dimension?_of_unit? hu).2 l r ((hnodes _ l r).mp hmem)
  · obtain ⟨w, pos, hw, hphrase⟩ := isLine_of_valid A (s := s.store) hvalid
    have hliteral : ∀ t ∈ Token.tokenize A s.config.maxLineLength line, t.IsLiteral :=
      Token.isLiteral_of_mem_tokenize A
    refine hphrase.unmixed_quantity_iff hs hwritable fun t ht => hliteral t ?_
    rw [hw]
    simp [ht]

/-- A unit of a variable and one that is written, behind the number of another variable. -/
theorem execute_adjacency_of_two_variables :
    let s := (executeAll Arithmetic.machine {} ["x = 5 km", "n = kg s"]).2
    let tree := Expr.ofLine s.store.reference .machine s.config.maxLineLength "y = x n km"
    let e := s.parse .machine "y = x n km"
    ∃ result, (s.execute .machine "y = x n km").1 = .ok result ∧ result.isSilent = false ∧
      result.output = "y = 5 km^2 kg s" ∧ e.Unmixed .machine .unitProduct ∧
      (e.Unmixed .machine .quantity ↔ ¬ tree.Folds .machine s.store) := by
  intro s tree e
  have houtcome : (s.execute .machine "y = x n km").1.toOption.map
      (fun r => (r.isSilent, r.output)) = some (false, "y = 5 km^2 kg s") := by decide +kernel
  obtain ⟨result, hresult, hpair⟩ := Option.map_eq_some_iff.mp houtcome
  obtain ⟨hloud, houtput⟩ := Prod.mk.inj hpair
  have hok : (s.execute .machine "y = x n km").1 = .ok result := by
    cases h : (s.execute .machine "y = x n km").1 with
    | error f => rw [h] at hresult; cases hresult
    | ok r => rw [h] at hresult; cases hresult; rfl
  have hadjacency := execute_adjacency Arithmetic.machine {} ["x = 5 km", "n = kg s"]
    "y = x n km" result hok hloud
  exact ⟨result, hok, hloud, houtput, hadjacency.2.1, hadjacency.2.2⟩

/-- Meters behind kilometers of a variable are counted as kilometers. -/
theorem not_unmixed_of_variable :
    let s := (executeAll Arithmetic.machine {} ["x = 5 km"]).2
    (s.execute .machine "x m").1.toOption.map (fun r => (r.isSilent, r.output)) =
        some (false, "5 km^2") ∧
      ¬ (s.parse .machine "x m").Unmixed .machine .quantity := by
  intro s
  have htree : s.parse .machine "x m" =
      .bin .quantity (.quantity 5 (.ofBase .kilometer)) (.unit (.ofBase .meter)) := by
    decide +kernel
  have hleft : (Expr.quantity 5 (.ofBase .kilometer)).unit? .machine =
      some (.ofBase .kilometer) := by decide +kernel
  refine ⟨by decide +kernel, fun h => ?_⟩
  rw [htree] at h
  refine h _ _ List.mem_cons_self _ _ hleft (Expr.unit?_unit rfl) ?_
  exact ⟨⟨.kilometer, 1⟩, List.mem_cons_self, ⟨.meter, 1⟩, List.mem_cons_self, rfl, by decide⟩

end Session

end Quantities
