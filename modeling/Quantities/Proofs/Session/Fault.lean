import Quantities.Proofs.Session.Reachable

namespace Quantities

def Fault.of? {α : Type} : Except Fault α → Option Fault
  | .error f => some f
  | .ok _ => none

/-- The digits that a number can be written with at most. -/
def maxPrecision : Nat := 2147483647

variable {ν : Type} (A : Arithmetic ν)

theorem formatNumber_error_iff {precision : Nat} {x : ν} {f : Fault} :
    formatNumber A precision x = .error f ↔ maxPrecision < precision ∧ f = .precision := by
  unfold formatNumber maxPrecision
  have hnonneg : ¬ (precision : Int) < 0 := by omega
  by_cases h : (2147483647 : Int) < precision
  · have hlarge : 2147483647 < precision := by omega
    simp [h, hlarge, throw, throwThe, MonadExceptOf.throw, eq_comm]
  · have hsmall : ¬ 2147483647 < precision := by omega
    simp [h, hnonneg, hsmall, pure, Except.pure]

namespace Session

variable {s : Session ν}

theorem format_error_iff {b : Binding ν} (hw : b.expr.isWritable = true) {f : Fault} :
    s.format A b = .error f ↔
      maxPrecision < s.config.precision ∧ b.isNumber = true ∧ f = .precision := by
  cases b with
  | number x u =>
    have hu : u.written = .ok u := CompoundUnit.written_eq_ok_iff.mpr ⟨hw, rfl⟩
    have hvalue : s.format A (.number x u) = .error f ↔
        formatNumber A s.config.precision x = .error f := by
      rw [format, formatValue]
      cases formatNumber A s.config.precision x with
      | error e => exact Iff.rfl
      | ok text =>
        rw [hu]
        constructor <;> intro h <;> cases h
    rw [hvalue, formatNumber_error_iff]
    simp [Binding.isNumber]
  | unit u =>
    rw [format, formatUnit_eq_ok_iff.mpr ⟨hw, rfl⟩]
    simp [Binding.isNumber]

theorem exists_format (hp : s.config.precision ≤ maxPrecision) {b : Binding ν}
    (hw : b.expr.isWritable = true) : ∃ text, s.format A b = .ok text := by
  cases h : s.format A b with
  | ok text => exact ⟨text, rfl⟩
  | error f =>
    have hlarge := ((format_error_iff A hw).mp h).1
    omega

theorem Sound.isWritable_of_result? (hs : s.Sound) {line : String} {target : Option String}
    {e : Expr ν} {b : Binding ν} {ρ : Report} (h : s.asked? A line = some (target, e))
    (hb : (e.result? A).perform {} = (.ok (some b), ρ)) : b.expr.isWritable = true :=
  (answerable_of_asked? A hs.canonical h).isWritable_of_result?
    (isWritable_of_asked? A hs.writable h) hb

/-- A line binds the variable that it reports as assigned to what it reports, or it reports no
assignment and leaves the session as it is. -/
theorem execute_target? (hs : s.Sound) (hp : s.config.precision ≤ maxPrecision) (line : String) :
    (∃ name b text, s.format A b = .ok text ∧ s.execute A line =
      (.ok (.assignment name b text), { s with store := s.store.insert name b })) ∨
    ((s.execute A line).2 = s ∧ ∀ r, (s.execute A line).1 = .ok r → r.target? = none) := by
  cases h : s.asked? A line with
  | none =>
    obtain ⟨result, hr, hsilent⟩ := s.execute_of_asked?_eq_none A h
    rw [hr]
    refine .inr ⟨rfl, ?_⟩
    rintro r ⟨⟩
    exact LineResult.target?_of_isSilent hsilent
  | some q =>
    obtain ⟨target, e⟩ := q
    rw [s.execute_of_asked? A h]
    rcases hb : (e.result? A).perform {} with ⟨f | (_ | b), ρ⟩
    · refine .inr ⟨rfl, ?_⟩
      rintro r ⟨⟩
    · refine .inr ⟨rfl, ?_⟩
      rintro r ⟨⟩
      rfl
    · obtain ⟨text, ht⟩ := exists_format A hp (hs.isWritable_of_result? A h hb)
      simp only [ht]
      cases target with
      | some name => exact .inl ⟨name, b, text, ht, rfl⟩
      | none =>
        refine .inr ⟨rfl, ?_⟩
        rintro r ⟨⟩
        cases b <;> rfl

variable (s)

/-- What a line computes, if it computes anything. -/
def answer? (line : String) : Option (Binding ν) :=
  match s.asked? A line with
  | none => none
  | some (_, e) => match (e.result? A).perform {} with
    | (.ok b, _) => b
    | (.error _, _) => none

/-- The pairs of units between which a line converts. -/
def conversions (line : String) : List (CompoundUnit × CompoundUnit) :=
  match s.asked? A line with
  | none => []
  | some (_, e) => e.resultConversions A {}

/-- The units that a line derives for its operators. -/
def derivedUnits (line : String) : List CompoundUnit :=
  match s.asked? A line with
  | none => []
  | some (_, e) => e.derivedUnits A {}

variable {s}

/-- A line that ends in a fault asks for too many digits, derives a unit that cannot be written, or
asks for a factor that does not exist. -/
theorem cause_of_execute_error (hs : s.Sound) {line : String} {f : Fault}
    (h : (s.execute A line).1 = .error f) :
    (f = .precision ∧ maxPrecision < s.config.precision ∧
      ∃ b, s.answer? A line = some b ∧ b.isNumber = true) ∨
    (f = .precision ∧ ∃ u ∈ s.derivedUnits A line, u.isWritable = false) ∨
    ∃ p ∈ s.conversions A line, p.1.Derived ∧ p.1.FactorFails A p.2 f := by
  cases hq : s.asked? A line with
  | none =>
    obtain ⟨result, hr, _⟩ := s.execute_of_asked?_eq_none A hq
    rw [hr] at h
    cases h
  | some q =>
    obtain ⟨target, e⟩ := q
    have he := answerable_of_asked? A hs.canonical hq
    have hw := isWritable_of_asked? A hs.writable hq
    rw [s.execute_of_asked? A hq] at h
    rcases hr : (e.result? A).perform {} with ⟨g | (_ | b), r⟩
    · rw [hr] at h
      cases h
      rcases he.cause_of_result? hw hr with hlong | ⟨p, hp, hpf⟩
      · exact .inr (.inl (by simpa [derivedUnits, hq] using hlong))
      · exact .inr (.inr ⟨p, by simpa [conversions, hq] using hp, hpf⟩)
    · rw [hr] at h
      cases h
    · rw [hr] at h
      cases hb : s.format A b with
      | ok text =>
        simp only [hb] at h
        cases h
      | error g =>
        simp only [hb] at h
        cases h
        obtain ⟨hprecision, hnumber, rfl⟩ :=
          (format_error_iff A (hs.isWritable_of_result? A hq hr)).mp hb
        exact .inl ⟨rfl, hprecision, b, by simp [answer?, hq, hr], hnumber⟩

theorem exists_execute_error (hs : s.Sound) {line : String}
    (h : (maxPrecision < s.config.precision ∧
      ∃ b, s.answer? A line = some b ∧ b.isNumber = true) ∨
      (∃ u ∈ s.derivedUnits A line, u.isWritable = false) ∨
      ∃ p ∈ s.conversions A line, ∃ f, p.1.FactorFails A p.2 f) :
    ∃ f, (s.execute A line).1 = .error f := by
  cases hq : s.asked? A line with
  | none => simp [answer?, conversions, derivedUnits, hq] at h
  | some q =>
    obtain ⟨target, e⟩ := q
    have he := answerable_of_asked? A hs.canonical hq
    have hw := isWritable_of_asked? A hs.writable hq
    rw [s.execute_of_asked? A hq]
    rcases h with ⟨hprecision, b, hb, hnumber⟩ | hlong | ⟨p, hp, f, hpf⟩
    · simp only [answer?, hq] at hb
      split at hb
      next r hr =>
        rw [hb] at hr
        have hformat := (format_error_iff A (hs.isWritable_of_result? A hq hr)).mpr
          ⟨hprecision, hnumber, rfl⟩
        rw [hr]
        exact ⟨.precision, by simp only [hformat]; rfl⟩
      next => cases hb
    · rw [derivedUnits, hq] at hlong
      obtain ⟨g, r, hg⟩ := he.exists_result?_error (f := .precision) hw (.inl hlong)
      exact ⟨g, by rw [hg]⟩
    · rw [conversions, hq] at hp
      obtain ⟨g, r, hg⟩ := he.exists_result?_error hw (.inr ⟨p, hp, hpf⟩)
      exact ⟨g, by rw [hg]⟩

end Session

namespace Session

/-- A session that was given these lines. -/
def after (config : Config) (lines : List String) : Session Float :=
  (executeAll Arithmetic.machine { config } lines).2

theorem sound_after (config : Config) (lines : List String) : (after config lines).Sound :=
  (sound_fresh config).executeAll Arithmetic.machine lines

theorem config_after (config : Config) (lines : List String) :
    (after config lines).config = config :=
  config_executeAll Arithmetic.machine lines

/-- No line meets a tree that the checks should have refused, nor a power of zero. -/
theorem fault?_execute_after (config : Config) (lines : List String) (line : String) :
    let outcome := ((after config lines).execute Arithmetic.machine line).1
    Fault.of? outcome = none ∨ Fault.of? outcome = some .overflow ∨
      Fault.of? outcome = some .precision := by
  intro outcome
  cases h : outcome with
  | ok result => exact .inl rfl
  | error f =>
    rcases cause_of_execute_error Arithmetic.machine (sound_after config lines) h with
      ⟨rfl, _⟩ | ⟨rfl, _⟩ | ⟨p, _, hderived, hpf⟩
    · exact .inr (.inr rfl)
    · exact .inr (.inr rfl)
    · obtain rfl := CompoundUnit.factorFails_eq_overflow hderived hpf
      exact .inr (.inl rfl)

/-- A line ends in a fault if and only if its number cannot be written with so many digits, the unit
of one of its operators cannot be written, or one of its conversions has a factor that is too
large. -/
theorem exists_execute_after_error_iff (config : Config) (lines : List String) (line : String) :
    (∃ f, ((after config lines).execute Arithmetic.machine line).1 = .error f) ↔
      (maxPrecision < config.precision ∧ ∃ b,
        (after config lines).answer? Arithmetic.machine line = some b ∧ b.isNumber = true) ∨
      (∃ u ∈ (after config lines).derivedUnits Arithmetic.machine line, u.isWritable = false) ∨
      ∃ p ∈ (after config lines).conversions Arithmetic.machine line,
        p.1.FactorFails Arithmetic.machine p.2 .overflow := by
  have hs := sound_after config lines
  have hconfig := config_after config lines
  constructor
  · rintro ⟨f, h⟩
    rcases cause_of_execute_error Arithmetic.machine hs h with
      ⟨_, hprecision, hb⟩ | ⟨_, hlong⟩ | ⟨p, hp, hderived, hpf⟩
    · exact .inl ⟨hconfig ▸ hprecision, hb⟩
    · exact .inr (.inl hlong)
    · have hf := CompoundUnit.factorFails_eq_overflow hderived hpf
      exact .inr (.inr ⟨p, hp, hf ▸ hpf⟩)
  · rintro (⟨hprecision, hb⟩ | hlong | ⟨p, hp, hpf⟩)
    · exact exists_execute_error Arithmetic.machine hs (.inl ⟨hconfig.symm ▸ hprecision, hb⟩)
    · exact exists_execute_error Arithmetic.machine hs (.inr (.inl hlong))
    · exact exists_execute_error Arithmetic.machine hs (.inr (.inr ⟨p, hp, _, hpf⟩))

/-- A configuration may ask for more digits than can be written, and a degree may grow beyond all
machine numbers, and then beyond the digits that are written of it. -/
theorem fault?_execute_of_precision_and_degree :
    (Config.ofSettings [("repl", .table [("precision", .whole 2147483648)])]).toOption.map
        (fun config => Fault.of? ((after config []).execute Arithmetic.machine "1").1) =
      some (some .precision) ∧
    Fault.of? ((after {} []).execute Arithmetic.machine "1 m^1e308^10 -> m^1e308^10").1 =
      some .overflow ∧
    Fault.of? ((after {} []).execute Arithmetic.machine
        ("m^1e308^1e308^1e308^1e308^1e308^1e308^1e308" ++
          "^1e308^1e308^1e308^1e308^1e308^1e308^1e308")).1 = some .precision := by
  decide +kernel

end Session

end Quantities
