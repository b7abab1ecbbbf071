import Quantities.Proofs.Grammar.Phrase

namespace Quantities

namespace Rule

theorem looseness_le_ten (r : Rule) : r.looseness ≤ 10 := by
  cases r <;> decide

theorem displaces_iff {later earlier : Rule} : later.displaces earlier = true ↔
    earlier.looseness < later.looseness ∨
      earlier.looseness = later.looseness ∧ later.groupsLeft = true := by
  simp [displaces]

theorem looseness_le_of_displaces {later earlier : Rule} (h : later.displaces earlier = true) :
    earlier.looseness ≤ later.looseness := by
  rcases displaces_iff.mp h with h | h <;> omega

theorem looseness_le_of_not_displaces {later earlier : Rule}
    (h : later.displaces earlier = false) : later.looseness ≤ earlier.looseness := by
  have hn : ¬ later.displaces earlier = true := by simp [h]
  rw [displaces_iff] at hn
  omega

theorem groupsLeft_eq_of_looseness_eq {r q : Rule} (h : r.looseness = q.looseness) :
    r.groupsLeft = q.groupsLeft := by
  cases r <;> cases q <;> first | rfl | cases h

theorem displaces_of_le {r q e : Rule} (hle : e.looseness ≤ q.looseness)
    (h : r.displaces q = true) : r.displaces e = true := by
  rw [displaces_iff] at h ⊢
  rcases h with hlt | ⟨heq, hleft⟩
  · exact .inl (by omega)
  · rcases Nat.lt_or_eq_of_le (show e.looseness ≤ r.looseness by omega) with hlt | heq
    · exact .inl hlt
    · exact .inr ⟨heq, hleft⟩

theorem not_displaces_of_le {r q e : Rule} (hle : r.looseness ≤ q.looseness)
    (h : q.displaces e = false) : r.displaces e = false := by
  have hq : ¬ q.displaces e = true := by simp [h]
  rw [displaces_iff] at hq
  apply Bool.eq_false_iff.mpr
  rw [Ne, displaces_iff]
  rintro (hlt | ⟨heq, hleft⟩)
  · omega
  · have hsame := groupsLeft_eq_of_looseness_eq (show r.looseness = q.looseness by omega)
    exact hq (.inr ⟨by omega, hsame ▸ hleft⟩)

end Rule

namespace Lexeme

variable {ν : Type} {ref : Reference}

/-- What a token means to the next one in front of it matters only if it is a unit. -/
theorem rule_next_eq {t l : Lexeme ν} {previous : Option (Lexeme ν)} (h : l.isUnit ref = false) :
    t.rule ref previous (some l) = t.rule ref previous none := by
  cases t with
  | operator op c => cases op <;> simp [rule, h]
  | _ => rfl

theorem looseness_rule_none_le (t : Lexeme ν) (previous next : Option (Lexeme ν)) :
    (t.rule ref none next).looseness ≤ 6 ∨ t.rule ref none next = t.rule ref previous next := by
  cases t with
  | operator op c =>
    cases op with
    | sub => exact .inl (Nat.le_refl _)
    | _ => exact .inr rfl
  | _ =>
    refine .inl ?_
    simp only [rule]
    split <;> decide

end Lexeme

variable {ν : Type} (ref : Reference)

/-- The rules of a row of tokens between its neighbours. -/
def rulesBetween : Option (Lexeme ν) → List (Token ν) → Option (Lexeme ν) → List Rule
  | _, [], _ => []
  | previous, t :: ts, next =>
    t.lexeme.rule ref previous ((ts.head?.map Token.lexeme).or next)
      :: rulesBetween (some t.lexeme) ts next

theorem rulesBetween_append (v w : List (Token ν)) (previous next : Option (Lexeme ν)) :
    rulesBetween ref previous (v ++ w) next =
      rulesBetween ref previous v ((w.head?.map Token.lexeme).or next) ++
        rulesBetween ref ((v.getLast?.map Token.lexeme).or previous) w next := by
  induction v generalizing previous with
  | nil => simp [rulesBetween]
  | cons t ts ih =>
    rw [List.cons_append, rulesBetween, rulesBetween, ih]
    cases ts with
    | nil => simp
    | cons x xs => simp [List.getLast?_cons]

theorem rulesBetween_append_cons (b a : List (Token ν)) (t : Token ν)
    (previous next : Option (Lexeme ν)) :
    rulesBetween ref previous (b ++ t :: a) next =
      rulesBetween ref previous b (some t.lexeme) ++
        t.lexeme.rule ref ((b.getLast?.map Token.lexeme).or previous)
            ((a.head?.map Token.lexeme).or next) ::
          rulesBetween ref (some t.lexeme) a next := by
  rw [rulesBetween_append, rulesBetween]
  rfl

theorem looseness_le_append_cons {b a : List (Token ν)} {t : Token ν}
    {previous next : Option (Lexeme ν)} {k : Nat}
    (hb : ∀ r ∈ rulesBetween ref previous b (some t.lexeme), r.looseness ≤ k)
    (ht : (t.lexeme.rule ref ((b.getLast?.map Token.lexeme).or previous)
      ((a.head?.map Token.lexeme).or next)).looseness ≤ k)
    (ha : ∀ r ∈ rulesBetween ref (some t.lexeme) a next, r.looseness ≤ k) :
    ∀ r ∈ rulesBetween ref previous (b ++ t :: a) next, r.looseness ≤ k := by
  intro r hr
  rw [rulesBetween_append_cons] at hr
  rcases List.mem_append.mp hr with hr | hr
  · exact hb r hr
  · rcases List.mem_cons.mp hr with rfl | hr
    · exact ht
    · exact ha r hr

variable {ref}

theorem rulesBetween_next_eq {w : List (Token ν)} {l : Lexeme ν} (h : l.isUnit ref = false)
    (previous : Option (Lexeme ν)) :
    rulesBetween ref previous w (some l) = rulesBetween ref previous w none := by
  induction w generalizing previous with
  | nil => rfl
  | cons t ts ih =>
    rw [rulesBetween, rulesBetween, ih]
    cases ts with
    | nil => simp [Lexeme.rule_next_eq h]
    | cons x xs => rfl

/-- A unit behind a window that binds no more loosely than units side by side changes nothing in
it, for the window does not end in a stroke. -/
theorem rulesBetween_next_eq_of_le {w : List (Token ν)} {l : Lexeme ν}
    {previous : Option (Lexeme ν)}
    (h : ∀ q ∈ rulesBetween ref previous w (some l), q.looseness ≤ 3) :
    rulesBetween ref previous w (some l) = rulesBetween ref previous w none := by
  induction w generalizing previous with
  | nil => rfl
  | cons t ts ih =>
    simp only [rulesBetween, List.mem_cons, forall_eq_or_imp] at h
    rw [rulesBetween, rulesBetween, ih h.2]
    cases ts with
    | nil =>
      by_cases hl : l.isUnit ref = true
      · have hrule : t.lexeme.rule ref previous (some l) = t.lexeme.rule ref previous none := by
          have ht := h.1
          cases hlex : t.lexeme with
          | operator op c =>
            cases op with
            | div => simp [hlex, Lexeme.rule, hl, Rule.looseness] at ht
            | _ => rfl
          | _ => rfl
        simpa using hrule
      · simp [Lexeme.rule_next_eq (Bool.eq_false_iff.mpr hl)]
    | cons x xs => rfl

theorem looseness_le_of_behind {w : List (Token ν)} {previous : Option (Lexeme ν)} {k : Nat}
    (hk : 6 ≤ k) (h : ∀ q ∈ rulesBetween ref previous w none, q.looseness ≤ k) :
    ∀ q ∈ rulesBetween ref none w none, q.looseness ≤ k := by
  cases w with
  | nil => simp [rulesBetween]
  | cons t ts =>
    simp only [rulesBetween, List.mem_cons, forall_eq_or_imp] at h ⊢
    refine ⟨?_, h.2⟩
    generalize (ts.head?.map Token.lexeme).or none = next at h ⊢
    have hle : (t.lexeme.rule ref none next).looseness ≤ 6 ∨
        t.lexeme.rule ref none next = t.lexeme.rule ref previous next :=
      Lexeme.looseness_rule_none_le t.lexeme previous next
    rcases hle with hle | heq
    · exact Nat.le_trans hle hk
    · exact heq ▸ h.1

namespace Pivot

theorem rule_mem_of_find? {previous : Option (Lexeme ν)} {w : List (Token ν)} {p : Pivot ν}
    (h : Pivot.find? ref previous w = some p) : p.rule ∈ rulesBetween ref previous w none := by
  rw [← before_append_of_find? ref h, rulesBetween_append_cons, rule_of_find? ref h]
  simp

theorem eq_nil_of_find?_eq_none {previous : Option (Lexeme ν)} {w : List (Token ν)}
    (h : Pivot.find? ref previous w = none) : w = [] := by
  cases w with
  | nil => rfl
  | cons t ts =>
    unfold Pivot.find? at h
    simp only at h
    split at h
    · simp at h
    · split at h <;> simp at h

/-- A token that displaces all before it and is displaced by none behind it is the pivot. -/
theorem find?_append_cons {previous : Option (Lexeme ν)} {b a : List (Token ν)} {t : Token ν}
    {r : Rule}
    (hr : t.lexeme.rule ref ((b.getLast?.map Token.lexeme).or previous)
      (a.head?.map Token.lexeme) = r)
    (hb : ∀ q ∈ rulesBetween ref previous b (some t.lexeme), r.displaces q = true)
    (ha : ∀ q ∈ rulesBetween ref (some t.lexeme) a none, q.displaces r = false) :
    Pivot.find? ref previous (b ++ t :: a) = some ⟨b, t, a, r⟩ := by
  induction b generalizing previous with
  | nil =>
    simp only [List.getLast?_nil, Option.map_none, Option.none_or] at hr
    simp only [List.nil_append, Pivot.find?, hr]
    cases hq : Pivot.find? ref (some t.lexeme) a with
    | none => rfl
    | some q => simp [ha q.rule (rule_mem_of_find? hq)]
  | cons x xs ih =>
    have hr' : t.lexeme.rule ref ((xs.getLast?.map Token.lexeme).or (some x.lexeme))
        (a.head?.map Token.lexeme) = r := by
      rw [← hr]
      cases xs with
      | nil => rfl
      | cons y ys => simp [List.getLast?_cons]
    have hxs := ih hr' fun q hq => hb q (by simp [rulesBetween, hq])
    have hx : r.displaces (x.lexeme.rule ref previous
        (((xs ++ t :: a).head?).map Token.lexeme)) = true := by
      refine hb _ ?_
      cases xs <;> simp [rulesBetween]
    simp only [List.cons_append, Pivot.find?, hxs, hx, if_true]

theorem displaces_of_find? {previous : Option (Lexeme ν)} {w : List (Token ν)} {p : Pivot ν}
    (h : Pivot.find? ref previous w = some p) :
    (∀ q ∈ rulesBetween ref previous p.before (some p.token.lexeme),
      p.rule.displaces q = true) ∧
    ∀ q ∈ rulesBetween ref (some p.token.lexeme) p.after none, q.displaces p.rule = false := by
  induction w generalizing previous p with
  | nil => simp [Pivot.find?] at h
  | cons t ts ih =>
    unfold Pivot.find? at h
    simp only at h
    split at h
    next hnone =>
      obtain rfl := eq_nil_of_find?_eq_none hnone
      cases h
      simp [rulesBetween]
    next q hq =>
      obtain ⟨hbefore, hafter⟩ := ih hq
      have hw := before_append_of_find? ref hq
      split at h
      next hd =>
        cases h
        refine ⟨fun x hx => ?_, hafter⟩
        simp only [rulesBetween, List.mem_cons] at hx
        rcases hx with rfl | hx
        · have hhead : (q.before.head?.map Token.lexeme).or (some q.token.lexeme) =
              ts.head?.map Token.lexeme := by
            rw [← hw]
            cases q.before <;> rfl
          rw [hhead]
          exact hd
        · exact hbefore x hx
      next hd =>
        cases h
        refine ⟨by simp [rulesBetween], fun x hx => ?_⟩
        have hle : x.looseness ≤ q.rule.looseness := by
          simp only [← hw, rulesBetween_append_cons, List.mem_append, List.mem_cons,
            Option.or_none, ← Pivot.rule_of_find? ref hq] at hx
          rcases hx with hx | rfl | hx
          · exact Rule.looseness_le_of_displaces (hbefore x hx)
          · exact Nat.le_refl _
          · exact Rule.looseness_le_of_not_displaces (hafter x hx)
        exact Rule.not_displaces_of_le hle (Bool.eq_false_iff.mpr hd)

end Pivot

end Quantities
