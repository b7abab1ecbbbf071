import Quantities.Expr
import Quantities.Expr.Rule

namespace Quantities

variable {ν : Type} (ref : Reference)

def Expr.ofToken (t : Token ν) : Expr ν :=
  match t.lexeme with
  | .command .quit _ => .quit
  | .command .help _ => .help
  | .unit b => .unit (.ofBase b)
  | .number x => .const x
  | .var name => .var name
  | .invalid reason => .invalid (reason.filter SyntaxError.saysSomething)
  | lexeme => .invalid (some (.unexpectedToken lexeme.spelling t.pos))

/-- A window around the token that splits it. -/
structure Pivot (ν : Type) where
  before : List (Token ν)
  token : Token ν
  after : List (Token ν)
  rule : Rule

/-- The pivot of a window that has `previous` before it. -/
def Pivot.find? (previous : Option (Lexeme ν)) : List (Token ν) → Option (Pivot ν)
  | [] => none
  | t :: ts =>
    let here : Pivot ν :=
      ⟨[], t, ts, t.lexeme.rule ref previous (ts.head?.map Token.lexeme)⟩
    match Pivot.find? (some t.lexeme) ts with
    | none => some here
    | some p => if p.rule.displaces here.rule then some { p with before := t :: p.before } else some here

theorem Pivot.before_append_of_find? {previous : Option (Lexeme ν)} {w : List (Token ν)}
    {p : Pivot ν} (h : Pivot.find? ref previous w = some p) : p.before ++ p.token :: p.after = w := by
  induction w generalizing previous p with
  | nil => simp [Pivot.find?] at h
  | cons t ts ih =>
    unfold Pivot.find? at h
    simp only at h
    split at h
    next => cases h; rfl
    next q hq =>
      split at h
      next => cases h; simp [ih hq]
      next => cases h; rfl

theorem Pivot.rule_of_find? {previous : Option (Lexeme ν)} {w : List (Token ν)} {p : Pivot ν}
    (h : Pivot.find? ref previous w = some p) :
    p.rule = p.token.lexeme.rule ref ((p.before.getLast?.map Token.lexeme).or previous)
      (p.after.head?.map Token.lexeme) := by
  induction w generalizing previous p with
  | nil => simp [Pivot.find?] at h
  | cons t ts ih =>
    unfold Pivot.find? at h
    simp only at h
    split at h
    next => cases h; rfl
    next q hq =>
      split at h
      next =>
        cases h
        rw [ih hq]
        cases hb : q.before with
        | nil => rfl
        | cons b bs => simp [List.getLast?_cons]
      next => cases h; rfl

/-- The last token of a window is dropped if it marks the end of the line. -/
def dropEnd (w : List (Token ν)) : List (Token ν) :=
  match w.getLast? with
  | some t => if t.lexeme.isEnd then w.dropLast else w
  | none => w

theorem length_dropEnd_le (w : List (Token ν)) : (dropEnd w).length ≤ w.length := by
  unfold dropEnd
  split
  · split <;> simp
  · exact Nat.le_refl _

/-- An invalid expression, for the reason of the first invalid token if there is one. -/
def invalidWindow (w : List (Token ν)) (reason : SyntaxError) : Expr ν :=
  .invalid (w.findSome? (fun t => match t.lexeme with
    | .invalid r => r.filter SyntaxError.saysSomething
    | _ => none) <|> some reason)

/-- How a window is taken apart. -/
inductive Split (ν : Type) where
  | leaf (e : Expr ν)
  | negation (operand : List (Token ν))
  | assignment (target value : List (Token ν))
  | joint (op : Kind) (left right : List (Token ν))

/-- The windows that are left to be parsed. -/
def Split.parts : Split ν → List (List (Token ν))
  | leaf _ => []
  | negation o => [o]
  | assignment t v => [t, v]
  | joint _ l r => [l, r]

/-- The parts a pivot splits its window into. A leading number is the left part and an adjacent
unit starts the right one; other pivots belong to neither. An operator needs both. -/
def Pivot.split (p : Pivot ν) : Split ν :=
  let window := p.before ++ p.token :: p.after
  let negated := if p.before.isEmpty then .negation p.after
    else .leaf (invalidWindow window (.unexpectedMinus p.token.pos))
  let joined (s : Split ν) := if p.before.isEmpty || p.after.isEmpty
    then .leaf (invalidWindow window (.missingOperand p.token.lexeme.spelling)) else s
  match p.rule with
  | .noSplit => .leaf (invalidWindow window .senseless)
  | .negate | .degreeMinus => negated
  | .assign => joined (.assignment p.before p.after)
  | .convert => joined (.joint .convert p.before p.after)
  | .add => joined (.joint .add p.before p.after)
  | .sub => joined (.joint .sub p.before p.after)
  | .mul => joined (.joint .mul p.before p.after)
  | .div => joined (.joint .div p.before p.after)
  | .unitStroke => joined (.joint .unitQuotient p.before p.after)
  | .power => joined (.joint .power p.before p.after)
  | .leadingNumber => .joint .quantity [p.token] p.after
  | .adjacentUnit => .joint .unitProduct p.before (p.token :: p.after)

/-- A window of one token is a leaf, a longer one is split at its pivot. -/
def Split.ofWindow (w : List (Token ν)) : Split ν :=
  match dropEnd w with
  | [] => .leaf .empty
  | [t] => .leaf (Expr.ofToken t)
  | w => match Pivot.find? ref none w with
    | some p => p.split
    | none => .leaf .empty

theorem Pivot.length_lt_of_mem_parts {p : Pivot ν} {w v : List (Token ν)}
    (h : Pivot.find? ref none w = some p) (hw : 2 ≤ w.length) (hv : v ∈ p.split.parts) :
    v.length < w.length := by
  have hsplit := congrArg List.length (Pivot.before_append_of_find? ref h)
  simp only [List.length_append, List.length_cons] at hsplit
  have hadjacent : p.rule = .adjacentUnit → 0 < p.before.length := by
    intro hr
    refine List.length_pos_iff.mpr fun hb => ?_
    have := Pivot.rule_of_find? ref h
    rw [hb, hr] at this
    exact Lexeme.rule_none_ne_adjacentUnit ref _ _ this.symm
  unfold Pivot.split at hv
  simp only at hv
  split at hv <;> (try split at hv) <;>
    simp only [Split.parts, List.mem_cons, List.not_mem_nil, or_false] at hv
  case h_12 =>
    rcases hv with rfl | rfl
    · exact hw
    · omega
  case h_13 hr =>
    have := hadjacent hr
    rcases hv with rfl | rfl
    · omega
    · simp only [List.length_cons]
      omega
  all_goals rcases hv with rfl | rfl <;> omega

theorem Split.length_lt_of_mem_parts {w v : List (Token ν)}
    (h : v ∈ (Split.ofWindow ref w).parts) : v.length < w.length := by
  refine Nat.lt_of_lt_of_le ?_ (length_dropEnd_le w)
  unfold Split.ofWindow at h
  split at h
  next => simp [Split.parts] at h
  next => simp [Split.parts] at h
  next hne hone =>
    split at h
    next p hp =>
      refine Pivot.length_lt_of_mem_parts ref hp ?_ h
      match hd : dropEnd w with
      | [] => exact absurd hd hne
      | [t] => exact absurd hd (hone t)
      | _ :: _ :: _ => simp
    next => simp [Split.parts] at h

end Quantities
