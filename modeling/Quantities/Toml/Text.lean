import Quantities.Toml.Reader

namespace Quantities.Toml

def hexValue? (c : Char) : Option Nat :=
  if c.isDigit then some (c.toNat - '0'.toNat)
  else if 'a' ≤ c && c ≤ 'f' then some (c.toNat - 'a'.toNat + 10)
  else if 'A' ≤ c && c ≤ 'F' then some (c.toNat - 'A'.toNat + 10)
  else none

/-- The character with a code point in hexadecimal digits. -/
def codePoint? (ds : List Char) : Option Char := do
  let n := (← ds.mapM hexValue?).foldl (fun n d => 16 * n + d) 0
  if n.isValidChar then some (Char.ofNat n) else none

def escaped? : Char → Option Char
  | 'b' => some '\x08'
  | 't' => some '\t'
  | 'n' => some '\n'
  | 'f' => some '\x0c'
  | 'r' => some '\r'
  | '"' => some '"'
  | '\\' => some '\\'
  | _ => none

def readEscape : Reader Char
  | 'u' :: cs => (codePoint? (cs.take 4)).bind fun c =>
    if 4 ≤ cs.length then some (c, cs.drop 4) else none
  | 'U' :: cs => (codePoint? (cs.take 8)).bind fun c =>
    if 8 ≤ cs.length then some (c, cs.drop 8) else none
  | c :: cs => (escaped? c).map (·, cs)
  | [] => none

/-- A backslash at the end of a line skips to the next character that is no blank. -/
def skipLineBreak? (cs : List Char) : Option (List Char) :=
  match skipSpace cs with
  | '\n' :: r => some (r.dropWhile isBlank)
  | _ => none

theorem length_drop_lt (count : Nat) (c : Char) (cs : List Char) :
    (cs.drop count).length < (c :: cs).length := by
  simp only [List.length_drop, List.length_cons]
  omega

theorem length_readEscape_lt {cs r : List Char} {c : Char} (h : readEscape cs = some (c, r)) :
    r.length < cs.length := by
  unfold readEscape at h
  split at h
  next cs =>
    obtain ⟨_, _, h⟩ := Option.bind_eq_some_iff.mp h
    split at h <;> cases h
    exact length_drop_lt 4 'u' cs
  next cs =>
    obtain ⟨_, _, h⟩ := Option.bind_eq_some_iff.mp h
    split at h <;> cases h
    exact length_drop_lt 8 'U' cs
  next =>
    obtain ⟨_, _, h⟩ := Option.map_eq_some_iff.mp h
    cases h
    exact Nat.lt_succ_self _
  next => cases h

theorem length_skipLineBreak?_le {cs r : List Char} (h : skipLineBreak? cs = some r) :
    r.length ≤ cs.length := by
  unfold skipLineBreak? at h
  split at h
  next t ht =>
    cases h
    have := (List.dropWhile_sublist (l := t) isBlank).length_le
    have hs := (List.dropWhile_sublist (l := cs) isSpace).length_le
    unfold skipSpace at ht
    rw [ht, List.length_cons] at hs
    omega
  next => cases h

def readBasic (cs : List Char) : Option (List Char × List Char) :=
  match cs with
  | [] => none
  | '"' :: cs => some ([], cs)
  | '\\' :: cs =>
    match _h : readEscape cs with
    | some (c, r) => (readBasic r).map fun (s, r) => (c :: s, r)
    | none => none
  | c :: cs => if isControl c then none else (readBasic cs).map fun (s, r) => (c :: s, r)
termination_by cs.length
decreasing_by
  · have := length_readEscape_lt _h
    simp only [List.length_cons]
    omega
  · simp

def readLiteral : Reader (List Char)
  | [] => none
  | '\'' :: cs => some ([], cs)
  | c :: cs => if isControl c then none else (readLiteral cs).map fun (s, r) => (c :: s, r)

/-- Up to two quotes right before the closing three belong to the string. -/
def closeQuotes (quote : Char) (cs : List Char) : List Char × List Char :=
  let extra := min 2 (cs.takeWhile (· = quote)).length
  (List.replicate extra quote, cs.drop extra)

def readLongBasic (cs : List Char) : Option (List Char × List Char) :=
  match cs with
  | [] => none
  | '"' :: '"' :: '"' :: cs => some (closeQuotes '"' cs)
  | '\\' :: cs =>
    match _hb : skipLineBreak? cs with
    | some r => readLongBasic r
    | none =>
      match _he : readEscape cs with
      | some (c, r) => (readLongBasic r).map fun (s, r) => (c :: s, r)
      | none => none
  | c :: cs =>
    if isControl c && c ≠ '\n' then none
    else (readLongBasic cs).map fun (s, r) => (c :: s, r)
termination_by cs.length
decreasing_by
  · have := length_skipLineBreak?_le _hb
    simp only [List.length_cons]
    omega
  · have := length_readEscape_lt _he
    simp only [List.length_cons]
    omega
  · simp

def readLongLiteral : Reader (List Char)
  | [] => none
  | '\'' :: '\'' :: '\'' :: cs => some (closeQuotes '\'' cs)
  | c :: cs =>
    if isControl c && c ≠ '\n' then none
    else (readLongLiteral cs).map fun (s, r) => (c :: s, r)

/-- A line end right after the opening quotes is not part of the string. -/
def dropLineEnd : List Char → List Char
  | '\n' :: cs => cs
  | cs => cs

def readString : Reader String := fun cs =>
  let characters := match cs with
    | '"' :: '"' :: '"' :: r => readLongBasic (dropLineEnd r)
    | '"' :: r => readBasic r
    | '\'' :: '\'' :: '\'' :: r => readLongLiteral (dropLineEnd r)
    | '\'' :: r => readLiteral r
    | _ => none
  characters.map fun (s, r) => (String.ofList s, r)

def isBareKeyChar (c : Char) : Bool := c.isAlphanum || c = '-' || c = '_'

def readKeyPart : Reader String
  | '"' :: cs => (readBasic cs).map fun (s, r) => (String.ofList s, r)
  | '\'' :: cs => (readLiteral cs).map fun (s, r) => (String.ofList s, r)
  | cs =>
    match cs.takeWhile isBareKeyChar with
    | [] => none
    | s => some (String.ofList s, cs.dropWhile isBareKeyChar)

/-- Reads at most so many parts of a key, and the blanks after them. -/
def readKeyParts : Nat → Reader (List String)
  | 0, _ => none
  | count + 1, cs => do
    let (part, r) ← readKeyPart cs
    match skipSpace r with
    | '.' :: r =>
      let (parts, r) ← readKeyParts count (skipSpace r)
      some (part :: parts, r)
    | r => some ([part], r)

/-- Reads a key and the blanks after it. It has fewer parts than characters. -/
def readKey : Reader (List String) := fun cs => readKeyParts (cs.length + 1) cs

end Quantities.Toml
