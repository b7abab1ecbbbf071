import Quantities.Token
import Quantities.Arithmetic

namespace Quantities

/-- A lexeme, the characters it was read from and those that follow. -/
structure Reading (ν : Type) where
  lexeme : Lexeme ν
  text : List Char
  rest : List Char

namespace Token

variable {ν : Type} (A : Arithmetic ν)

/-- Letters, digits and underscores, all of them ASCII. -/
def isWordChar (c : Char) : Bool := c.isAlphanum || c = '_'

def isSpace (c : Char) : Bool := c = ' ' || c = '\t' || c = '\n' || c = '\r'

/-- A word is a command, a unit or else a variable. -/
def ofWord (word : String) : Lexeme ν :=
  if word = "quit" || word = "exit" then .command .quit word
  else if word = "help" then .command .help word
  else match BaseUnit.ofSymbol? word with
    | some b => .unit b
    | none => .var word

def operator? (c : Char) : Option Operator :=
  match c with
  | '+' => some .add
  | '-' => some .sub
  | '*' => some .mul
  | '/' => some .div
  | '^' => some .caret
  | '=' => some .equals
  | _ => none

def digitsValue (ds : List Char) : Nat :=
  ds.foldl (fun n d => 10 * n + (d.toNat - '0'.toNat)) 0

def ofDecimal (pos : Nat) (d : Decimal) : Lexeme ν :=
  match A.ofDecimal? d with
  | some x => .number x
  | none => .invalid (some (.numberTooLarge pos))

/-- Digits with an optional fraction: the digits before and after the point, the characters they
were read from and those that follow. -/
def readMantissa (cs : List Char) : (List Char × List Char) × List Char × List Char :=
  let whole := cs.takeWhile Char.isDigit
  match cs.dropWhile Char.isDigit with
  | '.' :: r =>
    let fraction := r.takeWhile Char.isDigit
    ((whole, fraction), whole ++ '.' :: fraction, r.dropWhile Char.isDigit)
  | r => ((whole, []), whole, r)

/-- A number may end in an exponent without sign. -/
def readNumber (pos : Nat) (cs : List Char) : Reading ν :=
  let ((whole, fraction), text, rest) := readMantissa cs
  let d : Decimal := { digits := digitsValue (whole ++ fraction), places := fraction.length }
  match rest with
  | [] => ⟨ofDecimal A pos d, text, rest⟩
  | e :: r =>
    if e = 'e' || e = 'E' then
      match r.takeWhile Char.isDigit with
      | [] =>
        let reason := if r.head? = some '-' then .negativeExponent else .malformedNumber pos
        ⟨.invalid (some reason), text, rest⟩
      | ds =>
        ⟨ofDecimal A pos { d with exponent := digitsValue ds }, text ++ e :: ds,
          r.dropWhile Char.isDigit⟩
    else ⟨ofDecimal A pos d, text, rest⟩

def read (pos : Nat) (c : Char) (cs : List Char) : Reading ν :=
  if c = '\x00' then ⟨.invalid (some (.endOfInput pos)), [c], cs⟩
  else if c.isAlpha then
    let word := c :: cs.takeWhile isWordChar
    ⟨ofWord (String.ofList word), word, cs.dropWhile isWordChar⟩
  else if isSpace c then ⟨.blank, c :: cs.takeWhile isSpace, cs.dropWhile isSpace⟩
  else if c = '-' && cs.head? = some '>' then
    ⟨.operator .convert (some "->"), ['-', '>'], cs.drop 1⟩
  else if c.isDigit then readNumber A pos (c :: cs)
  else match operator? c with
    | some op => ⟨.operator op (String.singleton c), [c], cs⟩
    | none => ⟨.invalid (some (.unexpectedCharacter c pos)), [c], cs⟩

theorem length_dropWhile_le (p : Char → Bool) (cs : List Char) :
    (cs.dropWhile p).length ≤ cs.length :=
  (List.dropWhile_sublist p).length_le

theorem length_readMantissa_rest_le (cs : List Char) :
    (readMantissa cs).2.2.length ≤ (cs.dropWhile Char.isDigit).length := by
  unfold readMantissa
  split
  next r h =>
    have := length_dropWhile_le Char.isDigit r
    simp only [h, List.length_cons]
    omega
  next => exact Nat.le_refl _

theorem length_readNumber_rest_le (pos : Nat) (cs : List Char) :
    (readNumber A pos cs).rest.length ≤ (cs.dropWhile Char.isDigit).length := by
  have hm := length_readMantissa_rest_le cs
  unfold readNumber
  split
  next whole fraction text rest h =>
    rw [h] at hm
    simp only at hm ⊢
    split
    next => exact hm
    next e r =>
      have hr := length_dropWhile_le Char.isDigit r
      simp only [List.length_cons] at hm
      split
      · split
        · simpa using hm
        · simp only; omega
      · simpa using hm

theorem length_read_rest_le (pos : Nat) (c : Char) (cs : List Char) :
    (read A pos c cs).rest.length ≤ cs.length := by
  unfold read
  split
  · exact Nat.le_refl _
  split
  · exact length_dropWhile_le _ _
  split
  · exact length_dropWhile_le _ _
  split
  · simp
  split
  next h =>
    refine Nat.le_trans (length_readNumber_rest_le A pos (c :: cs)) ?_
    rw [List.dropWhile_cons_of_pos h]
    exact length_dropWhile_le _ _
  next => split <;> exact Nat.le_refl _

/-- The tokens of a text whose first character stands at `pos`. -/
def scanFrom (pos : Nat) : List Char → List (Token ν)
  | [] => [⟨.endOfLine, pos⟩]
  | c :: cs =>
    let r := read A pos c cs
    if r.lexeme.isInvalid then [⟨r.lexeme, pos⟩]
    else ⟨r.lexeme, pos⟩ :: scanFrom (pos + r.text.length) r.rest
termination_by cs => cs.length
decreasing_by
  have := length_read_rest_le A pos c cs
  simp only [List.length_cons]
  omega

/-- All tokens of a line, blanks included. A line beyond the limit is not read at all. -/
def scan (limit : Int) (source : String) : List (Token ν) :=
  if limit < source.length then [⟨.invalid (some (.tooLong limit)), 0⟩]
  else scanFrom A 0 source.toList

def tokenize (limit : Int) (source : String) : List (Token ν) :=
  (scan A limit source).filter fun t => !t.lexeme.isBlank

end Token

end Quantities
