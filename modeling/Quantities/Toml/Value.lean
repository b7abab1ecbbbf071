import Quantities.Toml.Moment
import Quantities.Toml.Tree

namespace Quantities.Toml

mutual

/-- Reads a value that is nested no deeper and has no more items than allowed. -/
def readWithin : Nat → Reader Setting
  | 0, _ => none
  | fuel + 1, cs =>
    match cs with
    | '"' :: _ | '\'' :: _ => (readString cs).map fun (s, r) => (.text s, r)
    | 't' :: 'r' :: 'u' :: 'e' :: r => some (.boolean true, r)
    | 'f' :: 'a' :: 'l' :: 's' :: 'e' :: r => some (.boolean false, r)
    | '[' :: r => (readItems fuel r).map fun (vs, r) => (.list vs, r)
    | '{' :: r =>
      match skipSpace r with
      | '}' :: r => some (.table [], r)
      | r => readPairs fuel {} r
    | cs => (readMoment cs).or (readNumber cs)

/-- Reads the items of an array, after the bracket or a comma. -/
def readItems : Nat → Reader (List Setting)
  | 0, _ => none
  | fuel + 1, cs => do
    match ← skipFiller false cs with
    | ']' :: r => some ([], r)
    | r =>
      let (v, r) ← readWithin fuel r
      match ← skipFiller false r with
      | ']' :: r => some ([v], r)
      | ',' :: r => (readItems fuel r).map fun (vs, r) => (v :: vs, r)
      | _ => none

/-- Reads the pairs of an inline table, after the brace or a comma. -/
def readPairs : Nat → Tree → Reader Setting
  | 0, _, _ => none
  | fuel + 1, t, cs => do
    match ← readKey cs with
    | (key, '=' :: r) =>
      let (v, r) ← readWithin fuel (skipSpace r)
      let t ← t.addInline key v
      match skipSpace r with
      | '}' :: r => some (.table t.entries, r)
      | ',' :: r => readPairs fuel t (skipSpace r)
      | _ => none
    | _ => none

end

/-- Reads a value. Every level of nesting and every item takes a character. -/
def readValue : Reader Setting := fun cs => readWithin (cs.length + 1) cs

end Quantities.Toml
