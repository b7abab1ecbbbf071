import Quantities.Entries
import Quantities.Setting

namespace Quantities.Toml

/-- The tables of a document, and what may no longer be done with them. -/
structure Tree where
  entries : List (String × Setting) := []
  /-- Tables that have been declared and must not be declared again. -/
  declared : List (List String) := []
  /-- Values written in one piece, which nothing may be added to. -/
  closed : List (List String) := []

/-- Changes the entries of the table at a path, which is made where it is missing. The last
element of an array of tables stands for the array if `throughLists` allows it. -/
def updateAt (throughLists : Bool)
    (f : List (String × Setting) → Option (List (String × Setting))) :
    List String → List (String × Setting) → Option (List (String × Setting))
  | [], es => f es
  | k :: path, es =>
    match es.lookup k with
    | none => (updateAt throughLists f path []).map fun t => Entries.set k (.table t) es
    | some (.table t) => (updateAt throughLists f path t).map fun t => Entries.set k (.table t) es
    | some (.list items) =>
      match throughLists, items.getLast? with
      | true, some (.table t) =>
        (updateAt throughLists f path t).map fun t =>
          Entries.set k (.list (items.dropLast ++ [.table t])) es
      | _, _ => none
    | some _ => none

/-- Adds a key that must not be there yet. -/
def addEntry (key : String) (v : Setting) (es : List (String × Setting)) :
    Option (List (String × Setting)) :=
  if (es.lookup key).isSome then none else some (es ++ [(key, v)])

/-- Adds an empty table to the array of tables under a key. -/
def addTable (key : String) (es : List (String × Setting)) : Option (List (String × Setting)) :=
  match es.lookup key with
  | none => some (es ++ [(key, .list [.table []])])
  | some (.list items) => some (Entries.set key (.list (items ++ [.table []])) es)
  | some _ => none

namespace Tree

/-- Whether a path leads to a value written in one piece, or into one. -/
def isClosed (t : Tree) (path : List String) : Bool := t.closed.any (·.isPrefixOf path)

/-- Marks the value at a path as written in one piece if it is. -/
def close (t : Tree) (path : List String) (v : Setting) : Tree :=
  if v.isPiece then { t with closed := path :: t.closed } else t

/-- Adds the value of a key within an inline table. -/
def addInline (t : Tree) (key : List String) (v : Setting) : Option Tree := do
  if t.isClosed key then none
  let stem ← key.getLast?
  let entries ← updateAt false (addEntry stem v) key.dropLast t.entries
  some ({ t with entries }.close key v)

end Tree

end Quantities.Toml
