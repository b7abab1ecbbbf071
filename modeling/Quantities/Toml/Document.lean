import Quantities.Toml.Value

namespace Quantities.Toml

/-- The state between two items of a document. -/
structure Document where
  tree : Tree := {}
  header : List String := []
  /-- Tables opened by dotted keys since the last header, which count as declared from the next
  header on. -/
  opened : List (List String) := []

namespace Document

def openTable (d : Document) (key : List String) : Option Document := do
  let declared := d.opened ++ d.tree.declared
  if declared.contains key || d.tree.isClosed key then none
  let entries ← updateAt true some key d.tree.entries
  some { tree := { d.tree with entries, declared := key :: declared }, header := key }

/-- Opens the next table of an array. What was said of the last one no longer counts. -/
def openItem (d : Document) (key : List String) : Option Document := do
  if d.tree.isClosed key then none
  let stem ← key.getLast?
  let keep (path : List String) := !key.isPrefixOf path
  let entries ← updateAt true (addTable stem) key.dropLast d.tree.entries
  some {
    tree := {
      entries
      declared := key :: (d.opened ++ d.tree.declared).filter keep
      closed := d.tree.closed.filter keep }
    header := key }

/-- The beginnings of a key that are shorter than it. -/
def stems (key : List String) : List (List String) :=
  (List.range (key.length - 1)).map fun i => key.take (i + 1)

def setKey (d : Document) (key : List String) (v : Setting) : Option Document := do
  let path := d.header ++ key
  let between := (stems key).map (d.header ++ ·)
  if between.any d.tree.declared.contains || d.tree.isClosed path.dropLast then none
  let stem ← key.getLast?
  let entries ← updateAt true (addEntry stem v) path.dropLast d.tree.entries
  some {
    tree := { d.tree with entries }.close path v
    header := d.header
    opened := between ++ d.opened }

def readItem (d : Document) : Reader Document := fun cs => do
  match cs with
  | '[' :: '[' :: r =>
    match ← readKey (skipSpace r) with
    | (key, ']' :: ']' :: r) => some (← d.openItem key, r)
    | _ => none
  | '[' :: r =>
    match ← readKey (skipSpace r) with
    | (key, ']' :: r) => some (← d.openTable key, r)
    | _ => none
  | cs =>
    match ← readKey cs with
    | (key, '=' :: r) =>
      let (v, r) ← readValue (skipSpace r)
      some (← d.setKey key v, r)
    | _ => none

/-- Reads at most so many lines. An item may take several lines of the text. -/
def readLines : Nat → Document → List Char → Option Document
  | 0, _, _ => none
  | count + 1, d, cs => do
    let cs := skipSpace cs
    let (d, r) ← match cs with
      | [] | '\n' :: _ | '#' :: _ => some (d, cs)
      | cs => d.readItem cs
    match ← skipComment (skipSpace r) with
    | [] => some d
    | '\n' :: r => readLines count d r
    | _ => none

end Document

/-- The settings of a document whose line ends are unified. -/
def read (cs : List Char) : Option (List (String × Setting)) :=
  (Document.readLines (cs.length + 1) {} cs).map (·.tree.entries)

end Quantities.Toml
