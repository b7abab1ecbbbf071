import Quantities.Config
import Quantities.Toml.Document
import Quantities.Text.Lines

namespace Quantities

inductive FileRead where
  | content (bytes : ByteArray)
  | failed (reason : String)

structure Files where
  read : String → FileRead
  isFile : String → Bool

inductive LoadFailure where
  | unusable (error : ConfigError)
  /-- The bytes of the file are no text. -/
  | undecodable
  /-- A null character is part of no path. -/
  | nullInPath
  deriving DecidableEq, Repr

namespace Config

def fileName : String := "unitcalc.toml"

/-- The parts of a path without the empty ones and the dots, which lead nowhere. -/
def pathParts (path : List Char) : List (List Char) :=
  (path.splitOn '/').filter fun p => p ≠ [] && p ≠ ['.']

/-- The shortest way to write a path without looking at any file. Exactly two leading strokes keep
their meaning. -/
def normalizePath (path : String) : String :=
  let cs := path.toList
  let root := match (cs.takeWhile (· = '/')).length with
    | 0 => ""
    | 2 => "//"
    | _ => "/"
  let body := "/".intercalate ((pathParts cs).map String.ofList)
  if root = "" && body = "" then "." else root ++ body

def inDirectory (directory name : String) : String :=
  match normalizePath directory with
  | "." => name
  | path => if path.endsWith "/" then path ++ name else path ++ "/" ++ name

def find? (files : Files) (directory : String) : Option String :=
  let path := inDirectory directory fileName
  if files.isFile path then some path else none

def ofText (source text : String) : Except ConfigError Config :=
  match Toml.read (Text.unifyLineEnds text.toList) with
  | some data => read source data
  | none => throw ⟨.malformed, source⟩

def load (files : Files) (path : String) : Except LoadFailure Config := do
  let source := normalizePath path
  if source.contains '\x00' then throw .nullInPath
  match files.read source with
  | .failed reason => throw (.unusable ⟨.unreadable reason, source⟩)
  | .content bytes =>
    match String.fromUTF8? bytes with
    | none => throw .undecodable
    | some text => (ofText source text).mapError .unusable

end Config

end Quantities
