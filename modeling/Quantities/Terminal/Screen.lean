import Quantities.Text.Blank
import Quantities.Terminal.Columns

namespace Quantities.Terminal

def width : Nat := 80

def tabWidth : Nat := 8

def isSteering (c : Char) : Bool :=
  c.toNat = 7 || c.toNat = 8 || c.toNat = 11 || c.toNat = 12 || c.toNat = 13

/-- The characters of a line that starts at some column, with spaces up to the next stop
for tabs. -/
def expandTabs (column : Nat) : List Char → List Char
  | [] => []
  | '\t' :: cs =>
    let gap := tabWidth - column % tabWidth
    List.replicate gap ' ' ++ expandTabs (column + gap) cs
  | c :: cs => c :: expandTabs (column + columns c) cs

/-- A line without those blanks at its end that lie past the width. -/
def trimEnd (cs : List Char) : List Char :=
  let blanks := (cs.reverse.takeWhile Text.isSpace).length
  cs.take (cs.length - min blanks (cs.length - width))

def line (cs : List Char) : List Char := trimEnd (expandTabs 0 cs)

def shown (cs : List Char) : List Char :=
  ['\n'].intercalate (((cs.filter (!isSteering ·)).splitOn '\n').map line)

end Quantities.Terminal
