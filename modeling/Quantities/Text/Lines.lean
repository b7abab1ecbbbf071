namespace Quantities.Text

/-- Every line end as a single line feed. -/
def unifyLineEnds : List Char → List Char
  | [] => []
  | '\r' :: '\n' :: cs => '\n' :: unifyLineEnds cs
  | '\r' :: cs => '\n' :: unifyLineEnds cs
  | c :: cs => c :: unifyLineEnds cs

/-- The lines of a text whose line ends are unified, each with its own. -/
def cutLines : List Char → List (List Char)
  | [] => []
  | '\n' :: cs => ['\n'] :: cutLines cs
  | c :: cs => match cutLines cs with
    | [] => [[c]]
    | line :: lines => (c :: line) :: lines

/-- The lines of a text. The last one may have no end. -/
def lines (s : String) : List String :=
  (cutLines (unifyLineEnds s.toList)).map String.ofList

/-- A line without the characters that end it. -/
def stripLineEnd (s : String) : String :=
  String.ofList (s.toList.reverse.dropWhile fun c => c = '\r' || c = '\n').reverse

end Quantities.Text
