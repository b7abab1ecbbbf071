import Quantities.Toml.Number

namespace Quantities.Toml

/-- Reads a number of exactly so many digits within bounds. -/
def readPart (count low high : Nat) : Reader Nat := fun cs =>
  let ds := cs.take count
  let n := numeralValue 10 ds
  if ds.length = count && ds.all Char.isDigit && low ≤ n && n ≤ high then some (n, cs.drop count)
  else none

def dropChar? (c : Char) : List Char → Option (List Char)
  | d :: cs => if d = c then some cs else none
  | [] => none

def isLeapYear (year : Nat) : Bool :=
  year % 4 = 0 && (year % 100 ≠ 0 || year % 400 = 0)

def daysInMonth (year month : Nat) : Nat :=
  if month = 2 then if isLeapYear year then 29 else 28
  else if month = 4 || month = 6 || month = 9 || month = 11 then 30
  else 31

def skipDate? (cs : List Char) : Option (List Char) := do
  let (year, cs) ← readPart 4 1 9999 cs
  let (month, cs) ← readPart 2 1 12 (← dropChar? '-' cs)
  let (_, cs) ← readPart 2 1 (daysInMonth year month) (← dropChar? '-' cs)
  some cs

/-- The text after the digits of a second's fraction, if there are any. -/
def skipSecondFraction : List Char → List Char
  | '.' :: d :: cs => if d.isDigit then cs.dropWhile Char.isDigit else '.' :: d :: cs
  | cs => cs

def skipTime? (cs : List Char) : Option (List Char) := do
  let (_, cs) ← readPart 2 0 23 cs
  let (_, cs) ← readPart 2 0 59 (← dropChar? ':' cs)
  let (_, cs) ← readPart 2 0 59 (← dropChar? ':' cs)
  some (skipSecondFraction cs)

/-- The text after the hours and minutes of an offset. -/
def skipOffset? (cs : List Char) : Option (List Char) := do
  let (_, cs) ← readPart 2 0 23 cs
  let (_, cs) ← readPart 2 0 59 (← dropChar? ':' cs)
  some cs

def skipZone (cs : List Char) : List Char :=
  match cs with
  | 'Z' :: r | 'z' :: r => r
  | '+' :: r | '-' :: r => (skipOffset? r).getD cs
  | _ => cs

/-- Reads a date that may go on with a time, or a time alone. -/
def readMoment : Reader Setting := fun cs =>
  match skipDate? cs with
  | some r =>
    let time? := match r with
      | 'T' :: t | 't' :: t | ' ' :: t => skipTime? t
      | _ => none
    match time? with
    | some t => some (.moment .dateAndTime, skipZone t)
    | none => some (.moment .date, r)
  | none => (skipTime? cs).map fun r => (.moment .time, r)

end Quantities.Toml
