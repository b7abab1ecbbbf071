import Quantities.Session
import Quantities.Text.Lines

namespace Quantities

/-- What came of the lines of one source. -/
structure Run (ν : Type) where
  emitted : List (LineResult ν)
  /-- The lines that were not read. -/
  unread : List String
  fault : Option Fault
  session : Session ν

namespace Run

variable {ν : Type}

def lines (r : Run ν) : Nat := r.emitted.length

def failures (r : Run ν) : Nat := r.emitted.countP LineResult.isError

def quits (r : Run ν) : Bool := r.emitted.any LineResult.isQuit

/-- The line that would be read next. -/
def next? (r : Run ν) : Option String := r.unread.head?.map Text.stripLineEnd

end Run

namespace Session

variable {ν : Type} (A : Arithmetic ν)

def run (s : Session ν) : List String → Run ν
  | [] => ⟨[], [], none, s⟩
  | line :: lines =>
    match s.execute A (Text.stripLineEnd line) with
    | (.error f, s) => ⟨[], lines, some f, s⟩
    | (.ok result, s) =>
      if result.isQuit then ⟨[result], lines, none, s⟩
      else
        let r := s.run lines
        { r with emitted := result :: r.emitted }

/-- Executes several sources one after the other, until a fault occurs. -/
def runAll (s : Session ν) : List (List String) → List (Run ν)
  | [] => []
  | source :: sources =>
    let r := s.run A source
    if r.fault.isSome then [r] else r :: r.session.runAll sources

/-- Executes arguments, each of which is a line. The argument `-` stands for the input lines that
are left. Nothing follows a line that quits or a fault. -/
def runArguments (s : Session ν) : List String → List String → List (LineResult ν) × Option Fault
  | [], _ => ([], none)
  | argument :: arguments, input =>
    let r := s.run A (if argument = "-" then input else [argument])
    if r.fault.isSome || r.quits then (r.emitted, r.fault)
    else
      let rest := if argument = "-" then r.unread else input
      let (emitted, fault) := r.session.runArguments arguments rest
      (r.emitted ++ emitted, fault)

end Session

end Quantities
