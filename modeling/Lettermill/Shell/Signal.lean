import Lettermill.Compiler.Program
import Lettermill.Shell.State
/-! Signals: their names and numbers, and what a shell does about one that is sent to it. -/
namespace Lettermill.Shell
set_option autoImplicit false
open Text

/-- The name of a signal without what all names begin with. At the number 0 stands the end of the
shell. -/
def signalName (n : Nat) : String :=
  if n = 0 then "EXIT"
  else match signalNames.lookup n with
  | some name => String.ofList (name.toList.drop 3)
  | none => toString n

def maxSignal : Nat := 64

/-- The signal that a text names, by number or by name in any case. -/
def signal? (text : String) : Option Nat :=
  if text ≠ "" ∧ text.toList.all isDigit then
    text.toNat?.bind fun n => if n ≤ maxSignal then some n else none
  else
    ((List.range (maxSignal + 1)).filter fun n => (signalName n).toList.any isLetter).find? fun n =>
      sameLetters (signalName n) text

/-- Signals that do nothing to a program that is not prepared for them. -/
def harmlessSignals : List Nat := [17, 18, 23, 28]

/-- What a shell says of a program that a signal ended, unless it says nothing. -/
def signalWords : List (Nat × String) := [(1, "Hangup"), (3, "Quit"), (4, "Illegal instruction"),
  (5, "Trace/breakpoint trap"), (6, "Aborted"), (7, "Bus error"), (8, "Floating point exception"),
  (9, "Killed"), (10, "User defined signal 1"), (11, "Segmentation fault"),
  (12, "User defined signal 2"), (14, "Alarm clock"), (15, "Terminated"), (16, "Stack fault"),
  (24, "CPU time limit exceeded"), (25, "File size limit exceeded"), (26, "Virtual timer expired"),
  (27, "Profiling timer expired"), (29, "I/O possible"), (30, "Power failure"),
  (31, "Bad system call")]

def State.endBy (s : State) (n : Nat) : State := { s with killed := some n, flow := .exiting }

def State.signal (s : State) (n : Nat) : State :=
  if n = 0 ∨ s.killed.isSome then s
  else
    match s.traps.lookup n with
    | some "" => s
    | some _ => if n = 9 ∨ n = 19 then s.endBy n else { s with pending := s.pending ++ [n] }
    | none => if harmlessSignals.contains n then s else s.endBy n

end Lettermill.Shell
