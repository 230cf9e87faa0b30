import Lettermill.Machine.Basic
import Lettermill.Shell.Syntax
/-! A shell at work: its parameters, its channels, and what it shares with the shells that it starts.
Texts, also those of parameters, are in byte form. Everything that is written to the same stream
stays in order. -/
namespace Lettermill.Shell
set_option autoImplicit false
open Text

inductive Port where
  /-- A stream, by its number. -/
  | stream (n : Nat)
  | device (d : Device)
  /-- The end of the file at a place. -/
  | file (place : Place)
  deriving DecidableEq, Repr

/-- A stream: what was not read yet, and after that what was written, the latest first. -/
structure Stream where
  unread : List Char := []
  written : List (List Char) := []
  deriving Inhabited

def Stream.content (s : Stream) : List Char := s.unread ++ s.written.reverse.flatten

/-- A variable. It may be known by name only. -/
structure Variable where
  value : Option String := none
  exported : Bool := false
  /-- May the variable not change? -/
  fixed : Bool := false
  deriving DecidableEq, Repr

/-- What comes after a command: the next one, or something else. -/
inductive Flow where
  | onward
  | breaking (levels : Nat)
  | continuing (levels : Nat)
  | returning
  | exiting
  deriving DecidableEq, Repr

structure State where
  machine : Machine := {}
  streams : Array Stream := #[]
  /-- How many more commands may run. -/
  budget : Nat := 200000
  /-- The signal that ended the first of all shells. -/
  killed : Option Nat := none
  /-- Signals that wait for a trap of the first of all shells. -/
  pending : List Nat := []
  /-- Programs in the background that ended, with their status. -/
  jobs : List (Nat × Nat) := []
  bindings : List (String × Variable) := []
  /-- The functions, each with the number of lines of the script that it comes from. -/
  functions : List (String × Nat × Command) := []
  arguments : List String := []
  name : String := ""
  status : Nat := 0
  options : List Char := []
  channels : List (Nat × Port) := []
  /-- What to do on signals, and, by the number 0, at the end. -/
  traps : List (Nat × String) := []
  /-- Does it not matter whether commands fail? -/
  guarded : Bool := false
  flow : Flow := .onward
  /-- What the functions at work hide of the variables, the innermost function first. -/
  hidden : List (List (String × Option Variable)) := []
  /-- How many loops are at work. -/
  loops : Nat := 0
  /-- The status of the last script inside a word of the command at work. -/
  substituted : Option Nat := none
  /-- How many shells are around this one. -/
  depth : Nat := 0
  /-- The place in a group of options that `getopts` has reached. -/
  optionPlace : Nat := 0
  /-- The number of lines of the script at work, and the line that it has reached. -/
  lines : Nat := 0
  line : Nat := 0
  /-- The command of the shell that runs the script at work, to be named in complaints. -/
  speaker : String := ""
  /-- The programs that were looked for and found. -/
  found : List String := []

/-- The number by which the first of all shells knows itself. -/
def ownNumber : Nat := 4242

namespace State

def stopped (s : State) : Bool := s.flow ≠ .onward

def giving (s : State) (status : Nat) : State := { s with status }

def exit (s : State) (status : Nat) : State := { s with status, flow := .exiting }

/-! ## Variables -/

def known? (s : State) (name : String) : Option Variable := s.bindings.lookup name

def value? (s : State) (name : String) : Option String := (s.known? name).bind Variable.value

def bind (s : State) (name : String) (v : Variable) : State :=
  { s with bindings := Dict.put name v s.bindings }

def forget (s : State) (name : String) : State :=
  { s with bindings := s.bindings.filter fun entry => entry.1 ≠ name }

/-- Gives a variable a value. None when it may not change. -/
def assign? (s : State) (name value : String) : Option State :=
  let old := (s.known? name).getD {}
  if old.fixed then none
  else
    let exported := old.exported || s.options.contains 'a'
    let s := if name = "OPTIND" then { s with optionPlace := 0 } else s
    some (s.bind name { old with value := some value, exported })

def separators (s : State) : List Char := ((s.value? "IFS").getD " \t\n").toList

def joint (s : State) : String :=
  match s.value? "IFS" with
  | none => " "
  | some text => String.ofList (text.toList.take 1)

def environment (s : State) : List (String × String) :=
  s.bindings.filterMap fun (name, v) =>
    if v.exported then v.value.map fun value => (name, value) else none

/-! ## Streams -/

def addStream (s : State) (content : List Char) : Nat × State :=
  (s.streams.size, { s with streams := s.streams.push { unread := content } })

def unread (s : State) : Port → List Char
  | .stream n => (s.streams.getD n {}).content
  | .device .zero | .device .full => List.replicate 1048576 '\x00'
  | .device _ => []
  | .file place =>
    match s.machine.occupant? place with
    | some (.file content) => widen content
    | _ => []

def leave (s : State) (port : Port) (rest : List Char) : State :=
  match port with
  | .stream n => { s with streams := s.streams.setIfInBounds n { unread := rest } }
  | _ => s

def writeTo (s : State) (port : Port) (text : List Char) : Except FileError State :=
  match port with
  | .stream n =>
    .ok { s with streams := s.streams.modify n fun old => { old with written := text :: old.written } }
  | .device .full => if text.isEmpty then .ok s else .error .noSpace
  | .device _ => .ok s
  | .file place =>
    match s.machine.occupant? place with
    | some (.file content) => .ok { s with machine := s.machine.put place (content ++ narrow text) }
    | _ => .ok { s with machine := s.machine.put place (narrow text) }

/-! ## Channels -/

def port? (s : State) (channel : Nat) : Option Port := s.channels.lookup channel

def connect (s : State) (channel : Nat) (port : Port) : State :=
  { s with channels := (channel, port) :: s.channels.filter fun entry => entry.1 ≠ channel }

def disconnect (s : State) (channel : Nat) : State :=
  { s with channels := s.channels.filter fun entry => entry.1 ≠ channel }

/-- Writes to a channel. False when that is not possible. -/
def write (s : State) (channel : Nat) (text : List Char) : Bool × State :=
  match s.port? channel with
  | none => (text.isEmpty, s)
  | some port =>
    match s.writeTo port text with
    | .ok s => (true, s)
    | .error _ => (false, s)

/-- Says something on the channel for errors, in the name of a command. -/
def complainAs (s : State) (speaker text : String) : State :=
  let front := if speaker = "" then "" else speaker ++ ": "
  (s.write 2 (s.name ++ ": " ++ toString s.line ++ ": " ++ front ++ text ++ "\n").toList).2

def complain (s : State) (text : String) : State := s.complainAs s.speaker text

def fail (s : State) (status : Nat) (text : String) : State := (s.complain text).giving status

def abort (s : State) (text : String) : State := (s.complain text).exit 2

/-- Writes output. A program whose output fails says so. -/
def print (s : State) (program : String) (text : List Char) : State :=
  match s.write 1 text with
  | (true, s) => s.giving 0
  | (false, s) => (s.complainAs program (program ++ ": I/O error")).giving 1

/-! ## Parameters -/

/-- The letters of options, in the order in which they are shown. -/
def optionOrder : List Char := "ubaCEVvxsnmiIfe".toList

def parameter? (s : State) (name : String) : Option String :=
  match name with
  | "?" => some (toString s.status)
  | "#" => some (toString s.arguments.length)
  | "$" => some (toString ownNumber)
  | "!" => s.jobs.head?.map fun job => toString job.1
  | "-" => some (String.ofList (optionOrder.filter s.options.contains))
  | "0" => some s.name
  | "@" | "*" => if s.arguments.isEmpty then none else some (s.joint.intercalate s.arguments)
  | _ =>
    match name.toNat? with
    | some n => s.arguments[n - 1]?
    | none => s.value? name

/-! ## Shells of their own -/

/-- Runs something in a shell of its own. What it does to the machine and to streams stays, and so
does its status. -/
def apart (s : State) (act : State → State) : State :=
  let kept := s.traps.filter fun entry => entry.2 = ""
  let inner := act { s with depth := s.depth + 1, traps := kept, loops := 0 }
  { s with
    machine := { inner.machine with here := s.machine.here }
    streams := inner.streams
    budget := inner.budget
    killed := inner.killed
    pending := inner.pending
    status := inner.status % 256
    flow := if inner.killed.isSome || inner.budget = 0 then .exiting else s.flow }

end State

end Lettermill.Shell
