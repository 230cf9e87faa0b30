import Lettermill.Machine.Basic
/-! Programs that scripts call. A call has arguments, an input and a machine; what it leaves behind
is what it wrote, in order, its status, what it left of the input, and perhaps another machine.
Texts are in byte form. -/
namespace Lettermill.Shell
set_option autoImplicit false
open Text

structure Call where
  /-- The name by which the program was called. -/
  name : String
  args : List String := []
  input : List Char := []
  machine : Machine := {}
  environment : List (String × String) := []
  /-- How much is wanted of what never ends. -/
  appetite : Nat := 65536

structure Effect where
  /-- What was written, each piece to the errors or else to the output. -/
  pieces : List (Bool × List Char) := []
  status : Nat := 0
  /-- What is left of the input; nothing was read when there is none. -/
  left : Option (List Char) := none
  machine : Option Machine := none

namespace Effect

def out (cs : List Char) : Effect := { pieces := [(false, cs)] }

def err (text : String) (status : Nat) : Effect :=
  { pieces := [(true, (text ++ "\n").toList)], status }

/-- One effect after the other. The worse status counts. -/
def andThen (a b : Effect) : Effect :=
  { pieces := a.pieces ++ b.pieces
    status := max a.status b.status
    left := match b.left with
      | none => a.left
      | some rest => some rest
    machine := match b.machine with
      | none => a.machine
      | some m => some m }

def all (es : List Effect) : Effect := es.foldl andThen {}

def consuming (e : Effect) : Effect := { e with left := some [] }

end Effect

/-- A path as the machine knows it: from the byte form to the text of the bytes. -/
def pathOf (s : String) : String := decodeLossy (narrow s.toList)

namespace Call

/-- The lines that say that a call was wrong, and how to find out more. -/
def tryHelp (c : Call) (text : String) (status : Nat) : Effect :=
  (Effect.err (c.name ++ ": " ++ text) status).andThen
    (Effect.err ("Try '" ++ c.name ++ " --help' for more information.") status)

def complaint (c : Call) (text : String) (status : Nat) : Effect :=
  Effect.err (c.name ++ ": " ++ text) status

/-- What a path leads to for reading. A dash is the input. -/
def read (c : Call) (path : String) : Except FileError (List Char) :=
  if path = "-" then .ok c.input
  else match c.machine.look (pathOf path) with
  | .ok (.file content) => .ok (widen content)
  | .ok (.device (.channel 0)) => .ok c.input
  | .ok (.device .terminal) => .error .noDevice
  | .ok (.device .zero) | .ok (.device .full) => .ok (List.replicate c.appetite '\x00')
  | .ok (.device _) => .ok []
  | .ok (.program _) => .ok (widen Machine.programBytes)
  | .ok .folder => .error .isFolder
  | .error e => .error e

def isInput (c : Call) (path : String) : Bool :=
  path = "-" || match c.machine.look (pathOf path) with
    | .ok (.device (.channel 0)) => true
    | _ => false

/-- The text of a path. Of the input there is nothing left the second time. -/
def readAt (c : Call) (paths : List String) (n : Nat) : Except FileError (List Char) :=
  let path := paths.getD n "-"
  if c.isInput path && (paths.take n).any c.isInput then .ok [] else c.read path

/-- The texts of paths, or of the input when there are no paths, each with its path. -/
def texts (c : Call) (paths : List String) : List (String × Except FileError (List Char)) :=
  let paths := if paths.isEmpty then ["-"] else paths
  (List.range paths.length).map fun n => (paths.getD n "-", c.readAt paths n)

def leftAfter (c : Call) (paths : List String) : Option (List Char) :=
  if paths.isEmpty || paths.any c.isInput then some [] else none

/-- The text of all paths together, with complaints about those that cannot be read. -/
def gather (c : Call) (paths : List String) (status : Nat) : List Char × Effect :=
  (c.texts paths).foldl (fun (cs, e) (path, found) =>
    match found with
    | .ok text => (cs ++ text, e)
    | .error why => (cs, e.andThen (c.complaint (path ++ ": " ++ why.words) status)))
    ([], { left := c.leftAfter paths })

def filter (c : Call) (paths : List String) (change : List Char → List Char) : Effect :=
  let (text, e) := c.gather paths 1
  e.andThen (Effect.out (change text))

/-- Turns the text of each path into output, in order with the complaints. -/
def filterEach (c : Call) (paths : List String) (change : List Char → List Char) : Effect :=
  let each := (c.texts paths).map fun (path, found) =>
    match found with
    | .ok text => Effect.out (change text)
    | .error why => c.complaint (path ++ ": " ++ why.words) 1
  { Effect.all each with left := c.leftAfter paths }

end Call

/-! ## Lines -/

/-- The lines of a text, without their ends; the last one may lack its end. -/
def linesOf (cs : List Char) : List (List Char) :=
  match (cutAt '\n' cs).reverse with
  | [] :: rest => rest.reverse
  | all => all.reverse

/-- Does a text end with the end of a line, if it is not empty? -/
def endsLine (cs : List Char) : Bool := cs.isEmpty || cs.getLast? = some '\n'

def unlines (ls : List (List Char)) : List Char := ls.flatMap fun l => l ++ ['\n']

def joinLines (ended : Bool) (ls : List (List Char)) : List Char :=
  if ended then unlines ls else ['\n'].intercalate ls

/-- The lines of a text with their ends, as far as they have them. -/
def rawLines (cs : List Char) : List (List Char) :=
  let ls := linesOf cs
  if endsLine cs then ls.map (· ++ ['\n'])
  else match ls.reverse with
  | last :: rest => (rest.reverse.map (· ++ ['\n'])) ++ [last]
  | [] => []

def padLeft (width : Nat) (cs : List Char) : List Char :=
  List.replicate (width - cs.length) ' ' ++ cs

def digitsText (n : Nat) : List Char := Nat.toDigits 10 n

def natural? (s : String) : Option Nat :=
  if s ≠ "" ∧ s.toList.all isDigit then
    some (s.toList.foldl (fun n c => n * 10 + (c.toNat - '0'.toNat)) 0)
  else none

end Lettermill.Shell
