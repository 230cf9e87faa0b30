import Lettermill.Machine.Basic
/-! What it takes to run a file: programs run by themselves, and a file of text names, on its first
line, the program that reads it, with at most one argument. -/
namespace Lettermill
set_option autoImplicit false
open Text

inductive Executable where
  | program (name : String)
  /-- Another program, with what is to stand before the path of the file. -/
  | interpreted (interpreter : String) (argument : Option String)
  /-- Nothing that is known. -/
  | shapeless
  deriving DecidableEq, Repr

namespace Machine

def headerBytes : Nat := 256

def isHeaderBlank (c : Char) : Bool := c == ' ' || c == '\t'

def executableOf (content : Bytes) : Executable :=
  match widen (content.take headerBytes) with
  | '#' :: '!' :: rest =>
    let line := (rest.takeWhile fun c => c != '\n' && c != '\x00').dropWhile isHeaderBlank
    let line := (line.reverse.dropWhile isHeaderBlank).reverse
    let interpreter := line.takeWhile fun c => !isHeaderBlank c
    let argument := (line.drop interpreter.length).dropWhile isHeaderBlank
    if interpreter.isEmpty then .shapeless
    else .interpreted (String.ofList interpreter)
      (if argument.isEmpty then none else some (String.ofList argument))
  | _ => .shapeless

def executable (m : Machine) (path : String) : Except FileError Executable :=
  match m.locate path with
  | .error e => .error e
  | .ok (_, none) => .error .notFound
  | .ok (_, some (.program name)) => .ok (.program name)
  | .ok (place, some (.file content)) =>
    if m.runnable.contains place then .ok (executableOf content) else .error .permissionDenied
  | .ok (_, some _) => .error .permissionDenied

/-- The path of a program with a name, looked for in folders in order. -/
def search (m : Machine) (folders : List String) (name : String) : Option String :=
  (folders.map fun folder => if folder = "" then name else folder ++ "/" ++ name).find? fun path =>
    match m.executable path with
    | .ok _ => true
    | .error _ => false

end Machine

end Lettermill
