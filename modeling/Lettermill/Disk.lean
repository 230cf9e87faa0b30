import Lettermill.Text.Letters
import Lettermill.Text.Utf8
/-! Files as a program sees them: a disk says what a path leads to, and where what is written there
would go. Paths are made of parts between slashes; a part that is empty or a dot stays where it is.
-/
namespace Lettermill
set_option autoImplicit false
open Text (Bytes)

inductive FileError where
  | notFound
  | permissionDenied
  | notFolder
  | isFolder
  | nameTooLong
  | noDevice
  | noSpace
  | exists
  | notEmpty
  | noFormat
  | tooManyLinks
  deriving DecidableEq, Repr

def FileError.words : FileError → String
  | .notFound => "No such file or directory"
  | .permissionDenied => "Permission denied"
  | .notFolder => "Not a directory"
  | .isFolder => "Is a directory"
  | .nameTooLong => "File name too long"
  | .noDevice => "No such device or address"
  | .noSpace => "No space left on device"
  | .exists => "File exists"
  | .notEmpty => "Directory not empty"
  | .noFormat => "Exec format error"
  | .tooManyLinks => "Too many levels of symbolic links"

def FileError.number : FileError → Nat
  | .notFound => 2
  | .noDevice => 6
  | .noFormat => 8
  | .permissionDenied => 13
  | .exists => 17
  | .notFolder => 20
  | .isFolder => 21
  | .noSpace => 28
  | .nameTooLong => 36
  | .notEmpty => 39
  | .tooManyLinks => 40

def FileError.message (e : FileError) : String :=
  e.words ++ " (os error " ++ toString e.number ++ ")"

inductive Entry where
  | file (content : Bytes)
  /-- What can be read, but is not kept. -/
  | device (content : Bytes)
  | folder
  deriving DecidableEq, Repr

inductive Sink where
  | file
  | output
  | errors
  | nowhere
  deriving DecidableEq, Repr

structure Disk where
  look : String → Except FileError Entry
  sink : String → Except FileError Sink

namespace Disk

def read (d : Disk) (path : String) : Except FileError Bytes :=
  match d.look path with
  | .ok (.file content) | .ok (.device content) => .ok content
  | .ok .folder => .error .isFolder
  | .error e => .error e

def file? (d : Disk) (path : String) : Option Bytes :=
  match d.look path with
  | .ok (.file content) => some content
  | _ => none

end Disk

/-! ## Paths -/

/-- The parts of a path, without those that stay where they are. -/
def pathParts (path : String) : List String :=
  ((Text.cutAt '/' path.toList).map String.ofList).filter fun part => part ≠ "" ∧ part ≠ "."

def meansFolder (path : String) : Bool :=
  match ((Text.cutAt '/' path.toList).map String.ofList).getLast? with
  | some last => last = "" ∨ last = "." ∨ last = ".."
  | none => true

def isAbsolute (path : String) : Bool := path.toList.head? = some '/'

def joinParts (parts : List String) : String := "/".intercalate parts

def maxNameBytes : Nat := 255

def pathLimit : Nat := 4096

end Lettermill
