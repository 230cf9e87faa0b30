import Lettermill.Disk
import Lettermill.Settings.Basic
import Lettermill.Settings.Path
import Lettermill.Toml.Reader
/-! Loading settings from layers: the built-in ones, then files in order, then overrides. A later
layer wins where two set the same key; tables are merged. -/
namespace Lettermill
set_option autoImplicit false
open Text

namespace Settings

def builtIn : Value :=
  let on := Value.scalar none (.boolean true)
  let off := Value.scalar none (.boolean false)
  .table none [
    ("convert", .table none [
      ("validate-output", on), ("preserve-class-names", off), ("inline-styles", on),
      ("wrap-content", on), ("show-warnings", on), ("validate-passthrough", off),
      ("max-input-bytes", .scalar none (.integer 5000000))]),
    ("compiler", .table none [("search-path", on)])]

inductive Layer where
  /-- A file, which has to be there when it is `required`. -/
  | file (path : String) (required : Bool)
  | override (key : String) (value : Scalar)
  deriving DecidableEq, Repr

/-! ## Files -/

def withEnding (path : String) : Option String :=
  let parts := pathParts path
  match parts.getLast? with
  | none => none
  | some last =>
    if last = ".." then none
    else some ((if isAbsolute path then "/" else "") ++ joinParts parts ++ ".toml")

/-- The file that a path means: the one with that name, or else the one with the ending added. Its
name is given without detours. -/
def findFile (disk : Disk) (path : String) : Option (String × Bytes) :=
  match disk.file? path with
  | some content => some (joinParts (pathParts path), content)
  | none => (withEnding path).bind fun longer => (disk.file? longer).map fun content =>
    (longer, content)

def readFile (disk : Disk) (path : String) : Except LoadError (String × String) :=
  match findFile disk path with
  | none => .error (.noFile path)
  | some (name, content) =>
    match decode content with
    | .ok text => .ok (name, text)
    | .error _ => .error .notText

/-- Lays a file over settings. One that is not required counts for nothing when it cannot be read,
but once it is read, it has to be a valid document. -/
def addFile (disk : Disk) (path : String) (required : Bool) (settings : Value) :
    Except LoadError Value :=
  match readFile disk path with
  | .error e => if required then .error e else .ok settings
  | .ok (name, text) =>
    match Toml.read? text with
    | none => .error .badFile
    | some entries => .ok (layFile (some name) entries settings)

/-! ## Layers -/

/-- The overrides among layers, with their keys read as paths. -/
def overrides : List Layer → Except LoadError (List (KeyPath × Scalar))
  | [] => .ok []
  | .file _ _ :: rest => overrides rest
  | .override key value :: rest =>
    match KeyPath.read? key with
    | none => .error .badKey
    | some path => (overrides rest).map ((path, value) :: ·)

def addFiles (disk : Disk) : List Layer → Value → Except LoadError Value
  | [], settings => .ok settings
  | .override _ _ :: rest, settings => addFiles disk rest settings
  | .file path required :: rest, settings =>
    (addFile disk path required settings).bind (addFiles disk rest)

/-- Loads settings from layers. Overrides are looked at before any file, and win over all files. -/
def load (disk : Disk) (layers : List Layer) : Except LoadError Settings := do
  let changes ← overrides layers
  let settings ← addFiles disk layers builtIn
  read (changes.foldl (fun v (path, s) => path.set (.scalar none s) v) settings)

end Settings

end Lettermill
