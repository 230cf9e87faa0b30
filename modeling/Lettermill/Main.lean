import Lettermill.CommandLine.Run
import Lettermill.Shell.Run
/-! The command itself: it gathers what a run needs to see of the world, and carries out what the
run decided. Programs are run when they are shell scripts. -/
namespace Lettermill.CommandLine
set_option autoImplicit false
open Text

/-! ## Gathering -/

def fileErrorOf : IO.Error → FileError
  | .permissionDenied .. => .permissionDenied
  | .inappropriateType .. => .isFolder
  | _ => .notFound

def fetch (path : String) : IO (Except FileError Entry) := do
  try
    return .ok (.file (← IO.FS.readBinFile path).toList)
  catch e => return .error (fileErrorOf e)

def fetchDisk (paths : List String) : IO Disk := do
  let found ← paths.mapM fun path => return (path, ← fetch path)
  return {
    look := fun path => (found.lookup path).getD (.error .notFound)
    sink := fun _ => .ok .file }

def Invocation.sources (i : Invocation) : List String :=
  let settings := match i.value? .config with
    | some path => path :: (Settings.withEnding path).toList
    | none => []
  i.path.toList ++ settings

def machineWith (path : String) (content : Bytes) : Machine :=
  let m : Machine := {}
  let place := (if isAbsolute path then [] else m.here) ++ pathParts path
  (m.put place content).allow place

def fetchPrograms (paths : List String) : IO (List (String × Program)) := do
  let found ← paths.mapM fun path => return (path, ← fetch path)
  return found.filterMap fun (path, entry) =>
    match entry with
    | .ok (.file content) =>
      some (path, Shell.programAt (machineWith path content) Shell.usualFolders path)
    | _ => none

def compilerPaths : IO (List String) := do
  let search := (← IO.getEnv "PATH").getD ""
  return (cutAt ':' search.toList).map fun folder =>
    String.ofList folder ++ "/" ++ World.compilerName

def fetchInput : IO Bytes := do
  let input ← IO.getStdin
  return (← input.readBinToEnd).toList

def fetchWorld (i : Invocation) : IO World := do
  let input ← if i.path.getD World.inputPath = World.inputPath then fetchInput else pure []
  let compilers ← fetchPrograms (← compilerPaths)
  let programs ← fetchPrograms (i.value? .binary).toList
  return {
    disk := ← fetchDisk i.sources
    input
    program := fun path =>
      ((if path = World.compilerName then compilers.head?.map Prod.snd else none).or
        (programs.lookup path)).getD fun _ _ => .error .notFound
    hasCompiler := !compilers.isEmpty
    logFilter := ← IO.getEnv "RUST_LOG" }

def worldFor (arguments : List String) : IO World := do
  match read arguments with
  | .ok (.convert i) => fetchWorld i
  | _ => return { disk := { look := fun _ => .error .notFound, sink := fun _ => .ok .file } }

/-! ## Carrying out -/

/-- Writes the file of a result. The result is a failure when it cannot be written. -/
def store (r : Result) : IO Result := do
  match r.file with
  | none => return r
  | some (path, content) =>
    try
      IO.FS.writeBinFile path (ByteArray.mk content.toArray)
      return r
    catch e => return World.failed r.errors (.writing path (fileErrorOf e).message)

end Lettermill.CommandLine

open Lettermill.CommandLine in
def main (arguments : List String) : IO UInt32 := do
  let w ← worldFor arguments
  let r ← store (w.run arguments)
  IO.print r.output
  IO.eprint r.errors
  return UInt32.ofNat r.code
