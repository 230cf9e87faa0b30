import Lettermill.Dict
import Lettermill.Machine.Known
/-! A machine: the files and folders that were put on it, besides those found on every machine. A
path is followed part by part from the top or from where the work is done; every part but the last
has to be a folder, and two dots go up. -/
namespace Lettermill
set_option autoImplicit false
open Text (Bytes)

inductive Occupant where
  | file (content : Bytes)
  | device (d : Device)
  | program (name : String)
  | folder
  deriving DecidableEq, Repr

structure Machine where
  /-- The files, by the paths to their places. -/
  files : Dict Bytes := ∅
  /-- Folders that are there even when nothing is in them. -/
  folders : List Place := []
  /-- Files that may be run. -/
  runnable : List Place := []
  /-- Where the work is done. -/
  here : Place := ["tmp", "work"]

namespace Machine

def ofFiles (files : List (String × Bytes)) : Machine :=
  let m : Machine := {}
  { m with
    files := Dict.ofList (files.map fun (path, content) =>
      (joinParts (m.here ++ pathParts path), content))
    folders := [m.here] }

/-! ## Looking -/

def hasBelow (m : Machine) (place : Place) : Bool :=
  m.files.keys.any (fun path => place.isPrefixOf (pathParts path))
    || m.folders.any fun folder => place.isPrefixOf folder

def occupant? (m : Machine) (place : Place) : Option Occupant :=
  match m.files.get? (joinParts place), device? place with
  | some content, _ => some (.file content)
  | none, some d => some (.device d)
  | none, none =>
    if commonFolders.contains place || m.hasBelow place then some .folder
    else if commonFiles.contains place then some (.file [])
    else match place with
      | [] => some .folder
      | _ =>
        let name := place.getLast?.getD ""
        if place.dropLast = programFolder ∧ isProgram name then some (.program name) else none

/-- Where parts of a path lead from a place, and what is there. Only the last may be missing. -/
def walk (m : Machine) (here : Place) : List String → Except FileError (Place × Option Occupant)
  | [] => .ok (here, m.occupant? here)
  | part :: rest =>
    if maxNameBytes < part.utf8ByteSize then .error .nameTooLong
    else
      let there := settle (if part = ".." then here.dropLast else here ++ [part])
      match m.occupant? there, rest with
      | some .folder, _ => m.walk there rest
      | found, [] => .ok (there, found)
      | some _, _ => .error .notFolder
      | none, _ => .error .notFound

def locate (m : Machine) (path : String) : Except FileError (Place × Option Occupant) :=
  if path = "" then .error .notFound
  else if pathLimit ≤ path.utf8ByteSize then .error .nameTooLong
  else
    match m.walk (if isAbsolute path then [] else m.here) (pathParts path) with
    | .ok (there, some .folder) => .ok (there, some .folder)
    | .ok (there, some node) =>
      if meansFolder path then .error .notFolder else .ok (there, some node)
    | found => found

def look (m : Machine) (path : String) : Except FileError Occupant :=
  match m.locate path with
  | .ok (_, some node) => .ok node
  | .ok (_, none) => .error .notFound
  | .error e => .error e

/-! ## Writing -/

/-- What a path leads to for writing: a device, or the place of a file, new or old. -/
def target (m : Machine) (path : String) : Except FileError (Device ⊕ Place) :=
  match m.locate path with
  | .error e => .error e
  | .ok (_, some .folder) => .error .isFolder
  | .ok (_, some (.device d)) => .ok (.inl d)
  | .ok (_, some (.program _)) => .error .permissionDenied
  | .ok (there, some (.file _)) => .ok (.inr there)
  | .ok (there, none) =>
    if meansFolder path then .error .isFolder
    else match there with
      | "proc" :: _ => .error .notFound
      | "sys" :: _ => .error .permissionDenied
      | _ => .ok (.inr there)

def put (m : Machine) (place : Place) (content : Bytes) : Machine :=
  { m with files := m.files.insert (joinParts place) content }

def addFolder (m : Machine) (place : Place) : Machine :=
  { m with folders := m.folders ++ [place] }

/-- Takes away what is at a place and below it. The folder around it stays. -/
def remove (m : Machine) (place : Place) : Machine :=
  { m with
    files := m.files.filterKeys fun path => !place.isPrefixOf (pathParts path)
    folders := (m.folders.filter fun folder => !place.isPrefixOf folder) ++ [place.dropLast] }

def allow (m : Machine) (place : Place) : Machine := { m with runnable := place :: m.runnable }

def names (m : Machine) (place : Place) : List String :=
  let below (p : Place) : Option String :=
    if place.isPrefixOf p then (p.drop place.length).head? else none
  (m.files.keys.filterMap (fun path => below (pathParts path))
    ++ (m.folders ++ commonFolders ++ commonFiles).filterMap below).eraseDups

/-! ## The machine as a disk -/

def programBytes : Bytes := [0x7f, 0x45, 0x4c, 0x46, 0x02, 0x01, 0x01, 0x00, 0xff]

/-- The machine as the disk of a command that has this input. -/
def disk (m : Machine) (input : Bytes) : Disk :=
  { look := fun path =>
      match m.look path with
      | .ok (.file content) => .ok (.file content)
      | .ok (.program _) => .ok (.file programBytes)
      | .ok .folder => .ok .folder
      | .ok (.device .terminal) => .error .noDevice
      | .ok (.device (.channel 0)) => .ok (.device input)
      | .ok (.device _) => .ok (.device [])
      | .error e => .error e
    sink := fun path =>
      match m.target path with
      | .ok (.inr _) => .ok .file
      | .ok (.inl .full) => .error .noSpace
      | .ok (.inl .terminal) => .error .noDevice
      | .ok (.inl (.channel 1)) => .ok .output
      | .ok (.inl (.channel 2)) => .ok .errors
      | .ok (.inl _) => .ok .nowhere
      | .error e => .error e }

def write (m : Machine) (path : String) (content : Bytes) : Machine :=
  match m.target path with
  | .ok (.inr place) => m.put place content
  | _ => m

end Machine

end Lettermill
