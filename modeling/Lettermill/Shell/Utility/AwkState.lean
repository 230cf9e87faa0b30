import Lettermill.Dict
import Lettermill.Shell.Utility.AwkReader
import Lettermill.Shell.Utility.AwkValue
import Lettermill.Shell.Utility.Basic
/-! The state of programs for records: their variables and arrays, the record with its fields, what
they still have to read, and what they have written. What runs commands is given from outside. -/
namespace Lettermill.Shell.Utility
set_option autoImplicit false
open Text

abbrev Commander := List Char → List Char → Machine → Effect

/-! ## States -/

/-- A variable of a function: a value, or what may still become the array with this name. -/
inductive AwkLocal where
  | value (v : AwkValue)
  | array (name : String)

/-- An array: its elements, the newest first. -/
abbrev AwkArray := List (List Char × AwkValue)

structure AwkState where
  machine : Machine
  /-- The input that was not read yet. -/
  input : List Char
  inputRead : Bool := false
  globals : List (String × AwkValue) := []
  arrays : List (String × AwkArray) := []
  locals : List (String × AwkLocal) := []
  /-- How many functions were called. -/
  calls : Nat := 0
  /-- How many parameters the functions at work have. -/
  stack : Nat := 0
  record : List Char := []
  fields : List AwkValue := []
  /-- The text that records are taken from. -/
  source : Option (List Char) := none
  /-- Arguments that were not looked at yet. -/
  operands : List String := []
  /-- Was there a text to take records from? -/
  opened : Bool := false
  /-- What is left to read of files, and of what commands wrote. -/
  sources : List (Bool × String × List Char) := []
  /-- Files that are written to. -/
  files : List String := []
  /-- Commands that are written to, with what was written. -/
  pipes : List (String × List Char) := []
  /-- Output that is held back, the latest first. -/
  held : List (List Char) := []
  /-- What was written, the latest first. -/
  pieces : List (Bool × List Char) := []
  /-- Rules whose ranges have begun. -/
  ranges : List Nat := []
  status : Nat := 0
  seed : Nat := 1

inductive AwkJump where
  | breakLoop
  | nextRound
  | nextRecord
  | nextFile
  | exit
  | leave (v : AwkValue)
  | fault (text : String)

abbrev AwkM := ExceptT AwkJump (StateM AwkState)

def outcome {α : Type} (act : AwkM α) : AwkM (Except AwkJump α) :=
  ExceptT.mk (do let r ← act.run; return .ok r)

namespace AwkState

/-! ## Variables -/

def initialGlobals : List (String × AwkValue) := [("FS", .text [' ']), ("OFS", .text [' ']),
  ("ORS", .text ['\n']), ("RS", .text ['\n']), ("SUBSEP", .text ['\x1c']),
  ("CONVFMT", .text "%.6g".toList), ("OFMT", .text "%.6g".toList), ("NR", .ofNat 0),
  ("FNR", .ofNat 0), ("RSTART", .ofNat 0), ("RLENGTH", .number (Double.ofInt (-1))),
  ("FILENAME", .text [])]

def get (s : AwkState) (x : String) : AwkValue :=
  if x = "NF" then .ofNat s.fields.length
  else match s.locals.lookup x with
    | some (.value v) => v
    | some (.array _) => .unset
    | none => (s.globals.lookup x).getD .unset

def convert (s : AwkState) : List Char :=
  match s.globals.lookup "CONVFMT" with
  | some (.text cs) | some (.field cs) => cs
  | _ => "%.6g".toList

def textOf (s : AwkState) (x : String) : List Char :=
  ((s.globals.lookup x).getD .unset).toText s.convert

def rebuild (s : AwkState) : AwkState :=
  { s with
    record := (s.textOf "OFS").intercalate (s.fields.map (AwkValue.toText s.convert)) }

def resize (s : AwkState) (n : Nat) : AwkState :=
  let fields := s.fields.take n
  { s with fields := fields ++ List.replicate (n - fields.length) (.text []) }

def setGlobal (s : AwkState) (x : String) (v : AwkValue) : AwkState :=
  if x = "NF" then (s.resize v.toInt.toNat).rebuild
  else { s with globals := Dict.put x v s.globals }

def set (s : AwkState) (x : String) (v : AwkValue) : AwkState :=
  if (s.locals.lookup x).isSome then { s with locals := Dict.put x (.value v) s.locals }
  else s.setGlobal x v

def arrayName (s : AwkState) (x : String) : String :=
  match s.locals.lookup x with
  | some (.array name) => name
  | _ => x

def array (s : AwkState) (x : String) : AwkArray := (s.arrays.lookup (s.arrayName x)).getD []

def setArray (s : AwkState) (x : String) (a : AwkArray) : AwkState :=
  { s with arrays := Dict.put (s.arrayName x) a s.arrays }

def setElement (s : AwkState) (x : String) (key : List Char) (v : AwkValue) : AwkState :=
  let a := s.array x
  if (a.lookup key).isSome then
    s.setArray x (a.map fun (k, old) => if k = key then (k, v) else (k, old))
  else s.setArray x ((key, v) :: a)

/-! ## Records and fields -/

def between (r : Regex) : Nat → List Char → List (List Char)
  | 0, cs => [cs]
  | fuel + 1, cs =>
    match r.find? {} (fun k k' => k'.after.length != k.after.length) [] cs with
    | none => [cs]
    | some found => found.before.reverse :: between r fuel found.after

def betweenBlanks (cs : List Char) : List (List Char) :=
  let isBlank (c : Char) : Bool := c == ' ' || c == '\t' || c == '\n'
  ((cs.foldr (fun c (words : List (List Char)) =>
    match words with
    | w :: ws => if isBlank c then [] :: w :: ws else (c :: w) :: ws
    | [] => []) [[]])).filter (· ≠ [])

/-- The pieces of a text between what a separator stands for. -/
def split (separator cs : List Char) : List (List Char) :=
  if cs.isEmpty then []
  else match separator with
  | [' '] => betweenBlanks cs
  | [] => cs.map fun c => [c]
  | [c] => cutAt c cs
  | _ =>
    match readAwkPattern separator with
    | .ok r => between r (cs.length + 1) cs
    | .error _ => [cs]

/-- Lets a text be the record. Between records of many lines, the ends of lines separate fields. -/
def setRecord (s : AwkState) (cs : List Char) : AwkState :=
  let separator := s.textOf "FS"
  let pieces := if (s.textOf "RS").isEmpty && separator != [' '] then
      if cs.isEmpty then [] else (cutAt '\n' cs).flatMap (split separator)
    else split separator cs
  { s with record := cs, fields := pieces.map .field }

def setField (s : AwkState) (n : Nat) (v : AwkValue) : AwkState :=
  if n = 0 then s.setRecord (v.toText s.convert)
  else
    let s := s.resize (max n s.fields.length)
    { s with fields := s.fields.set (n - 1) v }.rebuild

def field (s : AwkState) (n : Nat) : AwkValue :=
  if n = 0 then .field s.record else s.fields.getD (n - 1) .unset

/-- Records of many lines, and what follows the first of them. -/
def paragraph? (cs : List Char) : Option (List Char × List Char) :=
  match cs.dropWhile (· == '\n') with
  | [] => none
  | cs =>
    match before? ['\n', '\n'] cs with
    | some (front, rest) => some (front, rest.dropWhile (· == '\n'))
    | none => some (if cs.getLast? = some '\n' then cs.dropLast else cs, [])

def record? (separator cs : List Char) : Option (List Char × List Char) :=
  if cs.isEmpty then none
  else match separator with
  | [] => paragraph? cs
  | [c] => some (cs.takeWhile (· != c), (cs.dropWhile (· != c)).drop 1)
  | _ =>
    match readAwkPattern separator with
    | .error _ => some (cs, [])
    | .ok r =>
      match r.find? {} (fun k k' => k'.after.length != k.after.length) [] cs with
      | none => some (cs, [])
      | some found => some (found.before.reverse, found.after)

def count (s : AwkState) (names : List String) : AwkState :=
  names.foldl (fun s x =>
    s.setGlobal x (.number (((s.globals.lookup x).getD .unset).toNumber.plus (Double.ofInt 1)))) s

def takeInput (s : AwkState) : List Char × AwkState :=
  (s.input, { s with input := [], inputRead := true })

def read (s : AwkState) (path : String) : Except FileError (List Char × AwkState) :=
  let c : Call := { name := "", machine := s.machine }
  if c.isInput path then .ok s.takeInput
  else (c.read path).map fun cs => (cs, s)

/-- The name and the value of an argument that is an assignment. -/
def assignmentIn? (arg : String) : Option (String × AwkValue) :=
  let cs := arg.toList
  let name := cs.takeWhile isAwkNameChar
  match name, cs.drop name.length with
  | c :: _, '=' :: value =>
    if isDigit c then none
    else some (String.ofList name, .field (awkUnescaped (value.length + 1) value))
  | _, _ => none

/-- Takes the next record of the arguments, or of the input when none of them is a file. -/
def nextRecord? : Nat → AwkState → Except String (Option (List Char) × AwkState)
  | 0, s => .ok (none, s)
  | fuel + 1, s =>
    match s.source with
    | some cs =>
      match record? (s.textOf "RS") cs with
      | some (r, rest) => .ok (some r, { s with source := some rest })
      | none => nextRecord? fuel { s with source := none }
    | none =>
      let start (name : List Char) (cs : List Char) (s : AwkState) : AwkState :=
        ({ s with source := some cs, opened := true }.setGlobal "FILENAME" (.text name)).setGlobal
          "FNR" (.ofNat 0)
      match s.operands with
      | [] =>
        if s.opened then .ok (none, s)
        else
          let (cs, s) := s.takeInput
          nextRecord? fuel (start ['-'] cs s)
      | arg :: rest =>
        let s := { s with operands := rest }
        if arg = "" then nextRecord? fuel s
        else match assignmentIn? arg with
        | some (x, v) => nextRecord? fuel (s.setGlobal x v)
        | none =>
          match s.read arg with
          | .ok (cs, s) => nextRecord? fuel (start arg.toList cs s)
          | .error e => .error ("cannot open \"" ++ arg ++ "\" (" ++ e.words ++ ")")

def next? (s : AwkState) : Except String (Option (List Char) × AwkState) :=
  nextRecord? (2 * s.operands.length + 4) s

/-! ## Output -/

def flush (s : AwkState) : AwkState :=
  if s.held.isEmpty then s
  else { s with pieces := (false, s.held.reverse.flatten) :: s.pieces, held := [] }

/-- Adds what a command left behind; its output goes with it unless it is `quiet`. -/
def absorb (s : AwkState) (e : Effect) (quiet : Bool) : AwkState :=
  { s with
    pieces := (e.pieces.filter fun p => !(quiet && !p.1)).reverse ++ s.pieces
    machine := e.machine.getD s.machine }

def finishPipe (run : Commander) (s : AwkState) (command : String) (text : List Char) :
    Nat × AwkState :=
  let e := run command.toList text s.machine
  (e.status, s.absorb e false)

/-- Ends everything: commands that were written to come first. -/
def finish (run : Commander) (s : AwkState) : AwkState :=
  let s := s.pipes.foldl (fun s (command, text) => (s.finishPipe run command text).2) s
  { s with pipes := [] }.flush

/-- Writes to a file. It is emptied before, unless it was written to already or is appended to. -/
def writeFile (s : AwkState) (append : Bool) (path : String) (text : List Char) :
    Except String AwkState :=
  let name := pathOf path
  let refuse (e : FileError) : Except String AwkState :=
    .error ("cannot open \"" ++ path ++ "\" for output (" ++ e.words ++ ")")
  if path = "-" then .ok { s with held := text :: s.held }
  else match s.machine.target name with
  | .error e => refuse e
  | .ok (.inl (.channel 1)) => .ok { s with held := text :: s.held }
  | .ok (.inl (.channel 2)) => .ok { s with pieces := (true, text) :: s.pieces }
  | .ok (.inl .terminal) => refuse .noDevice
  | .ok (.inl _) => .ok s
  | .ok (.inr _) =>
    let old := if append || s.files.contains path then
        match s.machine.look name with
        | .ok (.file content) => content
        | _ => []
      else []
    .ok { s with
      machine := s.machine.write name (old ++ narrow text)
      files := if s.files.contains path then s.files else path :: s.files }

def put (s : AwkState) (sink : Option (AwkSink × String)) (text : List Char) :
    Except String AwkState :=
  match sink with
  | none => .ok { s with held := text :: s.held }
  | some (.file, path) => s.writeFile false path text
  | some (.append, path) => s.writeFile true path text
  | some (.command, command) =>
    match s.pipes.lookup command with
    | some old => .ok { s with pipes := Dict.put command (old ++ text) s.pipes }
    | none =>
      let s := s.flush
      .ok { s with pipes := s.pipes ++ [(command, text)] }

/-- Closes what is read or written under a name, and gives its status. -/
def close (run : Commander) (s : AwkState) (name : String) : Int × AwkState :=
  match s.pipes.lookup name with
  | some text =>
    let (status, s) := s.finishPipe run name text
    (status, { s with pipes := s.pipes.filter fun p => p.1 ≠ name })
  | none =>
    let known := s.files.contains name || s.sources.any fun entry => entry.2.1 = name
    (if known then 0 else -1,
      { s with
        files := s.files.filter (· ≠ name)
        sources := s.sources.filter fun entry => entry.2.1 ≠ name })

/-- Takes a record from a file or from what a command writes. The number is negative when there is
no such file, and zero when there is nothing left. -/
def readFrom (run : Commander) (s : AwkState) (isCommand : Bool) (name : String) :
    Int × List Char × AwkState :=
  let take (cs : List Char) (s : AwkState) : Int × List Char × AwkState :=
    match record? (s.textOf "RS") cs with
    | some (r, rest) =>
      let others := s.sources.filter fun entry => !(entry.1 == isCommand && entry.2.1 == name)
      (1, r, { s with sources := (isCommand, name, rest) :: others })
    | none => (0, [], s)
  match s.sources.find? fun entry => entry.1 == isCommand && entry.2.1 == name with
  | some (_, _, cs) => take cs s
  | none =>
    let opened (cs : List Char) (s : AwkState) : Int × List Char × AwkState :=
      take cs { s with sources := (isCommand, name, cs) :: s.sources }
    if isCommand then
      let s := s.flush
      let e := run name.toList s.input s.machine
      let written := (e.pieces.filter fun p => !p.1).flatMap Prod.snd
      let s := if e.left.isSome then s.takeInput.2 else s
      opened written (s.absorb e true)
    else match s.read name with
    | .ok (cs, s) => opened cs s
    | .error _ => (-1, [], s)

/-! ## Order of elements -/

def keyHash (key : List Char) : Nat :=
  key.foldl (fun h c => Nat.xor h c.toNat * 16777619 % 4294967296) 2166136261

/-- The keys of an array in the order in which a loop visits them. -/
def keysInOrder (a : AwkArray) : List (List Char) :=
  let hashed := a.map fun (k, _) => (keyHash k % 64, k)
  (List.range 64).flatMap fun n => (hashed.filter fun p => p.1 == n).map Prod.snd

end AwkState

end Lettermill.Shell.Utility
