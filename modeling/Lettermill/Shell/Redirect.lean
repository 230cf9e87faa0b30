import Lettermill.Shell.Expansion
import Lettermill.Shell.Utility.Basic
/-! Redirections: for the time of a command, channels lead to files, to texts or to where other
channels lead. -/
namespace Lettermill.Shell
set_option autoImplicit false
open Text

inductive RedirectionError where
  | cannotOpen (path : String) (cause : FileError)
  | cannotCreate (path : String) (cause : FileError)
  | closed (channel : Nat)

/-- The wording of an error. Parts of a path that are missing are told apart by what was wanted. -/
def RedirectionError.message : RedirectionError → String
  | .cannotOpen path cause =>
    "cannot open " ++ path ++ ": " ++ match cause with
      | .notFound | .notFolder => "No such file"
      | _ => cause.words
  | .cannotCreate path cause =>
    "cannot create " ++ path ++ ": " ++ match cause with
      | .notFound | .notFolder => "Directory nonexistent"
      | _ => cause.words
  | .closed channel => toString channel ++ ": Bad file descriptor"

namespace State

def openForReading (s : State) (channel : Nat) (path : String) : Except RedirectionError State :=
  match s.machine.look (pathOf path) with
  | .ok (.file content) => .ok (fromText (widen content))
  | .ok (.program _) => .ok (fromText (widen Machine.programBytes))
  | .ok (.device (.channel n)) =>
    match s.port? n with
    | some port => .ok (s.connect channel port)
    | none => .error (.cannotOpen path .notFound)
  | .ok (.device .terminal) => .error (.cannotOpen path .noDevice)
  | .ok (.device d) => .ok (s.connect channel (.device d))
  | .ok .folder => .ok (fromText [])
  | .error e => .error (.cannotOpen path e)
where
  /-- Lets the channel lead to a text. -/
  fromText (text : List Char) : State :=
    let (n, s) := s.addStream text
    s.connect channel (.stream n)

def openForWriting (s : State) (channel : Nat) (path : String) (keep : Bool) :
    Except RedirectionError State :=
  match s.machine.target (pathOf path) with
  | .error e => .error (.cannotCreate path e)
  | .ok (.inl (.channel n)) =>
    match s.port? n with
    | some port => .ok (s.connect channel port)
    | none => .error (.cannotCreate path .notFound)
  | .ok (.inl .terminal) => .error (.cannotCreate path .noDevice)
  | .ok (.inl d) => .ok (s.connect channel (.device d))
  | .ok (.inr place) =>
    let there := (s.machine.occupant? place).isSome
    let machine := if keep && there then s.machine else s.machine.put place []
    .ok ({ s with machine }.connect channel (.file place))

def follow (s : State) (r : Redirection) (word : String) : Except RedirectionError State :=
  match r.direction with
  | .document =>
    let (n, s) := s.addStream word.toList
    .ok (s.connect r.channel (.stream n))
  | .read => s.openForReading r.channel word
  | .readWrite => do
    let s ← s.openForWriting r.channel word true
    s.openForReading r.channel word
  | .write =>
    match s.options.contains 'C', s.machine.look (pathOf word) with
    | true, .ok (.file _) => .error (.cannotCreate word .exists)
    | _, _ => s.openForWriting r.channel word false
  | .overwrite => s.openForWriting r.channel word false
  | .append => s.openForWriting r.channel word true
  | .duplicate =>
    if word = "-" then .ok (s.disconnect r.channel)
    else
      let n := (natural? word).getD 0
      match s.port? n with
      | some port => .ok (s.connect r.channel port)
      | none => .error (.closed n)

def redirectionWords (s : State) (run : TextRunner) :
    List Redirection → List (Redirection × String) × State
  | [] => ([], s)
  | r :: rest =>
    let (word, s) := s.single run r.target
    if s.stopped then ([], s)
    else if r.direction = .duplicate && word ≠ "-" && !(word.length = 1 && word.toList.all isDigit)
      then ([], s.abort "Syntax error: Bad fd number")
    else
      let (more, s) := s.redirectionWords run rest
      ((r, word) :: more, s)

/-- Does what redirections say, in order. False when one of them fails, or when their words cannot
be filled in. -/
def redirect (s : State) (run : TextRunner) (rs : List Redirection) : Bool × State :=
  let (known, s) := s.redirectionWords run rs
  if s.stopped then (false, s)
  else
    known.foldl (fun (fine, s) (r, word) =>
      if !fine then (false, s)
      else match s.follow r word with
        | .ok s => (true, s)
        | .error e => (false, s.fail 2 e.message)) (true, s)

end State

end Lettermill.Shell
