import Lettermill.Settings.Value
import Lettermill.Text.Letters
/-! Paths to settings, such as `convert.wrap-content` or `list[0].name`: a name, then steps to an
entry or to a place in a list. Setting a value along a path makes what is missing on the way. -/
namespace Lettermill.Settings
set_option autoImplicit false
open Text

inductive Step where
  | entry (key : String)
  | place (index : Int)
  deriving DecidableEq, Repr

/-- A path: the name of a setting, and the steps into it. -/
structure KeyPath where
  root : String
  steps : List Step := []
  deriving DecidableEq, Repr

namespace KeyPath

/-! ## Reading -/

def isNameChar (c : Char) : Bool := isAlphanumeric c || c == ' ' || c == '_' || c == '-'

def name? (cs : List Char) : Option (String × List Char) :=
  match cs.takeWhile isNameChar with
  | [] => none
  | name => some (String.ofList name, cs.drop name.length)

def maxPlace : Nat := 9223372036854775807

/-- The place that digits with or without a minus denote, unless it is too large. -/
def place? (cs : List Char) : Option (Int × List Char) :=
  let (negative, rest) := match cs with
    | '-' :: rest => (true, rest)
    | _ => (false, cs)
  match rest.takeWhile isDigit with
  | [] => none
  | digits =>
    let n := Toml.number digits
    let after := rest.drop digits.length
    if negative ∧ n ≤ maxPlace + 1 then some (-(n : Int), after)
    else if n ≤ maxPlace then some ((n : Int), after)
    else none

def skipGap (cs : List Char) : List Char := cs.dropWhile fun c => c == ' ' || c == '\t'

/-- The steps that make up a text; `fuel` bounds their number. -/
def steps? : Nat → List Char → Option (List Step)
  | 0, _ => none
  | _, [] => some []
  | fuel + 1, '.' :: rest => do
    let (key, rest) ← name? rest
    return .entry key :: (← steps? fuel rest)
  | fuel + 1, '[' :: rest => do
    let (index, rest) ← place? (skipGap rest)
    let rest ← after? [']'] (skipGap rest)
    return .place index :: (← steps? fuel rest)
  | _, _ => none

def read? (source : String) : Option KeyPath := do
  let (root, rest) ← name? source.toList
  return { root, steps := ← steps? (rest.length + 1) rest }

/-! ## Setting -/

/-- Sets a value where the steps lead. An entry at the end is overlaid, a place is replaced. -/
def setAlong (new : Value) : List Step → Value → Value
  | [] => fun _ => new
  | [.entry key] => Value.changeEntry key .emptyTable (Value.overlay new)
  | .entry key :: rest => Value.changeEntry key .null (setAlong new rest)
  | .place index :: rest => Value.changePlace index (setAlong new rest)

def set (path : KeyPath) (new : Value) : Value → Value :=
  setAlong new (.entry path.root :: path.steps)

end KeyPath

/-- Lays the entries of a file over settings. A key that is a path of its own is taken as one. -/
def layFile (origin : Option String) (entries : List (String × Toml.Value)) (settings : Value) :
    Value :=
  (Value.ofTomlEntries origin entries).foldl (fun v (key, new) =>
    ((KeyPath.read? key).getD { root := key }).set new v) settings

end Lettermill.Settings
