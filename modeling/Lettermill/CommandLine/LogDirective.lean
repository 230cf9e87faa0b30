import Lettermill.Text.Alphanumeric
import Lettermill.Text.Blank
import Lettermill.Text.Utf8
import Lettermill.Toml.Moment
/-! The directives of a log filter. A directive is a level alone, the beginning of the names of
sources, or a source with a level behind `=`. Behind the source there may be, between square
brackets, the name of a span of work, and between braces a part that entries have to have, with a
value or without. Whoever names no level wants all. -/
namespace Lettermill.CommandLine
set_option autoImplicit false
open Text

/-- How much is shown: entries up to a level of detail. -/
inductive Level where
  | off
  | error
  | warn
  | info
  | debug
  | trace
  deriving DecidableEq, Repr

namespace Level

def rank : Level → Nat
  | off => 0
  | error => 1
  | warn => 2
  | info => 3
  | debug => 4
  | trace => 5

def ofRank? : Nat → Option Level
  | 0 => some off
  | 1 => some error
  | 2 => some warn
  | 3 => some info
  | 4 => some debug
  | 5 => some trace
  | _ => none

/-- The number that digits denote, with a plus in front or without. -/
def digits? (cs : List Char) : Option Nat :=
  let digits := match cs with
    | '+' :: rest => rest
    | _ => cs
  if digits.isEmpty ∨ ¬ digits.all isDigit then none else some (Toml.number digits)

def ofName? (name : List Char) : Option Level :=
  match digits? name with
  | some n => ofRank? n
  | none =>
    match String.ofList (lowerChars name) with
    | "off" => some off
    | "error" | "" => some error
    | "warn" => some warn
    | "info" => some info
    | "debug" => some debug
    | "trace" => some trace
    | _ => none

def asked? : List Char → Option Level
  | [] => some trace
  | name => ofName? name

end Level

structure Condition where
  name : String
  /-- Does the part have to have a certain value? -/
  valued : Bool
  deriving DecidableEq, Repr

def Condition.ofText (cs : List Char) : Condition :=
  match cutOnce? '=' cs with
  | some (name, _) => ⟨String.ofList name, true⟩
  | none => ⟨String.ofList cs, false⟩

structure Directive where
  /-- What the names of its sources start with. -/
  source : Option String
  /-- The span of work in which entries have to arise. -/
  span : Option String
  conditions : List Condition
  level : Level
  deriving DecidableEq, Repr

namespace Directive

def isTimeless (d : Directive) : Bool :=
  d.span.isNone && d.conditions.all fun condition => !condition.valued

def holds (d : Directive) (source : String) (parts : List String) : Bool :=
  (match d.source with
    | some front => front.toList.isPrefixOf source.toList
    | none => true)
  && d.conditions.all fun condition => parts.contains condition.name

/-! ## Reading -/

/-- Where the reading of a directive is, with the offset at which the part being read starts. -/
inductive Place where
  | start
  | name (start : Nat)
  | span (start : Nat)
  | condition (start : Nat)
  /-- Behind the conditions. -/
  | conditions
  /-- Behind the square brackets. -/
  | bound
  | level (start : Nat)
  deriving DecidableEq, Repr

def startsDirective (c : Char) : Bool :=
  isAnyAlphanumeric c || c == '-' || c == ':' || c == '_'

def slice? (bs : Bytes) (start stop : Nat) : Option (List Char) :=
  ((decode ((bs.take stop).drop start)).toOption).map String.toList

/-- Reads the character at an offset. Parts are cut from `bs`. -/
def step? (bs : Bytes) (offset : Nat) (c : Char) :
    Place → Directive → Option (Place × Directive)
  | .start, d =>
    if c = '[' then some (.span (offset + 1), d)
    else if startsDirective c then some (.name offset, d)
    else none
  | .name start, d =>
    if c = '=' then do
      let name ← slice? bs start offset
      some (.level (offset + 1), { d with source := some (String.ofList name) })
    else if c = '[' then do
      let name ← slice? bs start offset
      some (.span (offset + 1), { d with source := some (String.ofList name) })
    else some (.name start, d)
  | .span start, d =>
    if c = ']' then do
      let name ← slice? bs start offset
      some (.bound, { d with span := some (String.ofList name) })
    else if c = '\x7b' then do
      let name ← slice? bs start offset
      let span := if name.isEmpty then none else some (String.ofList name)
      some (.condition (offset + 1), { d with span })
    else some (.span start, d)
  | .condition start, d =>
    if c = '\x7d' then do
      let text ← slice? bs start offset
      if text.isEmpty then none
      else some (.conditions, { d with conditions := d.conditions ++ [.ofText text] })
    else some (.condition start, d)
  | .conditions, d => if c = ']' then some (.bound, d) else none
  | .bound, d => if c = '=' then some (.level (offset + 1), d) else none
  | .level start, d => some (.level start, d)

def steps? (bs : Bytes) (offset : Nat) : List Char → Place → Directive → Option (Place × Directive)
  | [], place, d => some (place, d)
  | c :: cs, place, d => do
    let (place, d) ← step? bs offset c place d
    steps? bs (offset + c.utf8Size) cs place d

def finish? (bs : Bytes) (d : Directive) : Place → Option Directive
  | .name start => do
    let name ← slice? bs start bs.length
    match Level.ofName? name with
    | some level => some { d with level }
    | none => some { d with source := some (String.ofList name) }
  | .level start => do
    let name ← slice? bs start bs.length
    (Level.asked? name).map fun level => { d with level }
  | .bound => some d
  | _ => none

/-- Reads a directive. Blanks around it are passed over, but its parts are cut from the whole text,
at the offsets that they have without the blanks. -/
def read? (cs : List Char) : Option Directive := do
  let bs := bytesOf (String.ofList cs)
  let (place, d) ← steps? bs 0 (trimChars cs) .start ⟨none, none, [], .trace⟩
  finish? bs d place

end Directive

end Lettermill.CommandLine
