import Lettermill.Settings.Error
import Lettermill.Text.Letters
/-! The meaning of single settings. A truth value may be given as a word or a number, a size as a
word, a truth value or a fraction, a text as a number; all else is refused with the key and the file
of the setting. -/
namespace Lettermill.Settings
set_option autoImplicit false
open Text

namespace Value

def refuse {α : Type} (v : Value) (found : Found) (wanted : Wanted) : Except LoadError α :=
  .error (.wrongType found wanted none v.origin)

/-! ## Truth values -/

def truthOf? : String → Option Bool
  | "true" | "on" | "yes" => some true
  | "false" | "off" | "no" => some false
  | _ => none

/-- A setting that is on or off. A word that means neither is reported in lower case. -/
def asBool (v : Value) : Except LoadError Bool :=
  match v with
  | scalar _ (.boolean b) => .ok b
  | scalar _ (.integer n) => .ok (n != 0)
  | scalar _ (.float x) => .ok (!x.isZero)
  | scalar _ (.text s) =>
    match lowerAll s with
    | "1" => .ok true
    | "0" => .ok false
    | word =>
      match truthOf? word with
      | some b => .ok b
      | none => v.refuse (.scalar (.text word)) .boolean
  | _ => v.refuse v.found .boolean

/-! ## Sizes -/

def maxSize : Nat := 18446744073709551615

/-- The size that a text of digits denotes, with a plus in front or without. -/
def digitsSize? (s : String) : Option Nat :=
  let digits := match s.toList with
    | '+' :: rest => rest
    | cs => cs
  if digits.isEmpty ∨ ¬ digits.all isDigit then none
  else
    let n := Toml.number digits
    if n ≤ maxSize then some n else none

def asSize (v : Value) : Except LoadError Nat :=
  match v with
  | scalar _ (.boolean b) => .ok b.toNat
  | scalar _ (.integer n) => if n < 0 then v.refuse v.found .unsigned else .ok n.toNat
  | scalar _ (.float x) => .ok (x.toNatUpTo maxSize)
  | scalar _ (.text s) =>
    match truthOf? (lowerAll s), digitsSize? s with
    | some b, _ => .ok b.toNat
    | none, some n => .ok n
    | none, none => v.refuse v.found .integer
  | _ => v.refuse v.found .integer

/-! ## Texts -/

def asText (v : Value) : Except LoadError String :=
  match v with
  | scalar _ (.text s) => .ok s
  | scalar _ (.boolean b) => .ok (toString b)
  | scalar _ (.integer n) => .ok (toString n)
  | scalar _ (.float x) => .ok x.text
  | _ => v.refuse v.found .text

def asText? (v : Value) : Except LoadError (Option String) :=
  match v with
  | scalar _ .null => .ok none
  | _ => v.asText.map some

/-! ## Groups -/

def asMap {α : Type} (read : Value → Except LoadError α) (v : Value) :
    Except LoadError (Dict α) :=
  match v with
  | table _ entries => do
    let read ← entries.mapM fun (key, v) => do
      return (key, ← (read v).mapError (·.under key))
    return Dict.ofList read
  | _ => .error (.wrongShape v.found .map)

end Value

/-- A group of settings whose fields can be asked for. -/
structure Group where
  shape : Shape
  /-- The value of a field and the key that it has in the group. -/
  field? : String → Option (String × Value)
  /-- The failure when a field is not there. -/
  absent : String → LoadError

namespace Group

/-- The fields of a group, from a table by name or from a list in order. -/
def ofValue (title : String) (names : List String) (v : Value) : Except LoadError Group :=
  let shape := Shape.fields title names.length
  match v with
  | .table _ entries =>
    .ok { shape, field? := fun name => (Dict.find name entries).map fun v => (name, v)
          absent := .missing }
  | .list _ values =>
    .ok { shape
          field? := fun name =>
            let index := names.idxOf name
            values[index]?.map fun v => ("[" ++ toString index ++ "]", v)
          absent := fun _ => .tooShort values.length shape }
  | .scalar _ _ => .error (.wrongShape v.found shape)

def read? {α : Type} (g : Group) (name : String) (read : Value → Except LoadError α) :
    Except LoadError (Option α) :=
  match g.field? name with
  | none => .ok none
  | some (key, v) => ((read v).mapError (·.under key)).map some

def need {α : Type} (g : Group) (name : String) : Option α → Except LoadError α
  | some a => .ok a
  | none => .error (g.absent name)

end Group

end Lettermill.Settings
