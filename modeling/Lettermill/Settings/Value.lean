import Lettermill.Dict
import Lettermill.Text.LowerCase
import Lettermill.Toml.Value
/-! Values of settings before they are given a meaning. Keys are in lower case throughout. A value
remembers the file that it came from; a table that was merged from several places has no such file.
-/
namespace Lettermill.Settings
set_option autoImplicit false

inductive Scalar where
  | null
  | boolean (b : Bool)
  | integer (n : Int)
  | float (x : Double)
  | text (s : String)
  deriving DecidableEq, Repr, Inhabited

inductive Value where
  | scalar (origin : Option String) (s : Scalar)
  | list (origin : Option String) (values : List Value)
  | table (origin : Option String) (entries : List (String × Value))

namespace Value

instance : Inhabited Value := ⟨scalar none .null⟩

def null : Value := scalar none .null

def emptyTable : Value := table none []

def origin : Value → Option String
  | scalar origin _ => origin
  | list origin _ => origin
  | table origin _ => origin

/-- The entries of a table; any other value has none. -/
def entries : Value → List (String × Value)
  | table _ entries => entries
  | _ => []

/-- The file of a table; what is no table gives way to a table without one. -/
def tableOrigin : Value → Option String
  | table origin _ => origin
  | _ => none

/-- The values of a list; any other value has none. -/
def values : Value → List Value
  | list _ values => values
  | _ => []

/-- The file of a list; what is no list gives way to a list without one. -/
def listOrigin : Value → Option String
  | list origin _ => origin
  | _ => none

/-! ## Changing parts -/

/-- Changes the entry under a key, which starts as `fresh` when there is none. What is no table
gives way to a table. -/
def changeEntry (key : String) (fresh : Value) (change : Value → Value) (v : Value) : Value :=
  let key := Text.lowerAll key
  let old := (Dict.find key v.entries).getD fresh
  table v.tableOrigin (Dict.put key (change old) v.entries)

/-- Changes the value at a place of a list, which grows by nulls until it has that place. Places
below zero count from the end. What is no list gives way to a list. -/
def changePlace (place : Int) (change : Value → Value) (v : Value) : Value :=
  let values := v.values
  let missingFront := if place < 0 then place.natAbs - values.length else 0
  let values := List.replicate missingFront null ++ values
  let index := if place < 0 then values.length - place.natAbs else place.toNat
  let values := values ++ List.replicate (index + 1 - values.length) null
  list v.listOrigin (values.modify index change)

mutual

/-- Lays `upper` over a value: a table is merged entry by entry, anything else replaces. -/
def overlay (upper : Value) (lower : Value) : Value :=
  match upper with
  | table _ entries => overlayEntries entries lower
  | scalar origin s => scalar origin s
  | list origin values => list origin values

def overlayEntries (upper : List (String × Value)) (lower : Value) : Value :=
  match upper with
  | [] => lower
  | (key, v) :: rest =>
    overlayEntries rest (changeEntry key emptyTable (overlay v) lower)

end

/-! ## Values of files -/

mutual

/-- A value read from a file. Keys keep their case until they are laid over other settings. -/
def ofToml (origin : Option String) : Toml.Value → Value
  | .text s => scalar origin (.text s)
  | .integer n => scalar origin (.integer n)
  | .float x => scalar origin (.float x)
  | .boolean b => scalar origin (.boolean b)
  | .moment m => scalar origin (.text m.text)
  | .list values => list origin (ofTomlList origin values)
  | .table entries => table origin (ofTomlEntries origin entries)

def ofTomlList (origin : Option String) : List Toml.Value → List Value
  | [] => []
  | v :: rest => ofToml origin v :: ofTomlList origin rest

def ofTomlEntries (origin : Option String) : List (String × Toml.Value) → List (String × Value)
  | [] => []
  | (key, v) :: rest => (key, ofToml origin v) :: ofTomlEntries origin rest

end

end Value

end Lettermill.Settings
