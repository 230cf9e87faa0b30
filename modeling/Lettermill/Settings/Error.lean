import Lettermill.Settings.Value
import Lettermill.Text.Quoted
/-! Why settings could not be loaded. A value of the wrong type is reported with its key and its
file; a group of settings of the wrong shape is reported without them. -/
namespace Lettermill.Settings
set_option autoImplicit false

inductive Wanted where
  | boolean
  | integer
  | unsigned
  | text
  deriving DecidableEq, Repr

def Wanted.describe : Wanted → String
  | .boolean => "a boolean"
  | .integer => "an integer"
  | .unsigned => "an unsigned 64 bit or less integer"
  | .text => "a string"

inductive Shape where
  | map
  /-- The fields of a group with a title, by name or in order. -/
  | fields (title : String) (count : Nat)
  deriving DecidableEq, Repr

def Shape.describe : Shape → String
  | .map => "a map"
  | .fields title _ => "struct " ++ title

inductive Found where
  | scalar (s : Scalar)
  | list
  | table
  deriving DecidableEq, Repr

def Value.found : Value → Found
  | .scalar _ s => .scalar s
  | .list _ _ => .list
  | .table _ _ => .table

def Found.asValue : Found → String
  | .scalar .null => "unit value"
  | .scalar (.boolean b) => "boolean \x60" ++ toString b ++ "\x60"
  | .scalar (.integer n) => "64-bit integer \x60" ++ toString n ++ "\x60"
  | .scalar (.float x) => "floating point \x60" ++ x.text ++ "\x60"
  | .scalar (.text s) => "string " ++ Text.quoted s
  | .list => "sequence"
  | .table => "map"

def Found.asGroup : Found → String
  | .scalar (.integer n) => "integer \x60" ++ toString n ++ "\x60"
  | .scalar (.float x) => "floating point \x60" ++ x.textWithPoint ++ "\x60"
  | found => found.asValue

inductive LoadError where
  /-- A value of the wrong type, with its key and its file where they are known. -/
  | wrongType (found : Found) (wanted : Wanted) (key file : Option String)
  | wrongShape (found : Found) (wanted : Shape)
  /-- A group that was given as a list without a value for a field. -/
  | tooShort (length : Nat) (wanted : Shape)
  | missing (field : String)
  /-- The key of an override is no path. -/
  | badKey
  /-- A file is not a valid document. -/
  | badFile
  | noFile (path : String)
  /-- The bytes of a file are no text. -/
  | notText
  deriving DecidableEq, Repr

def LoadError.message : LoadError → String
  | .wrongType found wanted key file =>
    let place := match key with
      | some key => " for key \x60" ++ key ++ "\x60"
      | none => ""
    let source := match file with
      | some file => " in " ++ file
      | none => ""
    "invalid type: " ++ found.asValue ++ ", expected " ++ wanted.describe ++ place ++ source
  | .wrongShape found wanted =>
    "invalid type: " ++ found.asGroup ++ ", expected " ++ wanted.describe
  | .tooShort length wanted =>
    let elements := match wanted with
      | .fields _ count => " with " ++ toString count ++ " elements"
      | .map => ""
    "invalid length " ++ toString length ++ ", expected " ++ wanted.describe ++ elements
  | .missing field => "missing field \x60" ++ field ++ "\x60"
  | .badKey => "the key of an override is not a path"
  | .badFile => "the file is not a valid document"
  | .noFile path => "configuration file \"" ++ path ++ "\" not found"
  | .notText => "stream did not contain valid UTF-8"

/-- The key of a part behind the key of what it is a part of. Places in a list follow directly. -/
def joinKey (key : String) (part : Option String) : String :=
  match part with
  | none => key
  | some part => if part.front? = some '[' then key ++ part else key ++ "." ++ part

def LoadError.under (key : String) : LoadError → LoadError
  | .wrongType found wanted part file => .wrongType found wanted (some (joinKey key part)) file
  | e => e

end Lettermill.Settings
