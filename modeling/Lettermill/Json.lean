import Lettermill.Options
/-! JSON texts, written over several lines with two spaces for each level. Quotes, backslashes and
control characters are escaped, all else stands for itself. -/
namespace Lettermill
set_option autoImplicit false

inductive Json where
  | text (s : String)
  | number (n : Nat)
  | list (values : List Json)
  | object (fields : List (String × Json))

namespace Json

def escape : Char → List Char
  | '"' => ['\\', '"']
  | '\\' => ['\\', '\\']
  | '\x08' => ['\\', 'b']
  | '\x0c' => ['\\', 'f']
  | '\n' => ['\\', 'n']
  | '\x0d' => ['\\', 'r']
  | '\t' => ['\\', 't']
  | c =>
    if c.toNat < 32 then
      let digits := Nat.toDigits 16 c.toNat
      ['\\', 'u'] ++ List.replicate (4 - digits.length) '0' ++ digits
    else [c]

def quote (s : String) : String := "\"" ++ String.ofList (s.toList.flatMap escape) ++ "\""

def newLine (level : Nat) : String := "\n" ++ String.ofList (List.replicate (2 * level) ' ')

/-- Items between brackets, one a line, at the level of the brackets. -/
def enclose (opening closing : String) (level : Nat) (items : List String) : String :=
  if items.isEmpty then opening ++ closing
  else
    let inner := newLine (level + 1)
    opening ++ inner ++ ("," ++ inner).intercalate items ++ newLine level ++ closing

mutual

def write (level : Nat) : Json → String
  | .text s => quote s
  | .number n => toString n
  | .list values => enclose "[" "]" level (writeList (level + 1) values)
  | .object fields => enclose "\x7b" "\x7d" level (writeFields (level + 1) fields)

def writeList (level : Nat) : List Json → List String
  | [] => []
  | v :: rest => write level v :: writeList level rest

def writeFields (level : Nat) : List (String × Json) → List String
  | [] => []
  | (name, v) :: rest => (quote name ++ ": " ++ write level v) :: writeFields level rest

end

def pretty (j : Json) : String := j.write 0

end Json

/-! ## Results -/

/-- A warning as a JSON value; what is not known of it is left out. -/
def Warning.json (w : Warning) : Json :=
  .object ([("message", .text w.message)]
    ++ (w.element.map fun name => ("element", Json.text name)).toList
    ++ (w.line.map fun n => ("line", Json.number n)).toList)

def Conversion.json (c : Conversion) : Json :=
  .object [
    ("output", .text c.output),
    ("kind", .text c.kind.name),
    ("warnings", .list (c.warnings.map Warning.json))]

end Lettermill
