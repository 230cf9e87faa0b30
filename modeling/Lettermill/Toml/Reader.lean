import Lettermill.Toml.Quote
import Lettermill.Toml.Table
/-! Reading TOML documents: bindings and headers, one a line, with values that may go on over
several lines between brackets. Values and paths are read to a depth of less than eighty. -/
namespace Lettermill.Toml
set_option autoImplicit false
open Text

/-- No path has as many keys as this, and no value is nested as deep. -/
def depthLimit : Nat := 80

/-! ## Blanks -/

/-- What follows a comment, or no comment. None when the comment holds a control character. -/
def skipComment : List Char → Option (List Char)
  | '#' :: rest =>
    let after := rest.dropWhile isPlain
    match after, lineEnd? after with
    | [], _ => some []
    | _, some _ => some after
    | _, none => none
  | cs => some cs

/-- What follows the end of a line, with a comment in front of it or none. -/
def finishLine (cs : List Char) : Option (List Char) := do
  match ← skipComment (skipSpace cs) with
  | [] => some []
  | rest => lineEnd? rest

/-- Without the blanks, line ends and comments in front; `fuel` bounds their number. -/
def skipLines : Nat → List Char → Option (List Char)
  | 0, cs => some cs
  | fuel + 1, cs =>
    match skipBlank cs with
    | '#' :: rest => do
      match ← skipComment ('#' :: rest) with
      | [] => some []
      | after => skipLines fuel (← lineEnd? after)
    | rest => some rest

/-! ## Values -/

abbrev ValueReader := List Char → Option (Value × List Char)

def isPiece (c : Char) : Bool := isAlphanumeric c || ['+', '-', '_', '.', ':'].contains c

/-- A value that is written in one piece; a date may be followed by a space and a time. -/
def piece? : ValueReader := fun cs =>
  let front := cs.takeWhile isPiece
  let rest := cs.drop front.length
  match date? front, rest with
  | some (_, []), ' ' :: c :: _ =>
    if isDigit c then
      let more := (rest.drop 1).takeWhile isPiece
      (plain? (front ++ ' ' :: more)).map fun v => (v, rest.drop (more.length + 1))
    else (plain? front).map fun v => (v, rest)
  | _, _ => (plain? front).map fun v => (v, rest)

/-- The rest of a list, from where a value or the closing bracket is due. -/
def elements? (value : ValueReader) : Nat → List Char → Option (List Value × List Char)
  | 0, _ => none
  | fuel + 1, cs => do
    match ← skipLines cs.length cs with
    | ']' :: rest => some ([], rest)
    | cs =>
      let (v, rest) ← value cs
      match ← skipLines rest.length rest with
      | ']' :: rest => some ([v], rest)
      | ',' :: rest => (elements? value fuel rest).map fun (vs, after) => (v :: vs, after)
      | _ => none

def binding? (value : ValueReader) (cs : List Char) : Option (Items.Binding × List Char) := do
  let (names, rest) ← keys? (depthLimit - 1) cs
  let rest ← after? ['='] rest
  let (v, rest) ← value (skipSpace rest)
  let key ← names.getLast?
  some ({ path := names.dropLast, key, value := v }, rest)

/-- The bindings of a table between braces, from where a binding is due. -/
def bindings? (value : ValueReader) : Nat → List Char → Option (List Items.Binding × List Char)
  | 0, _ => none
  | fuel + 1, cs => do
    let (b, rest) ← binding? value (skipSpace cs)
    match skipSpace rest with
    | '\x7d' :: rest => some ([b], rest)
    | ',' :: rest => (bindings? value fuel rest).map fun (bs, after) => (b :: bs, after)
    | _ => none

/-- A table between braces, from behind the first of them. -/
def braced? (value : ValueReader) (cs : List Char) : Option (Value × List Char) :=
  match skipSpace cs with
  | '\x7d' :: rest => some (.table [], rest)
  | cs => do
    let (bs, rest) ← bindings? value (cs.length + 1) cs
    let items ← Items.bindAll [] bs
    some (.table (finishItems items), rest)

/-- A value at the front, nested at most as deep as `depth` allows. -/
def value? : Nat → ValueReader
  | 0, _ => none
  | depth + 1, cs =>
    match cs with
    | '[' :: rest =>
      if depth = 0 then none
      else (elements? (value? depth) (rest.length + 1) rest).map fun (vs, after) =>
        (.list vs, after)
    | '\x7b' :: rest => if depth = 0 then none else braced? (value? depth) rest
    | c :: _ =>
      if c = '"' ∨ c = '\'' then (text? cs).map fun (s, after) => (.text s, after) else piece? cs
    | [] => none

/-! ## Tables that stand for moments -/

/-- The key that marks a table as standing for a moment, when it is the first. -/
def momentKey : String := "$__toml_private_datetime"

def Value.asMoment? : Value → Option Value
  | .text s => (Moment.readLoose? s.toList).map .moment
  | _ => none

mutual

/-- A value with the moments put in place of the tables that stand for them. -/
def Value.settle? : Value → Option Value
  | .table entries =>
    match entries.head? with
    | none => some (.table [])
    | some (key, v) =>
      if key = momentKey then v.asMoment? else (settleEntries? entries).map .table
  | .list values => (settleValues? values).map .list
  | v => some v

def settleValues? : List Value → Option (List Value)
  | [] => some []
  | v :: rest => do return (← v.settle?) :: (← settleValues? rest)

def settleEntries? : List (String × Value) → Option (List (String × Value))
  | [] => some []
  | (key, v) :: rest => do return (key, ← v.settle?) :: (← settleEntries? rest)

end

/-! ## Documents -/

inductive Line where
  | binding (b : Items.Binding)
  | header (path : List String) (key : String) (listed : Bool)

/-- A header from behind its bracket or brackets, up to the end of its line. -/
def header? (listed : Bool) (cs : List Char) : Option (Line × List Char) := do
  let (names, rest) ← keys? (depthLimit - 1) cs
  let rest ← after? (if listed then [']', ']'] else [']']) rest
  let rest ← finishLine rest
  let key ← names.getLast?
  some (.header names.dropLast key listed, rest)

/-- The lines of a document; `fuel` bounds their number. -/
def lines? : Nat → List Char → Option (List Line)
  | 0, _ => none
  | fuel + 1, cs => do
    match ← skipLines cs.length cs with
    | [] => some []
    | cs =>
      let (line, rest) ← match cs with
        | '[' :: '[' :: rest => header? true rest
        | '[' :: rest => header? false rest
        | cs => do
          let (b, rest) ← binding? (value? depthLimit) cs
          some (Line.binding b, ← finishLine rest)
      (lines? fuel rest).map (line :: ·)

/-- The bindings in front of the first header, and the sections. -/
def sectionsOf : List Line → List Items.Binding × List Items.Section
  | [] => ([], [])
  | line :: rest =>
    let (front, sections) := sectionsOf rest
    match line with
    | .binding b => (b :: front, sections)
    | .header path key listed => ([], { path, key, listed, bindings := front } :: sections)

/-- The entries of a document. None when it is not valid. -/
def read? (source : String) : Option (List (String × Value)) := do
  let cs := source.toList
  let cs := (after? ['\ufeff'] cs).getD cs
  let (front, sections) := sectionsOf (← lines? (cs.length + 1) cs)
  let items ← Items.bindAll [] front
  match ← (Value.table (finishItems (← Items.addAll items sections))).settle? with
  | .table entries => some entries
  | _ => none

end Lettermill.Toml
