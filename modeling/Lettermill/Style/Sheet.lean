import Lettermill.Style.ClassStyles
import Lettermill.Style.Css
import Lettermill.Style.Declaration
/-! Style sheets: their rules, and the classes that the rules style. Only rules with a selector that
is a single class contribute; rules that start with an at sign are skipped whole. Any error fails
the whole sheet. -/
namespace Lettermill
set_option autoImplicit false

/-- Where a sheet could not be read, and the text of the rule; lines and columns count from one, and
columns in units of sixteen bits. -/
structure StyleError where
  line : Nat
  column : Nat
  reason : String
  deriving DecidableEq, Repr

def StyleError.message (e : StyleError) : String :=
  "invalid CSS at line " ++ toString e.line ++ ", column " ++ toString e.column ++ ": " ++ e.reason

namespace Css
open Text

/-! ## Places -/

def advance (line column : Nat) : List Char → Nat × Nat
  | [] => (line, column)
  | '\x0d' :: '\n' :: rest => advance (line + 1) 1 rest
  | c :: rest =>
    if isNewline c then advance (line + 1) 1 rest
    else advance line (column + if c.toNat < 0x10000 then 1 else 2) rest

/-- Line and column of the place where `rest` is left of `source`. -/
def placeOf (source rest : List Char) : Nat × Nat :=
  advance 1 1 (source.take (source.length - rest.length))

/-! ## Rules -/

/-- A rule: the text of its selectors, and its declarations as they are written, each a property and
the text behind the colon. -/
structure Rule where
  selectors : List Char
  written : List (List Char × List Char)

def withoutComments : Nat → List Char → List Char
  | 0, cs => cs
  | _, [] => []
  | fuel + 1, c :: cs =>
    match c, cs with
    | '/', '*' :: rest =>
      match before? "*/".toList rest with
      | some (_, ending) => withoutComments fuel (ending.drop 2)
      -- Without an end it is no comment but text, up to the last character.
      | none => c :: cs
    | _, _ => c :: withoutComments fuel cs

/-- A text as it counts: comments removed, trimmed. -/
def plainText (cs : List Char) : List Char := trimChars (withoutComments cs.length cs)

/-- The declaration of a property and the text behind its colon; an empty value is none. -/
def declaration? (property value : List Char) : Option Style.Declaration :=
  match Style.valueOf (plainText value) with
  | [] => none
  | v => some ⟨String.ofList (lowerChars property), String.ofList v⟩

def Rule.declarations (r : Rule) : List Style.Declaration :=
  r.written.filterMap fun (property, value) => declaration? property value

/-- The declarations of a block as they are written, from behind its bracket, or the place of an
error: what is left of the text there. -/
def blockFrom : Nat → List Char → Except (List Char) (List (List Char × List Char))
  | 0, _ => .ok []
  | fuel + 1, cs =>
    let here := skipGaps cs
    match here with
    | [] => .ok []
    | '}' :: _ => .ok []
    | _ =>
      match token? here with
      | some (.semicolon, rest) => blockFrom fuel rest
      | some (.atName _, rest) => .error rest
      | some (.name property, rest) =>
        match skipGaps rest with
        | ':' :: value =>
          let (text, after) := untilStop (fun c => c = ';' || c = '}') value
          (blockFrom fuel after).map fun more => (property, text) :: more
        | [] => .error []
        | c :: more => .error (if c = ';' || c = '}' then c :: more else rest)
      | _ => .error here

/-- The error of a rule: where it is, and the text of the rule up to the end of its block. -/
def ruleError (source start place ending : List Char) : StyleError :=
  let (line, column) := placeOf source place
  let text := trimChars (start.take (start.length - ending.length))
  { line, column, reason := "unexpected input near \x60" ++ String.ofList text ++ "\x60" }

/-- The rules of a sheet; `source` is all of it and `cs` what is left. -/
def rulesFrom (source : List Char) : Nat → List Char → Except StyleError (List Rule)
  | 0, _ => .ok []
  | fuel + 1, cs =>
    let start := skipMarks cs
    match start with
    | [] => .ok []
    | _ =>
      match token? start with
      | some (.atName _, rest) =>
        match (untilStop (fun c => c = ';' || c = '{') rest).2 with
        | [] => .ok []
        | '{' :: inner => rulesFrom source fuel (afterBlock .curly inner)
        | _ :: after => rulesFrom source fuel after
      | _ =>
        let (selectors, rest) := untilStop (· = '{') start
        match rest with
        | [] => .error (ruleError source start [] [])
        | _ :: inner =>
          let ending := afterBlock .curly inner
          match blockFrom (inner.length + 1) inner with
          | .error place => .error (ruleError source start place ending)
          | .ok written =>
            (rulesFrom source fuel ending).map fun more => ⟨plainText selectors, written⟩ :: more

def rules (css : String) : Except StyleError (List Rule) :=
  rulesFrom css.toList (css.length + 1) css.toList

/-! ## Classes -/

def startsClass (c : Char) : Bool := isLetter c || c == '_'

def continuesClass (c : Char) : Bool := startsClass c || isDigit c || c == '-'

/-- Is it the name of a class? A hyphen in front does not count as its start. -/
def isClassName (name : List Char) : Bool :=
  let first := match name with
    | '-' :: c :: _ => startsClass c
    | c :: _ => startsClass c
    | [] => false
  first && name.all continuesClass

/-- The class that a selector names, if it is a single class. -/
def classOf? (selector : List Char) : Option (List Char) :=
  match trimChars selector with
  | '.' :: name => if isClassName name then some name else none
  | _ => none

def Rule.classes (r : Rule) : List String :=
  ((cutAt ',' r.selectors).filterMap classOf?).map String.ofList

end Css

namespace ClassStyles

def addRule (styles : ClassStyles) (r : Css.Rule) : ClassStyles :=
  let attributes := Style.resolveDeclarations r.declarations
  r.classes.foldl (fun styles cls => styles.assign cls attributes) styles

def ofSheet (css : String) : Except StyleError ClassStyles :=
  (Css.rules css).map fun rules => rules.foldl addRule ∅

end ClassStyles

end Lettermill
