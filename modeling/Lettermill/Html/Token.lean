import Lettermill.Html.Doctype
import Lettermill.Html.Reference
/-! The tokens of HTML text: runs of characters, tags, comments and document type declarations.
Where a token starts and ends depends on what holds it: inside a title references still count but
tags do not, inside a style nothing does, and inside a script comments hide its end tag. `read`
takes one token off the front of a text. -/
namespace Lettermill.Html
set_option autoImplicit false
open Text

/-- A tag: its name in lower case, its attributes in order, and whether it ends in a slash. -/
structure Tag where
  name : String
  attrs : List (String × String) := []
  selfClosing : Bool := false
  deriving DecidableEq, Repr, Inhabited

inductive Token where
  | doctype (d : Doctype)
  | startTag (tag : Tag)
  | endTag (name : String)
  | comment (text : List Char)
  | text (chars : List Char)
  | eof
  deriving Repr, Inhabited

inductive Content where
  /-- Tags and references count. -/
  | data
  /-- References count, and the end tag of this name. -/
  | escapable (name : List Char)
  /-- Only the end tag of this name counts. -/
  | raw (name : List Char)
  /-- As raw text, with comments that can hide the end tag. -/
  | script
  /-- Nothing counts any more. -/
  | plain
  deriving DecidableEq, Repr, Inhabited

def Content.hasReferences : Content → Bool
  | .data | .escapable _ => true
  | .raw _ | .script | .plain => false

namespace Token

/-! ## Tags -/

def endsName (c : Char) : Bool := isAsciiBlank c || c == '/' || c == '>'

/-- A value between quotes, or up to the end of the text. -/
def quotedValue (quote : Char) (cs : List Char) : List Char × List Char :=
  (cs.takeWhile (· != quote), (cs.dropWhile (· != quote)).drop 1)

/-- A value behind an equals sign. None is given when the text ends before the value does. -/
def value? (cs : List Char) : Option (List Char × List Char) :=
  match cs.dropWhile isAsciiBlank with
  | '"' :: rest => if rest.contains '"' then some (quotedValue '"' rest) else none
  | '\'' :: rest => if rest.contains '\'' then some (quotedValue '\'' rest) else none
  | rest =>
    let bare := rest.takeWhile fun c => !isAsciiBlank c && c != '>'
    some (bare, rest.drop bare.length)

/-- The attributes of a tag, from behind its name, up to its closing bracket: the pairs in order,
whether a slash stood right before the bracket, and what follows. None when the text ends first. -/
def attributes? : Nat → List Char → Option (List (String × String) × Bool × List Char)
  | 0, _ => none
  | fuel + 1, cs =>
    match cs.dropWhile isAsciiBlank with
    | [] => none
    | '>' :: rest => some ([], false, rest)
    | '/' :: '>' :: rest => some ([], true, rest)
    | '/' :: rest => attributes? fuel rest
    | c :: rest =>
      let name := c :: rest.takeWhile fun c => !endsName c && c != '='
      let behind := rest.drop (name.length - 1)
      let named := String.ofList (lowerChars name)
      match behind.dropWhile isAsciiBlank with
      | '=' :: more =>
        match value? more with
        | none => none
        | some (value, after) =>
          (attributes? fuel after).map fun (pairs, slash, rest) =>
            ((named, String.ofList (Reference.resolve true value)) :: pairs, slash, rest)
      | after =>
        (attributes? fuel after).map fun (pairs, slash, rest) =>
          ((named, "") :: pairs, slash, rest)

/-- The pairs whose name did not occur before. -/
def firstOfEach : List String → List (String × String) → List (String × String)
  | _, [] => []
  | seen, p :: ps =>
    if seen.contains p.1 then firstOfEach seen ps else p :: firstOfEach (p.1 :: seen) ps

/-- A tag from its name on. None when the text ends first. -/
def tag? (cs : List Char) : Option (Tag × List Char) :=
  let name := cs.takeWhile fun c => !endsName c
  let rest := cs.drop name.length
  (attributes? (rest.length + 1) rest).map fun (pairs, slash, after) =>
    ({ name := String.ofList (lowerChars name)
       attrs := firstOfEach [] pairs
       selfClosing := slash }, after)

/-! ## Comments -/

/-- The text of a comment that is never closed, without the dashes of an unfinished end. -/
def unfinished (text : List Char) : List Char :=
  match text.reverse with
  | '!' :: '-' :: '-' :: rest => rest.reverse
  | '-' :: '-' :: rest => rest.reverse
  | '-' :: rest => rest.reverse
  | _ => text

/-- The text of a comment and what follows; `seen` is what was read of it, reversed. -/
def commentBody (seen : List Char) : List Char → List Char × List Char
  | [] => (unfinished seen.reverse, [])
  | '-' :: '-' :: '>' :: rest => (seen.reverse, rest)
  | '-' :: '-' :: '!' :: '>' :: rest => (seen.reverse, rest)
  | c :: rest => commentBody (c :: seen) rest

/-- A comment from behind its opening: a bracket right there, or behind one dash, closes it. -/
def commentText : List Char → List Char × List Char
  | '>' :: rest => ([], rest)
  | '-' :: '>' :: rest => ([], rest)
  | cs => commentBody [] cs

/-- A comment that is no proper one: all up to the next bracket. -/
def bogusComment (cs : List Char) : Token × List Char :=
  (.comment (cs.takeWhile (· != '>')), (cs.dropWhile (· != '>')).drop 1)

/-! ## Text -/

def startsEndTag (name : List Char) (cs : List Char) : Bool :=
  match afterLetters? ('<' :: '/' :: name) cs with
  | some (c :: _) => endsName c
  | _ => false

/-- The text in front of the end tag `name`, or all of it. -/
def beforeEndTag (name : List Char) : List Char → List Char × List Char
  | [] => ([], [])
  | c :: cs =>
    if c = '<' && startsEndTag name (c :: cs) then ([], c :: cs)
    else let (front, rest) := beforeEndTag name cs; (c :: front, rest)

/-- Where a script stands: in the open, in a comment, or in a script inside a comment. In a comment
the number of dashes just read counts, up to two. -/
inductive ScriptPlace where
  | opened
  | hidden (dashes : Nat)
  | nested (dashes : Nat)

def startsScript (lead : List Char) (cs : List Char) : Bool :=
  match afterLetters? (lead ++ "script".toList) cs with
  | some (c :: _) => endsName c
  | _ => false

/-- The place behind one character of a script, which stands at the front of the text. -/
def ScriptPlace.next (place : ScriptPlace) (cs : List Char) : ScriptPlace :=
  match place, cs with
  | .hidden n, '-' :: _ => .hidden (min (n + 1) 2)
  | .nested n, '-' :: _ => .nested (min (n + 1) 2)
  | .hidden 2, '>' :: _ => .opened
  | .nested 2, '>' :: _ => .opened
  | .hidden _, '<' :: _ => if startsScript ['<'] cs then .nested 0 else .hidden 0
  | .nested _, '<' :: _ => if startsScript ['<', '/'] cs then .hidden 0 else .nested 0
  | .hidden _, _ => .hidden 0
  | .nested _, _ => .nested 0
  | .opened, _ => .opened

def scriptBody (place : ScriptPlace) : List Char → List Char × List Char
  | [] => ([], [])
  | '<' :: '!' :: '-' :: '-' :: cs =>
    let (front, rest) := match place with
      | .opened => scriptBody (.hidden 2) cs
      | .hidden _ => scriptBody (.hidden 2) cs
      | .nested _ => scriptBody (.nested 2) cs
    ('<' :: '!' :: '-' :: '-' :: front, rest)
  | c :: cs =>
    let ends := match place with
      | .nested _ => false
      | _ => c = '<' && startsEndTag "script".toList (c :: cs)
    if ends then ([], c :: cs)
    else let (front, rest) := scriptBody (place.next (c :: cs)) cs; (c :: front, rest)

def startsMarkup : List Char → Bool
  | '!' :: _ => true
  | '?' :: _ => true
  | '/' :: rest => !rest.isEmpty
  | c :: _ => isLetter c
  | [] => false

def beforeMarkup : List Char → List Char × List Char
  | [] => ([], [])
  | c :: cs =>
    if c = '<' && startsMarkup cs then ([], c :: cs)
    else let (front, rest) := beforeMarkup cs; (c :: front, rest)

def sectionBody : List Char → List Char × List Char
  | [] => ([], [])
  | ']' :: ']' :: '>' :: rest => ([], rest)
  | c :: cs => let (front, rest) := sectionBody cs; (c :: front, rest)

/-! ## Tokens -/

/-- A token that starts with `<!`, from behind it; `foreign` says whether character data sections
are known here. -/
def declaration (foreign : Bool) (cs : List Char) : Token × List Char :=
  match after? "--".toList cs with
  | some rest => let (front, after) := commentText rest; (.comment front, after)
  | none =>
    match afterLetters? "doctype".toList cs with
    | some rest => let (d, after) := Doctype.read rest; (.doctype d, after)
    | none =>
      match foreign, after? "[CDATA[".toList cs with
      | true, some rest => let (front, after) := sectionBody rest; (.text front, after)
      | _, _ => bogusComment cs

/-- The token at a `<` that starts markup, from behind it. A tag that the text does not finish gives
none, and neither does an end tag without a name. -/
def markup (foreign : Bool) (cs : List Char) : Option Token × List Char :=
  match cs with
  | '!' :: rest => let (t, after) := declaration foreign rest; (some t, after)
  | '/' :: '>' :: rest => (none, rest)
  | '/' :: c :: rest =>
    if isLetter c then
      match tag? (c :: rest) with
      | some (tag, after) => (some (.endTag tag.name), after)
      | none => (none, [])
    else let (t, after) := bogusComment (c :: rest); (some t, after)
  | '?' :: _ => let (t, after) := bogusComment cs; (some t, after)
  | _ =>
    match tag? cs with
    | some (tag, after) => (some (.startTag tag), after)
    | none => (none, [])

/-- Text, if there is any, and else the markup at the front of `rest`. -/
def textOr (foreign : Bool) (text rest : List Char) : Option Token × List Char :=
  match text, rest with
  | [], '<' :: behind => markup foreign behind
  | _, _ => (some (.text text), rest)

/-- Takes a token off the front of a text that is not empty; markup that comes to nothing gives
none. -/
def read (content : Content) (foreign : Bool) (cs : List Char) : Option Token × List Char :=
  match content with
  | .data =>
    let (front, rest) := beforeMarkup cs
    textOr foreign (Reference.resolve false front) rest
  | .escapable name =>
    let (front, rest) := beforeEndTag name cs
    textOr foreign (Reference.resolve false front) rest
  | .raw name => let (front, rest) := beforeEndTag name cs; textOr foreign front rest
  | .script => let (front, rest) := scriptBody .opened cs; textOr foreign front rest
  | .plain => (some (.text cs), [])

end Token

end Lettermill.Html
