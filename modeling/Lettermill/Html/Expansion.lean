import Lettermill.Text.Blank
import Lettermill.Text.Word
/-! Self-closing component tags in source text. HTML ignores the slash of a tag such as
`<mj-image />`, so its siblings would fall into it; each such tag is written out as a start tag and
an end tag before reading. Comments, scripts and styles are opaque: they are left alone here, and
nothing in them counts when asking which skeleton tags the source spells out. -/
namespace Lettermill.Html
set_option autoImplicit false
open Text

/-! ## Opaque spans -/

/-- Lower case for matching tag names: besides the ASCII capitals, the long s and the kelvin sign
are letters of the ASCII range in another form. -/
def foldChar (c : Char) : Char :=
  if c = 'ſ' then 's' else if c = '\u212a' then 'k' else lowerChar c

/-- What follows `piece`, given in lower case, up to the form of its letters. -/
def afterFolded? : List Char → List Char → Option (List Char)
  | [], cs => some cs
  | _ :: _, [] => none
  | p :: ps, c :: cs => if p = foldChar c then afterFolded? ps cs else none

/-- Cuts behind the first place where `close?` finds an end; without one, at the end of the text. -/
def through (close? : List Char → Option (List Char × List Char)) :
    List Char → List Char × List Char
  | [] => ([], [])
  | c :: cs =>
    match close? (c :: cs) with
    | some found => found
    | none => let (front, rest) := through close? cs; (c :: front, rest)

def commentEnd? : List Char → Option (List Char × List Char)
  | '-' :: '-' :: '>' :: rest => some (['-', '-', '>'], rest)
  | _ => none

/-- The end tag of a raw element: blanks may stand in front of its closing bracket. -/
def rawEnd? (name : List Char) (cs : List Char) : Option (List Char × List Char) :=
  match afterFolded? ('<' :: '/' :: name) cs with
  | none => none
  | some rest =>
    match rest.dropWhile isBlank with
    | '>' :: after =>
      some (cs.take (name.length + 2) ++ rest.takeWhile isBlank ++ ['>'], after)
    | _ => none

/-- A raw element at the front: its start tag, and all up to its end tag. -/
def rawSpan? (name : List Char) (cs : List Char) : Option (List Char × List Char) :=
  match afterFolded? ('<' :: name) cs with
  | none => none
  | some rest =>
    if wordEnds rest then
      match cutOnce? '>' rest with
      | none => none
      | some (inTag, body) =>
        let (content, after) := through (rawEnd? name) body
        some (cs.take (name.length + 1) ++ inTag ++ '>' :: content, after)
    else none

def commentSpan? (cs : List Char) : Option (List Char × List Char) :=
  match after? "<!--".toList cs with
  | none => none
  | some rest =>
    let (content, after) := through commentEnd? rest
    some ("<!--".toList ++ content, after)

/-- The opaque span at the front, if there is one: a comment, a script or a style. -/
def opaqueSpan? (cs : List Char) : Option (List Char × List Char) :=
  (commentSpan? cs).or ((rawSpan? "script".toList cs).or (rawSpan? "style".toList cs))

/-! ## Component tags -/

def isComponentChar (c : Char) : Bool :=
  let f := foldChar c
  ('a' ≤ f && f ≤ 'z') || isDigit f || f == '-'

def componentName? (cs : List Char) : Option (List Char × List Char) :=
  match afterFolded? "mjml".toList cs with
  | some rest => some (cs.take 4, rest)
  | none =>
    match afterFolded? "mj-".toList cs with
    | none => none
    | some rest =>
      match rest.takeWhile isComponentChar with
      | [] => none
      | more => some (cs.take 3 ++ more, rest.dropWhile isComponentChar)

def isNameChar (c : Char) : Bool :=
  !(isBlank c || c == '"' || c == '\'' || c == '>' || c == '/' || c == '=')

def isBareChar (c : Char) : Bool :=
  !(isBlank c || c == '"' || c == '\'' || c == '=' || c == '<' || c == '>' || c == '\x60')

/-- A piece of a tag: its text, whether it could do without its last character, a slash, and what
follows. -/
structure TagPiece where
  text : List Char
  spare : Bool
  rest : List Char

def tagValue? (cs : List Char) : Option TagPiece :=
  match cs with
  | '"' :: more =>
    (cutOnce? '"' more).map fun (inner, rest) => ⟨'"' :: inner ++ ['"'], false, rest⟩
  | '\'' :: more =>
    (cutOnce? '\'' more).map fun (inner, rest) => ⟨'\'' :: inner ++ ['\''], false, rest⟩
  | _ =>
    match cs.takeWhile isBareChar with
    | [] => none
    | bare => some ⟨bare, 1 < bare.length && bare.getLast? == some '/', cs.dropWhile isBareChar⟩

def tagAssignment? (cs : List Char) : Option TagPiece :=
  match cs.dropWhile isBlank with
  | '=' :: more =>
    (tagValue? (more.dropWhile isBlank)).map fun value =>
      { value with
        text := cs.takeWhile isBlank ++ '=' :: more.takeWhile isBlank ++ value.text }
  | _ => none

/-- An attribute at the front, with the blanks that have to stand before it. -/
def tagAttribute? (cs : List Char) : Option TagPiece :=
  let gap := cs.takeWhile isBlank
  let behind := cs.dropWhile isBlank
  let name := behind.takeWhile isNameChar
  if gap.isEmpty || name.isEmpty then none
  else
    let rest := behind.dropWhile isNameChar
    match tagAssignment? rest with
    | some value => some { value with text := gap ++ name ++ value.text }
    | none => some ⟨gap ++ name, false, rest⟩

def tagAttributes : Nat → List Char → TagPiece
  | 0, cs => ⟨[], false, cs⟩
  | fuel + 1, cs =>
    match tagAttribute? cs with
    | none => ⟨[], false, cs⟩
    | some first =>
      let more := tagAttributes fuel first.rest
      -- Only the last attribute can give up its slash.
      if more.text.isEmpty then first else { more with text := first.text ++ more.text }

/-- The slash and bracket of a tag that closes itself, with blanks in front. -/
def slashEnd? (cs : List Char) : Option (List Char) :=
  match cs.dropWhile isBlank with
  | '/' :: '>' :: rest => some rest
  | _ => none

/-- A component tag that closes itself, at the front: its name, its attributes and what follows. A
slash that was read as the end of a bare value closes the tag when a bracket follows it. -/
def selfClosing? (cs : List Char) : Option (List Char × List Char × List Char) :=
  match cs with
  | '<' :: inner =>
    match componentName? inner with
    | none => none
    | some (name, rest) =>
      let attrs := tagAttributes rest.length rest
      match slashEnd? attrs.rest, attrs.spare, attrs.rest with
      | some after, _, _ => some (name, attrs.text, after)
      | none, true, '>' :: after => some (name, attrs.text.dropLast, after)
      | none, _, _ => none
  | _ => none

/-- A component tag written out: a start tag and an end tag. -/
def writtenOut (name attrs : List Char) : List Char :=
  '<' :: name ++ attrs ++ "></".toList ++ name ++ ['>']

/-! ## Over a whole source -/

/-- The first span of the source and what replaces it, with the rest: an opaque span stays, a
component tag is written out, any other character stays. -/
def expandStep (cs : List Char) : Option (List Char × List Char) :=
  match opaqueSpan? cs with
  | some found => some found
  | none =>
    match selfClosing? cs with
    | some (name, attrs, rest) => some (writtenOut name attrs, rest)
    | none => none

/-- The source with its self-closing component tags written out; `fuel` bounds the characters. -/
def expandWith : Nat → List Char → List Char
  | 0, cs => cs
  | _, [] => []
  | fuel + 1, c :: cs =>
    if c = '<' then
      match expandStep (c :: cs) with
      | some (out, rest) => out ++ expandWith fuel rest
      | none => c :: expandWith fuel cs
    else c :: expandWith fuel cs

def expand (source : String) : String :=
  String.ofList (expandWith source.length source.toList)

def withoutOpaque : Nat → List Char → List Char
  | 0, cs => cs
  | _, [] => []
  | fuel + 1, c :: cs =>
    if c = '<' then
      match opaqueSpan? (c :: cs) with
      | some (_, rest) => withoutOpaque fuel rest
      | none => c :: withoutOpaque fuel cs
    else c :: withoutOpaque fuel cs

/-- Does a start tag called `name` occur, closed, continued by a blank or by a slash? -/
def spellsOut (name : List Char) : List Char → Bool
  | [] => false
  | c :: cs =>
    let here := match afterLetters? ('<' :: name) (c :: cs) with
      | some (next :: _) => isBlank next || next == '>' || next == '/'
      | _ => false
    here || spellsOut name cs

/-- Which tags of the document skeleton were written. -/
structure Written where
  html : Bool
  head : Bool
  body : Bool
  deriving DecidableEq, Repr

def Written.ofSource (source : String) : Written :=
  let cs := withoutOpaque source.length source.toList
  { html := spellsOut "html".toList cs
    head := spellsOut "head".toList cs
    body := spellsOut "body".toList cs }

end Lettermill.Html
