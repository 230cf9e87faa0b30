import Lettermill.Html.ElementSet
import Lettermill.Html.Token
/-! The state of reading HTML: the document under construction, the stack of open elements, the
formatting elements that are reopened when something closed them out of turn, and where in the
document the reader is. The steps below are the moves from which the rules are put together. -/
namespace Lettermill.Html
set_option autoImplicit false

inductive Mode where
  | initial
  | beforeHtml
  | beforeHead
  | inHead
  | afterHead
  | inBody
  | inText
  | inTable
  | inTableText
  | inCaption
  | inColumnGroup
  | inTableBody
  | inRow
  | inCell
  | inSelect
  | inSelectInTable
  | inTemplate
  | afterBody
  | inFrameset
  | afterFrameset
  | afterAfterBody
  | afterAfterFrameset
  deriving DecidableEq, Repr, Inhabited

/-- An entry of the list of formatting elements: an element with the tag that made it, or a mark
that the elements before it are not to be reopened. -/
inductive Formatting where
  | marker
  | element (id : PartId) (tag : Tag)
  deriving Inhabited

/-- The state of reading HTML. -/
structure Construction where
  draft : Draft := {}
  mode : Mode := .initial
  /-- The mode to go back to after text or table text. -/
  returnTo : Mode := .initial
  /-- Where the reader is inside each open template, innermost first. -/
  templateModes : List Mode := []
  /-- Text met inside a table and not yet placed. -/
  pending : List Char := []
  /-- Do the layout rules of old browsers hold? -/
  oldRules : Bool := false
  /-- The open elements, innermost first. -/
  stack : List PartId := []
  /-- The formatting elements, latest first. -/
  formatting : List Formatting := []
  head : Option PartId := none
  form : Option PartId := none
  /-- May a frameset still take the place of the body? -/
  framesetOk : Bool := true
  /-- Is a line feed dropped if it comes next? -/
  skipNewline : Bool := false
  /-- Is content put in front of a table instead of into it? -/
  fostering : Bool := false
  /-- How the text that follows is taken apart. -/
  content : Content := .data
  deriving Inhabited

abbrev Build := StateM Construction

/-- A rule for one token: a move, and the tokens that have to be dealt with before the next one of
the text. -/
abbrev Rule := Build (List Token)

namespace Construction

/-! ## Questions -/

def current (s : Construction) : PartId := s.stack.headD Draft.document

def currentName (s : Construction) : ElementName := s.draft.nameOf s.current

def isHtml (s : Construction) (name : String) (id : PartId) : Bool :=
  s.draft.nameOf id = { name }

/-- Is the innermost open element an HTML element with this name? -/
def currentIs (s : Construction) (name : String) : Bool := s.isHtml name s.current

def hasOpen (s : Construction) (name : String) : Bool := s.stack.any (s.isHtml name)

def inScopeWhere (s : Construction) (bound : ElementSet) (wanted : PartId → Bool) : Bool :=
  go s.stack
where
  /-- Looks from the innermost element outwards. -/
  go : List PartId → Bool
    | [] => false
    | id :: rest => wanted id || (!bound (s.draft.nameOf id) && go rest)

def inScope (s : Construction) (bound : ElementSet) (name : String) : Bool :=
  s.inScopeWhere bound (s.isHtml name)

/-- The body, if it is the second open element. -/
def bodyElement? (s : Construction) : Option PartId :=
  match s.stack.reverse with
  | _ :: id :: _ => if s.isHtml "body" id then some id else none
  | _ => none

/-- The formatting elements behind the last marker, latest first. -/
def recentFormatting (s : Construction) : List (PartId × Tag) :=
  go s.formatting
where
  /-- Up to the first marker. -/
  go : List Formatting → List (PartId × Tag)
    | .element id tag :: rest => (id, tag) :: go rest
    | _ => []

def modeFromStack (s : Construction) : Mode :=
  go s.stack
where
  /-- Looks from the innermost element outwards. -/
  go : List PartId → Mode
    | [] => .inBody
    | id :: rest =>
      let name := s.draft.nameOf id
      let last := rest.isEmpty
      if name.vocabulary ≠ .html then go rest
      else match name.name with
        | "select" =>
          match rest.find? fun id => s.isHtml "template" id || s.isHtml "table" id with
          | some id => if s.isHtml "table" id then .inSelectInTable else .inSelect
          | none => .inSelect
        | "td" | "th" => if last then go rest else .inCell
        | "tr" => .inRow
        | "tbody" | "thead" | "tfoot" => .inTableBody
        | "caption" => .inCaption
        | "colgroup" => .inColumnGroup
        | "table" => .inTable
        | "template" => s.templateModes.headD .inTemplate
        | "head" => if last then go rest else .inHead
        | "body" => .inBody
        | "frameset" => .inFrameset
        | "html" => if s.head.isNone then .beforeHead else .afterHead
        | _ => go rest

/-! ## Places -/

inductive Place where
  /-- Behind the children of a part. -/
  | inside (parent : PartId)
  /-- In front of a table, or into the element around it when the table hangs nowhere. -/
  | beforeTable (table around : PartId)

/-- The part that holds what is put into an element: for a template, its content. -/
def holder (s : Construction) (id : PartId) : PartId :=
  if s.isHtml "template" id then ((s.draft.part id).contents).getD id else id

/-- The place in front of the innermost table, unless a template is nearer. -/
def fosterPlace (s : Construction) : List PartId → Place
  | [] => .inside Draft.document
  | id :: rest =>
    if s.isHtml "template" id then .inside (s.holder id)
    else if s.isHtml "table" id then .beforeTable id (rest.headD id)
    else if rest.isEmpty then .inside id
    else s.fosterPlace rest

def placeFor (s : Construction) (target : PartId) : Place :=
  if s.fostering && ElementSet.fosters (s.draft.nameOf target) then s.fosterPlace s.stack
  else .inside (s.holder target)

end Construction

/-! ## Moves -/

namespace Build
open Construction

def onDraft (change : Draft → Draft) : Build Unit :=
  modify fun s => { s with draft := change s.draft }

def goTo (mode : Mode) : Build Unit := modify fun s => { s with mode }

def done : Rule := pure []

/-- The token again, in another mode. -/
def again (mode : Mode) (t : Token) : Rule := do goTo mode; return [t]

/-- From here on a frameset cannot take the place of the body. -/
def noFrameset : Build Unit := modify fun s => { s with framesetOk := false }

def placePart (target id : PartId) : Build Unit :=
  modify fun s =>
    match s.placeFor target with
    | .inside parent => { s with draft := s.draft.append parent id }
    | .beforeTable table around =>
      match (s.draft.part table).parent with
      | some parent => { s with draft := s.draft.insertBefore parent table id }
      | none => { s with draft := s.draft.append around id }

def addText (text : List Char) : Build Unit :=
  modify fun s =>
    if text.isEmpty then s
    else
      let text := String.ofList text
      match s.placeFor s.current with
      | .inside parent => { s with draft := s.draft.appendText parent text }
      | .beforeTable table around =>
        match (s.draft.part table).parent with
        | some parent => { s with draft := s.draft.insertTextBefore parent table text }
        | none => { s with draft := s.draft.appendText around text }

def makePart (matter : Matter) : Build PartId := do
  let s ← get
  let (id, draft) := s.draft.make matter
  set { s with draft }
  return id

def makeElement (name : ElementName) (attrs : List (String × String)) : Build PartId := do
  let s ← get
  let (id, draft) := s.draft.makeElement name attrs
  set { s with draft }
  return id

/-- Opens an element: it becomes the innermost one. -/
def push (id : PartId) : Build Unit := modify fun s => { s with stack := id :: s.stack }

def pop : Build Unit := modify fun s => { s with stack := s.stack.drop 1 }

/-- Puts an element of any vocabulary in place; `opened` says whether it stays open. -/
def insertNamed (name : ElementName) (attrs : List (String × String)) (opened : Bool) :
    Build PartId := do
  let id ← makeElement name attrs
  placePart (← get).current id
  if opened then push id
  return id

/-- Puts the element of a start tag in place and leaves it open. -/
def insert (tag : Tag) : Build PartId := insertNamed { name := tag.name } tag.attrs true

/-- Puts the element of a start tag in place; it has no content. -/
def insertVoid (tag : Tag) : Build PartId := insertNamed { name := tag.name } tag.attrs false

/-- Puts an element in place that no tag stands for. -/
def insertImplied (name : String) : Build PartId := insertNamed { name } [] true

def addComment (text : List Char) : Rule := do
  let id ← makePart (.comment (String.ofList text))
  placePart (← get).current id
  done

def addCommentTo (parent : PartId) (text : List Char) : Rule := do
  let id ← makePart (.comment (String.ofList text))
  onDraft fun d => d.append parent id
  done

/-- Closes elements up to and including the first that satisfies `last`. -/
def popThrough (last : Construction → PartId → Bool) : Build Unit :=
  modify fun s => { s with stack := (s.stack.dropWhile fun id => !last s id).drop 1 }

def popNamed (name : String) : Build Unit := popThrough fun s id => s.isHtml name id

def popTo (bound : ElementSet) : Build Unit :=
  modify fun s => { s with stack := s.stack.dropWhile fun id => !bound (s.draft.nameOf id) }

def closeImplied (implied : ElementSet) : Build Unit :=
  modify fun s => { s with stack := s.stack.dropWhile fun id => implied (s.draft.nameOf id) }

def removeOpen (id : PartId) : Build Unit :=
  modify fun s => { s with stack := s.stack.erase id }

def closeParagraph : Build Unit := do
  closeImplied (ElementSet.impliedBut "p")
  popNamed "p"

def endParagraph : Build Unit := do
  if (← get).inScope ElementSet.buttonScope "p" then closeParagraph

def resetMode : Build Unit := modify fun s => { s with mode := s.modeFromStack }

/-- Starts an element whose text is taken apart in its own way. -/
def startText (tag : Tag) (content : Content) : Rule := do
  let _ ← insert tag
  modify fun s => { s with content, returnTo := s.mode, mode := .inText }
  done

def startEscapable (tag : Tag) : Rule := startText tag (.escapable tag.name.toList)

def startRaw (tag : Tag) : Rule := startText tag (.raw tag.name.toList)

/-- Blank text apart from other text: the first run of a text, and the rest of it. -/
def splitRun (text : List Char) : List Char × Bool × List Char :=
  let blank := (text.head?.map Text.isAsciiBlank).getD true
  let run := text.takeWhile fun c => Text.isAsciiBlank c == blank
  (run, blank, text.drop run.length)

/-- Deals with text run by run: blank runs by one rule, others by another. -/
def byRuns (text : List Char) (onBlank onOther : List Char → Rule) : Rule := do
  let (run, blank, rest) := splitRun text
  let tokens ← if blank then onBlank run else onOther run
  return if rest.isEmpty then tokens else tokens ++ [.text rest]

def keepText (text : List Char) : Rule := do addText text; done

end Build

end Lettermill.Html
