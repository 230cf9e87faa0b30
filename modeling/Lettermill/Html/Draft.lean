import Lettermill.Html.Tree
/-! A document under construction. Reading HTML moves parts around after they were placed, so parts
are numbered as they are made and each knows its parent and its children; part 0 is the document.
The content of a template hangs below a part of its own, outside the document. -/
namespace Lettermill.Html
set_option autoImplicit false

inductive Vocabulary where
  | html
  | mathml
  | svg
  deriving DecidableEq, Repr, Inhabited

structure ElementName where
  vocabulary : Vocabulary := .html
  name : String
  deriving DecidableEq, Repr, Inhabited

abbrev PartId := Nat

inductive Matter where
  /-- The document, or the content of a template. -/
  | whole
  | element (name : ElementName) (attrs : List (String × String))
  | text (content : String)
  | comment (content : String)
  | doctype (d : Doctype)
  deriving Inhabited

/-- A part: what it is, where it hangs, what hangs from it. -/
structure Part where
  matter : Matter
  parent : Option PartId := none
  children : Array PartId := #[]
  /-- Where the content of a template hangs. -/
  contents : Option PartId := none
  deriving Inhabited

/-- A document under construction. -/
structure Draft where
  parts : Array Part := #[{ matter := .whole }]
  deriving Inhabited

namespace Draft

def document : PartId := 0

def part (d : Draft) (id : PartId) : Part := d.parts.getD id { matter := .whole }

def update (d : Draft) (id : PartId) (change : Part → Part) : Draft :=
  { d with parts := d.parts.modify id change }

/-- The full name of an element; any other part has an empty one. -/
def nameOf (d : Draft) (id : PartId) : ElementName :=
  match (d.part id).matter with
  | .element name _ => name
  | _ => { name := "" }

def attrsOf (d : Draft) (id : PartId) : List (String × String) :=
  match (d.part id).matter with
  | .element _ attrs => attrs
  | _ => []

/-! ## Making and placing parts -/

def make (d : Draft) (matter : Matter) : PartId × Draft :=
  (d.parts.size, { d with parts := d.parts.push { matter } })

/-- Makes an element; a template also gets a part for its content. -/
def makeElement (d : Draft) (name : ElementName) (attrs : List (String × String)) :
    PartId × Draft :=
  let (id, d) := d.make (.element name attrs)
  if name = { name := "template" } then
    let (contents, d) := d.make .whole
    (id, d.update id fun p => { p with contents := some contents })
  else (id, d)

def detach (d : Draft) (id : PartId) : Draft :=
  match (d.part id).parent with
  | none => d
  | some parent =>
    (d.update parent fun p => { p with children := p.children.filter (· != id) }).update id
      fun p => { p with parent := none }

/-- Hangs a part that hangs nowhere behind the children of `parent`. -/
def append (d : Draft) (parent id : PartId) : Draft :=
  (d.update parent fun p => { p with children := p.children.push id }).update id
    fun p => { p with parent := some parent }

def insertBefore (d : Draft) (parent sibling id : PartId) : Draft :=
  let place (children : Array PartId) : Array PartId :=
    children.flatMap fun child => if child = sibling then #[id, child] else #[child]
  ((d.detach id).update parent fun p => { p with children := place p.children }).update id
    fun p => { p with parent := some parent }

/-- Adds to a text. Other parts stay as they are. -/
def extendText (d : Draft) (id : PartId) (more : String) : Draft :=
  d.update id fun p =>
    match p.matter with
    | .text content => { p with matter := .text (content ++ more) }
    | _ => p

def isText (d : Draft) (id : PartId) : Bool :=
  match (d.part id).matter with
  | .text _ => true
  | _ => false

/-- Adds text behind the children of `parent`: to the last of them if it is a text. -/
def appendText (d : Draft) (parent : PartId) (text : String) : Draft :=
  match (d.part parent).children.back? with
  | some last =>
    if d.isText last then d.extendText last text
    else let (id, d) := d.make (.text text); d.append parent id
  | none => let (id, d) := d.make (.text text); d.append parent id

/-- Adds text in front of a child of `parent`: to the child before it if that is a text. -/
def insertTextBefore (d : Draft) (parent sibling : PartId) (text : String) : Draft :=
  let front := (d.part parent).children.toList.takeWhile (· != sibling)
  match front.getLast? with
  | some last =>
    if d.isText last then d.extendText last text
    else let (id, d) := d.make (.text text); d.insertBefore parent sibling id
  | none => let (id, d) := d.make (.text text); d.insertBefore parent sibling id

def moveChildren (d : Draft) (source target : PartId) : Draft :=
  (d.part source).children.foldl (fun d id => (d.detach id).append target id) d

def addMissing (d : Draft) (id : PartId) (attrs : List (String × String)) : Draft :=
  d.update id fun p =>
    match p.matter with
    | .element name own =>
      let missing := attrs.filter fun a => !own.any fun o => o.1 = a.1
      { p with matter := .element name (own ++ missing) }
    | _ => p

/-! ## Reading the tree off -/

/-- The trees that hang from a part, at most `fuel` levels deep. -/
def treesBelow (d : Draft) : Nat → PartId → List Tree
  | 0, _ => []
  | fuel + 1, id =>
    (d.part id).children.toList.filterMap fun child =>
      match (d.part child).matter with
      | .whole => none
      | .element name attrs => some (.element name.name attrs (d.treesBelow fuel child))
      | .text content => some (.text content)
      | .comment content => some (.comment content)
      | .doctype doctype => some (.doctype doctype)

/-- The trees of the document; no path in it is longer than the number of its parts. -/
def trees (d : Draft) : List Tree := d.treesBelow d.parts.size document

end Draft

end Lettermill.Html
