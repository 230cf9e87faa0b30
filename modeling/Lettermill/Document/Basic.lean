import Lettermill.Dict
import Lettermill.Text.Letters
/-! The document: an ordered forest of elements, texts and comments. Elements are looked at through
`Element`, a record of one element's name, attributes and children; positions are lists of child
indices, counted from the top-level nodes. -/
namespace Lettermill
set_option autoImplicit false

inductive Node where
  | element (name : String) (attributes : Attributes) (children : List Node)
  | text (content : String)
  | comment (content : String)
  deriving Inhabited

/-- An element on its own: its name, its attributes and the nodes inside it. -/
structure Element where
  name : String
  attributes : Attributes := ∅
  children : List Node := []
  deriving Inhabited

structure Document where
  nodes : List Node := []
  deriving Inhabited

/-- A position below a list of nodes: the index to take at each level. -/
abbrev Path := List Nat

namespace Element

/-- A childless element; its name is put in lower case. -/
def named (name : String) : Element := { name := Text.lower name }

def toNode (e : Element) : Node := .element e.name e.attributes e.children

/-- Is the element called `name`, up to the case of ASCII letters? -/
def is (e : Element) (name : String) : Bool := Text.sameLetters e.name name

def attribute? (e : Element) (name : String) : Option String := e.attributes.get? name

end Element

namespace Node

def asElement? : Node → Option Element
  | .element name attributes children => some ⟨name, attributes, children⟩
  | _ => none

def isNamed (node : Node) (name : String) : Bool :=
  match node with
  | .element own _ _ => Text.sameLetters own name
  | _ => false

@[simp] theorem asElement?_toNode (e : Element) : e.toNode.asElement? = some e := rfl

theorem isNamed_toNode (e : Element) (name : String) : e.toNode.isNamed name = e.is name := rfl

end Node

/-! ## Positions -/

/-- The element at a position; every index on the way has to meet an element, and the empty
position means none. -/
def elementAt? (nodes : List Node) : Path → Option Element
  | [] => none
  | [i] => (nodes[i]?).bind Node.asElement?
  | i :: next :: path =>
    match (nodes[i]?).bind Node.asElement? with
    | some e => elementAt? e.children (next :: path)
    | none => none

end Lettermill
