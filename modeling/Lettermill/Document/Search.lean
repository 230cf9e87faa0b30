import Lettermill.Document.Printer
/-! Searching a document by element name. `locate?` stops at the first hit in document order and
says where it is; `elementsNamed` lists all of them, nested ones included. Names are compared up to
the case of ASCII letters. -/
namespace Lettermill
set_option autoImplicit false

mutual

/-- The first element called `name` at or below a node, with its position relative to the node. -/
def Node.locate? (name : String) : Node → Option (Path × Element)
  | .element own attributes children =>
    if Text.sameLetters own name then some ([], ⟨own, attributes, children⟩)
    else locateAmong? name 0 children
  | _ => none

/-- The first element called `name` among nodes, of which the first has index `i`. -/
def locateAmong? (name : String) (i : Nat) : List Node → Option (Path × Element)
  | [] => none
  | node :: rest =>
    match node.locate? name with
    | some (path, e) => some (i :: path, e)
    | none => locateAmong? name (i + 1) rest

end

mutual

/-- Every element called `name` at or below a node, in document order. -/
def Node.elementsNamed (name : String) : Node → List Element
  | .element own attributes children =>
    let below := elementsNamedAll name children
    if Text.sameLetters own name then ⟨own, attributes, children⟩ :: below else below
  | _ => []

def elementsNamedAll (name : String) : List Node → List Element
  | [] => []
  | node :: rest => node.elementsNamed name ++ elementsNamedAll name rest

end

/-- The element itself, if it is called `name`, or else the first one below it that is. -/
def Element.find? (e : Element) (name : String) : Option Element :=
  (e.toNode.locate? name).map Prod.snd

namespace Document

def locate? (d : Document) (name : String) : Option (Path × Element) := locateAmong? name 0 d.nodes

def find? (d : Document) (name : String) : Option Element := (d.locate? name).map Prod.snd

def contains (d : Document) (name : String) : Bool := (d.find? name).isSome

def elementsNamed (d : Document) (name : String) : List Element := elementsNamedAll name d.nodes

def styleBlocks (d : Document) : List String :=
  (d.elementsNamed "style").map Element.textContent

/-- The first top-level node that is an element called `name`. -/
def topLevelNode? (d : Document) (name : String) : Option Node :=
  d.nodes.find? fun node => node.isNamed name

def topLevel? (d : Document) (name : String) : Option Element :=
  (d.topLevelNode? name).bind Node.asElement?

end Document

end Lettermill
