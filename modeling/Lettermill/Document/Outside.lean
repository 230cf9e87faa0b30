import Lettermill.Document.Search
import Lettermill.Text.Blank
/-! What is lost when only one element of a document is kept. Blank text, comments and the document
skeleton do not count, nor do the ancestors of the kept element themselves; the element is
identified by its position, so an equal copy elsewhere is content like any other. -/
namespace Lettermill
set_option autoImplicit false

/-- The elements that only hold a document together. -/
def skeleton : List String := ["html", "head", "body"]

def Node.isSkeleton (node : Node) : Bool := skeleton.any node.isNamed

mutual

/-- Does the node hold content besides the element at `kept`, a position relative to the node?
The empty position is the node itself, and none means that the kept element is elsewhere. -/
def Node.hasContentOutside (kept : Option Path) : Node → Bool
  | .text content => !Text.allBlank content
  | .comment _ => false
  | .element name attributes children =>
    match kept with
    | some [] => false
    | some (i :: path) => contentOutside (some (i, path)) children
    | none =>
      if (Node.element name attributes children).isSkeleton then contentOutside none children
      else true

/-- Do the nodes hold content besides the kept element? `kept` counts from the first of them. -/
def contentOutside (kept : Option (Nat × Path)) : List Node → Bool
  | [] => false
  | node :: rest =>
    match kept with
    | some (0, path) => node.hasContentOutside (some path) || contentOutside none rest
    | some (i + 1, path) => node.hasContentOutside none || contentOutside (some (i, path)) rest
    | none => node.hasContentOutside none || contentOutside none rest

end

/-- Would keeping only the element at `kept` drop anything but blank text and comments? -/
def Document.hasContentOutside (d : Document) : Path → Bool
  | [] => contentOutside none d.nodes
  | i :: path => contentOutside (some (i, path)) d.nodes

end Lettermill
