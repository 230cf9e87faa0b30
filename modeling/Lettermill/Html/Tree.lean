import Lettermill.Document.Basic
import Lettermill.Html.Doctype
import Lettermill.Html.Expansion
/-! The finished tree of an HTML text, and the document that is kept of it. Reading HTML always
yields the full skeleton of `html`, `head` and `body`; the parts of it that were not written
are dissolved into their children. Declarations and instructions are dropped. -/
namespace Lettermill.Html
set_option autoImplicit false

inductive Tree where
  | element (name : String) (attrs : List (String × String)) (children : List Tree)
  | text (content : String)
  | comment (content : String)
  | doctype (d : Doctype)
  | instruction (target data : String)
  deriving Inhabited

namespace Tree

def isNamed (name : String) : Tree → Bool
  | element own _ _ => own = name
  | _ => false

def children : Tree → List Tree
  | element _ _ children => children
  | _ => []

mutual

/-- The node that is kept of a tree: names in lower case, each attribute once. -/
def toNode? : Tree → Option Node
  | element name attrs children =>
    some (.element (Text.lower name) (Dict.ofList attrs) (toNodes children))
  | text content => some (.text content)
  | comment content => some (.comment content)
  | doctype _ => none
  | instruction _ _ => none

def toNodes : List Tree → List Node
  | [] => []
  | tree :: rest => tree.toNode?.toList ++ toNodes rest

end

/-- The nodes for a child of `html` that was not written: a `head` or `body` that was not written
either gives its children. -/
def dissolvePart (written : Written) (part : Tree) : List Node :=
  if (part.isNamed "head" && !written.head) || (part.isNamed "body" && !written.body) then
    toNodes part.children
  else part.toNode?.toList

def dissolve (written : Written) (tree : Tree) : List Node :=
  if written.html || !tree.isNamed "html" then tree.toNode?.toList
  else tree.children.flatMap (dissolvePart written)

end Tree

/-- The document kept of the children of a whole text. -/
def toDocument (written : Written) (trees : List Tree) : Document :=
  ⟨trees.flatMap (Tree.dissolve written)⟩

end Lettermill.Html
