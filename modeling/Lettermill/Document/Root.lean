import Lettermill.Document.Search
/-! Giving a document one root. A document without a top-level `html` element gets one: around all
its nodes when a `body` was written, and otherwise around an optional `head` and a new `body`.
Loose elements that only make sense in a head move into it. -/
namespace Lettermill
set_option autoImplicit false

/-- The elements that belong into a head wherever they stand. -/
def headOnly : List String := ["title", "style", "meta", "link", "base"]

def Node.isHeadOnly (node : Node) : Bool := headOnly.any node.isNamed

/-- Top-level nodes sorted by where they go: the head that was written, the loose elements that
belong into it, and the content of the body. -/
structure Sorted where
  head : Option Element := none
  loose : List Node := []
  content : List Node := []

namespace Sorted

/-- Sorts one more node, in front of those already sorted. A head further down counts as content
once an earlier one is found. -/
def ofNodes : List Node → Sorted
  | nodes => go false nodes
where
  /-- `found` says whether a head was already met. -/
  go (found : Bool) : List Node → Sorted
    | [] => {}
    | node :: rest =>
      if !found && node.isNamed "head" then
        { go true rest with head := node.asElement? }
      else
        let sorted := go found rest
        if node.isHeadOnly then { sorted with loose := node :: sorted.loose }
        else { sorted with content := node :: sorted.content }

/-- The head with the loose elements appended; a head is made only when there is something to hold.
-/
def headNode? (s : Sorted) : Option Node :=
  match s.loose with
  | [] => s.head.map Element.toNode
  | loose =>
    let head := s.head.getD (Element.named "head")
    some { head with children := head.children ++ loose }.toNode

def bodyNode (s : Sorted) : Node := { Element.named "body" with children := s.content }.toNode

end Sorted

def rootChildren (nodes : List Node) : List Node :=
  if nodes.any (·.isNamed "body") then nodes
  else
    let sorted := Sorted.ofNodes nodes
    sorted.headNode?.toList ++ [sorted.bodyNode]

namespace Document

def hasRoot (d : Document) : Bool := (d.topLevelNode? "html").isSome

/-- The document with a single `html` root; one that has a root already stays as it is. -/
def normalized (d : Document) : Document :=
  if d.hasRoot then d
  else ⟨[{ Element.named "html" with children := rootChildren d.nodes }.toNode]⟩

/-- Gives the document a root: whether that changed it, and the document afterwards. -/
def giveRoot (d : Document) : Bool × Document := (!d.hasRoot, d.normalized)

end Document

end Lettermill
