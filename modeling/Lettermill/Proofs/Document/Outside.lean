import Lettermill.Document.Outside
import Lettermill.Proofs.Document.Search
/-! What is lost around a kept element, told by its name. When a document has a single element of a
name, whether keeping it loses content can be judged without its position: `lost` lists the content
outside the elements of the name. Main statement: keeping the single element of a name loses content
exactly when that list is not empty. -/
namespace Lettermill
set_option autoImplicit false

mutual

/-- The content of a node outside the elements called `name`; their ancestors and the skeleton of
the document are not content themselves. -/
def Node.lost (name : String) : Node → List Node
  | .text content => if Text.allBlank content then [] else [.text content]
  | .comment _ => []
  | .element own attributes children =>
    if Text.sameLetters own name then []
    else if (Node.element own attributes children).isSkeleton
        || !(elementsNamedAll name children).isEmpty then lostAll name children
    else [.element own attributes children]

def lostAll (name : String) : List Node → List Node
  | [] => []
  | node :: rest => node.lost name ++ lostAll name rest

end

theorem lostAll_eq_flatMap (name : String) (nodes : List Node) :
    lostAll name nodes = nodes.flatMap (Node.lost name) := by
  induction nodes with
  | nil => rfl
  | cons node rest ih => rw [lostAll, List.flatMap_cons, ih]

theorem isEmpty_append {α : Type} (as bs : List α) :
    (as ++ bs).isEmpty = (as.isEmpty && bs.isEmpty) := by
  cases as <;> rfl

/-! ## Nodes without the kept element -/

mutual

theorem Node.hasContentOutside_none {name : String} :
    ∀ {node : Node}, node.elementsNamed name = [] →
      node.hasContentOutside none = !(node.lost name).isEmpty
  | .text content, _ => by
    rw [Node.hasContentOutside, Node.lost]
    cases Text.allBlank content <;> rfl
  | .comment _, _ => by
    rw [Node.hasContentOutside, Node.lost]
    rfl
  | .element own attributes children, h => by
    rw [elementsNamed_element, List.append_eq_nil_iff] at h
    obtain ⟨hown, hbelow⟩ := h
    have hne : Text.sameLetters own name = false := by
      cases hs : Text.sameLetters own name with
      | false => rfl
      | true => rw [hs] at hown; cases hown
    rw [Node.hasContentOutside, Node.lost, hne, hbelow, contentOutside_none hbelow]
    cases (Node.element own attributes children).isSkeleton <;> rfl

theorem contentOutside_none {name : String} :
    ∀ {nodes : List Node}, elementsNamedAll name nodes = [] →
      contentOutside none nodes = !(lostAll name nodes).isEmpty
  | [], _ => rfl
  | node :: rest, h => by
    rw [elementsNamedAll, List.append_eq_nil_iff] at h
    rw [contentOutside, lostAll, Node.hasContentOutside_none h.1, contentOutside_none h.2,
      isEmpty_append, Bool.not_and]

end

/-! ## Nodes around the kept element -/

/-- What is outside an element is outside the node that holds it, or beside that node. -/
theorem contentOutside_split (front back : List Node) (node : Node) (path : Path) :
    contentOutside (some (front.length, path)) (front ++ node :: back)
      = (contentOutside none front || (node.hasContentOutside (some path)
        || contentOutside none back)) := by
  induction front with
  | nil => rw [List.length_nil, List.nil_append, contentOutside]; rfl
  | cons first front ih =>
    rw [List.length_cons, List.cons_append, contentOutside, ih, contentOutside, Bool.or_assoc]

theorem elementsNamed_beside {name : String} {front back : List Node} {node : Node} {e : Element}
    (hone : (elementsNamedAll name (front ++ node :: back)).length = 1)
    (hin : e ∈ node.elementsNamed name) :
    elementsNamedAll name front = [] ∧ (node.elementsNamed name).length = 1 ∧
      elementsNamedAll name back = [] := by
  rw [elementsNamedAll_eq_flatMap, List.flatMap_append, List.flatMap_cons,
    ← elementsNamedAll_eq_flatMap, ← elementsNamedAll_eq_flatMap, List.length_append,
    List.length_append] at hone
  have hpos : 0 < (node.elementsNamed name).length := List.length_pos_of_mem hin
  refine ⟨List.length_eq_zero_iff.mp ?_, ?_, List.length_eq_zero_iff.mp ?_⟩ <;> omega

/-- For the single element of a name, the judgement by position is the judgement by name. -/
theorem contentOutside_of_single {name : String} {e : Element} (hn : e.is name = true) {path : Path}
    {nodes : List Node} {k : Nat} (hat : elementAt? nodes (k :: path) = some e)
    (hone : (elementsNamedAll name nodes).length = 1) :
    contentOutside (some (k, path)) nodes = !(lostAll name nodes).isEmpty := by
  have around : ∀ {front back : List Node} {node : Node} {path : Path},
      e ∈ node.elementsNamed name →
      (elementsNamedAll name (front ++ node :: back)).length = 1 →
      node.hasContentOutside (some path) = !(node.lost name).isEmpty →
      contentOutside (some (front.length, path)) (front ++ node :: back)
        = !(lostAll name (front ++ node :: back)).isEmpty := by
    intro front back node path hin hone heq
    obtain ⟨hfront, -, hback⟩ := elementsNamed_beside hone hin
    rw [contentOutside_split, contentOutside_none hfront, contentOutside_none hback, heq,
      lostAll_eq_flatMap, lostAll_eq_flatMap, lostAll_eq_flatMap, List.flatMap_append,
      List.flatMap_cons, isEmpty_append, isEmpty_append, Bool.not_and, Bool.not_and]
  induction path generalizing nodes k with
  | nil =>
    obtain ⟨front, node, back, rfl, rfl, ⟨-, rfl⟩ | ⟨_, _, _, _, _, hp, -⟩⟩ := elementAt?_split hat
    · rw [Element.is] at hn
      refine around ?_ hone ?_
      · rw [Element.toNode, elementsNamed_element, if_pos hn]
        exact List.mem_append_left _ (List.mem_cons_self ..)
      · rw [Element.toNode, Node.hasContentOutside, Node.lost, if_pos hn]
        rfl
    · cases hp
  | cons j q ih =>
    obtain ⟨front, node, back, rfl, rfl,
      ⟨hp, -⟩ | ⟨j', q', own, attributes, children, hp, rfl, he⟩⟩ := elementAt?_split hat
    · cases hp
    · cases hp
      have hmem : e ∈ elementsNamedAll name children := mem_elementsNamedAll hn he
      have hin : e ∈ (Node.element own attributes children).elementsNamed name := by
        rw [elementsNamed_element]
        exact List.mem_append_right _ hmem
      refine around hin hone ?_
      have hnode := (elementsNamed_beside hone hin).2.1
      rw [elementsNamed_element, List.length_append] at hnode
      have hpos : 0 < (elementsNamedAll name children).length := List.length_pos_of_mem hmem
      have hne : Text.sameLetters own name = false := by
        cases hs : Text.sameLetters own name with
        | false => rfl
        | true =>
          rw [hs, if_pos rfl, List.length_singleton] at hnode
          omega
      have hholds : (elementsNamedAll name children).isEmpty = false := by
        rw [List.isEmpty_eq_false_iff]
        exact List.ne_nil_of_mem hmem
      rw [Node.hasContentOutside, Node.lost, hne, hholds, ih he (by omega)]
      simp

namespace Document

theorem hasContentOutside_of_single {d : Document} {name : String} {e : Element} {path : Path}
    (hn : e.is name = true) (hat : elementAt? d.nodes path = some e)
    (hone : (d.elementsNamed name).length = 1) :
    d.hasContentOutside path = !(lostAll name d.nodes).isEmpty := by
  cases path with
  | nil => cases hat
  | cons k path => exact contentOutside_of_single hn hat hone

end Document

end Lettermill
