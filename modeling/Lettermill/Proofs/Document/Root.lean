import Lettermill.Document.Outside
import Lettermill.Document.Root
import Lettermill.Proofs.Document.Search
import Mathlib.Data.List.Perm.Basic
/-! Giving a document a root only rearranges it. Sorting the top-level nodes loses and repeats none,
and what is made around them belongs to the skeleton of a document. Main statement: whatever looks
through the skeleton sees the same in a document and in the document with a root, up to order. -/
namespace Lettermill
set_option autoImplicit false

/-! ## The skeleton -/

/-- A view of nodes that sees of a skeleton element just what its children show. -/
def SeesThrough {β : Type} (f : Node → List β) : Prop :=
  ∀ (own : String) (attributes : Attributes) (children : List Node),
    skeleton.any (Text.sameLetters own) = true →
    f (.element own attributes children) = children.flatMap f

theorem Element.named_skeleton : ∀ name ∈ skeleton,
    skeleton.any (Text.sameLetters (Element.named name).name) = true := by decide

theorem not_sameLetters_of_skeleton {own name : String}
    (h : skeleton.any (Text.sameLetters own) = true)
    (hn : skeleton.any (Text.sameLetters name) = false) : Text.sameLetters own name = false := by
  cases hs : Text.sameLetters own name with
  | false => rfl
  | true =>
    have hlower : Text.lower own = Text.lower name := beq_iff_eq.mp hs
    have heq : Text.sameLetters own = Text.sameLetters name := by
      funext other
      rw [Text.sameLetters, Text.sameLetters, hlower]
    rw [heq, hn] at h
    cases h

theorem elementsNamed_seesThrough {name : String}
    (hn : skeleton.any (Text.sameLetters name) = false) :
    SeesThrough (Node.elementsNamed name) := by
  intro own attributes children h
  rw [elementsNamed_element, not_sameLetters_of_skeleton h hn, elementsNamedAll_eq_flatMap]
  rfl

/-! ## Sorting the top-level nodes -/

namespace Sorted

theorem go_true_head (nodes : List Node) : (ofNodes.go true nodes).head = none := by
  induction nodes with
  | nil => rfl
  | cons node rest ih =>
    rw [ofNodes.go, Bool.not_true, Bool.false_and, if_neg Bool.false_ne_true]
    dsimp only
    split <;> exact ih

theorem eq_toNode_of_isNamed {node : Node} {name : String} (h : node.isNamed name = true) :
    ∃ e : Element, node = e.toNode ∧ node.asElement? = some e ∧ e.is name = true := by
  cases node with
  | element own attributes children => exact ⟨⟨own, attributes, children⟩, rfl, rfl, h⟩
  | text content => cases h
  | comment content => cases h

theorem is_head {found : Bool} {nodes : List Node} {e : Element}
    (h : (ofNodes.go found nodes).head = some e) : e.is "head" = true := by
  induction nodes generalizing found with
  | nil => cases h
  | cons node rest ih =>
    rw [ofNodes.go] at h
    split at h
    case isTrue hc =>
      obtain ⟨e', -, he', hname⟩ := eq_toNode_of_isNamed (Bool.and_eq_true_iff.mp hc).2
      rw [he'] at h
      cases h
      exact hname
    case isFalse =>
      dsimp only at h
      split at h <;> exact ih h

theorem go_perm (found : Bool) (nodes : List Node) :
    nodes.Perm ((ofNodes.go found nodes).head.toList.map Element.toNode
      ++ ((ofNodes.go found nodes).loose ++ (ofNodes.go found nodes).content)) := by
  induction nodes generalizing found with
  | nil => exact .nil
  | cons node rest ih =>
    rw [ofNodes.go]
    split
    case isTrue hc =>
      obtain ⟨e, rfl, he, -⟩ := eq_toNode_of_isNamed (Bool.and_eq_true_iff.mp hc).2
      have hrest := ih true
      rw [go_true_head] at hrest
      rw [he]
      exact hrest.cons _
    case isFalse =>
      have hrest := (ih found).cons node
      dsimp only
      split
      · exact hrest.trans List.perm_middle.symm
      · rw [← List.append_assoc] at hrest ⊢
        exact hrest.trans List.perm_middle.symm

theorem ofNodes_perm (nodes : List Node) :
    nodes.Perm ((ofNodes nodes).head.toList.map Element.toNode
      ++ ((ofNodes nodes).loose ++ (ofNodes nodes).content)) := go_perm false nodes

theorem headNode?_flatMap {β : Type} {f : Node → List β} (hf : SeesThrough f) (s : Sorted)
    (hh : ∀ e ∈ s.head, e.is "head" = true) :
    s.headNode?.toList.flatMap f
      = (s.head.toList.map Element.toNode).flatMap f ++ s.loose.flatMap f := by
  have through : ∀ e : Element, e.is "head" = true → f e.toNode = e.children.flatMap f := by
    intro e he
    refine hf _ _ _ (List.any_eq_true.mpr ⟨"head", by decide, he⟩)
  obtain ⟨head, loose, content⟩ := s
  cases loose with
  | nil => cases head <;> simp [headNode?]
  | cons node rest =>
    cases head with
    | none =>
      have hname : (Element.named "head").is "head" = true := by decide
      have hnew := through { Element.named "head" with children := node :: rest } hname
      simpa [headNode?, Element.named] using hnew
    | some e =>
      have hold := through e (hh e rfl)
      have hnew := through { e with children := e.children ++ node :: rest } (hh e rfl)
      simp only [headNode?, Option.toList_some, Option.getD_some, List.flatMap_singleton,
        List.map_cons, List.map_nil]
      rw [hnew, hold, List.flatMap_append]

end Sorted

/-! ## The document with a root -/

def Node.isComment : Node → Bool
  | .comment _ => true
  | _ => false

theorem rootChildren_flatMap {β : Type} {f : Node → List β} (hf : SeesThrough f)
    (nodes : List Node) : ((rootChildren nodes).flatMap f).Perm (nodes.flatMap f) := by
  rw [rootChildren]
  split
  · exact .refl _
  · have hbody : f (Sorted.ofNodes nodes).bodyNode = (Sorted.ofNodes nodes).content.flatMap f :=
      hf _ _ _ (Element.named_skeleton "body" (by decide))
    have hhead := Sorted.headNode?_flatMap hf (Sorted.ofNodes nodes) fun e he => Sorted.is_head he
    have hperm := (Sorted.ofNodes_perm nodes).flatMap_right f
    rw [List.flatMap_append, List.flatMap_append] at hperm
    dsimp only
    rw [List.flatMap_append, List.flatMap_singleton, hbody, hhead, List.append_assoc]
    exact hperm.symm

namespace Document

/-- **A root only rearranges.** Whatever sees through the skeleton sees the same as before. -/
theorem normalized_flatMap {β : Type} {f : Node → List β} (hf : SeesThrough f) (d : Document) :
    (d.normalized.nodes.flatMap f).Perm (d.nodes.flatMap f) := by
  rw [normalized]
  split
  · exact .refl _
  · rw [List.flatMap_singleton, Element.toNode,
      hf _ _ _ (Element.named_skeleton "html" (by decide))]
    exact rootChildren_flatMap hf d.nodes

theorem exists_top (d : Document) :
    ∃ root : Element, d.normalized.topLevelNode? "html" = some root.toNode ∧
      root.is "html" = true ∧ root.toNode ∈ d.normalized.nodes := by
  rw [normalized]
  split
  case isTrue hroot =>
    obtain ⟨found, hfound⟩ := Option.isSome_iff_exists.mp hroot
    rw [topLevelNode?] at hfound
    have hfits := List.find?_some hfound
    obtain ⟨e, rfl, -, hname⟩ := Sorted.eq_toNode_of_isNamed hfits
    exact ⟨e, hfound, hname, List.mem_of_find?_eq_some hfound⟩
  case isFalse =>
    have hname : (Element.named "html").is "html" = true := by decide
    refine ⟨{ Element.named "html" with children := rootChildren d.nodes }, ?_, hname,
      List.mem_singleton_self _⟩
    exact List.find?_cons_of_pos hname

/-- When the root that was written is the only node beside comments, so it is in any case. -/
theorem exists_root {d : Document}
    (h : d.hasRoot = true → ∃ root, d.nodes.filter (fun n => !n.isComment) = [root]) :
    ∃ root : Element, d.normalized.topLevelNode? "html" = some root.toNode ∧
      d.normalized.nodes.filter (fun n => !n.isComment) = [root.toNode] := by
  obtain ⟨e, htop, -, hmem⟩ := d.exists_top
  refine ⟨e, htop, ?_⟩
  have hin : e.toNode ∈ d.normalized.nodes.filter fun n => !n.isComment :=
    List.mem_filter.mpr ⟨hmem, rfl⟩
  have hone : ∃ root, d.normalized.nodes.filter (fun n => !n.isComment) = [root] := by
    rw [normalized]
    split
    case isTrue hroot => exact h hroot
    case isFalse => exact ⟨_, rfl⟩
  obtain ⟨root, honly⟩ := hone
  rw [honly, List.mem_singleton] at hin
  rw [honly, hin]

theorem elementsNamed_normalized {name : String}
    (hn : skeleton.any (Text.sameLetters name) = false) (d : Document) :
    (d.normalized.elementsNamed name).Perm (d.elementsNamed name) := by
  rw [elementsNamed, elementsNamed, elementsNamedAll_eq_flatMap, elementsNamedAll_eq_flatMap]
  exact normalized_flatMap (elementsNamed_seesThrough hn) d

end Document

end Lettermill
