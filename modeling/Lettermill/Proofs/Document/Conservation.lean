import Lettermill.Proofs.Document.Printer
import Lettermill.Proofs.Document.Root
/-! What a document with its root is made of. A document that has a root stays as it is; otherwise its
top-level nodes all come under one new root, as they are when a body is among them, and else divided
into a head and the content of a body. Main statement: no node is lost, repeated or changed by this,
each group keeps its order, and doing it again changes nothing. -/
namespace Lettermill
set_option autoImplicit false

/-! ## Dividing the top-level nodes -/

/-- Top-level nodes told apart by where they go: the first head stays a head, what belongs into a head
joins it, and the rest is the content of the body. All of them together are the nodes there were. -/
structure Divided (nodes : List Node) (head : Option Element) (loose content : List Node) : Prop where
  conserved : nodes.Perm (head.toList.map Element.toNode ++ (loose ++ content))
  head_first : head.map Element.toNode = nodes.find? fun node => node.isNamed "head"
  loose_headOnly : ∀ node ∈ loose, node.isHeadOnly = true
  content_plain : ∀ node ∈ content, node.isHeadOnly = false
  loose_ordered : loose.Sublist nodes
  content_ordered : content.Sublist nodes

/-- The head of a root: the one that was written with the loose elements behind its children, or a new
one if there are any. -/
def headHolding : Option Element → List Node → List Node
  | some e, loose => [.element e.name e.attributes (e.children ++ loose)]
  | none, [] => []
  | none, node :: loose => [.element "head" ∅ (node :: loose)]

theorem Node.isHeadOnly_of_head {node : Node} (h : node.isNamed "head" = true) :
    node.isHeadOnly = false := by
  obtain ⟨e, rfl, -, he⟩ := Sorted.eq_toNode_of_isNamed h
  have hlower : Text.lower e.name = Text.lower "head" := beq_iff_eq.mp he
  have hnamed : e.toNode.isNamed = Text.sameLetters "head" := by
    funext name
    rw [Node.isNamed_toNode, Element.is, Text.sameLetters, Text.sameLetters, hlower]
  rw [Node.isHeadOnly, hnamed]
  decide

namespace Sorted

theorem go_loose (found : Bool) (nodes : List Node) :
    (ofNodes.go found nodes).loose = nodes.filter Node.isHeadOnly := by
  induction nodes generalizing found with
  | nil => rfl
  | cons node rest ih =>
    rw [ofNodes.go]
    split
    case isTrue hc =>
      have hhead := (Bool.and_eq_true_iff.mp hc).2
      rw [List.filter_cons_of_neg (by rw [Node.isHeadOnly_of_head hhead]; decide)]
      exact ih true
    case isFalse =>
      dsimp only
      split
      case isTrue ho => rw [List.filter_cons_of_pos ho, ih]
      case isFalse ho => rw [List.filter_cons_of_neg ho, ih]

/-- Only the first head is taken out of the content. -/
theorem go_content (found : Bool) (nodes : List Node) :
    (ofNodes.go found nodes).content
      = (if found then nodes else nodes.eraseP fun node => node.isNamed "head").filter
          fun node => !node.isHeadOnly := by
  induction nodes generalizing found with
  | nil => cases found <;> rfl
  | cons node rest ih =>
    rw [ofNodes.go]
    split
    case isTrue hc =>
      obtain ⟨hfound, hhead⟩ := Bool.and_eq_true_iff.mp hc
      rw [Bool.not_eq_true'] at hfound
      rw [hfound, if_neg Bool.false_ne_true, List.eraseP_cons, hhead]
      exact ih true
    case isFalse hc =>
      have hkept : (if found then node :: rest
          else (node :: rest).eraseP fun node => node.isNamed "head")
          = node :: if found then rest else rest.eraseP fun node => node.isNamed "head" := by
        cases found with
        | true => rfl
        | false =>
          have hhead : node.isNamed "head" = false := Bool.eq_false_iff.mpr hc
          rw [if_neg Bool.false_ne_true, if_neg Bool.false_ne_true, List.eraseP_cons, hhead]
          rfl
      rw [hkept]
      dsimp only
      split
      case isTrue ho => rw [List.filter_cons_of_neg (by rw [ho]; decide), ih]
      case isFalse ho =>
        rw [List.filter_cons_of_pos (by rw [Bool.eq_false_iff.mpr ho]; rfl), ih]

theorem ofNodes_head (nodes : List Node) :
    (ofNodes nodes).head.map Element.toNode = nodes.find? fun node => node.isNamed "head" := by
  rw [ofNodes]
  induction nodes with
  | nil => rfl
  | cons node rest ih =>
    rw [ofNodes.go, List.find?_cons]
    cases hhead : node.isNamed "head" with
    | true =>
      obtain ⟨e, rfl, -, -⟩ := eq_toNode_of_isNamed hhead
      rfl
    | false =>
      rw [← ih, Bool.and_false, if_neg Bool.false_ne_true]
      dsimp only
      split <;> rfl

theorem divided (nodes : List Node) :
    Divided nodes (ofNodes nodes).head (ofNodes nodes).loose (ofNodes nodes).content := by
  have hloose : (ofNodes nodes).loose = nodes.filter Node.isHeadOnly := go_loose false nodes
  have hcontent : (ofNodes nodes).content = (nodes.eraseP fun node => node.isNamed "head").filter
      fun node => !node.isHeadOnly := go_content false nodes
  refine ⟨ofNodes_perm nodes, ofNodes_head nodes, ?_, ?_, ?_, ?_⟩
  · intro node hnode
    rw [hloose] at hnode
    exact (List.mem_filter.mp hnode).2
  · intro node hnode
    rw [hcontent] at hnode
    exact (Bool.not_eq_true' _).mp (List.mem_filter.mp hnode).2
  · rw [hloose]
    exact List.filter_sublist
  · rw [hcontent]
    exact List.filter_sublist.trans List.eraseP_sublist

theorem headNode?_toList (s : Sorted) : s.headNode?.toList = headHolding s.head s.loose := by
  obtain ⟨head, loose, content⟩ := s
  cases loose with
  | nil =>
    cases head with
    | none => rfl
    | some e =>
      rw [headHolding, List.append_nil]
      rfl
  | cons node loose => cases head <;> rfl

end Sorted

/-! ## The root -/

section
variable {nodes : List Node}

theorem rootChildren_of_body (h : ∃ node ∈ nodes, node.isNamed "body" = true) :
    rootChildren nodes = nodes := by rw [rootChildren, if_pos (List.any_eq_true.mpr h)]

theorem rootChildren_of_none (h : ∀ node ∈ nodes, node.isNamed "body" = false) :
    rootChildren nodes
      = headHolding (Sorted.ofNodes nodes).head (Sorted.ofNodes nodes).loose
        ++ [.element "body" ∅ (Sorted.ofNodes nodes).content] := by
  have hany : nodes.any (·.isNamed "body") = false := List.any_eq_false.mpr fun node hnode => by
    rw [h node hnode]
    exact Bool.false_ne_true
  rw [rootChildren, hany, if_neg Bool.false_ne_true, ← Sorted.headNode?_toList]
  rfl

/-- Nodes that neither are a body nor go into a head are the content of the body. -/
theorem rootChildren_of_content (h : ∀ node ∈ nodes, node.isNamed "body" = false ∧
    node.isNamed "head" = false ∧ node.isHeadOnly = false) :
    rootChildren nodes = [.element "body" ∅ nodes] := by
  have hdivided := Sorted.divided nodes
  have hhead : (Sorted.ofNodes nodes).head = none := by
    have hfirst := hdivided.head_first
    rw [List.find?_eq_none.mpr fun node hnode => by simp [(h node hnode).2.1]] at hfirst
    exact Option.map_eq_none_iff.mp hfirst
  have hloose : (Sorted.ofNodes nodes).loose = [] := by
    rw [List.eq_nil_iff_forall_not_mem]
    intro node hnode
    have htrue := hdivided.loose_headOnly node hnode
    rw [(h node (hdivided.loose_ordered.subset hnode)).2.2] at htrue
    cases htrue
  have hcontent : (Sorted.ofNodes nodes).content = nodes := by
    have hperm := hdivided.conserved
    rw [hhead, hloose] at hperm
    exact hdivided.content_ordered.eq_of_length hperm.length_eq.symm
  rw [rootChildren_of_none fun node hnode => (h node hnode).1, hhead, hloose, hcontent]
  rfl

end

namespace Document

theorem hasRoot_iff {d : Document} :
    d.hasRoot = true ↔ ∃ node ∈ d.nodes, node.isNamed "html" = true := by
  rw [hasRoot, topLevelNode?, List.find?_isSome]

theorem hasRoot_eq_false_iff {d : Document} :
    d.hasRoot = false ↔ ∀ node ∈ d.nodes, node.isNamed "html" = false := by
  rw [hasRoot, topLevelNode?, Option.isSome_eq_false_iff, Option.isNone_iff_eq_none,
    List.find?_eq_none]
  simp only [Bool.not_eq_true]

theorem giveRoot_of_root {d : Document} (h : d.hasRoot = true) : d.giveRoot = (false, d) := by
  rw [giveRoot, normalized, if_pos h, h]
  rfl

theorem normalized_of_none {d : Document} (h : d.hasRoot = false) :
    d.normalized = ⟨[.element "html" ∅ (rootChildren d.nodes)]⟩ := by
  rw [normalized, h, if_neg Bool.false_ne_true]
  rfl

theorem hasRoot_normalized (d : Document) : d.normalized.hasRoot = true := by
  obtain ⟨root, hroot, -⟩ := d.exists_top
  rw [hasRoot, hroot]
  rfl

/-- The texts, the comments and the elements outside the skeleton, at every depth. -/
def substance (d : Document) : List Node := (subtreeAll d.nodes).filter fun node => !node.isSkeleton

theorem substance_eq_flatMap (d : Document) :
    d.substance = d.nodes.flatMap fun node => node.subtree.filter fun n => !n.isSkeleton := by
  rw [substance, subtreeAll_eq_flatMap, List.filter_flatMap]

theorem substance_seesThrough :
    SeesThrough fun node => node.subtree.filter fun n => !n.isSkeleton := by
  intro own attributes children h
  have hskeleton : (Node.element own attributes children).isSkeleton = true := h
  have hbelow := substance_eq_flatMap ⟨children⟩
  rw [substance] at hbelow
  dsimp only
  rw [Node.subtree, List.filter_cons_of_neg (by rw [hskeleton]; decide), hbelow]

/-- A document whose top-level nodes are all content gets a root with nothing but a body. -/
theorem normalized_of_content {d : Document}
    (h : ∀ node ∈ d.nodes, ∀ name ∈ skeleton ++ headOnly, node.isNamed name = false) :
    d.normalized = ⟨[.element "html" ∅ [.element "body" ∅ d.nodes]]⟩ := by
  have hnone : d.hasRoot = false := hasRoot_eq_false_iff.mpr fun node hnode =>
    h node hnode "html" (by decide)
  rw [normalized_of_none hnone, rootChildren_of_content]
  intro node hnode
  refine ⟨h node hnode "body" (by decide), h node hnode "head" (by decide), ?_⟩
  rw [Node.isHeadOnly, List.any_eq_false]
  intro name hname
  rw [h node hnode name (List.mem_append_right _ hname)]
  exact Bool.false_ne_true

theorem locate?_normalized {d : Document} {name : String}
    (hn : skeleton.any (Text.sameLetters name) = false) (h : d.locate? name = none) :
    d.normalized.locate? name = none := by
  rw [locate?_eq_none_iff] at h ⊢
  exact (h ▸ elementsNamed_normalized hn d).eq_nil

/-- **A root conserves the document.** Nothing changes just when a top-level node is an `html` element.
Otherwise all top-level nodes come under one new root, each once and in order: as its children when a
body is among them, and else in an optional head and a body. Of what is no `html`, `head` or `body`
the document holds the same before and after, and giving it a root again changes nothing. -/
theorem giveRoot_conserves (d : Document) :
    (d.giveRoot = (false, d) ↔ ∃ node ∈ d.nodes, node.isNamed "html" = true) ∧
    ((∀ node ∈ d.nodes, node.isNamed "html" = false) → ∃ children,
      d.giveRoot = (true, ⟨[.element "html" ∅ children]⟩) ∧
      ((∃ node ∈ d.nodes, node.isNamed "body" = true) → children = d.nodes) ∧
      ((∀ node ∈ d.nodes, node.isNamed "body" = false) → ∃ head loose content,
        Divided d.nodes head loose content ∧
        children = headHolding head loose ++ [.element "body" ∅ content])) ∧
    d.giveRoot.2.substance.Perm d.substance ∧
    d.giveRoot.2.giveRoot = (false, d.giveRoot.2) := by
  refine ⟨?_, fun hnone => ?_, ?_, giveRoot_of_root (hasRoot_normalized d)⟩
  · rw [← hasRoot_iff]
    refine ⟨fun h => ?_, giveRoot_of_root⟩
    have hflag := congrArg Prod.fst h
    exact (Bool.not_eq_false' _).mp hflag
  · have hroot : d.hasRoot = false := hasRoot_eq_false_iff.mpr hnone
    refine ⟨rootChildren d.nodes, ?_, rootChildren_of_body,
      fun hbody => ⟨_, _, _, Sorted.divided d.nodes, rootChildren_of_none hbody⟩⟩
    rw [giveRoot, normalized_of_none hroot, hroot]
    rfl
  · rw [substance_eq_flatMap, substance_eq_flatMap]
    exact normalized_flatMap substance_seesThrough d

/-- What belongs into a head comes behind what the first head holds; a second head is content. -/
example :
    (giveRoot ⟨[.element "TITLE" ∅ [], .text "x", .element "head" ∅ [.comment "c"],
      .element "head" ∅ [], .element "base" ∅ []]⟩).2.nodes
      = [.element "html" ∅ [
          .element "head" ∅ [.comment "c", .element "TITLE" ∅ [], .element "base" ∅ []],
          .element "body" ∅ [.text "x", .element "head" ∅ []]]] := rfl

end Document

end Lettermill
