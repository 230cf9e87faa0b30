import Lettermill.Proofs.Document.Conservation
/-! Rewriting the nodes of a document where they stand. A rewriting that keeps every name and treats the
elements of the skeleton attribute by attribute and child by child goes together with the search at the
top and with giving a root. Main statement: rewriting a document and giving it a root may be done in
either order. -/
namespace Lettermill
set_option autoImplicit false

/-- A rewriting `f` of nodes keeps names, and of an element of the skeleton it rewrites the attributes
by `g` and the children by itself. -/
structure Rewrites (f : Node → Node) (g : Attributes → Attributes) : Prop where
  isNamed (node : Node) : (f node).isNamed = node.isNamed
  skeleton (own : String) (attributes : Attributes) (children : List Node)
    (h : Lettermill.skeleton.any (Text.sameLetters own) = true) :
    f (.element own attributes children) = .element own (g attributes) (children.map f)
  bare : g ∅ = ∅

/-- A document with its top-level nodes rewritten. -/
def Document.rewritten (d : Document) (f : Node → Node) : Document := ⟨d.nodes.map f⟩

section
variable {f : Node → Node} {g : Attributes → Attributes} (hf : Rewrites f g)
include hf

theorem isNamed_comp (name : String) : (·.isNamed name) ∘ f = (·.isNamed name) := by
  funext node
  rw [Function.comp_apply, hf.isNamed]

theorem isHeadOnly_comp : Node.isHeadOnly ∘ f = Node.isHeadOnly := by
  funext node
  rw [Function.comp_apply, Node.isHeadOnly, hf.isNamed, Node.isHeadOnly]

theorem topLevelNode?_rewritten (d : Document) (name : String) :
    (d.rewritten f).topLevelNode? name = (d.topLevelNode? name).map f := by
  rw [Document.topLevelNode?, Document.rewritten, List.find?_map, isNamed_comp hf,
    Document.topLevelNode?]

theorem loose_rewritten (nodes : List Node) :
    (Sorted.ofNodes (nodes.map f)).loose = (Sorted.ofNodes nodes).loose.map f := by
  rw [Sorted.ofNodes, Sorted.ofNodes, Sorted.go_loose, Sorted.go_loose, List.filter_map,
    isHeadOnly_comp hf]

theorem content_rewritten (nodes : List Node) :
    (Sorted.ofNodes (nodes.map f)).content = (Sorted.ofNodes nodes).content.map f := by
  have hplain : (!Node.isHeadOnly ·) ∘ f = (!Node.isHeadOnly ·) :=
    congrArg (not ∘ ·) (isHeadOnly_comp hf)
  rw [Sorted.ofNodes, Sorted.ofNodes, Sorted.go_content, Sorted.go_content,
    if_neg Bool.false_ne_true, if_neg Bool.false_ne_true, List.eraseP_map, isNamed_comp hf,
    List.filter_map, hplain]

theorem head_rewritten (nodes : List Node) :
    (Sorted.ofNodes (nodes.map f)).head.map Element.toNode
      = ((Sorted.ofNodes nodes).head.map Element.toNode).map f := by
  rw [Sorted.ofNodes_head, Sorted.ofNodes_head]
  exact topLevelNode?_rewritten hf ⟨nodes⟩ "head"

theorem headHolding_rewritten {head other : Option Element} (hhead : ∀ e ∈ head, e.is "head" = true)
    (hother : other.map Element.toNode = (head.map Element.toNode).map f) (loose : List Node) :
    headHolding other (loose.map f) = (headHolding head loose).map f := by
  cases head with
  | none =>
    have hnone : other = none := Option.map_eq_none_iff.mp hother
    subst hnone
    cases loose with
    | nil => rfl
    | cons node loose =>
      have hnew := hf.skeleton "head" ∅ (node :: loose) (by decide)
      rw [headHolding, List.map_singleton, hnew, hf.bare]
      rfl
  | some e =>
    obtain ⟨e', rfl, he'⟩ := Option.map_eq_some_iff.mp hother
    have hname : skeleton.any (Text.sameLetters e.name) = true :=
      List.any_eq_true.mpr ⟨"head", by decide, hhead e rfl⟩
    rw [Element.toNode, Element.toNode, hf.skeleton _ e.attributes e.children hname,
      Node.element.injEq] at he'
    obtain ⟨hown, hattributes, hchildren⟩ := he'
    rw [headHolding, headHolding, List.map_singleton, hf.skeleton _ _ _ hname, List.map_append, hown,
      hattributes, hchildren]

theorem rootChildren_rewritten (nodes : List Node) :
    rootChildren (nodes.map f) = (rootChildren nodes).map f := by
  by_cases hbody : ∃ node ∈ nodes, node.isNamed "body" = true
  · obtain ⟨node, hnode, hname⟩ := hbody
    have hthere : ∃ node ∈ nodes.map f, node.isNamed "body" = true :=
      ⟨f node, List.mem_map_of_mem hnode, by rw [hf.isNamed, hname]⟩
    rw [rootChildren_of_body hthere, rootChildren_of_body ⟨node, hnode, hname⟩]
  · have hnone : ∀ node ∈ nodes, node.isNamed "body" = false := fun node hnode =>
      Bool.eq_false_iff.mpr fun hname => hbody ⟨node, hnode, hname⟩
    have hthere : ∀ node ∈ nodes.map f, node.isNamed "body" = false := by
      intro node hnode
      obtain ⟨source, hsource, rfl⟩ := List.mem_map.mp hnode
      rw [hf.isNamed, hnone source hsource]
    have hnew := hf.skeleton "body" ∅ (Sorted.ofNodes nodes).content (by decide)
    have hhead := headHolding_rewritten hf (fun e he => Sorted.is_head he) (head_rewritten hf nodes)
      (Sorted.ofNodes nodes).loose
    rw [rootChildren_of_none hthere, rootChildren_of_none hnone, List.map_append, List.map_singleton,
      hnew, hf.bare, loose_rewritten hf, content_rewritten hf, hhead]
    rfl

/-- **A root and a rewriting get along.** The rewritten document gets the root that the document gets,
rewritten. -/
theorem normalized_rewritten (d : Document) :
    (d.rewritten f).normalized = d.normalized.rewritten f := by
  have hroot : (d.rewritten f).hasRoot = d.hasRoot := by
    rw [Document.hasRoot, topLevelNode?_rewritten hf, Option.isSome_map, Document.hasRoot]
  cases h : d.hasRoot with
  | true => rw [Document.normalized, Document.normalized, hroot, h]; rfl
  | false =>
    have hnew := hf.skeleton "html" ∅ (rootChildren d.nodes) (by decide)
    rw [Document.normalized_of_none (hroot.trans h), Document.normalized_of_none h,
      Document.rewritten, Document.rewritten, List.map_singleton, hnew, hf.bare,
      rootChildren_rewritten hf]

end

end Lettermill
