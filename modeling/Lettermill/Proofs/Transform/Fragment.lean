import Lettermill.Proofs.Transform.Emission
/-! Nodes without a parent: each is written inside the components that its tag needs, and a fragment
is written node by node. Main statement: the markup of a fragment has one splitting into pieces,
every end tag in it closes the start tag that was opened last, and its elements are those of the
outline, in document order. -/
namespace Lettermill
set_option autoImplicit false
open Text Markup
open Registry (leavesOut outline rootOutline writtenNodesAll)

theorem Component.wrapRoot_of_free {tag : String} (hc : needsColumn tag = false)
    (hs : needsSection tag = false) (m : String) : wrapRoot tag m = m := by
  rw [wrapRoot, hc, hs, if_neg Bool.false_ne_true, if_neg Bool.false_ne_true]

theorem Component.wrapRoot_shows {tag m : String} {tags : List String} {seen : List Char}
    (h : Shows m tags seen) : Shows (wrapRoot tag m) (wrappers tag ++ tags) seen := by
  rw [wrapRoot, wrappers]
  split
  · exact (h.wrap (by decide)).wrap (by decide)
  · split
    · exact h.wrap (by decide)
    · exact h

theorem Component.bracketed_wrapRoot {tag m : String} (h : Bracketed m) :
    Bracketed (wrapRoot tag m) := by
  rw [wrapRoot]
  split
  · exact bracketed_wrap ..
  · split
    · exact bracketed_wrap ..
    · exact h

namespace Setting
variable {s : Setting}

theorem emit_tag (parent : Option String) (node : Node) :
    (s.emit parent node).tag = (s.registry.outline node).head? := by
  cases node with
  | text content => rw [emit, outline]; rfl
  | comment content => rw [emit, outline]; rfl
  | element name attributes children =>
    rw [outline]
    cases ho : s.registry.leavesOut name with
    | true => rw [emit_leftOut ho]; rfl
    | false => exact (emit_written ho).1

theorem emitRoot_markup (node : Node) :
    (s.emitRoot node).markup
      = ((s.registry.outline node).head?.elim id Component.wrapRoot) (s.emit none node).markup := by
  rw [emitRoot, ← emit_tag none node]
  cases ht : (s.emit none node).tag with
  | none => rw [Option.elim_none, id_eq]
  | some tag => rw [Option.elim_some]

theorem emitRoot_shows {node : Node}
    (h : ∀ n ∈ s.registry.writtenNodes node, s.registry.CanWrite s.attributesFor n) :
    Shows (s.emitRoot node).markup (s.registry.rootOutline node)
      (unblank (s.registry.shownText none node)) := by
  have hshow := emit_shows none h
  rw [emitRoot_markup, rootOutline]
  cases (s.registry.outline node).head? with
  | none => exact hshow
  | some tag => exact Component.wrapRoot_shows hshow

theorem trim_emitRoot (e : Element) :
    Text.trim (s.emitRoot e.toNode).markup = (s.emitRoot e.toNode).markup := by
  obtain ⟨name, attributes, children⟩ := e
  rw [emitRoot_markup, Element.toNode, outline]
  cases ho : s.registry.leavesOut name with
  | true =>
    rw [emit_leftOut ho]
    rfl
  | false => exact (Component.bracketed_wrapRoot (emit_written ho).2).trim

theorem emitFragment_shows {nodes : List Node}
    (h : ∀ n ∈ s.registry.writtenNodesAll nodes, s.registry.CanWrite s.attributesFor n) :
    Shows (s.emitFragment nodes).markup (nodes.flatMap s.registry.rootOutline)
      (unblank (nodes.flatMap (s.registry.shownText none))) := by
  induction nodes with
  | nil => exact Shows.nil
  | cons node rest ih =>
    rw [writtenNodesAll, List.forall_mem_append] at h
    rw [List.flatMap_cons, List.flatMap_cons, unblank_append]
    exact (emitRoot_shows h.1).append (ih h.2)

/-- **The markup of a fragment is well nested.** It splits into pieces in one way only; every end
tag closes the start tag opened last, nothing stays open, and the elements are those of the outline:
for each node its wrappers, then an element for each source element that is written, then the
container of that element, if it has one. -/
theorem emitFragment_nests (s : Setting) (nodes : List Node)
    (h : ∀ n ∈ s.registry.writtenNodesAll nodes, s.registry.CanWrite s.attributesFor n) :
    ∃ ps, Splits (s.emitFragment nodes).markup ps ∧
      (∀ qs, Splits (s.emitFragment nodes).markup qs → qs = ps) ∧ nests [] ps = true ∧
      tagsOf ps = nodes.flatMap s.registry.rootOutline := by
  obtain ⟨ps, hps, hone, hnest, htags, -⟩ := (emitFragment_shows h).splits
  exact ⟨ps, hps, hone, hnest, htags⟩

/-- A list with a quoted title, a comment and a style block, and text behind the list. -/
theorem emitFragment_nests_list :
    ∃ ps, Splits ("<mj-section><mj-column><mj-text title=\"a &quot;b&quot;\"><mj-text>• One"
        ++ "<!-- -- > -- --></mj-text></mj-text></mj-column></mj-section> > ") ps ∧
      nests [] ps = true ∧ tagsOf ps = ["mj-section", "mj-column", "mj-text", "mj-text"] := by
  obtain ⟨ps, hps, -, hnest, htags⟩ := emitFragment_nests {}
    [.element "ul" (Dict.ofList [("title", "a \"b\"")])
      [.element "li" ∅ [.text "One", .comment "-- > --"], .element "style" ∅ [.text "</p>"]],
      .text " > "] (by decide +kernel)
  refine ⟨ps, ?_, hnest, htags.trans (by decide +kernel)⟩
  convert hps using 1
  decide +kernel

end Setting

end Lettermill
