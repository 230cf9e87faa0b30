import Lettermill.Proofs.Document.Printer
import Lettermill.Proofs.Transform.Fragment
/-! Components are written alike in two ways. The walk over a document looks at the markup of what an
element holds and leaves texts as they are; the printer looks at the children and escapes texts. On
components that hold something to be seen, if they hold anything, the two agree. Main statement: the
walk writes such a component as it is printed, inside the wrappers that its name needs. -/
namespace Lettermill
set_option autoImplicit false
open Text Markup

/-- An element, or text that is not blank. -/
def Node.isSolid : Node → Bool
  | .element _ _ _ => true
  | .text content => !allBlank content
  | .comment _ => false

/-- A component that is empty or holds something solid, or a text that is its own escaped form. -/
def Node.IsVerbatim : Node → Prop
  | .element name _ children =>
    Component.isComponent name = true ∧ (children.isEmpty = false → children.any Node.isSolid = true)
  | .text content => content.toList.all isPlain = true
  | .comment _ => False

instance : DecidablePred Node.IsVerbatim
  | .element name _ children => inferInstanceAs (Decidable (Component.isComponent name = true ∧
      (children.isEmpty = false → children.any Node.isSolid = true)))
  | .text content => inferInstanceAs (Decidable (content.toList.all isPlain = true))
  | .comment _ => inferInstanceAs (Decidable False)

namespace Setting
variable {s : Setting}

theorem isVisible_of_isSolid {node : Node} (hv : node.IsVerbatim) (hs : node.isSolid = true) :
    s.registry.isVisible node = true := by
  cases node with
  | text content => exact hs
  | comment content => exact hv.elim
  | element name attributes children =>
    rw [Registry.isVisible, Registry.leavesOut, hv.1]
    rfl

theorem allBlank_of_verbatim {parent name : String} {attributes : Attributes}
    {children : List Node} (hv : (Node.element name attributes children).IsVerbatim)
    (hall : ∀ n ∈ children, n.IsVerbatim) :
    allBlank (s.emitAll parent children).markup = children.isEmpty := by
  rw [allBlank_emitAll]
  cases hempty : children.isEmpty with
  | true =>
    rw [List.isEmpty_iff.mp hempty]
    rfl
  | false =>
    obtain ⟨child, hchild, hsolid⟩ := List.any_eq_true.mp (hv.2 hempty)
    have hvisible := isVisible_of_isSolid (s := s) (hall child hchild) hsolid
    rw [List.any_eq_true.mpr ⟨child, hchild, hvisible⟩]
    rfl

mutual

theorem emit_verbatim (parent : Option String) (node : Node)
    (h : ∀ n ∈ node.subtree, n.IsVerbatim) :
    (s.emit parent node).markup = node.markup ∧ (s.emit parent node).warnings = [] := by
  match node with
  | .text content =>
    have hplain : content.toList.all isPlain = true := h _ (List.mem_singleton_self _)
    rw [emit, Node.markup, escapeText_eq_self_iff.mpr hplain]
    exact ⟨rfl, rfl⟩
  | .comment content => exact (h _ (List.mem_singleton_self _)).elim
  | .element name attributes children =>
    obtain ⟨hself, hbelow⟩ := List.forall_mem_cons.mp h
    obtain ⟨hmarkup, hwarnings⟩ := emitAll_verbatim name children hbelow
    have hblank : allBlank (s.emitAll name children).markup = children.isEmpty :=
      allBlank_of_verbatim hself fun n hn => hbelow n (mem_subtreeAll hn)
    rw [emit_component hself.1, emitComponent, Node.markup_element, hblank, hmarkup]
    refine ⟨?_, hwarnings⟩
    cases children <;> rfl

theorem emitAll_verbatim (parent : String) (nodes : List Node)
    (h : ∀ n ∈ subtreeAll nodes, n.IsVerbatim) :
    (s.emitAll parent nodes).markup = markupAll nodes ∧
      (s.emitAll parent nodes).warnings = [] := by
  match nodes with
  | [] => rw [emitAll, markupAll]; exact ⟨rfl, rfl⟩
  | node :: rest =>
    rw [subtreeAll, List.forall_mem_append] at h
    obtain ⟨hmarkup, hwarnings⟩ := emit_verbatim (some parent) node h.1
    obtain ⟨hrest, hothers⟩ := emitAll_verbatim parent rest h.2
    rw [emitAll, Emission.append, markupAll, hmarkup, hrest, hwarnings, hothers]
    exact ⟨rfl, rfl⟩

end

/-- **Components are written as they are printed.** For a component whose elements are all
components, none of them with blank content or a comment, and whose texts need no escaping, the walk
writes what the printer prints, inside the wrappers of the component, and gives no advice; one that
stands by itself in a document comes out as it is printed. -/
theorem emitRoot_verbatim (s : Setting) (e : Element) (h : ∀ n ∈ e.toNode.subtree, n.IsVerbatim) :
    (s.emitRoot e.toNode).markup = Component.wrapRoot e.name e.outerMarkup ∧
      (s.emitRoot e.toNode).warnings = [] ∧
      (e.name = "mjml" ∨ e.name = "mj-body" → (s.emitRoot e.toNode).markup = e.outerMarkup) := by
  have hcomponent : Component.isComponent e.name = true := (List.forall_mem_cons.mp h).1.1
  obtain ⟨hmarkup, hwarnings⟩ := emit_verbatim (s := s) none e.toNode h
  have htag : (s.emit none e.toNode).tag = some e.name := by
    rw [Element.toNode, emit_component hcomponent, emitComponent]
  have hroot : (s.emitRoot e.toNode).markup = Component.wrapRoot e.name e.outerMarkup := by
    rw [emitRoot, htag, Element.outerMarkup, ← hmarkup]
  have hadvice : (s.emitRoot e.toNode).warnings = [] := by
    rw [emitRoot, htag, ← hwarnings]
  refine ⟨hroot, hadvice, ?_⟩
  rintro (hname | hname)
  · rw [hroot, hname, Component.wrapRoot_of_free (by decide) (by decide)]
  · rw [hroot, hname, Component.wrapRoot_of_free (by decide) (by decide)]

/-- A button with a quoted title and an image that is empty, under a mapping for images. -/
theorem emitRoot_verbatim_button :
    let button : Element := ⟨"mj-button", Dict.ofList [("title", "a \"b\" & c")],
      [.text "\n go ", .element "mj-image" ∅ [], .text " "]⟩
    (∀ n ∈ button.toNode.subtree, n.IsVerbatim) ∧
      (Setting.emitRoot { registry := ⟨Dict.ofList [("mj-image", { target := "x" })]⟩ }
        button.toNode).markup
        = "<mj-section><mj-column><mj-button title=\"a &quot;b&quot; &amp; c\">\n go <mj-image /> "
          ++ "</mj-button></mj-column></mj-section>" := by
  intro button
  have hall : ∀ n ∈ button.toNode.subtree, n.IsVerbatim := by decide +kernel
  exact ⟨hall, (emitRoot_verbatim _ button hall).1.trans (by decide +kernel)⟩

end Setting

end Lettermill
