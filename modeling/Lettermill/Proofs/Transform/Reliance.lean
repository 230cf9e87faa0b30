import Lettermill.Proofs.Document.Printer
import Lettermill.Proofs.Transform.Advice
/-! What the markup of nodes relies on. Of the mappings it is those of the elements that are no
components, and of the class styles those of the classes that these elements list; the advice of a
mapping does not matter for markup. So two settings that treat the elements of some nodes alike write
the same for them. -/
namespace Lettermill
set_option autoImplicit false
open Text

/-! ## Elements that are converted -/

/-- The classes that an element lists. -/
def Element.classes (e : Element) : List String := ((e.attribute? "class").map words).getD []

/-- The elements among some nodes that are no components. -/
def convertedOf (nodes : List Node) : List Element :=
  (nodes.filterMap Node.asElement?).filter fun e => !Component.isComponent e.name

/-- The elements at or below a node that are no components. -/
def Node.converted (node : Node) : List Element := convertedOf node.subtree

/-- The elements at or below some nodes that are no components. -/
def convertedAll (nodes : List Node) : List Element := convertedOf (subtreeAll nodes)

theorem convertedAll_cons (node : Node) (rest : List Node) :
    convertedAll (node :: rest) = node.converted ++ convertedAll rest := by
  rw [convertedAll, subtreeAll, convertedOf, List.filterMap_append, List.filter_append]
  rfl

theorem convertedAll_eq_flatMap (nodes : List Node) :
    convertedAll nodes = nodes.flatMap Node.converted := by
  induction nodes with
  | nil => rfl
  | cons node rest ih => rw [convertedAll_cons, List.flatMap_cons, ih]

theorem convertedAll_append (front back : List Node) :
    convertedAll (front ++ back) = convertedAll front ++ convertedAll back := by
  simp only [convertedAll_eq_flatMap, List.flatMap_append]

theorem not_component_of_mem {nodes : List Node} {e : Element} (h : e ∈ convertedAll nodes) :
    Component.isComponent e.name = false := by
  rw [convertedAll, convertedOf, List.mem_filter, Bool.not_eq_true'] at h
  exact h.2

theorem convertedAll_mono {nodes more : List Node} (h : nodes ⊆ more) :
    convertedAll nodes ⊆ convertedAll more := by
  intro e he
  rw [convertedAll_eq_flatMap, List.mem_flatMap] at he ⊢
  obtain ⟨node, hin, he⟩ := he
  exact ⟨node, h hin, he⟩

theorem Document.chosenNodes_subset (d : Document) : d.chosenNodes ⊆ d.nodes := by
  rw [chosenNodes]
  cases hroot : (d.topLevelNode? "html").or (d.topLevelNode? "body") with
  | none => exact List.Subset.refl _
  | some root =>
    intro node hnode
    rw [List.mem_singleton.mp hnode]
    rcases Option.or_eq_some_iff.mp hroot with hfound | ⟨-, hfound⟩
    · exact List.mem_of_find?_eq_some hfound
    · exact List.mem_of_find?_eq_some hfound

section Element
variable {name : String} {attributes : Attributes} {children : List Node}

theorem converted_component (h : Component.isComponent name = true) :
    (Node.element name attributes children).converted = convertedAll children := by
  simp [Node.converted, Node.subtree, convertedOf, convertedAll, Node.asElement?, h]

theorem converted_element (h : Component.isComponent name = false) :
    (Node.element name attributes children).converted
      = ⟨name, attributes, children⟩ :: convertedAll children := by
  simp [Node.converted, Node.subtree, convertedOf, convertedAll, Node.asElement?, h]

end Element

/-! ## Mappings without advice -/

/-- The mapping without its advice. -/
def Mapping.silent (m : Mapping) : Mapping := { m with warning := none }

theorem Mapping.eq_of_silent {m n : Mapping} (h : m.silent = n.silent) :
    n = { m with warning := n.warning } := by
  obtain ⟨target, transform, selfClosing, special, isInline, container, warning, omitted⟩ := m
  obtain ⟨target', transform', selfClosing', special', isInline', container', warning',
    omitted'⟩ := n
  simp only [silent, Mapping.mk.injEq] at h
  obtain ⟨rfl, rfl, rfl, rfl, rfl, rfl, -, rfl⟩ := h
  rfl

/-! ## Settings that treat elements alike -/

namespace Setting
variable {s t : Setting}

/-- Two settings treat an element alike when they have the same switches, the same mapping for it but
for its advice, and the same styles for its classes. -/
structure Alike (s t : Setting) (e : Element) : Prop where
  inlineStyles : s.inlineStyles = t.inlineStyles
  preserveClassNames : s.preserveClassNames = t.preserveClassNames
  mapping : (s.registry.lookup e.name).silent = (t.registry.lookup e.name).silent
  styles : ∀ cls ∈ e.classes, s.styles.get? cls = t.styles.get? cls

theorem apply_congr {styles others : ClassStyles} {names : String}
    (h : ∀ cls ∈ words names, styles.get? cls = others.get? cls) (base : Attributes) :
    styles.apply base names = others.apply base names := by
  rw [ClassStyles.apply, ClassStyles.apply]
  generalize words names = classes at h
  induction classes generalizing base with
  | nil => rfl
  | cons cls rest ih =>
    rw [List.forall_mem_cons] at h
    rw [List.foldl_cons, List.foldl_cons, h.1, ih _ h.2]

theorem Alike.styled {e : Element} (h : s.Alike t e) :
    s.styled e.attributes = t.styled e.attributes := by
  have hstyles := h.styles
  rw [Element.classes, Element.attribute?] at hstyles
  rw [Setting.styled, Setting.styled, h.inlineStyles, h.preserveClassNames]
  cases hcls : e.attributes.get? "class" with
  | none => cases t.inlineStyles <;> rfl
  | some names =>
    rw [hcls] at hstyles
    have hruled : s.styles.apply ∅ names = t.styles.apply ∅ names := apply_congr hstyles ∅
    cases t.inlineStyles with
    | false => rfl
    | true => simp only [hruled]

section Element
variable {name : String} {attributes : Attributes} {children : List Node}

theorem Alike.leavesOut (h : s.Alike t ⟨name, attributes, children⟩) :
    s.registry.leavesOut name = t.registry.leavesOut name := by
  rw [Registry.leavesOut, Registry.leavesOut, Mapping.eq_of_silent h.mapping]

theorem Alike.tagFor (h : s.Alike t ⟨name, attributes, children⟩) :
    s.registry.tagFor name attributes = t.registry.tagFor name attributes := by
  rw [Registry.tagFor, Registry.tagFor, Mapping.eq_of_silent h.mapping]
  rfl

theorem Alike.attributesFor (h : s.Alike t ⟨name, attributes, children⟩) :
    s.attributesFor name attributes = t.attributesFor name attributes := by
  have hstyled : s.styled attributes = t.styled attributes := h.styled
  rw [Setting.attributesFor, Setting.attributesFor, layered, layered, hstyled,
    Mapping.eq_of_silent h.mapping]
  rfl

theorem Alike.emitMapped (h : s.Alike t ⟨name, attributes, children⟩) :
    emitMapped (s.registry.lookup name) = emitMapped (t.registry.lookup name) := by
  rw [Mapping.eq_of_silent h.mapping]
  rfl

end Element

mutual

/-- A node is written the same, under the same tag, if its elements are treated alike. -/
theorem emit_alike (parent : Option String) (node : Node)
    (h : ∀ e ∈ node.converted, s.Alike t e) :
    (s.emit parent node).tag = (t.emit parent node).tag ∧
      (s.emit parent node).markup = (t.emit parent node).markup := by
  match node with
  | .text content => rw [emit, emit]; exact ⟨rfl, rfl⟩
  | .comment content => rw [emit, emit]; exact ⟨rfl, rfl⟩
  | .element name attributes children =>
    cases hc : Component.isComponent name with
    | true =>
      rw [converted_component hc] at h
      have hbelow := emitAll_alike name children h
      rw [emit_component hc, emit_component hc, emitComponent, emitComponent, hbelow]
      exact ⟨rfl, rfl⟩
    | false =>
      rw [converted_element hc, List.forall_mem_cons] at h
      obtain ⟨hown, hchildren⟩ := h
      have hbelow := emitAll_alike name children hchildren
      have hout := hown.leavesOut
      cases ho : t.registry.leavesOut name with
      | true =>
        rw [emit_leftOut (hout.trans ho), emit_leftOut ho]
        exact ⟨rfl, rfl⟩
      | false =>
        have hkept := hout.trans ho
        constructor
        · rw [(emit_mapped hc hkept).1, (emit_mapped hc ho).1, hown.tagFor]
        · rw [(emit_mapped hc hkept).2, (emit_mapped hc ho).2, hown.emitMapped, hown.tagFor,
            hown.attributesFor, hbelow]

theorem emitAll_alike (parent : String) (nodes : List Node)
    (h : ∀ e ∈ convertedAll nodes, s.Alike t e) :
    (s.emitAll parent nodes).markup = (t.emitAll parent nodes).markup := by
  match nodes with
  | [] => rw [emitAll, emitAll]
  | node :: rest =>
    rw [convertedAll_cons, List.forall_mem_append] at h
    rw [emitAll, emitAll, Emission.append, Emission.append, (emit_alike (some parent) node h.1).2,
      emitAll_alike parent rest h.2]

end

theorem emitRoot_alike {node : Node} (h : ∀ e ∈ node.converted, s.Alike t e) :
    (s.emitRoot node).markup = (t.emitRoot node).markup := by
  obtain ⟨htag, hmarkup⟩ := emit_alike none node h
  rw [emitRoot, emitRoot, htag]
  cases (t.emit none node).tag with
  | none => exact hmarkup
  | some tag => exact congrArg (Component.wrapRoot tag) hmarkup

theorem emitFragment_alike {nodes : List Node} (h : ∀ e ∈ convertedAll nodes, s.Alike t e) :
    (s.emitFragment nodes).markup = (t.emitFragment nodes).markup := by
  induction nodes with
  | nil => rfl
  | cons node rest ih =>
    rw [convertedAll_cons, List.forall_mem_append] at h
    exact congrArg₂ (· ++ ·) (emitRoot_alike h.1) (ih h.2)

theorem emitFragment_tag (nodes : List Node) : (s.emitFragment nodes).tag = none := by
  cases nodes <;> rfl

theorem emitDocument_markup (d : Document) :
    (s.emitDocument d).markup = (s.emitFragment d.chosenNodes).markup := by
  rw [emitDocument, Document.chosenNodes]
  cases (d.topLevelNode? "html").or (d.topLevelNode? "body") with
  | none => rfl
  | some root => exact String.append_empty.symm

theorem emitDocument_alike {d : Document} (h : ∀ e ∈ convertedAll d.nodes, s.Alike t e) :
    (s.emitDocument d).markup = (t.emitDocument d).markup := by
  rw [emitDocument_markup, emitDocument_markup]
  exact emitFragment_alike fun e he => h e (convertedAll_mono d.chosenNodes_subset he)

end Setting

/-! ## Advice -/

namespace Registry
variable {r q : Registry}

mutual

theorem advice_congr (node : Node) (h : ∀ e ∈ node.converted, r.lookup e.name = q.lookup e.name) :
    (r.visited node).filterMap r.adviceFor = (q.visited node).filterMap q.adviceFor := by
  match node with
  | .text content => rw [visited, visited]; rfl
  | .comment content => rw [visited, visited]; rfl
  | .element name attributes children =>
    rw [visited, visited, List.filterMap_cons, List.filterMap_cons]
    cases hc : Component.isComponent name with
    | true =>
      rw [converted_component hc] at h
      have hbelow := adviceOn_congr children h
      rw [adviceFor, adviceFor, leavesOut, leavesOut, hc]
      exact hbelow
    | false =>
      rw [converted_element hc, List.forall_mem_cons] at h
      obtain ⟨hown, hchildren⟩ := h
      have hbelow := adviceOn_congr children hchildren
      have hadvice : r.adviceFor name = q.adviceFor name := by rw [adviceFor, adviceFor, hown]
      have hout : r.leavesOut name = q.leavesOut name := by rw [leavesOut, leavesOut, hown]
      rw [adviceOn, adviceOn] at hbelow
      rw [hadvice, hout]
      cases q.leavesOut name with
      | true => rfl
      | false => simp only [Bool.false_eq_true, if_false, hbelow]

theorem adviceOn_congr (nodes : List Node)
    (h : ∀ e ∈ convertedAll nodes, r.lookup e.name = q.lookup e.name) :
    r.adviceOn nodes = q.adviceOn nodes := by
  match nodes with
  | [] => rfl
  | node :: rest =>
    rw [convertedAll_cons, List.forall_mem_append] at h
    rw [adviceOn_cons, adviceOn_cons, advice_congr node h.1, adviceOn_congr rest h.2]

end

end Registry

/-- Nodes are written the same, with the same advice, if their elements are treated alike and have the
same mappings. -/
theorem Setting.emitFragment_congr {s t : Setting} {nodes : List Node}
    (halike : ∀ e ∈ convertedAll nodes, s.Alike t e)
    (hlookup : ∀ e ∈ convertedAll nodes, s.registry.lookup e.name = t.registry.lookup e.name) :
    s.emitFragment nodes = t.emitFragment nodes := by
  have htag : (s.emitFragment nodes).tag = (t.emitFragment nodes).tag := by
    rw [emitFragment_tag, emitFragment_tag]
  have hmarkup := emitFragment_alike halike
  have hadvice : (s.emitFragment nodes).warnings = (t.emitFragment nodes).warnings := by
    rw [emitFragment_warnings, emitFragment_warnings]
    exact Registry.adviceOn_congr nodes hlookup
  cases hother : t.emitFragment nodes
  rw [hother] at htag hmarkup hadvice
  subst htag hmarkup hadvice
  rfl

theorem Setting.emitDocument_advice {s t : Setting} {d : Document}
    (h : ∀ e ∈ convertedAll d.nodes, s.registry.lookup e.name = t.registry.lookup e.name) :
    (s.emitDocument d).warnings = (t.emitDocument d).warnings := by
  rw [emitDocument_warnings, emitDocument_warnings]
  exact Registry.adviceOn_congr _ fun e he => h e (convertedAll_mono d.chosenNodes_subset he)

end Lettermill
