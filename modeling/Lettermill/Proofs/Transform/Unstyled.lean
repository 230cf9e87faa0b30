import Lettermill.Proofs.Document.Rewriting
import Lettermill.Proofs.Transform.Component
import Lettermill.Proofs.Transform.Layering
/-! Documents without their CSS. The texts of style elements are blanked, and the `style` attribute is
taken from every element that is neither a link nor a component. The built-in transforms copy the
`style` attribute or pass over it, so nothing of it comes through to what is written when styles are
left alone; only the transform of links looks at it. Main statement: what is written for a document is
what is written for the document without its CSS. -/
namespace Lettermill
set_option autoImplicit false
open Text

/-! ## Documents -/

/-- Is the `style` attribute of an element with this name nothing but CSS? Links are told in any case,
as mappings are looked up, and components by their exact names. -/
def dropsStyle (name : String) : Bool := !Component.isComponent name && !sameLetters name "a"

/-- Attributes without `style`. -/
def Dict.unstyled (attributes : Attributes) : Attributes := attributes.filterKeys (· != "style")

/-- The attributes of an element called `name` without CSS. -/
def unstyledAttributes (name : String) (attributes : Attributes) : Attributes :=
  if dropsStyle name then attributes.unstyled else attributes

mutual

/-- A node without CSS; `inSheet` says whether it stands below a style element. -/
def Node.unstyled (inSheet : Bool) : Node → Node
  | .element name attributes children =>
    .element name (unstyledAttributes name attributes)
      (unstyledAll (inSheet || sameLetters name "style") children)
  | .text content => .text (if inSheet then "" else content)
  | .comment content => .comment content

def unstyledAll (inSheet : Bool) : List Node → List Node
  | [] => []
  | node :: rest => node.unstyled inSheet :: unstyledAll inSheet rest

end

theorem unstyledAll_eq_map (inSheet : Bool) (nodes : List Node) :
    unstyledAll inSheet nodes = nodes.map (Node.unstyled inSheet) := by
  induction nodes with
  | nil => rfl
  | cons node rest ih => rw [unstyledAll, ih, List.map_cons]

/-- The document without CSS: two documents for which it is the same differ only in the texts below
style elements and in the `style` attributes of elements that are neither links nor components. -/
def Document.unstyled (d : Document) : Document := d.rewritten (Node.unstyled false)

theorem rewrites_unstyled : Rewrites (Node.unstyled false) Dict.unstyled where
  isNamed node := by cases node <;> rfl
  skeleton own attributes children h := by
    have hlink : sameLetters own "a" = false := not_sameLetters_of_skeleton h (by decide)
    have hsheet : sameLetters own "style" = false := not_sameLetters_of_skeleton h (by decide)
    have hdrops : dropsStyle own = true := by
      rw [dropsStyle, Component.isComponent_of_skeleton h, hlink]
      rfl
    rw [Node.unstyled, hsheet, Bool.or_false, unstyledAll_eq_map, unstyledAttributes, if_pos hdrops]
  bare := rfl

/-! ## Mappings -/

/-- The outcome without `style`. -/
def Outcome.unstyled : Outcome → Outcome
  | .restyle attributes => .restyle attributes.unstyled
  | .retarget tag attributes => .retarget tag attributes.unstyled

/-- Does it make no difference to a mapping whether `style` is taken from the source or from what
becomes of it? -/
def Mapping.OverlooksStyle (m : Mapping) : Prop :=
  ∀ source, m.apply source.unstyled = (m.apply source).unstyled

namespace Builtin

theorem get?_unstyled {name : String} (h : name ≠ "style") (attrs : Attributes) :
    attrs.unstyled.get? name = attrs.get? name := by
  rw [Dict.unstyled, Dict.get?_filterKeys, if_pos (bne_iff_ne.mpr h)]

theorem mentions_unstyled {name : String} (h : name ≠ "style") (attrs : Attributes)
    (pieces : List String) : mentions attrs.unstyled name pieces = mentions attrs name pieces := by
  rw [mentions, mentions, get?_unstyled h]

theorem overlooks_plain {m : Mapping} (h : m.transform = none) : m.OverlooksStyle := by
  intro source
  rw [Mapping.apply, Mapping.apply, h]
  rfl

theorem heading_unstyled (size : String) (attrs : Attributes) :
    heading size attrs.unstyled = (heading size attrs).unstyled := by
  rw [heading, heading, Outcome.unstyled, Dict.unstyled, Dict.unstyled, Dict.filterKeys_insert,
    Dict.filterKeys_insert]
  rfl

theorem division_unstyled (attrs : Attributes) : division attrs.unstyled = (division attrs).unstyled := by
  rw [division, division, mentions_unstyled (by decide)]
  split <;> rfl

theorem image_unstyled (attrs : Attributes) : image attrs.unstyled = (image attrs).unstyled := by
  have hkept : (["src", "alt", "width", "height"].filterMap fun name =>
      (attrs.unstyled.get? name).map fun value => (name, value))
      = ["src", "alt", "width", "height"].filterMap fun name =>
        (attrs.get? name).map fun value => (name, value) := by
    refine List.filterMap_congr fun name hname => ?_
    have hother : name ≠ "style" := by rintro rfl; exact absurd hname (by decide)
    rw [get?_unstyled hother]
  have hkeys : ∀ p ∈ (["src", "alt", "width", "height"].filterMap fun name =>
      (attrs.get? name).map fun value => (name, value))
        ++ if attrs.get? "responsive" = some "true" then [("fluid", "true")] else [],
      (p.1 != "style") = true := by
    intro p hp
    rcases List.mem_append.mp hp with hp | hp
    · obtain ⟨name, hname, hvalue⟩ := List.mem_filterMap.mp hp
      obtain ⟨value, -, rfl⟩ := Option.map_eq_some_iff.mp hvalue
      have hall : ∀ name ∈ ["src", "alt", "width", "height"], (name != "style") = true := by decide
      exact hall name hname
    · split at hp
      · rw [List.mem_singleton.mp hp]
        decide
      · exact absurd hp List.not_mem_nil
  rw [image, image, hkept, get?_unstyled (by decide), Outcome.unstyled, Dict.unstyled, Dict.ofList,
    Dict.filterKeys_insertAll, List.filter_eq_self.mpr hkeys]
  rfl

theorem spacer_unstyled (attrs : Attributes) : spacer attrs.unstyled = (spacer attrs).unstyled := by
  rw [spacer, spacer, Outcome.unstyled, Dict.unstyled, Dict.unstyled, Dict.filterKeys_overlay]
  rfl

theorem simulatedInput_unstyled (attrs : Attributes) :
    simulatedInput attrs.unstyled = (simulatedInput attrs).unstyled := by
  rw [simulatedInput, simulatedInput, Outcome.unstyled, Dict.unstyled, Dict.unstyled,
    Dict.filterKeys_insert]
  rfl

/-- Every built-in mapping overlooks the `style` attribute, but for that of links. -/
theorem overlooksStyle {key : String} {m : Mapping} (h : mapping? key = some m) (ha : key ≠ "a") :
    m.OverlooksStyle := by
  unfold mapping? at h
  split at h <;> cases h
  all_goals
    first
    | exact absurd rfl ha
    | exact overlooks_plain rfl
    | exact heading_unstyled _
    | exact division_unstyled
    | exact image_unstyled
    | exact spacer_unstyled
    | exact simulatedInput_unstyled

end Builtin

/-- Mappings by which CSS is of no account: style elements are left out, and no element but a link
looks at its `style` attribute. -/
structure Registry.IgnoresCss (r : Registry) : Prop where
  sheet (name : String) (h : sameLetters name "style" = true) : (r.lookup name).omitted = true
  element (name : String) (h : sameLetters name "a" = false) : (r.lookup name).OverlooksStyle

theorem Registry.ignoresCss_builtin {r : Registry} (h : ∀ tag, r.lookup tag = Registry.new.lookup tag) :
    r.IgnoresCss where
  sheet name hname := by
    have hlower : lower name = "style" := beq_iff_eq.mp hname
    rw [h, lookup, explicit?, hlower]
    rfl
  element name hname := by
    have hlower : lower name ≠ "a" := beq_eq_false_iff_ne.mp hname
    have hbuiltin : Registry.new.explicit? name = Builtin.mapping? (lower name) := rfl
    rw [h, lookup, hbuiltin]
    cases hm : Builtin.mapping? (lower name) with
    | none => exact Builtin.overlooks_plain rfl
    | some m => exact Builtin.overlooksStyle hm hlower

/-! ## Elements -/

theorem Component.not_sheet {name : String} (h : isComponent name = true) :
    sameLetters name "style" = false := by
  cases hs : sameLetters name "style" with
  | false => rfl
  | true =>
    have hlower : lower name = "style" := beq_iff_eq.mp hs
    have hc := isComponent_lower h
    rw [hlower] at hc
    exact absurd hc (by decide +kernel)

namespace Setting
variable {s : Setting}

theorem styled_unstyled (hoff : s.inlineStyles = false) (source : Attributes) :
    s.styled source.unstyled = s.styled source := by
  rw [styled, styled, hoff, Builtin.get?_unstyled (by decide)]

theorem consumed_unstyled (attributes : Attributes) :
    attributes.unstyled.filterKeys (fun name => !consumed.contains name)
      = attributes.filterKeys fun name => !consumed.contains name := by
  have hkeep : ∀ name : String, (name != "style" && !consumed.contains name)
      = !consumed.contains name := by
    intro name
    by_cases hstyle : name = "style" <;> simp [consumed, hstyle]
  rw [Dict.unstyled, Dict.filterKeys_filterKeys]
  simp only [hkeep]

theorem layered_unstyled (hoff : s.inlineStyles = false) (source : Attributes) (outcome : Outcome) :
    s.layered source.unstyled outcome.unstyled = s.layered source outcome := by
  have hattributes : outcome.unstyled.attributes = outcome.attributes.unstyled := by
    cases outcome <;> rfl
  rw [layered, layered, styled_unstyled hoff, hattributes, consumed_unstyled]

/-- The tag and the attributes that are written for an element do not depend on its CSS. -/
theorem written_unstyled (hr : s.registry.IgnoresCss) (hoff : s.inlineStyles = false) {name : String}
    (hc : Component.isComponent name = false) (source : Attributes) (target : String) :
    ((s.registry.lookup name).apply (unstyledAttributes name source)).tag target
      = ((s.registry.lookup name).apply source).tag target ∧
    s.layered (unstyledAttributes name source)
        ((s.registry.lookup name).apply (unstyledAttributes name source))
      = s.layered source ((s.registry.lookup name).apply source) := by
  rw [unstyledAttributes, dropsStyle, hc, Bool.not_false, Bool.true_and]
  cases hlink : sameLetters name "a" with
  | true => exact ⟨rfl, rfl⟩
  | false =>
    rw [Bool.not_false, if_pos rfl, hr.element name hlink source, layered_unstyled hoff]
    refine ⟨?_, rfl⟩
    cases (s.registry.lookup name).apply source <;> rfl

mutual

/-- A node is written as it is without its CSS. -/
theorem emit_unstyled (hr : s.registry.IgnoresCss) (hoff : s.inlineStyles = false)
    (parent : Option String) (node : Node) :
    s.emit parent (node.unstyled false) = s.emit parent node := by
  match node with
  | .text content => rw [Node.unstyled]; rfl
  | .comment content => rw [Node.unstyled]
  | .element name attributes children =>
    rw [Node.unstyled, Bool.false_or]
    cases hc : Component.isComponent name with
    | true =>
      have hbelow := emitAll_unstyled hr hoff name children
      rw [Component.not_sheet hc, unstyledAttributes, dropsStyle, hc, emit_component hc,
        emit_component hc, hbelow]
      rfl
    | false =>
      cases ho : s.registry.leavesOut name with
      | true => rw [emit_leftOut ho, emit_leftOut ho]
      | false =>
        have hkept : (s.registry.lookup name).omitted = false := by
          rwa [Registry.leavesOut, hc, Bool.not_false, Bool.true_and] at ho
        have hsheet : sameLetters name "style" = false := by
          rw [← Bool.not_eq_true]
          intro hs
          rw [hr.sheet name hs] at hkept
          cases hkept
        obtain ⟨htag, hattributes⟩ := written_unstyled hr hoff hc attributes
          (s.registry.lookup name).target
        have hbelow := emitAll_unstyled hr hoff name children
        rw [hsheet]
        simp only [emit, hc, hkept, Bool.false_eq_true, if_false, htag, hattributes, hbelow]

theorem emitAll_unstyled (hr : s.registry.IgnoresCss) (hoff : s.inlineStyles = false)
    (parent : String) (nodes : List Node) :
    s.emitAll parent (unstyledAll false nodes) = s.emitAll parent nodes := by
  match nodes with
  | [] => rw [unstyledAll]
  | node :: rest =>
    rw [unstyledAll, emitAll, emitAll, emit_unstyled hr hoff, emitAll_unstyled hr hoff]

end

/-- **CSS has no effect on a document.** What is written for it, and the advice on it, are what they
are for the document without its CSS. -/
theorem emitDocument_unstyled (hr : s.registry.IgnoresCss) (hoff : s.inlineStyles = false)
    (d : Document) : s.emitDocument d.unstyled = s.emitDocument d := by
  have hroot : s.emitRoot ∘ Node.unstyled false = s.emitRoot := by
    funext node
    rw [Function.comp_apply, emitRoot, emitRoot, emit_unstyled hr hoff]
  have hfragment : s.emitFragment (d.nodes.map (Node.unstyled false)) = s.emitFragment d.nodes := by
    rw [emitFragment, emitFragment, List.foldr_map]
    exact congrArg (fun write => d.nodes.foldr (fun node rest => (write node).append rest) {}) hroot
  have htop := topLevelNode?_rewritten rewrites_unstyled d
  rw [emitDocument, emitDocument, Document.unstyled, htop, htop, ← Option.map_or]
  cases (d.topLevelNode? "html").or (d.topLevelNode? "body") with
  | none => exact hfragment
  | some root => exact congrFun hroot root

end Setting

end Lettermill
