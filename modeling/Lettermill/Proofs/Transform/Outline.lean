import Lettermill.Proofs.Markup.Reading
import Lettermill.Transform.Basic
/-! What is written for a document, told from the tree alone: which elements come out, under which
tags, and which text can be seen. The emitter decides by looking at markup that it has already
written; here the same decisions are made by looking at nodes. Only the mappings matter, neither
the styles nor the switches. -/
namespace Lettermill
set_option autoImplicit false
open Text Markup

namespace Component

/-- The components that go around a root with this tag, the outer one first. -/
def wrappers (tag : String) : List String :=
  if needsColumn tag then ["mj-section", "mj-column"]
  else if needsSection tag then ["mj-section"]
  else []

end Component

/-- An element that is written: the name of the element that it is written for, if it is no container,
its tag, and the tags of the elements around it, the innermost first. -/
structure Placement where
  source : Option String
  tag : String
  around : List String
  deriving DecidableEq

/-- What the markup tells of an element that is written. -/
def Placement.site (place : Placement) : Site := (place.tag, place.around)

namespace Registry
variable (r : Registry)

/-! ## One element -/

/-- Is nothing written for elements called `name`? -/
def leavesOut (name : String) : Bool := !Component.isComponent name && (r.lookup name).omitted

/-- Are elements called `name` written without what they hold? -/
def closesOff (name : String) : Bool :=
  !Component.isComponent name && ((r.lookup name).selfClosing && !(r.lookup name).special)

/-- The tag under which an element is written. -/
def tagFor (name : String) (attributes : Attributes) : String :=
  if Component.isComponent name then name
  else ((r.lookup name).apply attributes).tag (r.lookup name).target

/-- The attributes that are written for an element besides its styles. -/
def ownAttributes (name : String) (attributes : Attributes) : Attributes :=
  if Component.isComponent name then attributes
  else ((r.lookup name).apply attributes).attributes.filterKeys fun key =>
    !Setting.consumed.contains key

/-- Can anything be seen of the node? An element that is written shows its tag, at least. -/
def isVisible : Node → Bool
  | .text content => !allBlank content
  | .comment _ => true
  | .element name _ _ => !r.leavesOut name

/-- The tag that is put around the children of an element, if one is. -/
def containerFor (name : String) (children : List Node) : Option String :=
  if Component.isComponent name || (r.lookup name).special || !children.any r.isVisible then none
  else (r.lookup name).container

/-- What is put in front of the content of a list item. -/
def marker (parent : Option String) (name : String) : List Char :=
  if name = "li" ∧ parent = some "ul" ∧ (r.lookup name).special then ['•'] else []

/-! ## The whole tree -/

mutual

/-- The tags of the elements that are written for a node, outer ones before inner ones. -/
def outline : Node → List String
  | .text _ => []
  | .comment _ => []
  | .element name attributes children =>
    if r.leavesOut name then []
    else
      r.tagFor name attributes ::
        if r.closesOff name then []
        else (r.containerFor name children).toList ++ outlineAll children

def outlineAll : List Node → List String
  | [] => []
  | node :: rest => outline node ++ outlineAll rest

end

mutual

/-- The elements that are written for a node inside elements with the tags `around`, outer ones before
inner ones. -/
def places (around : List String) : Node → List Placement
  | .text _ => []
  | .comment _ => []
  | .element name attributes children =>
    if r.leavesOut name then []
    else
      let inside := r.tagFor name attributes :: around
      ⟨some name, r.tagFor name attributes, around⟩ ::
        if r.closesOff name then []
        else
          let container := (r.containerFor name children).toList
          container.map (⟨none, ·, inside⟩) ++ placesAll (container ++ inside) children

def placesAll (around : List String) : List Node → List Placement
  | [] => []
  | node :: rest => places around node ++ placesAll around rest

end

/-- The tags of the elements that are written for a node without a parent. -/
def rootOutline (node : Node) : List String :=
  ((r.outline node).head?.elim [] Component.wrappers) ++ r.outline node

mutual

/-- The text that is shown for a node inside `parent`. -/
def shownText (parent : Option String) : Node → List Char
  | .text content => content.toList
  | .comment _ => []
  | .element name _ children =>
    if r.leavesOut name || r.closesOff name then []
    else r.marker parent name ++ shownTextAll name children

def shownTextAll (parent : String) : List Node → List Char
  | [] => []
  | node :: rest => shownText (some parent) node ++ shownTextAll parent rest

end

mutual

/-- The nodes for which something may be written, in document order. -/
def writtenNodes : Node → List Node
  | .text content => [.text content]
  | .comment content => [.comment content]
  | .element name attributes children =>
    .element name attributes children ::
      if r.leavesOut name || r.closesOff name then [] else writtenNodesAll children

def writtenNodesAll : List Node → List Node
  | [] => []
  | node :: rest => writtenNodes node ++ writtenNodesAll rest

end

theorem writtenNodesAll_eq_flatMap (r : Registry) (nodes : List Node) :
    r.writtenNodesAll nodes = nodes.flatMap r.writtenNodes := by
  induction nodes with
  | nil => rfl
  | cons node rest ih => rw [writtenNodesAll, List.flatMap_cons, ih]

mutual

/-- The outline lists the tags of the elements that are written, wherever the node stands. -/
theorem map_tag_places (around : List String) : ∀ node : Node,
    (r.places around node).map Placement.tag = r.outline node
  | .text _ => rfl
  | .comment _ => rfl
  | .element name attributes children => by
    rw [places, outline]
    split
    · rfl
    · split
      · rfl
      · simp only [List.map_cons, List.map_append, List.map_map, map_tag_placesAll]
        exact congrArg (fun tags => _ :: (tags ++ _)) (List.map_id _)

theorem map_tag_placesAll (around : List String) : ∀ nodes : List Node,
    (r.placesAll around nodes).map Placement.tag = r.outlineAll nodes
  | [] => rfl
  | node :: rest => by
    rw [placesAll, outlineAll, List.map_append, map_tag_places, map_tag_placesAll]

end

/-! ## Fitness -/

/-- Is what is written for the node itself fit to be read back, if an element is written with the
attributes that `attributesFor` gives for its name and attributes? -/
def CanWrite (attributesFor : String → Attributes → Attributes) : Node → Prop
  | .text content => '<' ∉ content.toList
  | .comment content => ¬ commentEnd <:+: content.toList
  | .element name attributes children =>
    r.leavesOut name = false →
      IsTag (r.tagFor name attributes) ∧ Named (attributesFor name attributes) ∧
        ∀ tag ∈ r.containerFor name children, r.closesOff name = false → IsTag tag

instance (attributesFor : String → Attributes → Attributes) :
    DecidablePred (r.CanWrite attributesFor)
  | .text content => inferInstanceAs (Decidable ('<' ∉ content.toList))
  | .comment content => inferInstanceAs (Decidable (¬ commentEnd <:+: content.toList))
  | .element name attributes children =>
    inferInstanceAs (Decidable (r.leavesOut name = false →
      IsTag (r.tagFor name attributes) ∧ Named (attributesFor name attributes) ∧
        ∀ tag ∈ r.containerFor name children, r.closesOff name = false → IsTag tag))

variable {r}

theorem CanWrite.mono {f g : String → Attributes → Attributes}
    (h : ∀ name attributes, Named (f name attributes) → Named (g name attributes)) {node : Node}
    (hf : r.CanWrite f node) : r.CanWrite g node := by
  cases node with
  | text content => exact hf
  | comment content => exact hf
  | element name attributes children =>
    intro ho
    obtain ⟨ht, ha, hc⟩ := hf ho
    exact ⟨ht, h name attributes ha, hc⟩

/-! ## What kind of mapping decides -/

section Kinds
variable {name : String} {parent : Option String}

theorem closesOff_component (h : Component.isComponent name = true) :
    r.closesOff name = false := by simp [closesOff, h]

theorem containerFor_component (h : Component.isComponent name = true) (children : List Node) :
    r.containerFor name children = none := by simp [containerFor, h]

theorem marker_component (h : Component.isComponent name = true) : r.marker parent name = [] := by
  rw [marker, if_neg]
  rintro ⟨rfl, -⟩
  exact absurd h (by decide)

theorem closesOff_special (h : (r.lookup name).special = true) : r.closesOff name = false := by
  simp [closesOff, h]

theorem containerFor_special (h : (r.lookup name).special = true) (children : List Node) :
    r.containerFor name children = none := by simp [containerFor, h]

theorem marker_special (h : (r.lookup name).special = true) :
    r.marker parent name = if name = "li" ∧ parent = some "ul" then ['•'] else [] := by
  simp [marker, h]

theorem marker_plain (h : (r.lookup name).special = false) : r.marker parent name = [] := by
  simp [marker, h]

theorem unblank_marker (parent : Option String) (name : String) (cs : List Char) :
    unblank (r.marker parent name ++ cs) = r.marker parent name ++ unblank cs := by
  rw [unblank_append, marker]
  split <;> rfl

end Kinds

end Registry

/-- The attributes that are written for an element. -/
def Setting.attributesFor (s : Setting) (name : String) (attributes : Attributes) : Attributes :=
  if Component.isComponent name then attributes
  else s.layered attributes ((s.registry.lookup name).apply attributes)

end Lettermill
