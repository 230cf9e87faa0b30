import Lettermill.Document.Basic
import Lettermill.Mapping.Registry
import Lettermill.Options
import Lettermill.Style.ClassStyles
import Lettermill.Style.Declaration
import Lettermill.Transform.Listing
import Lettermill.Transform.Repair
/-! From a document to mail markup, by a walk in document order. Components pass through with their
attributes; any other element is written as its mapping says. The attributes of an element come in
layers, each over those before it: class rules in the order of the classes, the `style` attribute,
the class itself as `css-class`, and the outcome of the mapping's transform. The source attributes
`style` and `class` end in those layers and are never copied. -/
namespace Lettermill
set_option autoImplicit false

/-- What a walk depends on: the mappings, the class styles and two switches. -/
structure Setting where
  registry : Registry := .new
  styles : ClassStyles := ∅
  inlineStyles : Bool := true
  preserveClassNames : Bool := false

/-- What was written for nodes: the tag, when it is one element, the markup and the advice. -/
structure Emission where
  tag : Option String := none
  markup : String := ""
  warnings : List Warning := []
  deriving Inhabited

namespace Emission

def raw (markup : String) : Emission := { markup }

/-- The second emission behind the first, as a piece without a tag. -/
def append (a b : Emission) : Emission :=
  { markup := a.markup ++ b.markup, warnings := a.warnings ++ b.warnings }

end Emission

namespace Setting

/-- The source attributes that are consumed by styling. -/
def consumed : List String := ["style", "class"]

/-- The attributes that styling gives an element: class rules, its own style, its class. -/
def styled (s : Setting) (source : Attributes) : Attributes :=
  let cls := source.get? "class"
  let ruled := match s.inlineStyles, cls with
    | true, some names => s.styles.apply ∅ names
    | _, _ => ∅
  let inlined := match s.inlineStyles, source.get? "style" with
    | true, some style => ruled.overlay (Style.resolveInline style)
    | _, _ => ruled
  match s.preserveClassNames, cls with
  | true, some names => inlined.insert "css-class" names
  | _, _ => inlined

/-- The attributes to write for an element, given what its transform made of the source. -/
def layered (s : Setting) (source : Attributes) (outcome : Outcome) : Attributes :=
  (s.styled source).overlay (outcome.attributes.filterKeys fun name => !consumed.contains name)

/-- A component with its content; blank content makes it close itself. -/
def emitComponent (name : String) (attrs : Attributes) (content : Emission) : Emission :=
  { content with
    tag := some name
    markup :=
      if Text.allBlank content.markup then Markup.selfClosing name attrs
      else Markup.full name attrs content.markup }

/-- The markup of a converted element: written by the rules for lists, closing itself, or around
its content, which may get a container. -/
def emitMapped (m : Mapping) (source target : String) (attrs : Attributes) (content : String)
    (parent : Option String) : String :=
  if m.special then Listing.emit source target attrs content parent
  else
    let held := match m.container with
      | some container => if Text.allBlank content then content else Markup.wrap container content
      | none => content
    if m.selfClosing || Text.allBlank held then Markup.selfClosing target attrs
    else Markup.full target attrs held

def advice (m : Mapping) (name : String) : List Warning :=
  match m.warning with
  | some message => [{ message, element := some name }]
  | none => []

mutual

/-- Writes a node that stands inside the element `parent`, or at the top. -/
def emit (s : Setting) (parent : Option String) : Node → Emission
  | .text content => .raw content
  | .comment content => .raw ("<!-- " ++ content ++ " -->")
  | .element name attributes children =>
    if Component.isComponent name then
      emitComponent name attributes (s.emitAll name children)
    else
      let m := s.registry.lookup name
      -- What is inside an omitted element is not visited, so it gives no advice.
      if m.omitted then { warnings := advice m name }
      else
        let outcome := m.apply attributes
        let target := outcome.tag m.target
        let content := s.emitAll name children
        { tag := some target
          markup := emitMapped m name target (s.layered attributes outcome) content.markup parent
          warnings := advice m name ++ content.warnings }

def emitAll (s : Setting) (parent : String) : List Node → Emission
  | [] => {}
  | node :: rest => (s.emit (some parent) node).append (s.emitAll parent rest)

end

/-- Writes a node that has no parent, inside the wrappers that its tag needs. -/
def emitRoot (s : Setting) (node : Node) : Emission :=
  let emission := s.emit none node
  match emission.tag with
  | some tag => { emission with markup := Component.wrapRoot tag emission.markup }
  | none => emission

def emitFragment (s : Setting) (nodes : List Node) : Emission :=
  nodes.foldr (fun node rest => (s.emitRoot node).append rest) {}

end Setting

end Lettermill
