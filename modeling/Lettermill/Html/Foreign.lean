import Lettermill.Html.Construction
/-! Drawings and formulas inside HTML: which tokens belong to them, how their names regain capitals
that HTML text has lost, and which start tags end them. -/
namespace Lettermill.Html
set_option autoImplicit false

namespace Foreign

def svgNames : List String := [
  "altGlyph", "altGlyphDef", "altGlyphItem", "animateColor", "animateMotion", "animateTransform",
  "clipPath", "feBlend", "feColorMatrix", "feComponentTransfer", "feComposite",
  "feConvolveMatrix", "feDiffuseLighting", "feDisplacementMap", "feDistantLight", "feDropShadow",
  "feFlood", "feFuncA", "feFuncB", "feFuncG", "feFuncR", "feGaussianBlur", "feImage", "feMerge",
  "feMergeNode", "feMorphology", "feOffset", "fePointLight", "feSpecularLighting", "feSpotLight",
  "feTile", "feTurbulence", "foreignObject", "glyphRef", "linearGradient", "radialGradient",
  "textPath"]

def svgAttrs : List String := [
  "attributeName", "attributeType", "baseFrequency", "baseProfile", "calcMode", "clipPathUnits",
  "diffuseConstant", "edgeMode", "filterUnits", "glyphRef", "gradientTransform", "gradientUnits",
  "kernelMatrix", "kernelUnitLength", "keyPoints", "keySplines", "keyTimes", "lengthAdjust",
  "limitingConeAngle", "markerHeight", "markerUnits", "markerWidth", "maskContentUnits",
  "maskUnits", "numOctaves", "pathLength", "patternContentUnits", "patternTransform",
  "patternUnits", "pointsAtX", "pointsAtY", "pointsAtZ", "preserveAlpha", "preserveAspectRatio",
  "primitiveUnits", "refX", "refY", "repeatCount", "repeatDur", "requiredExtensions",
  "requiredFeatures", "specularConstant", "specularExponent", "spreadMethod", "startOffset",
  "stdDeviation", "stitchTiles", "surfaceScale", "systemLanguage", "tableValues", "targetX",
  "targetY", "textLength", "viewBox", "viewTarget", "xChannelSelector", "yChannelSelector",
  "zoomAndPan"]

/-- Attributes of other vocabularies, which are known by the name behind their colon. -/
def qualified : List (String × String) := [
  ("xlink:actuate", "actuate"), ("xlink:arcrole", "arcrole"), ("xlink:href", "href"),
  ("xlink:role", "role"), ("xlink:show", "show"), ("xlink:title", "title"),
  ("xlink:type", "type"), ("xml:lang", "lang"), ("xml:space", "space"), ("xmlns", "xmlns"),
  ("xmlns:xlink", "xlink")]

/-- The name among `names` that is `name` but for capitals, or `name` itself. -/
def restored (names : List String) (name : String) : String :=
  (names.find? fun n => Text.lower n = name).getD name

def attrName (vocabulary : Vocabulary) (name : String) : String :=
  let name := match vocabulary with
    | .svg => restored svgAttrs name
    | .mathml => if name = "definitionurl" then "definitionURL" else name
    | .html => name
  ((qualified.find? fun q => q.1 = name).map Prod.snd).getD name

def elementName (vocabulary : Vocabulary) (name : String) : ElementName :=
  { vocabulary, name := if vocabulary = .svg then restored svgNames name else name }

def endedBy : List String := [
  "b", "big", "blockquote", "body", "br", "center", "code", "dd", "div", "dl", "dt", "em", "embed",
  "h1", "h2", "h3", "h4", "h5", "h6", "head", "hr", "i", "img", "li", "listing", "menu", "meta",
  "nobr", "ol", "p", "pre", "ruby", "s", "small", "span", "strong", "strike", "sub", "sup", "table",
  "tt", "u", "ul", "var"]

def isEndedBy (tag : Tag) : Bool :=
  endedBy.contains tag.name
    || (tag.name = "font" && tag.attrs.any fun a => ["color", "face", "size"].contains a.1)

/-- Does HTML text go on inside this MathML element, as its `encoding` says? -/
def holdsHtml (attrs : List (String × String)) : Bool :=
  attrs.any fun a => a.1 = "encoding"
    && ["text/html", "application/xhtml+xml"].contains (Text.lower a.2)

end Foreign

def Construction.isForeign (s : Construction) (t : Token) : Bool :=
  let name := s.currentName
  if s.stack.isEmpty || name.vocabulary = .html then false
  else
    let isText := match t with | .text _ => true | _ => false
    let start? := match t with | .startTag tag => some tag.name | _ => none
    let annotation := name = { vocabulary := .mathml, name := "annotation-xml" }
    match t with
    | .eof => false
    | _ =>
      if ElementSet.mathText name
          && (isText || (match start? with
            | some tag => tag != "mglyph" && tag != "malignmark"
            | none => false)) then false
      else if ElementSet.svgHtml name && (isText || start?.isSome) then false
      else if annotation && start? = some "svg" then false
      else if annotation && (isText || start?.isSome) then
        !Foreign.holdsHtml (s.draft.attrsOf s.current)
      else true

namespace Build
open Construction

/-- Puts a foreign element in place; one that closes itself does not stay open. -/
def insertForeign (vocabulary : Vocabulary) (tag : Tag) : Rule := do
  let attrs := tag.attrs.map fun a => (Foreign.attrName vocabulary a.1, a.2)
  let _ ← insertNamed (Foreign.elementName vocabulary tag.name) attrs (!tag.selfClosing)
  done

/-- Puts the root of a drawing or formula in place, whose name has no capitals. -/
def enterForeign (vocabulary : Vocabulary) (tag : Tag) : Rule := insertForeign vocabulary tag

inductive ForeignEnd where
  | ignored
  /-- The rules of HTML apply. -/
  | asHtml
  /-- These elements stay open. -/
  | closes (rest : List PartId)

/-- Looks from the innermost element outwards for one that the end tag names. -/
def foreignEnd (s : Construction) (name : String) : Bool → List PartId → ForeignEnd
  | _, [] => .ignored
  | _, [_] => .ignored
  | innermost, id :: rest =>
    let own := s.draft.nameOf id
    if !innermost && own.vocabulary = .html then .asHtml
    else if Text.sameLetters own.name name then .closes rest
    else foreignEnd s name false rest

/-- The rule for a token in foreign content; `asHtml` is the rule that holds in HTML. -/
def inForeign (asHtml : Token → Rule) (t : Token) : Rule := do
  let leave : Rule := do
    popTo fun e => e.vocabulary = .html || ElementSet.mathText e || ElementSet.svgHtml e
    asHtml t
  match t with
  | .text text => do
    if text.any fun c => !Text.isAsciiBlank c then noFrameset
    keepText text
  | .comment text => addComment text
  | .startTag tag =>
    if Foreign.isEndedBy tag then leave
    else insertForeign (← get).currentName.vocabulary tag
  | .endTag name =>
    if name = "br" || name = "p" then leave
    else
      let s ← get
      match foreignEnd s name true s.stack with
      | .ignored => done
      | .asHtml => asHtml t
      | .closes rest => set { s with stack := rest }; done
  | _ => done

end Build

end Lettermill.Html
