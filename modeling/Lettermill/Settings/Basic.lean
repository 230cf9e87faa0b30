import Lettermill.Mapping.Registry
import Lettermill.Options
import Lettermill.Settings.Decode
/-! The settings: the switches of conversions, where the compiler is, and mappings. Settings are
read from a table of values; the mappings in them are registered in the order of their tags. -/
namespace Lettermill
set_option autoImplicit false
open Settings (Group LoadError Value)

/-- The switches of conversions, and the size of the largest input. -/
structure ConvertSettings where
  validateOutput : Bool
  preserveClassNames : Bool
  inlineStyles : Bool
  wrapContent : Bool
  showWarnings : Bool
  validatePassthrough : Bool
  maxInputBytes : Nat
  deriving DecidableEq, Repr

structure CompilerSettings where
  /-- Look for it where programs are looked for. -/
  searchPath : Bool
  /-- The program, when it is given. -/
  binary : Option String
  deriving DecidableEq, Repr

structure MappingSettings where
  target : String
  selfClosing : Bool := false
  special : Bool := false
  isInline : Bool := false
  omitted : Bool := false
  container : Option String := none
  warning : Option String := none
  /-- Values put over the attributes of the element. -/
  attributes : Attributes := ∅

structure Settings where
  convert : ConvertSettings
  compiler : CompilerSettings
  mappings : Dict MappingSettings := ∅

def Dict.sorted {α : Type} (d : Dict α) : List (String × α) :=
  d.entries.mergeSort fun a b => decide (a.1 ≤ b.1)

/-! ## Reading -/

namespace Settings

def readConvert (v : Value) : Except LoadError ConvertSettings := do
  let g ← Group.ofValue "ConvertConfig" ["validate-output", "preserve-class-names",
    "inline-styles", "wrap-content", "show-warnings", "validate-passthrough",
    "max-input-bytes"] v
  let validateOutput ← g.read? "validate-output" Value.asBool
  let preserveClassNames ← g.read? "preserve-class-names" Value.asBool
  let inlineStyles ← g.read? "inline-styles" Value.asBool
  let wrapContent ← g.read? "wrap-content" Value.asBool
  let showWarnings ← g.read? "show-warnings" Value.asBool
  let validatePassthrough ← g.read? "validate-passthrough" Value.asBool
  let maxInputBytes ← g.read? "max-input-bytes" Value.asSize
  return {
    validateOutput := ← g.need "validate-output" validateOutput
    preserveClassNames := ← g.need "preserve-class-names" preserveClassNames
    inlineStyles := ← g.need "inline-styles" inlineStyles
    wrapContent := ← g.need "wrap-content" wrapContent
    showWarnings := ← g.need "show-warnings" showWarnings
    validatePassthrough := ← g.need "validate-passthrough" validatePassthrough
    maxInputBytes := ← g.need "max-input-bytes" maxInputBytes }

def readCompiler (v : Value) : Except LoadError CompilerSettings := do
  let g ← Group.ofValue "CompilerConfig" ["search-path", "binary"] v
  let searchPath ← g.read? "search-path" Value.asBool
  let binary ← g.read? "binary" Value.asText?
  return { searchPath := ← g.need "search-path" searchPath, binary := binary.join }

/-- Reads a mapping. Only its target has to be given. -/
def readMapping (v : Value) : Except LoadError MappingSettings := do
  let g ← Group.ofValue "MappingConfig" ["mjml-tag", "self-closing", "special", "inline", "omit",
    "container", "warning", "attributes"] v
  let target ← g.read? "mjml-tag" Value.asText
  let selfClosing ← g.read? "self-closing" Value.asBool
  let special ← g.read? "special" Value.asBool
  let isInline ← g.read? "inline" Value.asBool
  let omitted ← g.read? "omit" Value.asBool
  let container ← g.read? "container" Value.asText?
  let warning ← g.read? "warning" Value.asText?
  let attributes ← g.read? "attributes" (Value.asMap Value.asText)
  return {
    target := ← g.need "mjml-tag" target
    selfClosing := selfClosing.getD false
    special := special.getD false
    isInline := isInline.getD false
    omitted := omitted.getD false
    container := container.join
    warning := warning.join
    attributes := attributes.getD ∅ }

def read (v : Value) : Except LoadError Settings := do
  let g ← Group.ofValue "Html2MjmlConfig" ["convert", "compiler", "mappings"] v
  let convert ← g.read? "convert" readConvert
  let compiler ← g.read? "compiler" readCompiler
  let mappings ← g.read? "mappings" (Value.asMap readMapping)
  return {
    convert := ← g.need "convert" convert
    compiler := ← g.need "compiler" compiler
    mappings := mappings.getD ∅ }

end Settings

/-! ## Using -/

def ConvertSettings.options (s : ConvertSettings) : Options :=
  { validateOutput := s.validateOutput
    preserveClassNames := s.preserveClassNames
    inlineStyles := s.inlineStyles
    wrapContent := s.wrapContent
    showWarnings := s.showWarnings
    validatePassthrough := s.validatePassthrough }

namespace MappingSettings

/-- The attributes of an element with the set values over them, put in the order of their names. -/
def restyle (s : MappingSettings) (source : Attributes) : Outcome :=
  .restyle (source.insertAll s.attributes.sorted)

/-- The mapping that is described. Without attributes of its own it has no transform. -/
def mapping (s : MappingSettings) : Mapping :=
  { target := s.target
    transform := if s.attributes.isEmpty then none else some s.restyle
    selfClosing := s.selfClosing
    special := s.special
    isInline := s.isInline
    container := s.container
    warning := s.warning
    omitted := s.omitted }

end MappingSettings

/-- Registers the mappings in the order of their tags, up to the first that is refused. -/
def Settings.register (s : Settings) (r : Registry) : Registry × Option MappingError :=
  r.registerEach (s.mappings.sorted.map fun (tag, m) => (tag, m.mapping))

end Lettermill
