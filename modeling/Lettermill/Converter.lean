import Lettermill.Compiler.Basic
import Lettermill.Document.Outside
import Lettermill.Document.Root
import Lettermill.Html.Reader
import Lettermill.Style.Sheet
import Lettermill.Transform.Basic
/-! One conversion from end to end: read the input, collect the style blocks, give the document a
root, write it as mail markup or pass an embedded mail document through, and hand the markup to the
compiler. Only a reader that fails and mappings that are refused make a conversion fail. -/
namespace Lettermill
set_option autoImplicit false

/-- Said when an embedded mail document is kept and something around it is not. -/
def discardedMessage : String :=
  "Content outside the <mjml> root was discarded; only the MJML document is passed through."

inductive ConvertError where
  | malformedInput (cause : InputError)
  | invalidMapping (cause : MappingError)
  /-- Reading input or writing output failed. -/
  | io (reason : String)
  deriving DecidableEq, Repr

def ConvertError.message : ConvertError → String
  | .malformedInput cause => "malformed input: " ++ cause.message
  | .invalidMapping cause => "invalid mapping: " ++ cause.message
  | .io reason => "I/O error: " ++ reason

/-- The reader of HTML, which only ever refuses input. -/
def Html.reader (limit : Nat) (source : String) : Except ConvertError Document :=
  (read limit source).mapError .malformedInput

/-- What conversions are made with: the mappings, a reader of HTML and perhaps a compiler. -/
structure Converter where
  registry : Registry := .new
  parse : String → Except ConvertError Document := Html.reader Html.defaultLimit
  compiler : Option Compiler := none

/-! ## Styles -/

def StyleError.warning (e : StyleError) : Warning :=
  { message := "Failed to parse <style> block: " ++ e.message }

/-- Folds style blocks into one; a block with an error contributes nothing but a warning. -/
def collectBlocks (styles : ClassStyles) : List String → ClassStyles × List Warning
  | [] => (styles, [])
  | css :: rest =>
    match ClassStyles.ofSheet css with
    | .ok block => collectBlocks (styles.merge block) rest
    | .error e =>
      let (collected, warnings) := collectBlocks styles rest
      (collected, e.warning :: warnings)

def Document.collectStyles (d : Document) : ClassStyles × List Warning :=
  collectBlocks ∅ d.styleBlocks

/-! ## Markup -/

namespace Setting

/-- Writes a document: from its `html` root, else from its top-level `body`, else every top-level
node in turn. -/
def emitDocument (s : Setting) (d : Document) : Emission :=
  match (d.topLevelNode? "html").or (d.topLevelNode? "body") with
  | some root => s.emitRoot root
  | none => s.emitFragment d.nodes

end Setting

/-- Mail markup before any compiling, and whether it was in the input already. -/
structure Draft where
  markup : String
  passedThrough : Bool
  warnings : List Warning := []

def Draft.isToCompile (d : Draft) (options : Options) : Bool :=
  options.validateOutput && (!d.passedThrough || options.validatePassthrough)

namespace Converter

/-- The embedded mail document as it stands, with a warning when anything is left behind. -/
def passThrough (d : Document) (path : Path) (root : Element) : Draft :=
  { markup := root.outerMarkup
    passedThrough := true
    warnings := if d.hasContentOutside path then [{ message := discardedMessage }] else [] }

def transform (c : Converter) (options : Options) (styles : ClassStyles) (d : Document) :
    Except MappingError Draft := do
  let registry ← c.registry.withOverrides options.customMappings
  let setting : Setting :=
    { registry, styles, inlineStyles := options.inlineStyles
      preserveClassNames := options.preserveClassNames }
  let emission := setting.emitDocument d
  return { markup := emission.markup, passedThrough := false, warnings := emission.warnings }

/-- The markup of a document, with the advice on its styles first. -/
def draft (c : Converter) (options : Options) (d : Document) : Except MappingError Draft := do
  let (styles, advice) := if options.inlineStyles then d.collectStyles else (∅, [])
  let rooted := if options.wrapContent then d.normalized else d
  -- A mail document is found, and what is around it judged, once the root is in place.
  let drawn ← match rooted.locate? "mjml" with
    | some (path, root) => pure (passThrough rooted path root)
    | none => c.transform options styles rooted
  return { drawn with markup := Text.trim drawn.markup, warnings := advice ++ drawn.warnings }

def finish (c : Converter) (options : Options) (d : Draft) : Conversion :=
  if d.isToCompile options then
    let compiled := compileOrKeep c.compiler d.markup
    { compiled with warnings := d.warnings ++ compiled.warnings }
  else { output := d.markup, kind := .mjml, warnings := d.warnings }

def convertDocument (c : Converter) (options : Options) (d : Document) :
    Except MappingError Conversion :=
  (c.draft options d).map (c.finish options)

def draftText (c : Converter) (options : Options) (html : String) : Except ConvertError Draft := do
  let d ← c.parse html
  (c.draft options d).mapError .invalidMapping

/-- Converts HTML: the output, its kind and every warning. -/
def convertDetailed (c : Converter) (options : Options) (html : String) :
    Except ConvertError Conversion :=
  (c.draftText options html).map (c.finish options)

def convert (c : Converter) (options : Options) (html : String) : Except ConvertError String :=
  (c.convertDetailed options html).map Conversion.output

end Converter

end Lettermill
