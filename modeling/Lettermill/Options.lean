import Lettermill.Mapping.Basic
import Lettermill.Warning
/-! The switches of one conversion, and its result. -/
namespace Lettermill
set_option autoImplicit false

structure Options where
  /-- Hand the markup to the compiler. -/
  validateOutput : Bool := true
  /-- Copy the source class into `css-class`. -/
  preserveClassNames : Bool := false
  /-- Resolve CSS into attributes. -/
  inlineStyles : Bool := true
  /-- Mappings that hold for this conversion only. -/
  customMappings : Dict Mapping := ∅
  /-- Give a document without an `html` root one. -/
  wrapContent : Bool := true
  /-- Log the warnings. -/
  showWarnings : Bool := true
  /-- Compile a mail document that was passed through, too. -/
  validatePassthrough : Bool := false
  deriving Inhabited

inductive OutputKind where
  /-- Mail markup: compiling was off, skipped or failed. -/
  | mjml
  /-- HTML rendered by the compiler. -/
  | html
  deriving DecidableEq, Repr, Inhabited

def OutputKind.name : OutputKind → String
  | .mjml => "mjml"
  | .html => "html"

structure Conversion where
  output : String
  kind : OutputKind
  warnings : List Warning := []
  deriving DecidableEq, Repr, Inhabited

def Conversion.isHtml (c : Conversion) : Bool := c.kind == .html

end Lettermill
