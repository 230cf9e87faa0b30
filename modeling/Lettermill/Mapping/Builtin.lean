import Lettermill.Mapping.Basic
import Lettermill.Text.Letters
/-! The built-in mappings. Each is found under its lower-case tag; a tag without an entry becomes
text. -/
namespace Lettermill.Builtin
set_option autoImplicit false

/-! ## Advice -/

def formWarning : String :=
  "Forms are not fully supported in email. Converting to visual representation only."

def inputWarning : String :=
  "Input elements are not supported in email. Converting to visual representation only."

def scriptWarning : String := "Script elements are not supported in email and were removed."

/-! ## Transforms -/

/-- Headings get the size of their level and are bold. -/
def heading (size : String) (attrs : Attributes) : Outcome :=
  .restyle ((attrs.insert "font-size" size).insert "font-weight" "bold")

/-- Has the attribute `name` a value in which one of `pieces` occurs? -/
def mentions (attrs : Attributes) (name : String) (pieces : List String) : Bool :=
  match attrs.get? name with
  | some value => pieces.any fun piece => Text.occurs piece value
  | none => false

/-- A `div` whose class speaks of columns is a column, and else a section. -/
def division (attrs : Attributes) : Outcome :=
  if mentions attrs "class" ["column", "col"] then .retarget "mj-column" attrs
  else .restyle attrs

/-- A link that is dressed as a button stays one; any other link is text. -/
def link (attrs : Attributes) : Outcome :=
  if mentions attrs "class" ["button", "btn"] || mentions attrs "style" ["background", "padding"]
  then .restyle attrs
  else .retarget "mj-text" attrs

/-- Images keep the few attributes that the component knows; `responsive` makes them fluid. -/
def image (attrs : Attributes) : Outcome :=
  let kept := ["src", "alt", "width", "height"].filterMap fun name =>
    (attrs.get? name).map fun value => (name, value)
  let fluid := if attrs.get? "responsive" = some "true" then [("fluid", "true")] else []
  .restyle (Dict.ofList (kept ++ fluid))

/-- A line break is a gap of a set height, unless the source says otherwise. -/
def spacer (attrs : Attributes) : Outcome :=
  .restyle ((Dict.ofList [("height", "20px")]).overlay attrs)

/-- An input field is marked so that it can be styled as a look-alike. -/
def simulatedInput (attrs : Attributes) : Outcome :=
  .restyle (attrs.insert "css-class" "form-input-simulation")

/-! ## The table -/

def headingMapping (size : String) : Mapping :=
  { target := "mj-text", transform := some (heading size) }

def fallback : Mapping := { target := "mj-text" }

/-- The built-in mapping of a tag, which is given in lower case. -/
def mapping? : String → Option Mapping
  -- structure
  | "html" => some { target := "mjml" }
  | "head" => some { target := "mj-head" }
  | "title" => some { target := "mj-title" }
  | "body" => some { target := "mj-body" }
  -- content
  | "div" => some { target := "mj-section", transform := some division }
  | "p" => some { target := "mj-text" }
  | "h1" => some (headingMapping "28px")
  | "h2" => some (headingMapping "24px")
  | "h3" => some (headingMapping "20px")
  | "h4" => some (headingMapping "18px")
  | "h5" => some (headingMapping "16px")
  | "h6" => some (headingMapping "14px")
  | "span" => some { target := "mj-text", isInline := true }
  | "a" => some { target := "mj-button", transform := some link }
  | "img" => some { target := "mj-image", transform := some image, selfClosing := true }
  | "table" => some { target := "mj-table", special := true }
  | "button" => some { target := "mj-button" }
  | "hr" => some { target := "mj-divider", selfClosing := true }
  | "br" => some { target := "mj-spacer", transform := some spacer, selfClosing := true }
  | "ul" => some { target := "mj-text", special := true }
  | "ol" => some { target := "mj-text", special := true }
  | "li" => some { target := "mj-text", isInline := true, special := true }
  -- look-alikes
  | "form" => some { target := "mj-section", warning := some formWarning }
  | "input" =>
    some { target := "mj-text", transform := some simulatedInput, warning := some inputWarning }
  -- nothing to show
  | "style" => some { target := "mj-style", omitted := true }
  | "script" => some { target := "mj-raw", omitted := true, warning := some scriptWarning }
  | "meta" => some { target := "mj-raw", omitted := true }
  | "link" => some { target := "mj-raw", omitted := true }
  | "base" => some { target := "mj-raw", omitted := true }
  | _ => none

end Lettermill.Builtin
