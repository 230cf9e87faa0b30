import Lettermill.Mapping.Basic
import Lettermill.Text.Quoted
/-! A mapping as one line of text, for a developer to look at. Whether there is a transform can be
seen, but not what it does. -/
namespace Lettermill.Mapping
set_option autoImplicit false

def field (name value : String) : String := name ++ ": " ++ value

def optional (value : Option String) : String :=
  match value with
  | some text => "Some(" ++ Text.quoted text ++ ")"
  | none => "None"

/-- The mapping as a line of text. -/
def describe (m : Mapping) : String :=
  "ElementMapping \x7b " ++ ", ".intercalate [
    field "mjml_tag" (Text.quoted m.target),
    field "transform" (optional (m.transform.map fun _ => "<fn>")),
    field "self_closing" (toString m.selfClosing),
    field "special" (toString m.special),
    field "inline_element" (toString m.isInline),
    field "children_container" (optional m.container),
    field "warning" (optional m.warning),
    field "omit" (toString m.omitted)] ++ " \x7d"

end Lettermill.Mapping
