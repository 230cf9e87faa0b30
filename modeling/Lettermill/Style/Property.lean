/-! The closed table of CSS properties that mail components have an attribute for. A property that
is not in it is dropped without a word. -/
namespace Lettermill.Style
set_option autoImplicit false

/-- CSS property and component attribute, in the order in which the attributes are listed. -/
def propertyTable : List (String × String) := [
  -- text
  ("color", "color"), ("font-family", "font-family"), ("font-size", "font-size"),
  ("font-style", "font-style"), ("font-weight", "font-weight"), ("line-height", "line-height"),
  ("letter-spacing", "letter-spacing"), ("text-align", "align"),
  ("text-decoration", "text-decoration"), ("text-transform", "text-transform"),
  -- spacing
  ("padding", "padding"), ("padding-top", "padding-top"), ("padding-right", "padding-right"),
  ("padding-bottom", "padding-bottom"), ("padding-left", "padding-left"),
  ("margin", "margin"), ("margin-top", "margin-top"), ("margin-right", "margin-right"),
  ("margin-bottom", "margin-bottom"), ("margin-left", "margin-left"),
  -- layout
  ("width", "width"), ("height", "height"), ("max-width", "max-width"),
  ("background-color", "background-color"), ("background", "background"),
  ("border", "border"), ("border-radius", "border-radius"), ("border-top", "border-top"),
  ("border-right", "border-right"), ("border-bottom", "border-bottom"),
  ("border-left", "border-left"),
  -- section containers
  ("direction", "direction"), ("vertical-align", "vertical-align")]

/-- The component attribute for a property, which is given in lower case. -/
def attributeFor? (property : String) : Option String :=
  (propertyTable.find? fun entry => entry.1 = property).map Prod.snd

def attributeNames : List String := propertyTable.map Prod.snd

end Lettermill.Style
