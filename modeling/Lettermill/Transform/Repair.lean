import Lettermill.Markup
/-! Which component may stand where. Content components live in columns and columns in sections;
markup that is written without a parent gets the wrappers that it lacks. Tags that already are
components are recognized by their name. -/
namespace Lettermill.Component
set_option autoImplicit false

def isComponent (tag : String) : Bool := tag = "mjml" || tag.startsWith "mj-"

/-- The components that stand directly inside a column. -/
def columnChildren : List String := [
  "mj-text", "mj-image", "mj-button", "mj-divider", "mj-spacer", "mj-table", "mj-social",
  "mj-navbar"]

def needsColumn (tag : String) : Bool := columnChildren.contains tag

def needsSection (tag : String) : Bool := tag = "mj-column" || tag = "mj-group"

/-- Markup written as `tag` without a parent, inside the wrappers that it needs. -/
def wrapRoot (tag markup : String) : String :=
  if needsColumn tag then Markup.wrap "mj-section" (Markup.wrap "mj-column" markup)
  else if needsSection tag then Markup.wrap "mj-section" markup
  else markup

end Lettermill.Component
