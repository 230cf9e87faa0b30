import Lettermill.Markup
/-! Tables and lists. They always get a start and an end tag; items of an unordered list start with
a bullet, and items of an ordered list get no number. -/
namespace Lettermill.Listing
set_option autoImplicit false

def bullet : String := "• "

/-- Markup of a table, a list or a list item: `source` is the tag that was read, `target` the one
to write, and `parent` the tag of the element around it. -/
def emit (source target : String) (attrs : Attributes) (content : String) (parent : Option String) :
    String :=
  if source = "li" && parent == some "ul" then Markup.full target attrs (bullet ++ content)
  else Markup.full target attrs content

end Lettermill.Listing
