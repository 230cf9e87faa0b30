import Lettermill.Html.Draft
/-! Sets of elements that the rules of HTML speak of: those that bound a scope, those that are
closed without an end tag, those that are special, and where foreign content turns back into HTML.
-/
namespace Lettermill.Html
set_option autoImplicit false

abbrev ElementSet := ElementName → Bool

namespace ElementSet

def html (names : List String) : ElementSet := fun e =>
  e.vocabulary = .html && names.contains e.name

def union (a b : ElementSet) : ElementSet := fun e => a e || b e

def mathText : ElementSet := fun e =>
  e.vocabulary = .mathml && ["mi", "mo", "mn", "ms", "mtext"].contains e.name

def svgHtml : ElementSet := fun e =>
  e.vocabulary = .svg && ["foreignObject", "desc", "title"].contains e.name

def scope : ElementSet :=
  union (html ["applet", "caption", "html", "table", "td", "th", "marquee", "object", "template"])
    (union mathText svgHtml)

def listScope : ElementSet := union scope (html ["ol", "ul"])

def buttonScope : ElementSet := union scope (html ["button"])

def tableScope : ElementSet := html ["html", "table", "template"]

/-- What bounds the scope of a selection: all but its groups and options. -/
def selectScope : ElementSet := fun e => !html ["optgroup", "option"] e

def rowGroup : ElementSet := html ["tbody", "tfoot", "thead", "template", "html"]

def rowHolder : ElementSet := html ["tr", "template", "html"]

def cell : ElementSet := html ["td", "th"]

/-- The elements that may not hold text directly, so that it is put in front of the table. -/
def fosters : ElementSet := html ["table", "tbody", "tfoot", "thead", "tr"]

def heading : ElementSet := html ["h1", "h2", "h3", "h4", "h5", "h6"]

def impliedNames : List String :=
  ["dd", "dt", "li", "option", "optgroup", "p", "rb", "rp", "rt", "rtc"]

def implied : ElementSet := html impliedNames

def impliedThoroughly : ElementSet :=
  union implied (html ["caption", "colgroup", "tbody", "td", "tfoot", "th", "thead", "tr"])

/-- The elements that are closed without an end tag, but for one. -/
def impliedBut (name : String) : ElementSet := html (impliedNames.filter (· != name))

def specialNames : List String := [
  "address", "applet", "area", "article", "aside", "base", "basefont", "bgsound", "blockquote",
  "body", "br", "button", "caption", "center", "col", "colgroup", "dd", "details", "dir", "div",
  "dl", "dt", "embed", "fieldset", "figcaption", "figure", "footer", "form", "frame", "frameset",
  "h1", "h2", "h3", "h4", "h5", "h6", "head", "header", "hgroup", "hr", "html", "iframe", "img",
  "input", "isindex", "li", "link", "listing", "main", "marquee", "menu", "meta", "nav", "noembed",
  "noframes", "noscript", "object", "ol", "p", "param", "plaintext", "pre", "script", "section",
  "select", "source", "style", "summary", "table", "tbody", "td", "template", "textarea", "tfoot",
  "th", "thead", "title", "tr", "track", "ul", "wbr", "xmp"]

/-- The elements that formatting does not reach across. -/
def special : ElementSet := html specialNames

/-- The special elements that end the search for an open list item. -/
def specialBlock : ElementSet :=
  html (specialNames.filter fun name => name ∉ ["address", "div", "p"])

end ElementSet

end Lettermill.Html
