import Lettermill.Document.Basic
import Lettermill.Markup
/-! Writing a document back as markup. An element without children closes itself; text is escaped,
comments are written as they are. -/
namespace Lettermill
set_option autoImplicit false

mutual

def Node.markup : Node → String
  | .element name attributes children =>
    match children with
    | [] => Markup.selfClosing name attributes
    | child :: rest => Markup.full name attributes (child.markup ++ markupAll rest)
  | .text content => Markup.escapeText content
  | .comment content => "<!--" ++ content ++ "-->"

def markupAll : List Node → String
  | [] => ""
  | node :: rest => node.markup ++ markupAll rest

end

def Element.outerMarkup (e : Element) : String := e.toNode.markup

mutual

/-- The text below a node, comments left out. -/
def Node.textContent : Node → String
  | .element _ _ children => textContentAll children
  | .text content => content
  | .comment _ => ""

def textContentAll : List Node → String
  | [] => ""
  | node :: rest => node.textContent ++ textContentAll rest

end

def Element.textContent (e : Element) : String := textContentAll e.children

end Lettermill
