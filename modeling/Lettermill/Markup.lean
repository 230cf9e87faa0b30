import Lettermill.Dict
/-! Writing markup: escaping of attribute values and of character data, and the three forms a tag
takes. A value is escaped so that it can stand between double quotes; text is escaped less, since
quotes mean nothing there. -/
namespace Lettermill.Markup
set_option autoImplicit false

/-! ## Escaping -/

/-- The written form of a character inside a double-quoted value. -/
def attributeForm : Char → List Char
  | '&' => "&amp;".toList
  | '"' => "&quot;".toList
  | '\'' => "&#39;".toList
  | '<' => "&lt;".toList
  | '>' => "&gt;".toList
  | c => [c]

/-- The written form of a character in running text. -/
def textForm : Char → List Char
  | '&' => "&amp;".toList
  | '<' => "&lt;".toList
  | '>' => "&gt;".toList
  | c => [c]

def escapeAttribute (value : String) : String := String.ofList (value.toList.flatMap attributeForm)

def escapeText (value : String) : String := String.ofList (value.toList.flatMap textForm)

/-! ## Tags -/

def attributePair (name value : String) : String :=
  " " ++ name ++ "=\"" ++ escapeAttribute value ++ "\""

/-- All attributes in their order, each with a space in front. -/
def attributes (attrs : Attributes) : String :=
  String.join (attrs.entries.map fun (name, value) => attributePair name value)

def selfClosing (tag : String) (attrs : Attributes) : String :=
  "<" ++ tag ++ attributes attrs ++ " />"

/-- A start tag, content that is already markup, and the end tag. -/
def full (tag : String) (attrs : Attributes) (content : String) : String :=
  "<" ++ tag ++ attributes attrs ++ ">" ++ content ++ "</" ++ tag ++ ">"

def wrap (tag content : String) : String :=
  "<" ++ tag ++ ">" ++ content ++ "</" ++ tag ++ ">"

end Lettermill.Markup
