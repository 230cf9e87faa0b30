import Lettermill.Dict
import Lettermill.Style.Property
import Lettermill.Text.Blank
import Lettermill.Text.Letters
/-! Declarations, the `property: value` pairs of CSS, and what the text of a `style` attribute
resolves to. Such a text is cut at every semicolon and then at the first colon; a piece without a
colon, without a property or without a value is skipped, and the rest still counts. -/
namespace Lettermill.Style
set_option autoImplicit false

structure Declaration where
  property : String
  value : String
  deriving DecidableEq, Repr

/-- A trimmed value without the `!important` at its end: the word in any case, blanks and an
exclamation mark before it. Only one such mark is dropped. -/
def dropImportant (value : List Char) : List Char :=
  match Text.afterLetters? "tnatropmi".toList value.reverse with
  | none => value
  | some front =>
    match front.dropWhile Text.isBlank with
    | '!' :: before => (before.dropWhile Text.isBlank).reverse
    | _ => value

def valueOf (source : List Char) : List Char := dropImportant (Text.trimChars source)

/-- The declaration written in one piece between semicolons. -/
def Declaration.ofPiece? (piece : List Char) : Option Declaration :=
  match Text.cutOnce? ':' piece with
  | none => none
  | some (name, rest) =>
    let property := Text.lowerChars (Text.trimChars name)
    let value := valueOf rest
    if property.isEmpty || value.isEmpty then none
    else some ⟨String.ofList property, String.ofList value⟩

def Declaration.ofStyle (style : String) : List Declaration :=
  (Text.cutAt ';' style.toList).filterMap Declaration.ofPiece?

/-- The attribute that a declaration sets, if the table knows its property. -/
def Declaration.attribute? (d : Declaration) : Option (String × String) :=
  (attributeFor? d.property).map fun name => (name, d.value)

/-- What declarations set, the later ones winning. -/
def resolveDeclarations (ds : List Declaration) : Attributes :=
  Dict.ofList (ds.filterMap Declaration.attribute?)

def resolveInline (style : String) : Attributes := resolveDeclarations (Declaration.ofStyle style)

end Lettermill.Style
