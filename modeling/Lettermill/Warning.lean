/-! Warnings: advice collected during a conversion, in order and with repeats, which never changes
the text that is returned. -/
namespace Lettermill
set_option autoImplicit false

/-- One piece of advice, with the source element and the line that it is about, where known. -/
structure Warning where
  message : String
  element : Option String := none
  line : Option Nat := none
  deriving DecidableEq, Repr, Inhabited

namespace Warning

def mark : String := "[html2mjml] WARNING:"

def display (w : Warning) : String :=
  let element := match w.element with
    | some name => " (Element: " ++ name ++ ")"
    | none => ""
  let line := match w.line with
    | some n => " at line " ++ toString n
    | none => ""
  mark ++ " " ++ w.message ++ element ++ line

end Warning

end Lettermill
