import Lettermill.Dict
/-! What an HTML tag becomes: the target component, an optional transform of its attributes, and a
few structural switches. A transform is a function of the source attributes; it either restyles
them or sends the element to another component. -/
namespace Lettermill
set_option autoImplicit false

inductive Outcome where
  /-- Stay with the target tag of the mapping. -/
  | restyle (attributes : Attributes)
  /-- Use another target tag. -/
  | retarget (tag : String) (attributes : Attributes)

namespace Outcome

def attributes : Outcome → Attributes
  | restyle attributes => attributes
  | retarget _ attributes => attributes

def tag (target : String) : Outcome → String
  | restyle _ => target
  | retarget tag _ => tag

end Outcome

/-- How one HTML tag is turned into mail markup. -/
structure Mapping where
  /-- The component to write. -/
  target : String
  /-- How attributes change; without one they are copied. -/
  transform : Option (Attributes → Outcome) := none
  /-- Write a tag that closes itself even when the element has children. -/
  selfClosing : Bool := false
  /-- Written by the rules for tables and lists. -/
  special : Bool := false
  isInline : Bool := false
  /-- A tag to put around content that is not blank. -/
  container : Option String := none
  /-- Advice given whenever the element is converted. -/
  warning : Option String := none
  /-- Write nothing for the element. -/
  omitted : Bool := false

namespace Mapping

def apply (m : Mapping) (source : Attributes) : Outcome :=
  match m.transform with
  | some transform => transform source
  | none => .restyle source

end Mapping

end Lettermill
