import Lettermill.Mapping.Builtin
import Lettermill.Text.Blank
/-! The mappings in force: those that were registered, over the built-in ones, over the fallback.
Looking a tag up never fails; registering fails for a blank tag or a blank target. -/
namespace Lettermill
set_option autoImplicit false

inductive MappingError where
  | emptyTag
  | emptyTarget (key : String)
  /-- What is not said by a registry. -/
  | other (reason : String)
  deriving DecidableEq, Repr

def MappingError.message : MappingError → String
  | .emptyTag => "mapping tag must not be empty"
  | .emptyTarget key => "mapping for '" ++ key ++ "' has an empty target tag"
  | .other reason => reason

/-- The registered mappings, by normalized tag. -/
structure Registry where
  custom : Dict Mapping := ∅
  deriving Inhabited

namespace Registry

def new : Registry := {}

/-- The registered mapping of a tag, or else the built-in one. -/
def explicit? (r : Registry) (tag : String) : Option Mapping :=
  let key := Text.lower tag
  (r.custom.get? key).or (Builtin.mapping? key)

/-- The mapping of a tag: registered, built-in, or the fallback. -/
def lookup (r : Registry) (tag : String) : Mapping := (r.explicit? tag).getD Builtin.fallback

def has (r : Registry) (tag : String) : Bool := (r.explicit? tag).isSome

/-- The key under which a tag is registered. -/
def keyOf (tag : String) : String := Text.lower (Text.trim tag)

def refusal? (tag : String) (m : Mapping) : Option MappingError :=
  if keyOf tag = "" then some .emptyTag
  else if Text.allBlank m.target then some (.emptyTarget (keyOf tag))
  else none

/-- Registers a mapping for a tag, in place of any earlier one. -/
def register (r : Registry) (tag : String) (m : Mapping) : Except MappingError Registry :=
  match refusal? tag m with
  | some e => .error e
  | none => .ok ⟨r.custom.insert (keyOf tag) m⟩

/-- Registers several mappings in order, up to the first that is refused: the registry reached and
that refusal, if there was one. -/
def registerEach (r : Registry) : List (String × Mapping) → Registry × Option MappingError
  | [] => (r, none)
  | (tag, m) :: rest =>
    match r.register tag m with
    | .ok next => next.registerEach rest
    | .error e => (r, some e)

/-- A registry with `overrides` registered on top, or the first refusal among them. -/
def withOverrides (r : Registry) (overrides : Dict Mapping) : Except MappingError Registry :=
  match r.registerEach overrides.entries with
  | (next, none) => .ok next
  | (_, some e) => .error e

def customTags (r : Registry) : List String := r.custom.keys.mergeSort fun a b => decide (a ≤ b)

end Registry

end Lettermill
