import Lettermill.Dict
import Lettermill.Text.Blank
/-! Styles by class name. There is no cascade: a class resolves to attributes by its exact name, and
an element takes those of its classes in the order in which it lists them. -/
namespace Lettermill
set_option autoImplicit false

/-- Class names, without the dot, and the attributes that their rules set. -/
structure ClassStyles where
  classes : Dict Attributes := ∅
  deriving Inhabited

namespace ClassStyles

def empty : ClassStyles := {}

instance : EmptyCollection ClassStyles := ⟨empty⟩

def get? (styles : ClassStyles) (cls : String) : Option Attributes := styles.classes.get? cls

def size (styles : ClassStyles) : Nat := styles.classes.size

def isEmpty (styles : ClassStyles) : Bool := styles.classes.isEmpty

/-- Lays attributes over those that `cls` has already. -/
def assign (styles : ClassStyles) (cls : String) (attributes : Attributes) : ClassStyles :=
  ⟨styles.classes.insert cls (((styles.get? cls).getD ∅).overlay attributes)⟩

/-- Folds in the styles of a later block, which win class by class and attribute by attribute. -/
def merge (styles later : ClassStyles) : ClassStyles :=
  later.classes.entries.foldl (fun styles (cls, attributes) => styles.assign cls attributes) styles

/-- Lays the styles of each class listed in `classValue` over `base`, in that order. -/
def apply (styles : ClassStyles) (base : Attributes) (classValue : String) : Attributes :=
  (Text.words classValue).foldl
    (fun attributes cls => ((styles.get? cls).map attributes.overlay).getD attributes) base

end ClassStyles

end Lettermill
