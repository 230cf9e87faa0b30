/-! Tables over the code points, in a compact form: the distances between the points at which a
property begins and ceases to hold, written as decimal numbers in rows of text. -/
namespace Lettermill.Text
set_option autoImplicit false

/-- The numbers written in rows, separated by single spaces. -/
def decodeRows (rows : List String) : List Nat :=
  rows.flatMap fun row => (row.splitOn " ").filterMap String.toNat?

/-- Walks over the distances from the last turning point: does the property hold at `n`? `holds`
says whether it does between the last turning point and the next. -/
def holdsFrom (n : Nat) (last : Nat) (holds : Bool) : List Nat → Bool
  | [] => holds
  | d :: ds => if n < last + d then holds else holdsFrom n (last + d) (!holds) ds

def inTable (table : List Nat) (c : Char) : Bool := holdsFrom c.toNat 0 false table

end Lettermill.Text
