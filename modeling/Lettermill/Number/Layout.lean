import Lettermill.Number.Double
/-! Numbers laid out in a field of some width: integers in several bases, and numbers of double
precision with a fixed number of places, with an exponent, or in the shorter of these forms. All of
it is exact; ties go to the even digit. -/
namespace Lettermill
set_option autoImplicit false

structure Layout where
  /-- Are blanks put behind the value? -/
  left : Bool := false
  /-- Do numbers that are not negative have a plus? -/
  plus : Bool := false
  /-- Do numbers that are not negative have a blank? -/
  space : Bool := false
  /-- Is the field filled with zeros? -/
  zeros : Bool := false
  /-- Is the base, or the point, shown in any case? -/
  marked : Bool := false
  width : Nat := 0
  precision : Option Nat := none
  deriving DecidableEq, Repr

namespace Layout

/-- A sign and a body in the field. Zeros stand between them. -/
def fill (l : Layout) (zeros : Bool) (sign body : List Char) : List Char :=
  let missing := l.width - (sign.length + body.length)
  if l.left then sign ++ body ++ List.replicate missing ' '
  else if zeros then sign ++ List.replicate missing '0' ++ body
  else List.replicate missing ' ' ++ sign ++ body

def sign (l : Layout) (negative : Bool) : List Char :=
  if negative then ['-'] else if l.plus then ['+'] else if l.space then [' '] else []

/-! ## Texts and integers -/

def text (l : Layout) (cs : List Char) : List Char :=
  l.fill false [] (match l.precision with
    | some n => cs.take n
    | none => cs)

/-- The digits of a number with leading zeros up to the precision. Of zero, a precision of zero
leaves nothing. -/
def digits (l : Layout) (ds : List Char) : List Char :=
  match l.precision with
  | none => ds
  | some n => if n = 0 ∧ ds = ['0'] then [] else List.replicate (n - ds.length) '0' ++ ds

def integer (l : Layout) (n : Int) : List Char :=
  l.fill (l.zeros && l.precision.isNone) (l.sign (n < 0)) (l.digits (Nat.toDigits 10 n.natAbs))

def natural (l : Layout) (n : Nat) : List Char :=
  l.fill (l.zeros && l.precision.isNone) [] (l.digits (Nat.toDigits 10 n))

def octal (l : Layout) (n : Nat) : List Char :=
  let ds := l.digits (Nat.toDigits 8 n)
  let ds := if l.marked && ds.head? ≠ some '0' then '0' :: ds else ds
  l.fill (l.zeros && l.precision.isNone) [] ds

def hexadecimal (l : Layout) (upper : Bool) (n : Nat) : List Char :=
  let shape (cs : List Char) : List Char := if upper then cs.map Char.toUpper else cs
  let mark := if l.marked && n ≠ 0 then ['0', 'x'] else []
  l.fill (l.zeros && l.precision.isNone) (shape mark) (shape (l.digits (Nat.toDigits 16 n)))

/-! ## Numbers of double precision -/

/-- Digits with a point in front of the last `places` of them. -/
def withPoint (marked : Bool) (places : Nat) (ds : List Char) : List Char :=
  let ds := List.replicate (places + 1 - ds.length) '0' ++ ds
  let whole := ds.take (ds.length - places)
  if places = 0 then if marked then whole ++ ['.'] else whole
  else whole ++ '.' :: ds.drop (ds.length - places)

def fixedDigits (marked : Bool) (num den places : Nat) : List Char :=
  withPoint marked places (Nat.toDigits 10 (Double.roundQuotient (num * Nat.pow 10 places) den))

/-- The digits of a fraction, of which all but one are places, and the exponent of the first. -/
def exponentDigits (num den places : Nat) : Nat × Int :=
  if num = 0 then (0, 0)
  else
    let order := Double.decimalOrder num den
    let (a, b) := Double.overPower 10 num den (order - places)
    let rounded := Double.roundQuotient a b
    if Nat.pow 10 (places + 1) ≤ rounded then (rounded / 10, order + 1) else (rounded, order)

def exponentText (order : Int) : List Char :=
  let ds := Nat.toDigits 10 order.natAbs
  'e' :: (if order < 0 then '-' else '+') :: (List.replicate (2 - ds.length) '0' ++ ds)

def scientificDigits (marked : Bool) (num den places : Nat) : List Char :=
  let (digits, order) := exponentDigits num den places
  withPoint marked places (Nat.toDigits 10 digits) ++ exponentText order

/-- Without the zeros behind the point, and without a point that is last. -/
def withoutZeros (cs : List Char) : List Char :=
  if cs.contains '.' then
    match cs.reverse.dropWhile (· == '0') with
    | '.' :: rest => rest.reverse
    | rest => rest.reverse
  else cs

/-- A fraction in the shorter form, with so many digits that count. -/
def generalDigits (marked : Bool) (num den precision : Nat) : List Char :=
  let count := max precision 1
  let (_, order) := exponentDigits num den (count - 1)
  let tidy (cs : List Char) : List Char := if marked then cs else withoutZeros cs
  if -4 ≤ order ∧ order < count then
    tidy (fixedDigits marked num den ((count : Int) - 1 - order).toNat)
  else
    let cs := scientificDigits marked num den (count - 1)
    tidy (cs.takeWhile (· != 'e')) ++ cs.dropWhile (· != 'e')

inductive Form where
  | fixed
  | scientific
  | general
  deriving DecidableEq, Repr

def double (l : Layout) (form : Form) (upper : Bool) (x : Double) : List Char :=
  let shape (cs : List Char) : List Char := if upper then cs.map Char.toUpper else cs
  match x with
  | .undefined => l.fill false [] (shape "nan".toList)
  | .infinite negative => l.fill false (l.sign negative) (shape "inf".toList)
  | .finite negative mantissa exponent =>
    let (num, den) := Double.overPower 2 mantissa 1 (-exponent)
    let precision := l.precision.getD 6
    let body := match form with
      | .fixed => fixedDigits l.marked num den precision
      | .scientific => scientificDigits l.marked num den precision
      | .general => generalDigits l.marked num den precision
    l.fill l.zeros (l.sign negative) (shape body)

end Layout

end Lettermill
