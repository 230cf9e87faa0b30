/-! Numbers of double precision: 53 bits times a power of two. Reading a decimal gives the nearest
such number, ties going to the even one; writing gives the fewest digits that read back as the
number, and of those the nearest, always without an exponent. All of it is exact arithmetic. -/
namespace Lettermill
set_option autoImplicit false

inductive Double where
  /-- `mantissa` times two to the `exponent`. -/
  | finite (negative : Bool) (mantissa : Nat) (exponent : Int)
  | infinite (negative : Bool)
  | undefined
  deriving DecidableEq, Repr, Inhabited

namespace Double

def minExponent : Int := -1074

def maxExponent : Int := 971

/-- What mantissas are below: two to the 53. -/
def mantissaLimit : Nat := 9007199254740992

/-! ## Reading -/

/-- The integer nearest to a quotient; of two the even one. -/
def roundQuotient (num den : Nat) : Nat :=
  let q := num / den
  let r := num % den
  if 2 * r < den then q
  else if den < 2 * r then q + 1
  else if q % 2 = 0 then q else q + 1

def overPower (base num den : Nat) (exponent : Int) : Nat × Nat :=
  if 0 ≤ exponent then (num, den * Nat.pow base exponent.toNat)
  else (num * Nat.pow base (-exponent).toNat, den)

def ofFraction (negative : Bool) (num den : Nat) : Double :=
  if num = 0 then .finite negative 0 minExponent
  else
    let order : Int := (num.log2 : Int) - den.log2
    let low := max (order - 53) minExponent
    let (a, b) := overPower 2 num den low
    -- The fraction over two to the `low` has at most 54 bits in front of the point.
    let exponent := if a < b * mantissaLimit then low else low + 1
    let (a, b) := overPower 2 num den exponent
    let rounded := roundQuotient a b
    let (mantissa, exponent) :=
      if rounded = mantissaLimit then (mantissaLimit / 2, exponent + 1) else (rounded, exponent)
    if exponent ≤ maxExponent then .finite negative mantissa exponent else .infinite negative

def digitsOf (n : Nat) : List Char := Nat.toDigits 10 n

/-- The number nearest to `digits` times ten to the `exponent`. -/
def ofDecimal (negative : Bool) (digits : Nat) (exponent : Int) : Double :=
  let order := (digitsOf digits).length + exponent
  if digits = 0 ∨ order < -400 then .finite negative 0 minExponent
  else if 400 < order then .infinite negative
  else
    let (num, den) := overPower 10 digits 1 (-exponent)
    ofFraction negative num den

/-! ## Rounding -/

def isZero : Double → Bool
  | finite _ mantissa _ => mantissa == 0
  | _ => false

/-- The nearest natural number up to `limit`, halves going up; what is not a number counts as zero.
-/
def toNatUpTo (limit : Nat) : Double → Nat
  | finite true _ _ => 0
  | finite false mantissa exponent =>
    let (num, den) := overPower 2 mantissa 1 (-exponent)
    min limit ((2 * num + den) / (2 * den))
  | infinite true => 0
  | infinite false => limit
  | undefined => 0

/-! ## Writing -/

def decimalOrder (num den : Nat) : Int :=
  if den ≤ num then (digitsOf (num / den)).length - 1
  else
    let places := (digitsOf (den / num)).length
    if den ≤ num * Nat.pow 10 (places - 1) then 1 - (places : Int) else -(places : Int)

/-- The decimals with `count` digits that read back as the number, the nearest first. -/
def decimals (mantissa : Nat) (exponent : Int) (count : Nat) : List (Nat × Int) :=
  let (num, den) := overPower 2 mantissa 1 (-exponent)
  let place := decimalOrder num den - count + 1
  let (a, b) := overPower 10 num den place
  let below := a / b
  let candidates := if 2 * (a % b) < b then [below, below + 1] else [below + 1, below]
  (candidates.filter fun d => ofDecimal false d place == .finite false mantissa exponent).map
    fun d => (d, place)

/-- The shortest decimal that reads back as a positive number. -/
def shortest (mantissa : Nat) (exponent : Int) : Nat × Int :=
  ((List.range 17).findSome? fun n => (decimals mantissa exponent (n + 1)).head?).getD
    (mantissa, 0)

/-- Digits with a point behind the first `whole` of them, without needless zeros. -/
def pointed (digits : List Char) (whole : Int) : List Char :=
  let n := digits.length
  if (n : Int) ≤ whole then digits ++ List.replicate (whole.toNat - n) '0'
  else
    let (front, back) := if 0 < whole then (digits.take whole.toNat, digits.drop whole.toNat)
      else (['0'], List.replicate (-whole).toNat '0' ++ digits)
    match (back.reverse.dropWhile (· == '0')).reverse with
    | [] => front
    | kept => front ++ '.' :: kept

def text : Double → String
  | undefined => "NaN"
  | infinite negative => if negative then "-inf" else "inf"
  | finite negative mantissa exponent =>
    let (digits, place) := if mantissa = 0 then (0, 0) else shortest mantissa exponent
    let ds := digitsOf digits
    (if negative then "-" else "") ++ String.ofList (pointed ds (ds.length + place))

/-- The text of a number, with a point even when it is whole. -/
def textWithPoint (x : Double) : String :=
  match x with
  | finite _ _ _ => if x.text.contains '.' then x.text else x.text ++ ".0"
  | _ => x.text

end Double

end Lettermill
