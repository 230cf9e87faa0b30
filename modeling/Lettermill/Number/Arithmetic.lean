import Lettermill.Number.Double
/-! Arithmetic on numbers of double precision: each operation gives the number nearest to its exact
result. Numbers that are too large become infinite, and what has no result is undefined. -/
namespace Lettermill.Double
set_option autoImplicit false

/-! ## Integers times powers of two -/

/-- The number nearest to `n` times two to the `exponent`; a zero has the sign that is given. -/
def ofScaled (negativeZero : Bool) (n exponent : Int) : Double :=
  let (num, den) := overPower 2 n.natAbs 1 (-exponent)
  ofFraction (if n = 0 then negativeZero else n < 0) num den

def ofInt (n : Int) : Double := ofScaled false n 0

def signed (negative : Bool) (mantissa : Nat) : Int := if negative then -mantissa else mantissa

def isNegative : Double → Bool
  | finite negative _ _ => negative
  | infinite negative => negative
  | undefined => false

def negated : Double → Double
  | finite negative mantissa exponent => finite (!negative) mantissa exponent
  | infinite negative => infinite !negative
  | undefined => undefined

def truncated : Double → Double
  | finite negative mantissa exponent =>
    if 0 ≤ exponent then finite negative mantissa exponent
    else
      ofScaled negative (signed negative (mantissa / Nat.pow 2 (-exponent).toNat)) 0
  | x => x

/-- The integer in front of the point; of what is infinite, one beyond all of 64 bits. -/
def toInt : Double → Int
  | finite negative mantissa exponent =>
    let (num, den) := overPower 2 mantissa 1 (-exponent)
    signed negative (num / den)
  | infinite negative => signed negative (Nat.pow 2 64)
  | undefined => -(Nat.pow 2 63 : Nat)

/-- The nearest integer; of two the even one. -/
def nearestInt : Double → Int
  | finite negative mantissa exponent =>
    let (num, den) := overPower 2 mantissa 1 (-exponent)
    signed negative (roundQuotient num den)
  | x => x.toInt

/-! ## Operations -/

def plus : Double → Double → Double
  | undefined, _ | _, undefined => undefined
  | infinite a, infinite b => if a = b then infinite a else undefined
  | infinite a, _ => infinite a
  | _, infinite b => infinite b
  | finite a m e, finite b n f =>
    let low := min e f
    ofScaled (a && b)
      (signed a (m * Nat.pow 2 (e - low).toNat) + signed b (n * Nat.pow 2 (f - low).toNat)) low

def minus (x y : Double) : Double := x.plus y.negated

def times : Double → Double → Double
  | undefined, _ | _, undefined => undefined
  | finite a m e, finite b n f => ofScaled (a != b) (signed (a != b) (m * n)) (e + f)
  | x, y => if x.isZero || y.isZero then undefined else infinite (x.isNegative != y.isNegative)

def dividedBy : Double → Double → Double
  | undefined, _ | _, undefined => undefined
  | infinite _, infinite _ => undefined
  | infinite a, y => infinite (a != y.isNegative)
  | finite a _ _, infinite b => ofScaled (a != b) 0 0
  | finite a m e, finite b n f =>
    if n = 0 then if m = 0 then undefined else infinite (a != b)
    else
      let (num, den) := overPower 2 m n (f - e)
      ofFraction (a != b) num den

/-- What is left over of a division whose quotient is cut off at the point. -/
def remainder : Double → Double → Double
  | undefined, _ | _, undefined => undefined
  | infinite _, _ => undefined
  | x, infinite _ => x
  | finite a m e, finite _ n f =>
    if n = 0 then undefined
    else
      let low := min e f
      let left := (m * Nat.pow 2 (e - low).toNat) % (n * Nat.pow 2 (f - low).toNat)
      ofScaled a (signed a left) low

def order? : Double → Double → Option Ordering
  | undefined, _ | _, undefined => none
  | infinite a, infinite b => some (compare (if a then 0 else 1) (if b then 0 else 1))
  | infinite a, _ => some (if a then .lt else .gt)
  | _, infinite b => some (if b then .gt else .lt)
  | finite a m e, finite b n f =>
    let low := min e f
    some (compare (signed a (m * Nat.pow 2 (e - low).toNat))
      (signed b (n * Nat.pow 2 (f - low).toNat)))

/-! ## Elementary functions

They are summed up as integers over a large power of two, far more of it than a result can hold. -/

def fixedBits : Nat := 320

def fixedOne : Int := Nat.pow 2 fixedBits

/-- A number as such an integer; what is not finite counts as zero. -/
def toFixed : Double → Int
  | finite negative mantissa exponent =>
    let (num, den) := overPower 2 mantissa 1 (-exponent - fixedBits)
    signed negative (num / den)
  | _ => 0

/-- The number nearest to such an integer times two to the `exponent`. -/
def ofFixed (n exponent : Int) : Double := ofScaled false n (exponent - fixedBits)

/-- The sum of `power / k` for every other `k`, each power made from the one before it; `fuel` bounds
the number of summands. -/
def oddSum (factor : Int) : Nat → Int → Int → Int
  | 0, _, _ => 0
  | fuel + 1, k, power =>
    if power = 0 then 0
    else power / k + oddSum factor fuel (k + 2) (Int.tdiv (power * factor) fixedOne)

def fixedArtanh (z : Int) : Int := oddSum (Int.tdiv (z * z) fixedOne) 1000 1 z

def fixedArctanSmall (z : Int) : Int := oddSum (-Int.tdiv (z * z) fixedOne) 1000 1 z

def fixedLn2 : Int := 2 * fixedArtanh (fixedOne / 3)

def fixedPi : Int :=
  4 * (4 * fixedArctanSmall (fixedOne / 5) - fixedArctanSmall (fixedOne / 239))

/-- The sum of powers over factorials, every `stride` of them, from behind the `k`-th on. -/
def factorialSum (factor : Int) (stride : Nat) : Nat → Nat → Int → Int
  | 0, _, _ => 0
  | fuel + 1, k, term =>
    if term = 0 then 0
    else
      let divisor : Int := if stride = 1 then k + 1 else (k + 1) * (k + 2)
      term + factorialSum factor stride fuel (k + stride)
        (Int.tdiv (Int.tdiv (term * factor) fixedOne) divisor)

/-- The integer square root, from an estimate that is not too small; `fuel` bounds the steps. -/
def rootBelow (n : Nat) : Nat → Nat → Nat
  | 0, estimate => estimate
  | fuel + 1, estimate =>
    let next := (estimate + n / estimate) / 2
    if next < estimate then rootBelow n fuel next else estimate

def integerRoot (n : Nat) : Nat :=
  if n = 0 then 0 else rootBelow n (n.log2 + 2) (Nat.pow 2 (n.log2 / 2 + 1))

def squareRoot : Double → Double
  | finite negative mantissa exponent =>
    if mantissa = 0 then finite negative mantissa exponent
    else if negative then undefined
    else
      -- So many bits more that the root has too many of them, in an even number.
      let more : Nat := if (exponent + 130) % 2 = 0 then 130 else 131
      ofScaled false (integerRoot (mantissa * Nat.pow 2 more)) ((exponent - more) / 2)
  | infinite false => infinite false
  | _ => undefined

def exponential (x : Double) : Double :=
  match x with
  | undefined => undefined
  | infinite negative => if negative then ofInt 0 else x
  | finite .. =>
    if x.order? (ofInt 1000) = some .gt then infinite false
    else if x.order? (ofInt (-1000)) = some .lt then ofInt 0
    else
      let n := x.toFixed
      let k := n / fixedLn2
      ofFixed (factorialSum (n - k * fixedLn2) 1 1000 0 fixedOne) k

/-- The natural logarithm of a positive finite number, as an integer. -/
def fixedLogarithm (mantissa : Nat) (exponent : Int) : Int :=
  let bits := mantissa.log2
  let z := (mantissa : Int) * Nat.pow 2 fixedBits / Nat.pow 2 bits
  2 * fixedArtanh ((z - fixedOne) * fixedOne / (z + fixedOne)) + (exponent + bits) * fixedLn2

def logarithm : Double → Double
  | finite negative mantissa exponent =>
    if mantissa = 0 then infinite true
    else if negative then undefined
    else ofFixed (fixedLogarithm mantissa exponent) 0
  | infinite false => infinite false
  | _ => undefined

/-- The tangent of half an angle, from the tangent of the angle. -/
def fixedHalf (z : Int) : Int :=
  let root : Int := integerRoot ((fixedOne * fixedOne + z * z).toNat)
  z * fixedOne / (fixedOne + root)

/-- The inverse tangent of a fraction of integers that are not negative, of which the lower one may
be zero. Halving the angle twice lets the summands become small. -/
def fixedArctan (num den : Int) : Int :=
  let small (num den : Int) : Int :=
    if num = 0 then 0
    else 4 * fixedArctanSmall (fixedHalf (fixedHalf (num * fixedOne / den)))
  if num ≤ den then small num den else fixedPi / 2 - small den num

/-- The angle of the point with these coordinates, the upright one first. -/
def angle (y x : Double) : Double :=
  match y, x with
  | finite a m e, finite b n f =>
    let low := min e f
    let num : Int := m * Nat.pow 2 (e - low).toNat
    let den : Int := n * Nat.pow 2 (f - low).toNat
    let turn := fixedArctan num den
    let turn := if b then fixedPi - turn else turn
    if turn = 0 then ofScaled a 0 0 else ofFixed (if a then -turn else turn) 0
  | _, _ => undefined

def wave (cosine : Bool) (x : Double) : Double :=
  match x with
  | finite .. =>
    let turn := 2 * fixedPi
    let n := x.toFixed
    let n := n - n / turn * turn
    let square := -Int.tdiv (n * n) fixedOne
    ofFixed (if cosine then factorialSum square 2 1000 0 fixedOne
      else factorialSum square 2 1000 1 n) 0
  | _ => undefined

def naturalPower (base : Double) (exponent : Nat) : Double :=
  match base with
  | finite negative mantissa e =>
    let sign := negative && exponent % 2 = 1
    -- Without the zeros at the end of the mantissa, powers of two stay short.
    let zeros := if mantissa = 0 then 0
      else ((List.range 54).find? fun k => mantissa / Nat.pow 2 k % 2 = 1).getD 0
    let core := mantissa / Nat.pow 2 zeros
    ofScaled sign (signed sign (Nat.pow core exponent)) ((e + zeros) * exponent)
  | infinite negative => if exponent = 0 then ofInt 1 else infinite (negative && exponent % 2 = 1)
  | undefined => if exponent = 0 then ofInt 1 else undefined

def power (base exponent : Double) : Double :=
  let n := exponent.toInt
  let whole := exponent.order? (ofInt n) = some .eq
  if whole && n.natAbs ≤ 2048 then
    if 0 ≤ n then base.naturalPower n.toNat else (ofInt 1).dividedBy (base.naturalPower n.natAbs)
  else if base.isNegative && !base.isZero && !whole then undefined
  else
    let size := if base.isNegative then base.negated else base
    let result := match size, exponent with
      | finite _ mantissa e, finite .. =>
        if mantissa = 0 then if exponent.isNegative then infinite false else ofInt 0
        else
          let product := fixedLogarithm mantissa e * exponent.toFixed / fixedOne
          if 1000 * fixedOne < product then infinite false
          else if product < -(1000 * fixedOne) then ofInt 0
          else
            let k := product / fixedLn2
            ofFixed (factorialSum (product - k * fixedLn2) 1 1000 0 fixedOne) k
      | _, _ => (size.logarithm.times exponent).exponential
    if base.isNegative && n % 2 ≠ 0 then result.negated else result

end Lettermill.Double
