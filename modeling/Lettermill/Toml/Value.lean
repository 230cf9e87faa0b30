import Lettermill.Number.Double
import Lettermill.Toml.Moment
/-! The values of TOML, and those of them that are written in one piece: numbers, truth values and
moments. Digits may be kept apart by single underscores; a number does not start with a needless
zero; integers have 64 bits. -/
namespace Lettermill.Toml
set_option autoImplicit false
open Text

inductive Value where
  | text (s : String)
  | integer (n : Int)
  | float (x : Double)
  | boolean (b : Bool)
  | moment (m : Moment)
  | list (values : List Value)
  | table (entries : List (String × Value))

/-! ## Digits -/

/-- The digits of `cs`, if it is made of digits and single underscores between them. -/
def digitGroups? (accept : Char → Bool) : List Char → Option (List Char)
  | [] => none
  | [c] => if accept c then some [c] else none
  | c :: '_' :: rest =>
    if accept c then (digitGroups? accept rest).map (c :: ·) else none
  | c :: rest => if accept c then (digitGroups? accept rest).map (c :: ·) else none

/-- The digits of `cs`, unless they start with a needless zero. -/
def wholeDigits? (cs : List Char) : Option (List Char) :=
  match cs with
  | '0' :: _ :: _ => none
  | _ => digitGroups? isDigit cs

def numberIn (base : Nat) (digits : List Char) : Nat :=
  digits.foldl (fun n c => n * base + (hexValue? c).getD 0) 0

def isDigitIn (base : Nat) (c : Char) : Bool :=
  match hexValue? c with
  | some v => v < base
  | none => false

/-! ## Numbers -/

def integer? (n : Int) : Option Value :=
  if -9223372036854775808 ≤ n ∧ n ≤ 9223372036854775807 then some (.integer n) else none

/-- An integer in a base other than ten, from behind the mark of the base. -/
def based? (base : Nat) (cs : List Char) : Option Value :=
  (digitGroups? (isDigitIn base) cs).bind fun digits => integer? (numberIn base digits)

def exponent? (cs : List Char) : Option Int :=
  match cs with
  | '+' :: digits => (digitGroups? isDigit digits).map fun ds => number ds
  | '-' :: digits => (digitGroups? isDigit digits).map fun ds => -(number ds)
  | digits => (digitGroups? isDigit digits).map fun ds => number ds

/-- The parts of a decimal number: its text up to `mark` and what follows. -/
def partsAt (mark : Char → Bool) (cs : List Char) : List Char × Option (List Char) :=
  match cs.dropWhile fun c => !mark c with
  | [] => (cs, none)
  | _ :: rest => (cs.takeWhile fun c => !mark c, some rest)

/-- A decimal without its sign. A number too large for a float is refused when it is positive. -/
def decimal? (negative : Bool) (cs : List Char) : Option Value := do
  let (base, power) := partsAt (fun c => c == 'e' || c == 'E') cs
  let (whole, fraction) := partsAt (· == '.') base
  let wholeDigits ← wholeDigits? whole
  match fraction, power with
  | none, none =>
    let n : Int := number wholeDigits
    integer? (if negative then -n else n)
  | _, _ =>
    let fractionDigits ← match fraction with
      | some cs => digitGroups? isDigit cs
      | none => some []
    let shift ← match power with
      | some cs => exponent? cs
      | none => some 0
    let x := Double.ofDecimal negative (number (wholeDigits ++ fractionDigits))
      (shift - fractionDigits.length)
    if x = .infinite false then none else some (.float x)

def signed? (negative : Bool) (cs : List Char) : Option Value :=
  match cs with
  | ['i', 'n', 'f'] => some (.float (.infinite negative))
  | ['n', 'a', 'n'] => some (.float .undefined)
  | _ => decimal? negative cs

def plain? (cs : List Char) : Option Value :=
  match cs with
  | ['t', 'r', 'u', 'e'] => some (.boolean true)
  | ['f', 'a', 'l', 's', 'e'] => some (.boolean false)
  | '+' :: rest => signed? false rest
  | '-' :: rest => signed? true rest
  | '0' :: 'x' :: rest => based? 16 rest
  | '0' :: 'o' :: rest => based? 8 rest
  | '0' :: 'b' :: rest => based? 2 rest
  | _ => ((Moment.read? cs).map Value.moment).or (signed? false cs)

end Lettermill.Toml
