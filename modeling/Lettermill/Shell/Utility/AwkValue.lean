import Lettermill.Shell.Utility.AwkSyntax
/-! Values of programs for records. A text that came from a record counts as a number if it looks
like one; what was never given a value is both zero and empty. -/
namespace Lettermill.Shell.Utility
set_option autoImplicit false
open Text

inductive AwkValue where
  | unset
  | number (x : Double)
  | text (cs : List Char)
  /-- A text that came from outside. -/
  | field (cs : List Char)
  deriving Inhabited

namespace AwkValue

/-! ## Numbers -/

def ofNat (n : Nat) : AwkValue := .number (Double.ofInt n)

def ofBool (b : Bool) : AwkValue := ofNat (if b then 1 else 0)

def numberOf (cs : List Char) : Double :=
  match doubleAtFront? cs with
  | some (x, _) => x
  | none => Double.ofInt 0

/-- The number that a text looks like, with blanks around it or none. -/
def numberLike? (cs : List Char) : Option Double :=
  match (cs.dropWhile Arithmetic.isSpace).dropWhile fun c => c == '+' || c == '-' with
  | [] => none
  | '0' :: 'x' :: _ | '0' :: 'X' :: _ => none
  | c :: _ =>
    if !isDigit c && c != '.' then none
    else match doubleAtFront? cs with
    | some (x, rest) => if rest.all Arithmetic.isSpace then some x else none
    | none => none

def toNumber : AwkValue → Double
  | unset => Double.ofInt 0
  | number x => x
  | text cs | field cs => numberOf cs

def toInt (v : AwkValue) : Int := v.toNumber.toInt

/-! ## Texts -/

def inFormat (format : List Char) (x : Double) : List Char :=
  let plain (x : Double) : List Char :=
    match formatPieces (format.length + 1) format with
    | [.directive l false false c] =>
      let form := match c with
        | 'e' | 'E' => Layout.Form.scientific
        | 'f' | 'F' => .fixed
        | _ => .general
      if c = 'd' ∨ c = 'i' then l.integer x.toInt else l.double form (['E', 'F', 'G'].contains c) x
    | _ => Layout.double {} .general false x
  match x with
  | .undefined => "-nan".toList
  | _ => plain x

/-- The text of a number: a whole number of 64 bits has all its digits, others are laid out by a
format. -/
def numberText (format : List Char) (x : Double) : List Char :=
  let n := x.toInt
  match x with
  | .finite .. =>
    if x.order? (Double.ofInt n) = some .eq ∧ -Int.pow 2 63 ≤ n ∧ n ≤ Int.pow 2 64 then
      (toString (min n (Int.pow 2 64 - 1))).toList
    else inFormat format x
  | _ => inFormat format x

def toText (format : List Char) : AwkValue → List Char
  | unset => []
  | number x => numberText format x
  | text cs | field cs => cs

def asNumber? : AwkValue → Option Double
  | unset => some (Double.ofInt 0)
  | number x => some x
  | text _ => none
  | field cs => numberLike? cs

def isTrue : AwkValue → Bool
  | unset => false
  | number x => !x.isZero
  | text cs => !cs.isEmpty
  | field cs =>
    match numberLike? cs with
    | some x => !x.isZero
    | none => !cs.isEmpty

/-- Compares two values: as numbers when both count as numbers, and else as texts. -/
def holds (format : List Char) (r : AwkRelation) (a b : AwkValue) : Bool :=
  let order : Option Ordering := match a.asNumber?, b.asNumber? with
    | some x, some y => x.order? y
    | _, _ =>
      let s := a.toText format
      let t := b.toText format
      some (if s < t then .lt else if s = t then .eq else .gt)
  match r, order with
  | .notEqual, none => true
  | _, none => false
  | .less, some o => o = .lt
  | .lessEqual, some o => o ≠ .gt
  | .equal, some o => o = .eq
  | .notEqual, some o => o ≠ .eq
  | .greater, some o => o = .gt
  | .greaterEqual, some o => o ≠ .lt

def calculate (o : AwkOperator) (x y : Double) : Double :=
  match o with
  | .plus => x.plus y
  | .minus => x.minus y
  | .times => x.times y
  | .divide => x.dividedBy y
  | .remainder => x.remainder y
  | .power => x.power y

end AwkValue

/-! ## Formats -/

inductive AwkPrintFault where
  | notEnough
  | improper (number : Nat)
  deriving DecidableEq, Repr

def AwkPrintFault.message (name : String) (format : List Char) : AwkPrintFault → String
  | notEnough =>
    "not enough arguments passed to " ++ name ++ "(\"" ++ String.ofList format ++ "\")"
  | improper n =>
    "improper conversion(number " ++ toString n ++ ") in " ++ name ++ "(\""
      ++ String.ofList format ++ "\")"

def awkConvert (format : List Char) (l : Layout) (conversion : Char) (v : AwkValue) : List Char :=
  let n := v.toInt
  let unsigned : Nat := (max (-Int.pow 2 63) (min n (Int.pow 2 64 - 1)) % Int.pow 2 64).toNat
  match conversion with
  | 's' => l.text (v.toText format)
  | 'c' =>
    let c : Char := match v with
      | .number _ => Char.ofNat (n % 256).toNat
      | _ => (v.toText format).headD '\x00'
    { l with precision := none }.text [c]
  | 'd' | 'i' => l.integer (Arithmetic.clamp n)
  | 'u' => l.natural unsigned
  | 'o' => l.octal unsigned
  | 'x' | 'X' => l.hexadecimal (conversion = 'X') unsigned
  | _ =>
    let form := match conversion with
      | 'e' | 'E' => Layout.Form.scientific
      | 'f' | 'F' => .fixed
      | _ => .general
    l.double form (['E', 'F', 'G'].contains conversion) v.toNumber

def awkConversions : List Char :=
  ['c', 's', 'd', 'i', 'o', 'u', 'x', 'X', 'e', 'E', 'f', 'F', 'g', 'G']

/-- A directive without the letters for the length of its argument. -/
def withoutLengths (cs : List Char) : List Char :=
  let front := cs.takeWhile fun c => isDigit c || ['-', '+', ' ', '#', '.', '*'].contains c
  front ++ (cs.drop front.length).dropWhile fun c => c == 'l' || c == 'h'

/-- What values come to in a format, and the fault that ends it. The number is that of the next
directive. -/
def awkPrintf (convert format : List Char) : Nat → Nat → List Char → List AwkValue →
    List Char × Option AwkPrintFault
  | 0, _, _, _ => ([], none)
  | _, _, [], _ => ([], none)
  | fuel + 1, number, c :: rest, values =>
    let onward (cs rest : List Char) (number : Nat) (values : List AwkValue) :
        List Char × Option AwkPrintFault :=
      let (more, fault) := awkPrintf convert format fuel number rest values
      (cs ++ more, fault)
    match c, rest with
    | '%', '%' :: after => onward ['%'] after number values
    | '%', _ =>
      match directive awkConversions (withoutLengths rest) with
      | (.directive l widthArgument precisionArgument conversion, after) =>
        let (l, values, enough) := if widthArgument then
            match values with
            | v :: more => (Printing.withWidth l v.toInt, more, true)
            | [] => (l, [], false)
          else (l, values, true)
        let (l, values, enough) := if precisionArgument then
            match values with
            | v :: more =>
              let n := v.toInt
              ({ l with precision := if n < 0 then none else some n.toNat }, more, enough)
            | [] => (l, [], false)
          else (l, values, enough)
        match values with
        | v :: more =>
          if enough then onward (awkConvert convert l conversion v) after (number + 1) more
          else ([], some .notEnough)
        | [] => ([], some .notEnough)
      | (_, _) => ([], some (if values.isEmpty then .notEnough else .improper number))
    | _, _ => onward [c] rest number values

end Lettermill.Shell.Utility
