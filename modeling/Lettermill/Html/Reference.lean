import Lettermill.Html.Entity
/-! Character references, the pieces of HTML that start with an ampersand and stand for other
characters: by name, or by code point in decimal or hexadecimal. What is no reference stays as it
is written. -/
namespace Lettermill.Html.Reference
set_option autoImplicit false
open Text

/-- What the code points 128 to 159 stand for when they are referred to by number: the characters
that an old Western encoding has at these places. -/
def legacyRow : List Nat := [
  0x20ac, 0x81, 0x201a, 0x192, 0x201e, 0x2026, 0x2020, 0x2021, 0x2c6, 0x2030, 0x160, 0x2039, 0x152,
  0x8d, 0x17d, 0x8f, 0x90, 0x2018, 0x2019, 0x201c, 0x201d, 0x2022, 0x2013, 0x2014, 0x2dc, 0x2122,
  0x161, 0x203a, 0x153, 0x9d, 0x17e, 0x178]

/-- The character that a number refers to; numbers that are no character give the replacement
character. -/
def charOfNumber (n : Nat) : Char :=
  if n = 0 ∨ n > 0x10ffff ∨ (0xd800 ≤ n ∧ n ≤ 0xdfff) then '\ufffd'
  else if 0x80 ≤ n ∧ n ≤ 0x9f then Char.ofNat (legacyRow.getD (n - 0x80) n)
  else Char.ofNat n

/-- The number that digits denote in a base; `value?` reads a digit. -/
def number (base : Nat) (value? : Char → Option Nat) (digits : List Char) : Nat :=
  digits.foldl (fun n c => n * base + (value? c).getD 0) 0

/-- A numeric reference behind `&#`, in a base; without digits there is none. -/
def numberIn? (base : Nat) (value? : Char → Option Nat) (cs : List Char) :
    Option (List Char × List Char) :=
  match cs.takeWhile fun c => (value? c).isSome with
  | [] => none
  | digits =>
    let rest := match cs.drop digits.length with
      | ';' :: after => after
      | after => after
    some ([charOfNumber (number base value? digits)], rest)

def decimalValue? (c : Char) : Option Nat := if isDigit c then some (c.toNat - '0'.toNat) else none

def numeric? : List Char → Option (List Char × List Char)
  | 'x' :: cs => numberIn? 16 hexValue? cs
  | 'X' :: cs => numberIn? 16 hexValue? cs
  | cs => numberIn? 10 decimalValue? cs

/-- Does the text start with a reference by number that lacks its semicolon? -/
def startsUnclosed : List Char → Bool
  | '&' :: '#' :: cs =>
    let (isDigitHere, digits) : (Char → Bool) × List Char := match cs with
      | 'x' :: more | 'X' :: more => (fun c => (hexValue? c).isSome, more)
      | more => (isDigit, more)
    !(digits.takeWhile isDigitHere).isEmpty
      && (digits.dropWhile isDigitHere).head? != some ';'
  | _ => false

/-- Would a name without a semicolon run into what follows? In a value it then is no reference. -/
def runsOn : List Char → Bool
  | '=' :: _ => true
  | c :: _ => isAlphanumeric c
  | [] => false

/-- The reference behind an ampersand: the characters that it stands for and what follows. `inValue`
says whether it stands in an attribute value. -/
def read? (inValue : Bool) : List Char → Option (List Char × List Char)
  | '#' :: cs => numeric? cs
  | cs =>
    match Entity.named? cs with
    | none => none
    | some (chars, closed, rest) =>
      if inValue && !closed && runsOn rest then none else some (chars, rest)

/-- The text with its references read; `fuel` bounds the characters. -/
def resolveWith (inValue : Bool) : Nat → List Char → List Char
  | 0, cs => cs
  | _, [] => []
  | fuel + 1, c :: cs =>
    if c = '&' then
      match read? inValue cs with
      | some (chars, rest) => chars ++ resolveWith inValue fuel rest
      | none => c :: resolveWith inValue fuel cs
    else c :: resolveWith inValue fuel cs

def resolve (inValue : Bool) (cs : List Char) : List Char := resolveWith inValue cs.length cs

end Lettermill.Html.Reference
