/-! Letters of the ASCII range: lower case, comparison without regard to case, and searching a text
for a piece. Tags, property names and keywords are compared this way; all other characters only
match themselves. -/
namespace Lettermill.Text
set_option autoImplicit false

/-- The lower-case form of an ASCII capital, and any other character as it is. -/
def lowerChar (c : Char) : Char :=
  if 'A' ≤ c ∧ c ≤ 'Z' then Char.ofNat (c.toNat + 32) else c

def lowerChars (cs : List Char) : List Char := cs.map lowerChar

def lower (s : String) : String := String.ofList (lowerChars s.toList)

/-- Are the two equal up to the case of ASCII letters? -/
def sameLetters (a b : String) : Bool := lower a == lower b

def isLetter (c : Char) : Bool := ('a' ≤ c && c ≤ 'z') || ('A' ≤ c && c ≤ 'Z')

def isDigit (c : Char) : Bool := '0' ≤ c && c ≤ '9'

def isAlphanumeric (c : Char) : Bool := isLetter c || isDigit c

def hexValue? (c : Char) : Option Nat :=
  if '0' ≤ c ∧ c ≤ '9' then some (c.toNat - '0'.toNat)
  else if 'a' ≤ c ∧ c ≤ 'f' then some (c.toNat - 'a'.toNat + 10)
  else if 'A' ≤ c ∧ c ≤ 'F' then some (c.toNat - 'A'.toNat + 10)
  else none

/-- What follows `piece` at the front of `cs`, if `cs` starts with it. -/
def after? : List Char → List Char → Option (List Char)
  | [], cs => some cs
  | _ :: _, [] => none
  | p :: ps, c :: cs => if p = c then after? ps cs else none

/-- `after?` up to the case of ASCII letters; `piece` is given in lower case. -/
def afterLetters? : List Char → List Char → Option (List Char)
  | [], cs => some cs
  | _ :: _, [] => none
  | p :: ps, c :: cs => if p = lowerChar c then afterLetters? ps cs else none

/-- The text in front of the first occurrence of `piece`, and the text from there on. -/
def before? (piece : List Char) : List Char → Option (List Char × List Char)
  | [] => if piece.isEmpty then some ([], []) else none
  | c :: cs =>
    if (after? piece (c :: cs)).isSome then some ([], c :: cs)
    else (before? piece cs).map fun (front, rest) => (c :: front, rest)

def occurs (piece s : String) : Bool := (before? piece.toList s.toList).isSome

/-- The pieces of `cs` between the occurrences of `mark`; there is always at least one. -/
def cutAt (mark : Char) : List Char → List (List Char)
  | [] => [[]]
  | c :: cs =>
    if c = mark then [] :: cutAt mark cs
    else match cutAt mark cs with
      | [] => [[c]]
      | piece :: pieces => (c :: piece) :: pieces

/-- Splits at the first `mark`: what stands before it and after it. -/
def cutOnce? (mark : Char) : List Char → Option (List Char × List Char)
  | [] => none
  | c :: cs =>
    if c = mark then some ([], cs)
    else (cutOnce? mark cs).map fun (front, back) => (c :: front, back)

end Lettermill.Text
