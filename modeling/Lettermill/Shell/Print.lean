import Lettermill.Number.Layout
import Lettermill.Shell.Arithmetic
/-! Printing: escapes behind backslashes, and formats whose directives lay out arguments. A format
is used again as long as it uses up arguments and some are left. -/
namespace Lettermill.Shell
set_option autoImplicit false
open Text

/-! ## Escapes -/

def isOctal (c : Char) : Bool := '0' ≤ c && c ≤ '7'

def escapedChar? : Char → Option Char
  | 'a' => some '\x07'
  | 'b' => some '\x08'
  | 'e' => some '\x1b'
  | 'f' => some '\x0c'
  | 'n' => some '\n'
  | 'r' => some '\x0d'
  | 't' => some '\t'
  | 'v' => some '\x0b'
  | '\\' => some '\\'
  | _ => none

def octalChar (digits : List Char) : Char :=
  Char.ofNat (Arithmetic.digitsValue 8 digits % 256)

/-- The character of an escape, from behind its backslash, and what follows. -/
def escape? (cs : List Char) : Option (Char × List Char) :=
  match cs with
  | [] => none
  | c :: rest =>
    if isOctal c then
      let digits := (cs.take 3).takeWhile isOctal
      some (octalChar digits, cs.drop digits.length)
    else (escapedChar? c).map fun d => (d, rest)

/-- A text with its escapes undone, and whether an escape asked to print no more. An octal escape
may have a zero in front of its three digits. -/
def unescaped : Nat → List Char → List Char × Bool
  | 0, _ => ([], false)
  | _, [] => ([], false)
  | fuel + 1, c :: cs =>
    let onward (d : Char) (rest : List Char) : List Char × Bool :=
      let (more, stop) := unescaped fuel rest
      (d :: more, stop)
    match c, cs with
    | '\\', 'c' :: _ => ([], true)
    | '\\', '0' :: rest =>
      let digits := (rest.take 3).takeWhile isOctal
      onward (octalChar digits) (rest.drop digits.length)
    | '\\', _ =>
      match escape? cs with
      | some (d, rest) => onward d rest
      | none => onward c cs
    | _, _ => onward c cs

def echoText (args : List String) : List Char :=
  let (args, newline) := match args with
    | "-n" :: rest => (rest, false)
    | _ => (args, true)
  let text := (" ".intercalate args).toList
  let (cs, stop) := unescaped (text.length + 1) text
  if newline && !stop then cs ++ ['\n'] else cs

/-! ## Formats -/

inductive FormatPiece where
  | char (c : Char)
  /-- A directive; its width or precision may come from an argument. -/
  | directive (layout : Layout) (widthArgument precisionArgument : Bool) (conversion : Char)
  | invalid (source : String)
  | unfinished
  deriving Repr

def decimalValue (digits : List Char) : Nat := Arithmetic.digitsValue 10 digits

/-- The width of a directive, from its argument or its digits, and what follows. -/
def widthAtFront : List Char → Nat × Bool × List Char
  | '*' :: cs => (0, true, cs)
  | cs =>
    let digits := cs.takeWhile isDigit
    (decimalValue digits, false, cs.drop digits.length)

def flagsAtFront (l : Layout) : List Char → Layout × List Char
  | '-' :: cs => flagsAtFront { l with left := true } cs
  | '+' :: cs => flagsAtFront { l with plus := true } cs
  | ' ' :: cs => flagsAtFront { l with space := true } cs
  | '0' :: cs => flagsAtFront { l with zeros := true } cs
  | '#' :: cs => flagsAtFront { l with marked := true } cs
  | cs => (l, cs)

/-- The directive behind a percent sign, and what follows it. -/
def directive (conversions : List Char) (cs : List Char) : FormatPiece × List Char :=
  let (l, rest) := flagsAtFront {} cs
  let (width, widthArgument, rest) := widthAtFront rest
  let (precision, precisionArgument, rest) := match rest with
    | '.' :: rest =>
      let (n, argument, rest) := widthAtFront rest
      (some n, argument, rest)
    | _ => (none, false, rest)
  match rest with
  | [] => (.unfinished, [])
  | c :: after =>
    if conversions.contains c then
      (.directive { l with width, precision } widthArgument precisionArgument c, after)
    else
      (.invalid (String.ofList ('%' :: cs.take (cs.length - after.length))), after)

def conversions : List Char :=
  ['b', 'c', 's', 'd', 'i', 'o', 'u', 'x', 'X', 'e', 'E', 'f', 'F', 'g', 'G']

/-- The pieces of a format; `fuel` bounds their number. -/
def formatPieces : Nat → List Char → List FormatPiece
  | 0, _ => []
  | _, [] => []
  | fuel + 1, c :: cs =>
    match c, cs with
    | '\\', _ =>
      match escape? cs with
      | some (d, rest) => .char d :: formatPieces fuel rest
      | none => .char c :: formatPieces fuel cs
    | '%', '%' :: rest => .char '%' :: formatPieces fuel rest
    | '%', _ =>
      let (piece, rest) := directive conversions cs
      piece :: formatPieces fuel rest
    | _, _ => .char c :: formatPieces fuel cs

/-! ## Numbers in arguments -/

/-- A number at the front of an argument: whether it is negative, its size and what follows. None
when there are no digits. -/
def signedAtFront? (cs : List Char) : Option (Bool × Nat × List Char) :=
  let cs := cs.dropWhile Arithmetic.isSpace
  let (negative, digits) := match cs with
    | '-' :: rest => (true, rest)
    | '+' :: rest => (false, rest)
    | _ => (false, cs)
  match digits with
  | '0' :: x :: d :: rest =>
    if (x = 'x' ∨ x = 'X') ∧ (hexValue? d).isSome then
      let (n, rest) := Arithmetic.digitsAtFront 16 (d :: rest)
      some (negative, n, rest)
    else
      let (n, rest) := Arithmetic.digitsAtFront 8 digits
      some (negative, n, rest)
  | c :: _ =>
    if isDigit c then
      let (n, rest) := Arithmetic.digitsAtFront (if c = '0' then 8 else 10) digits
      some (negative, n, rest)
    else none
  | [] => none

/-- A number of double precision at the front of a text, and what follows. -/
def doubleAtFront? (cs : List Char) : Option (Double × List Char) :=
  let cs := cs.dropWhile Arithmetic.isSpace
  let (negative, body) := match cs with
    | '-' :: rest => (true, rest)
    | '+' :: rest => (false, rest)
    | _ => (false, cs)
  match afterLetters? "infinity".toList body, afterLetters? "inf".toList body,
      afterLetters? "nan".toList body with
  | some rest, _, _ => some (.infinite negative, rest)
  | none, some rest, _ => some (.infinite negative, rest)
  | none, none, some rest => some (.undefined, rest)
  | none, none, none =>
    match body with
    | '0' :: x :: d :: rest =>
      if (x = 'x' ∨ x = 'X') ∧ (hexValue? d).isSome then
        let (n, rest) := Arithmetic.digitsAtFront 16 (d :: rest)
        some (.ofDecimal negative n 0, rest)
      else decimal negative body
    | _ => decimal negative body
where
  /-- A decimal without its sign. -/
  decimal (negative : Bool) (cs : List Char) : Option (Double × List Char) :=
    let whole := cs.takeWhile isDigit
    let rest := cs.drop whole.length
    let (fraction, rest) := match rest with
      | '.' :: more => (more.takeWhile isDigit, more.dropWhile isDigit)
      | _ => ([], rest)
    if whole.isEmpty && fraction.isEmpty then none
    else
      let (power, rest) := match rest with
        | e :: more =>
          let (minus, digits) := match more with
            | '-' :: ds => (true, ds)
            | '+' :: ds => (false, ds)
            | ds => (false, ds)
          let n : Int := decimalValue (digits.takeWhile isDigit)
          if (e = 'e' ∨ e = 'E') ∧ (digits.takeWhile isDigit) ≠ [] then
            (if minus then -n else n, digits.dropWhile isDigit)
          else (0, rest)
        | [] => (0, rest)
      some (.ofDecimal negative (decimalValue (whole ++ fraction)) (power - fraction.length), rest)

/-! ## Printing by a format -/

/-- What can be wrong with a format or its arguments. -/
inductive PrintFault where
  | notNumber (source : String)
  | afterNumber (source : String)
  | outOfRange (source : String)
  | badDirective (source : String)
  | unfinished
  deriving DecidableEq, Repr

def PrintFault.message : PrintFault → String
  | notNumber source => source ++ ": expected numeric value"
  | afterNumber source => source ++ ": not completely converted"
  | outOfRange source => source ++ ": Numerical result out of range"
  | badDirective source => source ++ ": invalid directive"
  | unfinished => "missing format character"

structure Printing where
  output : List Char := []
  complaints : List PrintFault := []
  arguments : List String
  status : Nat := 0
  stopped : Bool := false

namespace Printing

/-- Takes an argument; there may be none left. -/
def take (p : Printing) : Option String × Printing :=
  match p.arguments with
  | [] => (none, p)
  | a :: rest => (some a, { p with arguments := rest })

def put (p : Printing) (cs : List Char) : Printing := { p with output := p.output ++ cs }

def complain (p : Printing) (fault : PrintFault) : Printing :=
  { p with complaints := p.complaints ++ [fault], status := 1 }

def stop (p : Printing) (fault : PrintFault) : Printing :=
  { p with complaints := p.complaints ++ [fault], status := 2, stopped := true }

/-- Says what is wrong with a number, given what followed it. -/
def check (p : Printing) (source : String) (rest : Option (List Char)) (inRange : Bool) :
    Printing :=
  match rest with
  | none => if source = "" then p else p.complain (.notNumber source)
  | some (_ :: _) => p.complain (.afterNumber source)
  | some [] => if inRange then p else p.complain (.outOfRange source)

/-- Takes an integer. A quote stands for the number of the character behind it. -/
def takeInteger (p : Printing) (signed : Bool) : Int × Printing :=
  match p.take with
  | (none, p) => (0, p)
  | (some a, p) =>
    match a.toList with
    | '"' :: rest | '\'' :: rest => ((rest.headD '\x00').toNat, p)
    | cs =>
      match signedAtFront? cs with
      | none => (0, p.check a none true)
      | some (negative, n, rest) =>
        let value : Int := if negative then -n else n
        if signed then
          (Arithmetic.clamp value, p.check a (some rest) (Arithmetic.clamp value = value))
        else if n < Nat.pow 2 64 then (value % Int.pow 2 64, p.check a (some rest) true)
        else (Int.pow 2 64 - 1, p.check a (some rest) false)

def takeDouble (p : Printing) : Double × Printing :=
  match p.take with
  | (none, p) => (.ofDecimal false 0 0, p)
  | (some a, p) =>
    match a.toList with
    | '"' :: rest | '\'' :: rest => (.ofDecimal false (rest.headD '\x00').toNat 0, p)
    | cs =>
      match doubleAtFront? cs with
      | none => (.ofDecimal false 0 0, p.check a none true)
      | some (x, rest) => (x, p.check a (some rest) true)

/-- A layout with a width from an argument; a negative one puts the blanks behind. -/
def withWidth (l : Layout) (n : Int) : Layout :=
  { l with width := n.natAbs, left := l.left || n < 0 }

def convert (p : Printing) (l : Layout) (widthArgument precisionArgument : Bool)
    (conversion : Char) : Printing :=
  let (l, p) := if widthArgument then
      let (n, p) := p.takeInteger true
      (withWidth l n, p)
    else (l, p)
  let (l, p) := if precisionArgument then
      let (n, p) := p.takeInteger true
      ({ l with precision := if n < 0 then none else some n.toNat }, p)
    else (l, p)
  match conversion with
  | 's' =>
    let (a, p) := p.take
    p.put (l.text (a.getD "").toList)
  | 'b' =>
    let (a, p) := p.take
    let text := (a.getD "").toList
    let (cs, stop) := unescaped (text.length + 1) text
    { p.put (l.text cs) with stopped := stop }
  | 'c' =>
    let (a, p) := p.take
    p.put ({ l with precision := none }.text [((a.getD "").toList).headD '\x00'])
  | 'd' | 'i' =>
    let (n, p) := p.takeInteger true
    p.put (l.integer n)
  | 'u' =>
    let (n, p) := p.takeInteger false
    p.put (l.natural n.toNat)
  | 'o' =>
    let (n, p) := p.takeInteger false
    p.put (l.octal n.toNat)
  | 'x' | 'X' =>
    let (n, p) := p.takeInteger false
    p.put (l.hexadecimal (conversion = 'X') n.toNat)
  | _ =>
    let (x, p) := p.takeDouble
    let form := match conversion with
      | 'e' | 'E' => Layout.Form.scientific
      | 'f' | 'F' => .fixed
      | _ => .general
    p.put (l.double form (['E', 'F', 'G'].contains conversion) x)

def piece (p : Printing) (f : FormatPiece) : Printing :=
  if p.stopped then p
  else match f with
  | .char c => p.put [c]
  | .directive l widthArgument precisionArgument conversion =>
    p.convert l widthArgument precisionArgument conversion
  | .invalid source => p.stop (.badDirective source)
  | .unfinished => p.stop .unfinished

/-- Prints a format as often as it takes to use up the arguments; `fuel` bounds how often. -/
def all (pieces : List FormatPiece) : Nat → Printing → Printing
  | 0, p => p
  | fuel + 1, p =>
    let next := pieces.foldl piece p
    if next.stopped || next.arguments.isEmpty || next.arguments.length = p.arguments.length then
      next
    else all pieces fuel next

end Printing

def printFormat (format : String) (args : List String) : Printing :=
  let cs := format.toList
  Printing.all (formatPieces (cs.length + 1) cs) (args.length + 1) { arguments := args }

end Lettermill.Shell
