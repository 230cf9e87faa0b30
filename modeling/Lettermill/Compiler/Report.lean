import Lettermill.Compiler.Basic
import Lettermill.Text.Blank
import Lettermill.Text.Word
/-! The compiler's report of problems, one a line: the word `Line` and a number, the file, the tag
in parentheses, a dash, and the message. All other lines are passed over. The file ends as early as
it can, at the first place where a tag and a message follow. -/
namespace Lettermill.Report
set_option autoImplicit false
open Text

/-! ## Lines -/

def withoutReturn (line : List Char) : List Char :=
  match line.reverse with
  | '\x0d' :: rest => rest.reverse
  | _ => line

/-- The lines of a text, each trimmed. -/
def linesOf (cs : List Char) : List (List Char) :=
  (cutAt '\n' cs).map fun line => trimChars (withoutReturn line)

/-! ## One line -/

def maxLine : Nat := 18446744073709551615

/-- The number that ASCII digits denote, unless it is too large. -/
def lineNumber? (digits : List Char) : Option Nat :=
  if digits.all isDigit then
    let n := digits.foldl (fun n c => n * 10 + (c.toNat - '0'.toNat)) 0
    if n ≤ maxLine then some n else none
  else none

/-- The message behind a tag: a dash between spaces, and at least one character. -/
def message? : List Char → Option (List Char)
  | ' ' :: '—' :: ' ' :: c :: rest => some (c :: rest)
  | ' ' :: '-' :: ' ' :: c :: rest => some (c :: rest)
  | _ => none

def tagged? : List Char → Option (List Char × List Char)
  | ' ' :: '(' :: rest =>
    match cutOnce? ')' rest with
    | some (c :: tag, behind) => (message? behind).map fun message => (c :: tag, message)
    | _ => none
  | _ => none

def firstTagged? : List Char → Option (List Char × List Char)
  | [] => none
  | c :: cs => (tagged? (c :: cs)).or (firstTagged? cs)

def ofLine? (line : List Char) : Option Diagnostic :=
  match after? "Line ".toList line with
  | none => none
  | some rest =>
    let digits := rest.takeWhile isDecimal
    match digits, after? " of ".toList (rest.drop digits.length) with
    | _ :: _, some (_ :: behind) =>
      (firstTagged? behind).map fun (tag, message) =>
        { line := lineNumber? digits
          tagName := some (String.ofList tag)
          message := String.ofList (trimChars message) }
    | _, _ => none

/-- The problems that a report lists, in order. -/
def problems (report : String) : List Diagnostic := (linesOf report.toList).filterMap ofLine?

end Lettermill.Report
