/-! Blank characters, and the operations that depend on them: trimming, blankness of a text, and
cutting a text into words. A character is blank when it has the Unicode property White_Space. -/
namespace Lettermill.Text
set_option autoImplicit false

/-- Has `c` the property White_Space? -/
def isBlank (c : Char) : Bool :=
  c == ' ' || ('\t' ≤ c && c ≤ '\x0d') || c == '\u0085' || c == '\u00a0' || c == '\u1680'
    || ('\u2000' ≤ c && c ≤ '\u200a') || c == '\u2028' || c == '\u2029' || c == '\u202f'
    || c == '\u205f' || c == '\u3000'

/-- The blank characters of HTML: space, tab, line feed, form feed and carriage return. -/
def isAsciiBlank (c : Char) : Bool :=
  c == ' ' || c == '\t' || c == '\n' || c == '\x0c' || c == '\x0d'

/-! ## Trimming -/

def trimLeft (cs : List Char) : List Char := cs.dropWhile isBlank

def trimRight (cs : List Char) : List Char := (cs.reverse.dropWhile isBlank).reverse

def trimChars (cs : List Char) : List Char := trimRight (trimLeft cs)

def trim (s : String) : String := String.ofList (trimChars s.toList)

def allBlank (s : String) : Bool := s.toList.all isBlank

/-! ## Words -/

/-- The maximal runs of characters that are not blank, in order. -/
def wordsOf : List Char → List Char → List (List Char)
  | [], [] => []
  | run, [] => [run.reverse]
  | run, c :: cs =>
    if isBlank c then
      match run with
      | [] => wordsOf [] cs
      | _ => run.reverse :: wordsOf [] cs
    else wordsOf (c :: run) cs

def words (s : String) : List String := (wordsOf [] s.toList).map String.ofList

end Lettermill.Text
