import Lettermill.Text.Letters
/-! The syntax of shell scripts: words, redirections and commands. Words keep track of which of their
parts were quoted, since only the others are cut into fields and matched against names. Texts are in
byte form: a character stands for the byte with its number. -/
namespace Lettermill.Shell
set_option autoImplicit false

/-! ## Words -/

inductive Taking where
  | value
  | length
  /-- The value, or else a word; with `strict`, an empty value is none. -/
  | orWord (strict : Bool)
  /-- The value, or else a word that becomes the value. -/
  | orAssign (strict : Bool)
  /-- The value, or else the end of the script with a word as the reason. -/
  | orFail (strict : Bool)
  /-- A word in place of the value, if there is one. -/
  | instead (strict : Bool)
  /-- The value without what matches a pattern at its front, as little or as much as can be. -/
  | withoutFront (most : Bool)
  /-- The value without what matches a pattern at its end. -/
  | withoutBack (most : Bool)
  /-- Nothing: the braces hold no parameter. -/
  | nonsense
  deriving DecidableEq, Repr

inductive Part where
  | literal (text : List Char) (quoted : Bool)
  | parameter (name : String) (taking : Taking) (word : List Part) (quoted : Bool)
  /-- The output of a script, and, if its lines count among those around it, how many of these
  follow it. -/
  | output (source : List Char) (behind : Option Nat) (quoted : Bool)
  | arithmetic (expression : List Part) (quoted : Bool)
  /-- The home folder, by a tilde and perhaps the name of its owner. -/
  | home (owner : String)
  deriving Inhabited

/-- A word: its parts in order. -/
abbrev Word := List Part

/-! ## Commands -/

inductive Direction where
  | read
  | write
  /-- Writing even where it is not allowed to take the place of a file. -/
  | overwrite
  | append
  | readWrite
  /-- To where another channel leads, or to nowhere. -/
  | duplicate
  /-- From the text of a word. -/
  | document
  deriving DecidableEq, Repr, Inhabited

structure Redirection where
  channel : Nat
  direction : Direction
  target : Word
  deriving Inhabited

inductive Command where
  /-- A command of words, with the number of lines that follow its own. -/
  | simple (behind : Nat) (assignments : List (String × Word)) (words : List Word)
      (redirections : List Redirection)
  | pipeline (commands : List Command)
  | negation (c : Command)
  /-- The second command runs if the first succeeds. -/
  | both (first second : Command)
  /-- The second command runs if the first fails. -/
  | either (first second : Command)
  | sequence (commands : List Command)
  | background (c : Command)
  /-- A command in a shell of its own. -/
  | apart (c : Command)
  | redirected (c : Command) (redirections : List Redirection)
  | conditional (test : Command) (yes : Command) (no : Option Command)
  /-- A loop that goes on as long as its test gives this answer. -/
  | loop (answer : Bool) (test : Command) (body : Command)
  /-- A loop over words, or else over the arguments. -/
  | each (name : String) (words : Option (List Word)) (body : Command)
  | choice (subject : Word) (branches : List (List Word × Command))
  | define (name : String) (body : Command)
  deriving Inhabited

inductive SyntaxError where
  | unclosedQuotes
  | unclosedBraces
  | unclosedOutput
  | unclosedArithmetic
  | endOfFile (expected : String)
  | unexpected (found expected : String)
  | badName (name : String)
  | badLoopName
  | badChannel
  | tooDeep
  deriving DecidableEq, Repr, Inhabited

def SyntaxError.message : SyntaxError → String
  | .unclosedQuotes => "Unterminated quoted string"
  | .unclosedBraces => "Missing '\x7d'"
  | .unclosedOutput => "EOF in backquote substitution"
  | .unclosedArithmetic => "Missing '))'"
  | .endOfFile expected =>
    "end of file unexpected" ++ if expected = "" then "" else " (expecting " ++ expected ++ ")"
  | .unexpected found expected =>
    found ++ " unexpected" ++ if expected = "" then "" else " (expecting " ++ expected ++ ")"
  | .badName _ => "Bad function name"
  | .badLoopName => "Bad for loop variable"
  | .badChannel => "Bad fd number"
  | .tooDeep => "Nesting too deep"

/-- A script that cannot be read: why, and how many line ends lie behind the place where that
showed. -/
structure Unreadable where
  cause : SyntaxError
  behind : Nat
  deriving DecidableEq, Repr

end Lettermill.Shell
