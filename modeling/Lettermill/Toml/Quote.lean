import Lettermill.Text.Letters
/-! The texts and keys of TOML. A text stands between double quotes, with escapes, or between single
quotes, as it is; three quotes let it run over several lines. A key is a bare word or a text of one
line; dots join keys into a path. -/
namespace Lettermill.Toml
set_option autoImplicit false
open Text

/-- May `c` stand for itself in a text or a comment of one line? -/
def isPlain (c : Char) : Bool := c == '\t' || (' ' ≤ c && c != '\x7f')

def skipSpace (cs : List Char) : List Char := cs.dropWhile fun c => c == ' ' || c == '\t'

def lineEnd? : List Char → Option (List Char)
  | '\n' :: rest => some rest
  | '\x0d' :: '\n' :: rest => some rest
  | _ => none

/-! ## Escapes -/

/-- The character that a letter behind a backslash stands for. -/
def escaped? : Char → Option Char
  | 'b' => some '\x08'
  | 't' => some '\t'
  | 'n' => some '\n'
  | 'f' => some '\x0c'
  | 'r' => some '\x0d'
  | '"' => some '"'
  | '\\' => some '\\'
  | _ => none

/-- The character with a code point in hexadecimal. Surrogates have none. -/
def coded? (digits : List Char) : Option Char :=
  if digits.all fun c => (hexValue? c).isSome then
    let n := digits.foldl (fun n c => n * 16 + (hexValue? c).getD 0) 0
    if n < 0xd800 ∨ (0xdfff < n ∧ n < 0x110000) then some (Char.ofNat n) else none
  else none

/-- An escape, from behind its backslash: the character and how long the escape is. -/
def escape? (cs : List Char) : Option (Char × Nat) :=
  let coded (count : Nat) (rest : List Char) : Option (Char × Nat) :=
    if count ≤ rest.length then (coded? (rest.take count)).map fun c => (c, count + 1) else none
  match cs with
  | 'u' :: rest => coded 4 rest
  | 'U' :: rest => coded 8 rest
  | c :: _ => (escaped? c).map fun c => (c, 1)
  | [] => none

/-! ## Texts of one line -/

/-- A text with escapes, from behind its quote; `fuel` bounds its length. -/
def quotedText : Nat → List Char → Option (List Char × List Char)
  | 0, _ => none
  | _, [] => none
  | _, '"' :: rest => some ([], rest)
  | fuel + 1, '\\' :: rest => do
    let (c, size) ← escape? rest
    let (text, after) ← quotedText fuel (rest.drop size)
    some (c :: text, after)
  | fuel + 1, c :: rest =>
    if isPlain c then (quotedText fuel rest).map fun (text, after) => (c :: text, after) else none

def literalText : List Char → Option (List Char × List Char)
  | [] => none
  | '\'' :: rest => some ([], rest)
  | c :: rest =>
    if isPlain c then (literalText rest).map fun (text, after) => (c :: text, after) else none

/-! ## Texts of several lines -/

/-- How a text ends at a run of quotes: the quotes that still belong to it, and what follows. Up to
two of them may stand in front of the closing three. -/
def closing? (quote : Char) (cs : List Char) : Option (List Char × List Char) :=
  let count := (cs.takeWhile (· == quote)).length
  if count < 3 then none
  else
    let kept := min (count - 3) 2
    some (List.replicate kept quote, cs.drop (kept + 3))

def skipBlank : List Char → List Char
  | ' ' :: rest => skipBlank rest
  | '\t' :: rest => skipBlank rest
  | '\n' :: rest => skipBlank rest
  | '\x0d' :: '\n' :: rest => skipBlank rest
  | cs => cs

/-- A text of several lines, from behind its quotes. With `escapes`, a backslash at the end of a
line hides the line end and the blanks behind it. -/
def longText (quote : Char) (escapes : Bool) : Nat → List Char → Option (List Char × List Char)
  | 0, _ => none
  | _, [] => none
  | fuel + 1, c :: rest =>
    let onward (text : List Char) (rest : List Char) : Option (List Char × List Char) :=
      (longText quote escapes fuel rest).map fun (more, after) => (text ++ more, after)
    match closing? quote (c :: rest), lineEnd? (c :: rest) with
    | some ending, _ => some ending
    | none, some next => onward ['\n'] next
    | none, none =>
      if escapes ∧ c = '\\' then
        match lineEnd? (skipSpace rest), escape? rest with
        | some next, _ => onward [] (skipBlank next)
        | none, some (d, size) => onward [d] (rest.drop size)
        | none, none => none
      else if isPlain c then onward [c] rest
      else none

/-- A text of several lines starts on the line behind its quotes, if nothing stands there. -/
def fromLine (cs : List Char) : List Char := (lineEnd? cs).getD cs

def text? (cs : List Char) : Option (String × List Char) :=
  let read := match cs with
    | '"' :: '"' :: '"' :: rest => longText '"' true (rest.length + 1) (fromLine rest)
    | '\'' :: '\'' :: '\'' :: rest => longText '\'' false (rest.length + 1) (fromLine rest)
    | '"' :: rest => quotedText (rest.length + 1) rest
    | '\'' :: rest => literalText rest
    | _ => none
  read.map fun (text, after) => (String.ofList text, after)

/-! ## Keys -/

def isBare (c : Char) : Bool := isAlphanumeric c || c == '_' || c == '-'

def key? (cs : List Char) : Option (String × List Char) :=
  let read := match cs with
    | '"' :: rest => quotedText (rest.length + 1) rest
    | '\'' :: rest => literalText rest
    | _ =>
      match cs.takeWhile isBare with
      | [] => none
      | name => some (name, cs.drop name.length)
  read.map fun (name, after) => (String.ofList name, after)

/-- A path of keys at the front, with the blanks around each of them; `fuel` bounds their number. -/
def keys? : Nat → List Char → Option (List String × List Char)
  | 0, _ => none
  | fuel + 1, cs => do
    let (name, rest) ← key? (skipSpace cs)
    match skipSpace rest with
    | '.' :: rest => (keys? fuel rest).map fun (names, after) => (name :: names, after)
    | rest => some ([name], rest)

end Lettermill.Toml
