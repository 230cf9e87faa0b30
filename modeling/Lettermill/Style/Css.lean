import Lettermill.Text.Letters
/-! CSS text, token by token: only as much of a token is kept as reading rules needs, that is names,
punctuation and brackets. A backslash escapes what follows it, so brackets and semicolons inside
names, strings and addresses do not count. -/
namespace Lettermill.Css
set_option autoImplicit false
open Text

inductive Bracket where
  | round
  | square
  | curly
  deriving DecidableEq, Repr

inductive Kind where
  | name (text : List Char)
  | atName (text : List Char)
  | semicolon
  | colon
  | opening (b : Bracket)
  | closing (b : Bracket)
  /-- Anything else: numbers, strings, addresses, blanks, comments, signs. -/
  | other
  deriving DecidableEq, Repr

/-! ## Characters -/

def isNewline (c : Char) : Bool := c == '\n' || c == '\x0d' || c == '\x0c'

def isGap (c : Char) : Bool := c == ' ' || c == '\t' || isNewline c

def startsNameChar (c : Char) : Bool :=
  isLetter c || c == '_' || c == '\x00' || 128 ≤ c.toNat

def isNameChar (c : Char) : Bool := startsNameChar c || isDigit c || c == '-'

/-- Is a backslash in front of this an escape inside a name? -/
def escapes : List Char → Bool
  | c :: _ => !isNewline c
  | [] => true

def startsName : List Char → Bool
  | '-' :: '-' :: _ => true
  | '-' :: '\\' :: _ => true
  | '-' :: c :: _ => startsNameChar c
  | '-' :: [] => false
  | '\\' :: rest => escapes rest
  | c :: _ => startsNameChar c
  | [] => false

/-- Without the first line end, of which a return and a feed are one. -/
def dropNewline : List Char → List Char
  | '\x0d' :: '\n' :: rest => rest
  | c :: rest => if isNewline c then rest else c :: rest
  | [] => []

/-! ## Escapes and names -/

def charOf (n : Nat) : Char :=
  if n = 0 ∨ n > 0x10ffff ∨ (0xd800 ≤ n ∧ n ≤ 0xdfff) then '\ufffd' else Char.ofNat n

/-- The character that an escape stands for, from behind its backslash: up to six hexadecimal digits
and one blank, or any character for itself. -/
def unescape (cs : List Char) : Char × List Char :=
  match (cs.take 6).takeWhile fun c => (hexValue? c).isSome with
  | [] =>
    match cs with
    | [] => ('\ufffd', [])
    | c :: rest => (if c = '\x00' then '\ufffd' else c, rest)
  | digits =>
    let n := digits.foldl (fun n c => n * 16 + (hexValue? c).getD 0) 0
    let rest := match cs.drop digits.length with
      | ' ' :: rest => rest
      | '\t' :: rest => rest
      | rest => dropNewline rest
    (charOf n, rest)

/-- A name from here on, with its escapes read; `fuel` bounds its characters. -/
def nameFrom : Nat → List Char → List Char × List Char
  | 0, cs => ([], cs)
  | _, [] => ([], [])
  | fuel + 1, c :: cs =>
    if c = '\\' then
      if escapes cs then
        let (e, rest) := unescape cs
        let (more, after) := nameFrom fuel rest
        (e :: more, after)
      else ([], c :: cs)
    else if isNameChar c then
      let (more, after) := nameFrom fuel cs
      ((if c = '\x00' then '\ufffd' else c) :: more, after)
    else ([], c :: cs)

def name (cs : List Char) : List Char × List Char := nameFrom cs.length cs

/-! ## Comments, strings, numbers, addresses -/

def afterComment : List Char → List Char
  | [] => []
  | '*' :: '/' :: rest => rest
  | _ :: rest => afterComment rest

/-- What follows a string, from behind its opening quote. A line end ends it, too. -/
def afterString (quote : Char) : Nat → List Char → List Char
  | 0, cs => cs
  | _, [] => []
  | fuel + 1, c :: cs =>
    if c = quote then cs
    else if isNewline c then c :: cs
    else if c = '\\' then
      match cs with
      | [] => []
      | d :: _ =>
        if isNewline d then afterString quote fuel (dropNewline cs)
        else afterString quote fuel (unescape cs).2
    else afterString quote fuel cs

def digitNext : List Char → Bool
  | c :: _ => isDigit c
  | [] => false

def numberNext : List Char → Bool
  | '.' :: rest => digitNext rest
  | cs => digitNext cs

/-- What follows the exponent of a number, if there is one. -/
def afterExponent (cs : List Char) : List Char :=
  match cs with
  | c :: rest =>
    if c = 'e' || c = 'E' then
      let digits := match rest with
        | '+' :: more => more
        | '-' :: more => more
        | _ => rest
      if digitNext digits then digits.dropWhile isDigit else cs
    else cs
  | [] => []

/-- What follows a number without a sign, with its percent sign or unit. -/
def afterNumber (cs : List Char) : List Char :=
  let whole := cs.dropWhile isDigit
  let fraction := match whole with
    | '.' :: rest => if digitNext rest then rest.dropWhile isDigit else whole
    | _ => whole
  match afterExponent fraction with
  | '%' :: rest => rest
  | rest => if startsName rest then (name rest).2 else rest

def afterBadUrl : List Char → List Char
  | [] => []
  | ')' :: rest => rest
  | '\\' :: ')' :: rest => afterBadUrl rest
  | '\\' :: '\\' :: rest => afterBadUrl rest
  | _ :: rest => afterBadUrl rest

def breaksUrl (c : Char) : Bool :=
  c == '"' || c == '\'' || c == '(' || c == '\x7f' || c == '\x0b'
    || ('\x01' ≤ c && c ≤ '\x08') || ('\x0e' ≤ c && c ≤ '\x1f')

/-- What follows an address without quotes, from its first character on. -/
def afterUrl : Nat → List Char → List Char
  | 0, cs => cs
  | _, [] => []
  | fuel + 1, c :: cs =>
    if c = ')' then cs
    else if isGap c then
      match cs.dropWhile isGap with
      | [] => []
      | ')' :: rest => rest
      | _ :: rest => afterBadUrl rest
    else if breaksUrl c then afterBadUrl cs
    else if c = '\\' then
      match cs with
      | d :: _ => if isNewline d then afterBadUrl cs else afterUrl fuel (unescape cs).2
      | [] => []
    else afterUrl fuel cs

/-! ## Tokens -/

/-- A name from here on, or the function or address that it opens. -/
def nameLike (cs : List Char) : Kind × List Char :=
  let (text, rest) := name cs
  match rest with
  | '(' :: inner =>
    if lowerChars text = "url".toList then
      match inner.dropWhile isGap with
      | '"' :: _ => (.opening .round, inner)
      | '\'' :: _ => (.opening .round, inner)
      | first => (.other, afterUrl first.length first)
    else (.opening .round, inner)
  | _ => (.name text, rest)

def token? : List Char → Option (Kind × List Char)
  | [] => none
  | c :: cs =>
    some (
      if isGap c then (.other, cs.dropWhile isGap)
      else match c with
        | '"' => (.other, afterString '"' cs.length cs)
        | '\'' => (.other, afterString '\'' cs.length cs)
        | '#' =>
          let hash := startsName cs || digitNext cs || cs.head? == some '-'
          (.other, if hash then (name cs).2 else cs)
        | '(' => (.opening .round, cs)
        | ')' => (.closing .round, cs)
        | '[' => (.opening .square, cs)
        | ']' => (.closing .square, cs)
        | '{' => (.opening .curly, cs)
        | '}' => (.closing .curly, cs)
        | ':' => (.colon, cs)
        | ';' => (.semicolon, cs)
        | '+' => (.other, if numberNext cs then afterNumber cs else cs)
        | '-' =>
          if numberNext cs then (.other, afterNumber cs)
          else match after? "->".toList cs with
            | some rest => (.other, rest)
            | none => if startsName (c :: cs) then nameLike (c :: cs) else (.other, cs)
        | '.' => (.other, if digitNext cs then afterNumber (c :: cs) else cs)
        | '/' =>
          match cs with
          | '*' :: rest => (.other, afterComment rest)
          | _ => (.other, cs)
        | '<' => (.other, (after? "!--".toList cs).getD cs)
        | '@' =>
          if startsName cs then
            let (text, rest) := name cs
            (.atName text, rest)
          else (.other, cs)
        | '\\' => if escapes cs then nameLike (c :: cs) else (.other, cs)
        | _ =>
          if isDigit c then (.other, afterNumber (c :: cs))
          else if startsNameChar c then nameLike (c :: cs)
          else (.other, cs))

/-- Without the blanks and comments in front; `fuel` bounds the characters. -/
def skipGapsWith : Nat → List Char → List Char
  | 0, cs => cs
  | fuel + 1, cs =>
    match cs with
    | '/' :: '*' :: rest => skipGapsWith fuel (afterComment rest)
    | c :: rest => if isGap c then skipGapsWith fuel rest else cs
    | [] => []

def skipGaps (cs : List Char) : List Char := skipGapsWith cs.length cs

/-- Without the blanks, comments and comment marks of HTML in front. -/
def skipMarksWith : Nat → List Char → List Char
  | 0, cs => cs
  | fuel + 1, cs =>
    match cs with
    | '/' :: '*' :: rest => skipMarksWith fuel (afterComment rest)
    | '<' :: '!' :: '-' :: '-' :: rest => skipMarksWith fuel rest
    | '-' :: '-' :: '>' :: rest => skipMarksWith fuel rest
    | c :: rest => if isGap c then skipMarksWith fuel rest else cs
    | [] => []

def skipMarks (cs : List Char) : List Char := skipMarksWith cs.length cs

/-! ## Blocks -/

/-- What follows the end of the open brackets, innermost first. A closing bracket that does not
match the innermost one is passed over. -/
def afterBlocks : Nat → List Bracket → List Char → List Char
  | _, [], cs => cs
  | 0, _, cs => cs
  | fuel + 1, b :: bs, cs =>
    match token? cs with
    | none => []
    | some (.opening b', rest) => afterBlocks fuel (b' :: b :: bs) rest
    | some (.closing b', rest) => afterBlocks fuel (if b' = b then bs else b :: bs) rest
    | some (_, rest) => afterBlocks fuel (b :: bs) rest

def afterBlock (b : Bracket) (cs : List Char) : List Char := afterBlocks cs.length [b] cs

/-- From the next character that stops, brackets passed over whole. -/
def runTo (stops : Char → Bool) : Nat → List Char → List Char
  | 0, cs => cs
  | fuel + 1, cs =>
    match skipGaps cs with
    | [] => []
    | c :: rest =>
      if stops c then c :: rest
      else match token? (c :: rest) with
        | none => []
        | some (.opening b, inner) => runTo stops fuel (afterBlock b inner)
        | some (_, after) => runTo stops fuel after

/-- The text up to the next character that stops, and the text from there on. -/
def untilStop (stops : Char → Bool) (cs : List Char) : List Char × List Char :=
  let rest := runTo stops (cs.length + 1) cs
  (cs.take (cs.length - rest.length), rest)

end Lettermill.Css
