import Lettermill.Number.Arithmetic
import Lettermill.Shell.Print
import Lettermill.Shell.Utility.Regex
/-! Programs for records: rules that pair a condition with what to do for the records that meet it.
Here is what such a program is made of, what can be wrong with one, and how it falls into lexemes. -/
namespace Lettermill.Shell.Utility
set_option autoImplicit false
open Text

/-! ## Programs -/

inductive AwkOperator where
  | plus | minus | times | divide | remainder | power
  deriving DecidableEq, Repr, Inhabited

inductive AwkRelation where
  | less | lessEqual | equal | notEqual | greater | greaterEqual
  deriving DecidableEq, Repr, Inhabited

inductive AwkExpr where
  | number (x : Double)
  | text (cs : List Char)
  /-- A pattern; on its own it says whether the record matches. -/
  | pattern (r : Regex)
  | variable (name : String)
  | field (n : AwkExpr)
  | element (name : String) (keys : List AwkExpr)
  | assign (o : Option AwkOperator) (target value : AwkExpr)
  /-- One more or one less; the value is that from before if `late`. -/
  | step (o : AwkOperator) (late : Bool) (target : AwkExpr)
  | sign (negative : Bool) (e : AwkExpr)
  | no (e : AwkExpr)
  | binary (o : AwkOperator) (a b : AwkExpr)
  | compare (r : AwkRelation) (a b : AwkExpr)
  | join (a b : AwkExpr)
  | like (negated : Bool) (a b : AwkExpr)
  | member (keys : List AwkExpr) (name : String)
  | both (a b : AwkExpr)
  | either (a b : AwkExpr)
  | choice (test yes no : AwkExpr)
  | builtin (name : String) (args : List AwkExpr)
  | call (name : String) (args : List AwkExpr)
  /-- Reads the next record, or into a target. -/
  | readMain (target : Option AwkExpr)
  | readFile (target : Option AwkExpr) (path : AwkExpr)
  | readCommand (target : Option AwkExpr) (command : AwkExpr)
  deriving Inhabited

/-- Where output goes that does not go to the output. -/
inductive AwkSink where
  | file
  /-- To the end of a file. -/
  | append
  | command
  deriving DecidableEq, Repr

inductive AwkStatement where
  | value (e : AwkExpr)
  | print (args : List AwkExpr) (sink : Option (AwkSink × AwkExpr))
  /-- Prints by a format. -/
  | printf (args : List AwkExpr) (sink : Option (AwkSink × AwkExpr))
  | block (ss : List AwkStatement)
  | choose (test : AwkExpr) (yes : AwkStatement) (no : Option AwkStatement)
  /-- A loop, with what is done behind each round; the test comes behind the first if `late`. -/
  | loop (late : Bool) (test : AwkExpr) (behind : Option AwkStatement) (body : AwkStatement)
  | each (name array : String) (body : AwkStatement)
  | breakLoop
  | nextRound
  | nextRecord
  | nextFile
  | exit (status : Option AwkExpr)
  | leave (value : Option AwkExpr)
  /-- Deletes an element, or all of an array. -/
  | delete (name : String) (keys : List AwkExpr)
  deriving Inhabited

inductive AwkTrigger where
  | atStart
  | atEnd
  | always
  | when (test : AwkExpr)
  | between (first last : AwkExpr)

/-- A rule; without a body it prints the record. -/
structure AwkRule where
  trigger : AwkTrigger
  body : Option AwkStatement

structure AwkFunction where
  parameters : List String
  body : AwkStatement

structure AwkProgram where
  rules : List AwkRule := []
  functions : List (String × AwkFunction) := []

/-! ## Faults -/

inductive AwkPatternFault where
  | missingClosing
  | missingOperand
  | badClass
  | badAnchor
  deriving DecidableEq, Repr

def AwkPatternFault.message : AwkPatternFault → String
  | missingClosing => "missing ')'"
  | missingOperand => "missing operand"
  | badClass => "bad class -- [], [^] or ["
  | badAnchor => "syntax error ^* or ^+"

inductive AwkFault where
  | near (line : Nat) (what : String)
  | missing (line : Nat) (sign what : String)
  | extra (line : Nat) (sign : String)
  | unexpectedChar (line : Nat) (c : Char)
  | endlessText (line : Nat) (text : List Char)
  | endlessPattern (line : Nat) (text : List Char)
  | badPattern (line : Nat) (fault : AwkPatternFault) (text : List Char)
  | wrongCount (line : Nat) (name : String)
  | nothingToPrint (line : Nat)
  | undefinedFunction (line : Nat) (name : String)
  | definedTwice (line : Nat) (name : String)
  | namedTwice (line : Nat) (name : String)
  | outsideFunction (line : Nat)
  | outsideLoop (line : Nat) (name : String)
  | outsideRecord (line : Nat) (name : String)
  | tooDeep

def AwkFault.messages : AwkFault → List String
  | near line what => [at_ line ++ "syntax error at or near " ++ what]
  | missing line sign what => [at_ line ++ "missing " ++ sign ++ " near " ++ what]
  | extra line sign =>
    (at_ line ++ "extra '" ++ sign ++ "'")
      :: if sign = ")" then [] else [at_ line ++ "syntax error at or near end of line"]
  | unexpectedChar line c =>
    [toString line ++ ": unexpected character '" ++ String.ofList [c] ++ "'"]
  | endlessText line text =>
    [at_ line ++ "runaway string constant \"" ++ String.ofList text ++ " ..."]
  | endlessPattern line text =>
    [at_ line ++ "runaway regular expression /" ++ String.ofList text ++ " ..."]
  | badPattern line fault text =>
    [at_ line ++ "regular expression compile failed (" ++ fault.message ++ ")\n"
      ++ String.ofList text]
  | wrongCount line name => [at_ line ++ "wrong number of arguments in call to " ++ name]
  | nothingToPrint line => [at_ line ++ "no arguments in call to printf"]
  | undefinedFunction line name => [at_ line ++ "function " ++ name ++ " never defined"]
  | definedTwice line name => [at_ line ++ "redefinition of " ++ name]
  | namedTwice line name => [at_ line ++ name ++ " is duplicated in argument list"]
  | outsideFunction line => [at_ line ++ "return outside function body"]
  | outsideLoop line name => [at_ line ++ name ++ " statement outside of loop"]
  | outsideRecord line name => [at_ line ++ "improper use of " ++ name]
  | tooDeep => ["program is nested too deeply"]
where
  /-- The line that a fault is in. -/
  at_ (line : Nat) : String := "line " ++ toString line ++ ": "

/-! ## Patterns -/

/-- The character that a letter behind a backslash stands for in a program. -/
def awkEscape? (c : Char) : Option Char := if c = 'e' then none else escapedChar? c

/-- The character behind a backslash, and what follows, when it stands for another one. -/
def awkEscaped? (cs : List Char) : Option (Char × List Char) :=
  match cs with
  | [] => none
  | 'x' :: d :: rest =>
    let digits := ((d :: rest).take 2).takeWhile fun c => (hexValue? c).isSome
    if digits.isEmpty then none
    else some (Char.ofNat (Arithmetic.digitsValue 16 digits), (d :: rest).drop digits.length)
  | c :: rest =>
    if isOctal c then
      let digits := (cs.take 3).takeWhile isOctal
      some (octalChar digits, cs.drop digits.length)
    else (awkEscape? c).map fun d => (d, rest)

/-- The sets of a bracket, from behind its opening, and what follows it; backslashes count. -/
def awkBracket (first : Bool) : Nat → List Char → Option (List CharSet × List Char)
  | 0, _ => none
  | _, [] => none
  | fuel + 1, c :: rest =>
    let onward (set : CharSet) (rest : List Char) : Option (List CharSet × List Char) :=
      (awkBracket false fuel rest).map fun (sets, after) => (set :: sets, after)
    let one (c : Char) (rest : List Char) : Char × List Char :=
      match c, rest with
      | '\\', d :: more => (awkEscaped? (d :: more)).getD (d, more)
      | _, _ => (c, rest)
    let single (c : Char) (rest : List Char) : Option (List CharSet × List Char) :=
      let (low, rest) := one c rest
      match rest with
      | '-' :: ']' :: _ => onward (.range low low) rest
      | '-' :: d :: more =>
        let (high, more) := one d more
        onward (.range low high) more
      | _ => onward (.range low low) rest
    match c, rest with
    | ']', _ => if first then single c rest else some ([], rest)
    | '[', ':' :: more =>
      let name := more.takeWhile isLetter
      match more.drop name.length with
      | ':' :: ']' :: after => onward (.named (String.ofList name)) after
      | _ => single c rest
    | _, _ => single c rest

def awkPatternLexemes : Nat → List Char → Option (List RegexLexeme)
  | 0, _ => some []
  | _, [] => some []
  | fuel + 1, c :: rest =>
    let onward (l : RegexLexeme) (rest : List Char) : Option (List RegexLexeme) :=
      (awkPatternLexemes fuel rest).map (l :: ·)
    match c, rest with
    | '[', _ =>
      let (negated, inside) := match rest with
        | '^' :: more => (true, more)
        | _ => (false, rest)
      (awkBracket true (inside.length + 1) inside).bind fun (sets, after) =>
        onward (.piece (.one negated sets)) after
    | '.', _ => onward (.piece .any) rest
    | '^', _ => onward (.piece .first) rest
    | '$', _ => onward (.piece .last) rest
    | '*', _ => onward (.times 0 none) rest
    | '+', _ => onward (.times 1 none) rest
    | '?', _ => onward (.times 0 (some 1)) rest
    | '(', _ => onward .opening rest
    | ')', _ => onward .closing rest
    | '|', _ => onward .bar rest
    | '\x7b', _ =>
      match counts? ['\x7d'] rest with
      | some (least, most, after) => onward (.times least most) after
      | none => onward (.piece (.exactly c)) rest
    | '\\', d :: after =>
      match awkEscaped? rest with
      | some (e, more) => onward (.piece (.exactly e)) more
      | none => onward (.piece (.exactly d)) after
    | _, _ => onward (.piece (.exactly c)) rest

/-- The fault of lexemes in which something lacks its operand. -/
def awkLexemeFault? (operand : Bool) : List RegexLexeme → Option AwkPatternFault
  | [] => if operand then none else some .missingOperand
  | .piece .first :: .times .. :: _ => some .badAnchor
  | .piece _ :: ls => awkLexemeFault? true ls
  | .times .. :: ls => if operand then awkLexemeFault? true ls else some .missingOperand
  | .opening :: ls => awkLexemeFault? false ls
  | .closing :: ls => if operand then awkLexemeFault? true ls else some .missingOperand
  | .bar :: ls => if operand then awkLexemeFault? false ls else some .missingOperand

def openParentheses (ls : List RegexLexeme) : Nat :=
  ls.foldl (fun n l =>
    match l with
    | .opening => n + 1
    | .closing => n - 1
    | _ => n) 0

/-- The expression that a pattern denotes. A parenthesis that closes nothing stands for itself. -/
def readAwkPattern (cs : List Char) : Except AwkPatternFault Regex :=
  if cs.isEmpty then .ok .nothing
  else match awkPatternLexemes (cs.length + 1) cs with
  | none => .error .badClass
  | some ls =>
    let ls := withLoneClosings 0 ls
    if openParentheses ls ≠ 0 then .error .missingClosing
    else match awkLexemeFault? false ls with
    | some fault => .error fault
    | none =>
      match Regex.ofLexemes true ls with
      | .ok (r, _) => .ok r
      | .error _ => .error .missingClosing

/-! ## Lexemes -/

inductive AwkToken where
  | number (x : Double)
  | text (cs : List Char)
  | pattern (cs : List Char)
  | name (s : String)
  /-- The name of a function, which stands directly before a parenthesis. -/
  | called (s : String)
  /-- A word with a meaning of its own. -/
  | word (s : String)
  | sign (s : String)
  | lineEnd
  deriving DecidableEq, Repr, Inhabited

structure AwkLexeme where
  token : AwkToken
  line : Nat
  deriving Inhabited

/-- The functions that every program has, with how many arguments they take. -/
def awkFunctions : List (String × Nat × Nat) := [
  ("length", 0, 1), ("substr", 2, 3), ("index", 2, 2), ("split", 2, 3), ("sub", 2, 3),
  ("gsub", 2, 3), ("match", 2, 2), ("sprintf", 1, 1000), ("tolower", 1, 1), ("toupper", 1, 1),
  ("int", 1, 1), ("sqrt", 1, 1), ("exp", 1, 1), ("log", 1, 1), ("sin", 1, 1), ("cos", 1, 1),
  ("atan2", 2, 2), ("rand", 0, 0), ("srand", 0, 1), ("system", 1, 1), ("close", 1, 1),
  ("fflush", 0, 1)]

/-- Words with a meaning of their own, besides those of functions. -/
def awkWords : List String := ["BEGIN", "END", "function", "func", "if", "else", "while", "for",
  "do", "in", "print", "printf", "next", "nextfile", "exit", "return", "break", "continue",
  "delete", "getline"]

def awkSigns : List String := ["+=", "-=", "*=", "/=", "%=", "^=", "==", "<=", ">=", "!=", "!~",
  "&&", "||", "++", "--", ">>", "\x7b", "\x7d", "(", ")", "[", "]", ";", ",", "+", "-", "*", "/",
  "%", "^", "!", ">", "<", "|", "?", ":", "~", "$", "="]

def AwkToken.beforePattern : AwkToken → Bool
  | number _ | text _ | pattern _ | name _ => false
  | word w => !(awkFunctions.lookup w).isSome
  | sign s => !([")", "]", "++", "--"].contains s)
  | _ => true

def AwkToken.continues : AwkToken → Bool
  | sign s => ["\x7b", "&&", "||", ","].contains s
  | word w => w = "do" || w = "else"
  | lineEnd => true
  | _ => false

/-- The text of a constant from behind its quote, and what follows its end. -/
def awkText : Nat → List Char → Option (List Char × List Char)
  | 0, _ => none
  | _, [] => none
  | fuel + 1, c :: rest =>
    let onward (d : List Char) (rest : List Char) : Option (List Char × List Char) :=
      (awkText fuel rest).map fun (more, after) => (d ++ more, after)
    match c, rest with
    | '"', _ => some ([], rest)
    | '\n', _ => none
    | '\\', '"' :: after => onward ['"'] after
    | '\\', '\n' :: after => onward [] after
    | '\\', d :: after =>
      match awkEscaped? rest with
      | some (e, more) => onward [e] more
      | none => onward [c, d] after
    | _, _ => onward [c] rest

def awkUnescaped : Nat → List Char → List Char
  | 0, cs => cs
  | _, [] => []
  | fuel + 1, c :: rest =>
    match c, awkEscaped? rest with
    | '\\', some (d, after) => d :: awkUnescaped fuel after
    | _, _ => c :: awkUnescaped fuel rest

/-- The text of a pattern from behind its slash, and what follows its end. A slash inside brackets
does not end it; `bracket` counts what was read of a bracket. -/
def awkPatternText (bracket : Option Nat) : List Char → Option (List Char × List Char)
  | [] => none
  | '\n' :: _ => none
  | '\\' :: c :: rest =>
    (awkPatternText (bracket.map (· + 1)) rest).map fun (more, after) =>
      (if c = '/' then c :: more else '\\' :: c :: more, after)
  | c :: rest =>
    let onward (bracket : Option Nat) : Option (List Char × List Char) :=
      (awkPatternText bracket rest).map fun (more, after) => (c :: more, after)
    match bracket, c with
    | none, '/' => some ([], rest)
    | none, '[' => onward (some 0)
    | none, _ => onward none
    | some 0, '^' => onward (some 0)
    | some (_ + 1), ']' => onward none
    | some n, _ => onward (some (n + 1))

def isAwkNameChar (c : Char) : Bool := isWordChar c

/-- The lexemes of a program from a line on, given the token before. -/
def awkLexemes : Nat → AwkToken → Nat → List Char → Except AwkFault (List AwkLexeme)
  | 0, _, _, _ => .ok []
  | _, _, _, [] => .ok []
  | fuel + 1, before, line, c :: rest =>
    let onward (token : AwkToken) (rest : List Char) : Except AwkFault (List AwkLexeme) :=
      (awkLexemes fuel token line rest).map (⟨token, line⟩ :: ·)
    let restOfLine := rest.takeWhile (· != '\n')
    match c, rest with
    | '\n', _ =>
      if before.continues then awkLexemes fuel before (line + 1) rest
      else (awkLexemes fuel .lineEnd (line + 1) rest).map (⟨.lineEnd, line⟩ :: ·)
    | '\\', '\n' :: after => awkLexemes fuel before (line + 1) after
    | '#', _ => awkLexemes fuel before line (rest.drop restOfLine.length)
    | '"', _ =>
      match awkText (rest.length + 1) rest with
      | some (cs, after) => onward (.text cs) after
      | none => .error (.endlessText line restOfLine)
    | _, _ =>
      if c = ' ' ∨ c = '\t' ∨ c = '\x0d' ∨ c = '\x0c' ∨ c = '\x0b' then
        awkLexemes fuel before line rest
      else if c = '/' ∧ before.beforePattern then
        match awkPatternText none rest with
        | some (cs, after) => onward (.pattern cs) after
        | none => .error (.endlessPattern line restOfLine)
      else if isDigit c || (c == '.' && (rest.head?.map isDigit).getD false) then
        match doubleAtFront?.decimal false (c :: rest) with
        | some (x, after) => onward (.number x) after
        | none => .error (.unexpectedChar line c)
      else if isAwkNameChar c then
        let word := c :: rest.takeWhile isAwkNameChar
        let after := (c :: rest).drop word.length
        let s := String.ofList word
        if awkWords.contains s || (awkFunctions.lookup s).isSome then onward (.word s) after
        else if after.head? = some '(' then onward (.called s) after
        else onward (.name s) after
      else
        match awkSigns.find? fun s => (after? s.toList (c :: rest)).isSome with
        | some s => onward (.sign s) ((c :: rest).drop s.length)
        | none => .error (.unexpectedChar line c)

def AwkToken.shown : AwkToken → String
  | number x => x.text
  | text cs => "\"" ++ String.ofList cs ++ "\""
  | pattern cs => "/" ++ String.ofList cs ++ "/"
  | name s | called s | word s | sign s => s
  | lineEnd => "end of line"

end Lettermill.Shell.Utility
