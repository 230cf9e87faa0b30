import Lettermill.Shell.Arithmetic
/-! Conditions as `test` judges them: about texts, integers and files, joined by and, or, not and
parentheses. What a word means depends on the words around it, so that operators may also stand
where a text is due. -/
namespace Lettermill.Shell.Condition
set_option autoImplicit false
open Text

inductive Failure where
  | unexpectedOperator (word : String)
  | argumentExpected (word : String)
  | illegalNumber (word : String)
  | unclosed
  | tooDeep
  deriving DecidableEq, Repr

def Failure.message : Failure → String
  | unexpectedOperator word => word ++ ": unexpected operator"
  | argumentExpected word => word ++ ": argument expected"
  | illegalNumber word => "Illegal number: " ++ word
  | unclosed => "closing paren expected"
  | tooDeep => "nesting too deep"

def unaryOperators : List String :=
  ["-r", "-w", "-x", "-e", "-f", "-d", "-c", "-b", "-p", "-u", "-g", "-k", "-s", "-t", "-z", "-n",
    "-h", "-O", "-G", "-L", "-S"]

def binaryOperators : List String :=
  ["=", "!=", "<", ">", "-eq", "-ne", "-ge", "-gt", "-le", "-lt", "-nt", "-ot", "-ef"]

inductive Lexeme where
  | nothing
  | operand
  | unary
  | binary
  | no
  | both
  | either
  | opening
  | closing
  deriving DecidableEq, Repr

def forcesOperand : List String → Bool
  | [] => true
  | [_] => false
  | s :: t :: _ => binaryOperators.contains s && t ≠ ")"

def lexeme : List String → Lexeme
  | [] => .nothing
  | word :: rest =>
    if unaryOperators.contains word then if forcesOperand rest then .operand else .unary
    else if binaryOperators.contains word then .binary
    else match word with
    | "!" => .no
    | "-a" => .both
    | "-o" => .either
    | "(" => if rest.isEmpty then .operand else .opening
    | ")" => .closing
    | _ => .operand

/-- What can be asked about a file, by the operator, and about two files. -/
structure Probe where
  one : String → String → Bool
  two : String → String → String → Bool

def integer (word : String) : Except Failure Int :=
  let cs := word.toList.dropWhile Arithmetic.isSpace
  let (negative, digits) := match cs with
    | '-' :: rest => (true, rest)
    | '+' :: rest => (false, rest)
    | _ => (false, cs)
  let number := digits.takeWhile isDigit
  let n : Int := Arithmetic.digitsValue 10 number
  if number.isEmpty || !(digits.drop number.length).all Arithmetic.isSpace then
    .error (.illegalNumber word)
  else .ok (if negative then -n else n)

def compare (p : Probe) (a operator b : String) : Except Failure Bool :=
  let integers (test : Int → Int → Bool) : Except Failure Bool := do
    return test (← integer a) (← integer b)
  match operator with
  | "=" => .ok (a = b)
  | "!=" => .ok (a ≠ b)
  | "<" => .ok (a < b)
  | ">" => .ok (b < a)
  | "-eq" => integers fun m n => m = n
  | "-ne" => integers fun m n => m ≠ n
  | "-ge" => integers fun m n => n ≤ m
  | "-gt" => integers fun m n => n < m
  | "-le" => integers fun m n => m ≤ n
  | "-lt" => integers fun m n => m < n
  | _ => .ok (p.two operator a b)

/-- An answer, and the words from the last one that it is about. -/
abbrev Answer := Except Failure (Bool × List String)

mutual

def anyOf (p : Probe) : Nat → Lexeme → List String → Answer
  | 0, _, _ => .error .tooDeep
  | fuel + 1, l, words => do
    let (a, words) ← allOf p fuel l words
    match lexeme words.tail with
    | .either =>
      let (b, words) ← anyOf p fuel (lexeme (words.drop 2)) (words.drop 2)
      return (a || b, words)
    | _ => return (a, words)

def allOf (p : Probe) : Nat → Lexeme → List String → Answer
  | 0, _, _ => .error .tooDeep
  | fuel + 1, l, words => do
    let (a, words) ← noneOf p fuel l words
    match lexeme words.tail with
    | .both =>
      let (b, words) ← allOf p fuel (lexeme (words.drop 2)) (words.drop 2)
      return (a && b, words)
    | _ => return (a, words)

def noneOf (p : Probe) : Nat → Lexeme → List String → Answer
  | 0, _, _ => .error .tooDeep
  | fuel + 1, l, words =>
    match l with
    | .no => do
      let next := lexeme words.tail
      let (a, words) ← noneOf p fuel next (if next = .nothing then words else words.tail)
      return (!a, words)
    | _ => plain p fuel l words

def plain (p : Probe) : Nat → Lexeme → List String → Answer
  | 0, _, _ => .error .tooDeep
  | fuel + 1, l, words =>
    match l, words with
    | .nothing, _ => .ok (false, words)
    | .opening, _ :: rest =>
      match lexeme rest with
      | .closing => .ok (false, rest)
      | next => do
        let (a, words) ← anyOf p fuel next rest
        match lexeme words.tail with
        | .closing => return (a, words.tail)
        | _ => .error .unclosed
    | .unary, operator :: rest =>
      match rest with
      | [] => .error (.argumentExpected operator)
      | a :: _ =>
        match operator with
        | "-z" => .ok (a = "", rest)
        | "-n" => .ok (a ≠ "", rest)
        | "-t" => do
          let _ ← integer a
          return (p.one operator a, rest)
        | _ => .ok (p.one operator a, rest)
    | _, a :: rest =>
      match lexeme rest, rest with
      | .binary, operator :: more =>
        match more with
        | [] => .error (.argumentExpected operator)
        | b :: _ => (compare p a operator b).map fun answer => (answer, more)
      | _, _ => .ok (a ≠ "", words)
    | _, [] => .ok (false, [])

end

/-- Judges a condition. Up to four words have a meaning that does not depend on more than their
number. -/
def judge (p : Probe) (words : List String) : Except Failure Bool := do
  let fuel := 8 * words.length + 8
  let binaryMiddle : Bool := match words with
    | [_, operator, _] => binaryOperators.contains operator
    | _ => false
  let few := words.length == 3 || words.length == 4
  let enclosed := few && words.head? == some "(" && words.getLast? == some ")"
  let inner := if enclosed && !binaryMiddle then words.tail.dropLast else words
  let first : Lexeme := if binaryMiddle then .operand
    else if few && !enclosed && words.head? == some "!" then .no
    else lexeme inner
  if words.isEmpty then return false
  else
    let (a, left) ← anyOf p fuel first inner
    match left with
    | word :: _ :: _ => .error (.unexpectedOperator word)
    | _ => return a

end Lettermill.Shell.Condition
