import Lettermill.Shell.Reader
/-! Arithmetic of the shell: expressions over integers of 64 bits, with the operators of C except
those that step a variable. Truth is one and falsehood zero; variables hold texts of integers. -/
namespace Lettermill.Shell.Arithmetic
set_option autoImplicit false
open Text

inductive Operator where
  | times | divide | remainder | plus | minus | shiftLeft | shiftRight
  | less | lessEqual | greater | greaterEqual | equal | notEqual
  | bitAnd | bitXor | bitOr
  deriving DecidableEq, Repr

inductive Sign where
  | plus | minus | no | complement
  deriving DecidableEq, Repr

inductive Expr where
  | number (n : Int)
  | variable (name : String)
  | sign (s : Sign) (e : Expr)
  | binary (o : Operator) (a b : Expr)
  | both (a b : Expr)
  | either (a b : Expr)
  | choice (test yes no : Expr)
  /-- An assignment, of the sum or the like of the variable and the value. -/
  | assign (name : String) (o : Option Operator) (value : Expr)
  deriving Inhabited

inductive Failure where
  | expectingPrimary
  | expectingEnd
  | expectingParenthesis
  | expectingColon
  | divisionByZero
  | illegalNumber (text : String)
  | tooDeep
  deriving DecidableEq, Repr

def Failure.message (expression : String) : Failure → String
  | expectingPrimary => "arithmetic expression: expecting primary: \"" ++ expression ++ "\""
  | expectingEnd => "arithmetic expression: expecting EOF: \"" ++ expression ++ "\""
  | expectingParenthesis => "arithmetic expression: expecting ')': \"" ++ expression ++ "\""
  | expectingColon => "arithmetic expression: expecting ':': \"" ++ expression ++ "\""
  | divisionByZero => "arithmetic expression: division by zero: \"" ++ expression ++ "\""
  | illegalNumber text => "Illegal number: " ++ text
  | tooDeep => "arithmetic expression: nesting too deep: \"" ++ expression ++ "\""

/-! ## Integers -/

def wrap (n : Int) : Int := (n + Int.pow 2 63) % Int.pow 2 64 - Int.pow 2 63

def clamp (n : Int) : Int := max (-Int.pow 2 63) (min n (Int.pow 2 63 - 1))

def digitsValue (base : Nat) (digits : List Char) : Nat :=
  digits.foldl (fun n c => n * base + (hexValue? c).getD 0) 0

/-- The digits of a base at the front, with their value, and what follows. -/
def digitsAtFront (base : Nat) (cs : List Char) : Nat × List Char :=
  let digits := cs.takeWhile fun c => (hexValue? c).any fun v => decide (v < base)
  (digitsValue base digits, cs.drop digits.length)

/-- The number at the front, which starts with a digit: hexadecimal, octal or decimal. -/
def numberAtFront (cs : List Char) : Int × List Char :=
  let (n, rest) := match cs with
    | '0' :: x :: d :: rest =>
      if (x = 'x' ∨ x = 'X') ∧ (hexValue? d).isSome then digitsAtFront 16 (d :: rest)
      else digitsAtFront 8 cs
    | '0' :: _ => digitsAtFront 8 cs
    | _ => digitsAtFront 10 cs
  (clamp n, rest)

def isSpace (c : Char) : Bool := c == ' ' || ('\t' ≤ c && c ≤ '\x0d')

def ofText? (s : String) : Option Int :=
  let cs := s.toList.dropWhile isSpace
  let (negative, digits) := match cs with
    | '-' :: rest => (true, rest)
    | '+' :: rest => (false, rest)
    | _ => (false, cs)
  match digits with
  | [] => none
  | c :: _ =>
    if !isDigit c then none
    else
      let (n, rest) := numberAtFront digits
      if rest.all isSpace then some (if negative then -n else n) else none

/-! ## Reading -/

/-- A binary operator at the front, with how tightly it binds, and what follows it. -/
def operatorAtFront? : List Char → Option (Operator × Nat × List Char)
  | '*' :: cs => some (.times, 10, cs)
  | '/' :: cs => some (.divide, 10, cs)
  | '%' :: cs => some (.remainder, 10, cs)
  | '+' :: cs => some (.plus, 9, cs)
  | '-' :: cs => some (.minus, 9, cs)
  | '<' :: '<' :: cs => some (.shiftLeft, 8, cs)
  | '>' :: '>' :: cs => some (.shiftRight, 8, cs)
  | '<' :: '=' :: cs => some (.lessEqual, 7, cs)
  | '>' :: '=' :: cs => some (.greaterEqual, 7, cs)
  | '<' :: cs => some (.less, 7, cs)
  | '>' :: cs => some (.greater, 7, cs)
  | '=' :: '=' :: cs => some (.equal, 6, cs)
  | '!' :: '=' :: cs => some (.notEqual, 6, cs)
  | '&' :: '&' :: _ => none
  | '|' :: '|' :: _ => none
  | '&' :: cs => some (.bitAnd, 5, cs)
  | '^' :: cs => some (.bitXor, 4, cs)
  | '|' :: cs => some (.bitOr, 3, cs)
  | _ => none

/-- Is the operator, with an equals sign behind it, an assignment? -/
def Operator.assigns : Operator → Bool
  | less | lessEqual | greater | greaterEqual | equal | notEqual => false
  | _ => true

def assignmentSign? (cs : List Char) : Option (Option Operator × List Char) :=
  match cs with
  | '=' :: '=' :: _ => none
  | '=' :: rest => some (none, rest)
  | _ =>
    match operatorAtFront? cs with
    | some (o, _, '=' :: rest) => if o.assigns then some (some o, rest) else none
    | _ => none

abbrev ExprReader := List Char → Except Failure (Expr × List Char)

mutual

def operand : Nat → ExprReader
  | 0, _ => .error .tooDeep
  | fuel + 1, cs =>
    match cs.dropWhile isSpace with
    | '+' :: rest => do let (e, rest) ← operand fuel rest; return (.sign .plus e, rest)
    | '-' :: rest => do let (e, rest) ← operand fuel rest; return (.sign .minus e, rest)
    | '!' :: rest => do let (e, rest) ← operand fuel rest; return (.sign .no e, rest)
    | '~' :: rest => do let (e, rest) ← operand fuel rest; return (.sign .complement e, rest)
    | '(' :: rest => do
      let (e, rest) ← whole fuel rest
      match rest.dropWhile isSpace with
      | ')' :: rest => return (e, rest)
      | _ => .error .expectingParenthesis
    | [] => .error .expectingPrimary
    | c :: rest =>
      if isDigit c then
        let (n, rest) := numberAtFront (c :: rest)
        .ok (.number n, rest)
      else if isNameChar c then
        let name := (c :: rest).takeWhile isNameChar
        .ok (.variable (String.ofList name), (c :: rest).drop name.length)
      else .error .expectingPrimary

/-- Operands joined by operators that bind at least as tightly as `least`. -/
def operation (least : Nat) : Nat → ExprReader
  | 0, _ => .error .tooDeep
  | fuel + 1, cs => do
    let (a, rest) ← operand fuel cs
    operationFrom least a fuel rest

/-- What follows an operand, as far as it binds at least as tightly as `least`. -/
def operationFrom (least : Nat) (a : Expr) : Nat → ExprReader
  | 0, _ => .error .tooDeep
  | fuel + 1, cs =>
    let cs := cs.dropWhile isSpace
    match operatorAtFront? cs with
    | none => .ok (a, cs)
    | some (o, level, rest) =>
      if level < least then .ok (a, cs)
      else do
        let (b, rest) ← operation (level + 1) fuel rest
        operationFrom least (.binary o a b) fuel rest

def conjunction : Nat → ExprReader
  | 0, _ => .error .tooDeep
  | fuel + 1, cs => do
    let (a, rest) ← operation 3 fuel cs
    match rest.dropWhile isSpace with
    | '&' :: '&' :: rest =>
      let (b, rest) ← conjunction fuel rest
      return (.both a b, rest)
    | rest => return (a, rest)

def disjunction : Nat → ExprReader
  | 0, _ => .error .tooDeep
  | fuel + 1, cs => do
    let (a, rest) ← conjunction fuel cs
    match rest.dropWhile isSpace with
    | '|' :: '|' :: rest =>
      let (b, rest) ← disjunction fuel rest
      return (.either a b, rest)
    | rest => return (a, rest)

/-- A whole expression: an assignment, a choice or less. -/
def whole : Nat → ExprReader
  | 0, _ => .error .tooDeep
  | fuel + 1, cs =>
    let cs := cs.dropWhile isSpace
    let name := cs.takeWhile isNameChar
    match isName name, assignmentSign? ((cs.drop name.length).dropWhile isSpace) with
    | true, some (o, rest) => do
      let (e, rest) ← whole fuel rest
      return (.assign (String.ofList name) o e, rest)
    | _, _ => do
      let (test, rest) ← disjunction fuel cs
      match rest.dropWhile isSpace with
      | '?' :: rest =>
        let (yes, rest) ← whole fuel rest
        match rest.dropWhile isSpace with
        | ':' :: rest =>
          let (no, rest) ← whole fuel rest
          return (.choice test yes no, rest)
        | _ => .error .expectingColon
      | rest => return (test, rest)

end

def read (cs : List Char) : Except Failure Expr := do
  let (e, rest) ← whole (16 * cs.length + 32) cs
  if rest.all isSpace then return e else .error .expectingEnd

/-! ## Values -/

def ofBool (b : Bool) : Int := if b then 1 else 0

def bits (n : Int) : Nat := (n % Int.pow 2 64).toNat

def Operator.apply (o : Operator) (a b : Int) : Except Failure Int :=
  match o with
  | times => .ok (wrap (a * b))
  | divide => if b = 0 then .error .divisionByZero else .ok (wrap (Int.tdiv a b))
  | remainder => if b = 0 then .error .divisionByZero else .ok (wrap (Int.tmod a b))
  | plus => .ok (wrap (a + b))
  | minus => .ok (wrap (a - b))
  | shiftLeft => .ok (wrap (a * Int.pow 2 (bits b % 64)))
  | shiftRight => .ok (a / Int.pow 2 (bits b % 64))
  | less => .ok (ofBool (a < b))
  | lessEqual => .ok (ofBool (a ≤ b))
  | greater => .ok (ofBool (b < a))
  | greaterEqual => .ok (ofBool (b ≤ a))
  | equal => .ok (ofBool (a = b))
  | notEqual => .ok (ofBool (a ≠ b))
  | bitAnd => .ok (wrap (bits a &&& bits b : Nat))
  | bitXor => .ok (wrap (bits a ^^^ bits b : Nat))
  | bitOr => .ok (wrap (bits a ||| bits b : Nat))

def Sign.apply (s : Sign) (a : Int) : Int :=
  match s with
  | plus => a
  | minus => wrap (-a)
  | no => ofBool (a = 0)
  | complement => -a - 1

abbrev Assigned := List (String × Int)

/-- The value of an expression, given the texts of variables, with the variables it assigns. -/
def Expr.value (texts : String → String) : Expr → Assigned → Except Failure (Int × Assigned)
  | .number n, s => .ok (n, s)
  | .variable name, s =>
    match s.lookup name with
    | some n => .ok (n, s)
    | none =>
      let text := texts name
      if text.toList.all isSpace then .ok (0, s)
      else match ofText? text with
        | some n => .ok (n, s)
        | none => .error (.illegalNumber text)
  | .sign mark e, s => do
    let (a, s) ← e.value texts s
    return (mark.apply a, s)
  | .binary o a b, s => do
    let (a, s) ← a.value texts s
    let (b, s) ← b.value texts s
    return (← o.apply a b, s)
  | .both a b, s => do
    let (a, s) ← a.value texts s
    if a = 0 then return (0, s)
    else
      let (b, s) ← b.value texts s
      return (ofBool (b ≠ 0), s)
  | .either a b, s => do
    let (a, s) ← a.value texts s
    if a ≠ 0 then return (1, s)
    else
      let (b, s) ← b.value texts s
      return (ofBool (b ≠ 0), s)
  | .choice test yes no, s => do
    let (t, s) ← test.value texts s
    if t ≠ 0 then yes.value texts s else no.value texts s
  | .assign name o e, s => do
    let (n, s) ← e.value texts s
    let n ← match o with
      | none => pure n
      | some o => do
        let (old, _) ← (Expr.variable name).value texts s
        o.apply old n
    return (n, (name, n) :: s)

end Lettermill.Shell.Arithmetic
