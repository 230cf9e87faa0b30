import Lettermill.Shell.Utility.Plain
import Lettermill.Shell.Utility.Regex
/-! Programs that count and calculate: rows of decimals, and expressions whose operators and
operands are arguments. -/
namespace Lettermill.Shell.Utility
set_option autoImplicit false
open Text

/-! ## Rows of numbers -/

/-- A decimal: an integer, and how many of its digits stand behind the point. -/
structure Decimal where
  units : Int
  places : Nat
  deriving DecidableEq, Repr

namespace Decimal

def ofText? (text : String) : Option Decimal :=
  let cs := text.toList.dropWhile Arithmetic.isSpace
  let (negative, cs) := match cs with
    | '-' :: rest => (true, rest)
    | '+' :: rest => (false, rest)
    | _ => (false, cs)
  let whole := cs.takeWhile isDigit
  let fraction := match cs.drop whole.length with
    | '.' :: rest => some rest
    | [] => some []
    | _ => none
  fraction.bind fun fraction =>
    if fraction.all isDigit && !(whole ++ fraction).isEmpty then
      let n : Int := decimalValue (whole ++ fraction)
      some ⟨if negative then -n else n, fraction.length⟩
    else none

def scaled (d : Decimal) (places : Nat) : Int := d.units * Nat.pow 10 (places - d.places)

def render (units : Int) (places : Nat) : List Char :=
  let digits := digitsText units.natAbs
  let digits := List.replicate (places + 1 - digits.length) '0' ++ digits
  let (whole, fraction) := (digits.take (digits.length - places), digits.drop (digits.length - places))
  (if units < 0 then ['-'] else []) ++ whole ++ (if places = 0 then [] else '.' :: fraction)

end Decimal

def maxRow : Nat := 1000000

def rowOf (first step last : Int) : List Int :=
  let count : Int :=
    if step > 0 then (if last < first then 0 else (last - first) / step + 1)
    else (if first < last then 0 else (first - last) / (-step) + 1)
  (List.range (min maxRow count.toNat)).map fun (n : Nat) => first + step * n

def padZeros (width : Nat) (cs : List Char) : List Char :=
  match cs with
  | '-' :: rest => '-' :: (List.replicate (width - cs.length) '0' ++ rest)
  | _ => List.replicate (width - cs.length) '0' ++ cs

def isNegative (arg : String) : Bool :=
  match arg.toList with
  | '-' :: c :: _ => isDigit c || c == '.'
  | _ => false

def seq (c : Call) : Effect :=
  let o : OptionSet :=
    { letters := "f:s:w", inOrder := true
      names := [("format=", 'f'), ("separator=", 's'), ("equal-width", 'w')] }
  -- Negative numbers are operands, not options.
  let front := c.args.takeWhile fun arg => !isNegative arg
  let back := c.args.drop front.length
  match o.read front with
  | .error e => c.tryHelp e.message 1
  | .ok g =>
    let operands := g.operands ++ back
    match operands.find? fun text => (Decimal.ofText? text).isNone with
    | some bad => c.tryHelp ("invalid floating point argument: " ++ inQuotes bad) 1
    | none =>
      let one : Decimal := ⟨1, 0⟩
      match operands.filterMap Decimal.ofText? with
      | [] => c.tryHelp "missing operand" 1
      | [last] => row c g one one last
      | [first, last] => row c g first one last
      | [first, step, last] => row c g first step last
      | _ => c.tryHelp ("extra operand " ++ inQuotes (operands.getD 3 "")) 1
where
  /-- Prints the row between two numbers. -/
  row (c : Call) (g : Given) (first step last : Decimal) : Effect :=
    if step.units = 0 then
      c.tryHelp ("invalid Zero increment value: " ++ inQuotes "0") 1
    else
      let all := max first.places (max step.places last.places)
      let places := max first.places step.places
      let units := rowOf (first.scaled all) (step.scaled all) (last.scaled all)
      let shown := units.map fun n => Decimal.render (n / Nat.pow 10 (all - places)) places
      let ends := [Decimal.render (first.scaled all / Nat.pow 10 (all - places)) places,
        Decimal.render (last.scaled all / Nat.pow 10 (all - places)) places]
      let width := ((ends.map List.length).foldl max 0)
      let texts := match g.value? 'f' with
        | some format => shown.map fun text =>
          (printFormat format [String.ofList text]).output
        | none => if g.has 'w' then shown.map (padZeros width) else shown
      let separator := ((g.value? 's').getD "\n").toList
      Effect.out (if texts.isEmpty then [] else separator.intercalate texts ++ ['\n'])

/-! ## Expressions -/

inductive ExprFault where
  | unexpected (word : String)
  | missingAfter (word : String)
  | notInteger
  | byZero
  | expectedClosing (word : String)
  | badPattern (e : RegexError)
  | tooDeep
  deriving DecidableEq, Repr

def ExprFault.message : ExprFault → String
  | unexpected word => "syntax error: unexpected argument " ++ inQuotes word
  | missingAfter word => "syntax error: missing argument after " ++ inQuotes word
  | notInteger => "non-integer argument"
  | byZero => "division by zero"
  | expectedClosing word => "syntax error: expecting ')' after " ++ inQuotes word
  | badPattern e => e.message
  | tooDeep => "syntax error"

def wholeNumber? (text : String) : Option Int :=
  match text.toList with
  | '-' :: c :: cs =>
    if (c :: cs).all isDigit then some (-(decimalValue (c :: cs) : Int)) else none
  | c :: cs => if (c :: cs).all isDigit then some (decimalValue (c :: cs)) else none
  | [] => none

def isNull (text : String) : Bool :=
  match text.toList with
  | [] => true
  | '-' :: c :: cs => (c :: cs).all (· == '0')
  | cs => cs.all (· == '0')

/-- What a pattern matches at the beginning of a text: the text of its first group, or else how much
it is. -/
def matchedPart (text pattern : String) : Except ExprFault String :=
  match Regex.read false pattern.toList with
  | .error e => .error (.badPattern e)
  | .ok (r, groups) =>
    let found := r.matchAt? {} (fun _ _ => true) [] text.toList
    .ok (if groups = 0 then toString ((found.map fun f => f.text.length).getD 0)
      else match found.bind fun f => f.groups.lookup 1 with
        | some part => String.ofList part
        | none => "")

def exprOperators : List (List String) :=
  [["|"], ["&"], ["<", "<=", "=", "==", "!=", ">=", ">"], ["+", "-"], ["*", "/", "%"], [":"]]

def exprValue (operator a b : String) : Except ExprFault String :=
  let integers (f : Int → Int → Int) : Except ExprFault String :=
    match wholeNumber? a, wholeNumber? b with
    | some m, some n => .ok (toString (f m n))
    | _, _ => .error .notInteger
  let ordered (test : Ordering → Bool) : Except ExprFault String :=
    let o := match wholeNumber? a, wholeNumber? b with
      | some m, some n => compareOfLessAndEq m n
      | _, _ => compareOfLessAndEq a b
    .ok (if test o then "1" else "0")
  let divided (f : Int → Int → Int) : Except ExprFault String :=
    match wholeNumber? a, wholeNumber? b with
    | some m, some n => if n = 0 then .error .byZero else .ok (toString (f m n))
    | _, _ => .error .notInteger
  match operator with
  | "|" => .ok (if isNull a then (if isNull b then "0" else b) else a)
  | "&" => .ok (if isNull a || isNull b then "0" else a)
  | "<" => ordered (· == .lt)
  | "<=" => ordered (· != .gt)
  | "=" | "==" => ordered (· == .eq)
  | "!=" => ordered (· != .eq)
  | ">=" => ordered (· != .lt)
  | ">" => ordered (· == .gt)
  | "+" => integers (· + ·)
  | "-" => integers (· - ·)
  | "*" => integers (· * ·)
  | "/" => divided Int.tdiv
  | "%" => divided Int.tmod
  | _ => matchedPart a b

/-- Words of an expression, and the last of those before them. -/
abbrev ExprWords := List String × String

mutual

/-- The value of operands joined by operators that bind at least as much as those of a level. -/
def exprLevel : Nat → Nat → ExprWords → Except ExprFault (String × ExprWords)
  | 0, _, _ => .error .tooDeep
  | fuel + 1, level, words =>
    if exprOperators.length ≤ level then exprOperand fuel words
    else do
      let (a, words) ← exprLevel fuel (level + 1) words
      exprMore fuel level a words

def exprMore : Nat → Nat → String → ExprWords → Except ExprFault (String × ExprWords)
  | 0, _, _, _ => .error .tooDeep
  | fuel + 1, level, a, words =>
    match words with
    | (operator :: rest, _) =>
      if (exprOperators.getD level []).contains operator then do
        let (b, words) ← exprLevel fuel (level + 1) (rest, operator)
        exprMore fuel level (← exprValue operator a b) words
      else .ok (a, words)
    | ([], _) => .ok (a, words)

def exprOperand : Nat → ExprWords → Except ExprFault (String × ExprWords)
  | 0, _ => .error .tooDeep
  | fuel + 1, words =>
    match words with
    | ([], last) => .error (.missingAfter last)
    | ("(" :: rest, _) => do
      let (a, words) ← exprLevel fuel 0 (rest, "(")
      match words with
      | (")" :: rest, _) => return (a, (rest, ")"))
      | ([], last) => .error (.expectedClosing last)
      | (_ , last) => .error (.expectedClosing last)
    | (")" :: _, _) => .error (.unexpected ")")
    | ("+" :: rest, _) =>
      match rest with
      | word :: rest => .ok (word, (rest, word))
      | [] => .error (.missingAfter "+")
    | ("length" :: rest, _) => do
      let (a, words) ← exprOperand fuel (rest, "length")
      return (toString a.length, words)
    | ("match" :: rest, _) => do
      let (a, words) ← exprOperand fuel (rest, "match")
      let (b, words) ← exprOperand fuel words
      return (← matchedPart a b, words)
    | ("index" :: rest, _) => do
      let (a, words) ← exprOperand fuel (rest, "index")
      let (b, words) ← exprOperand fuel words
      let front := a.toList.takeWhile fun c => !b.toList.contains c
      return (if front.length = a.length then "0" else toString (front.length + 1), words)
    | ("substr" :: rest, _) => do
      let (a, words) ← exprOperand fuel (rest, "substr")
      let (b, words) ← exprOperand fuel words
      let (c, words) ← exprOperand fuel words
      return (match wholeNumber? b, wholeNumber? c with
        | some m, some n =>
          if m ≤ 0 ∨ n ≤ 0 then ""
          else String.ofList ((a.toList.drop (m.toNat - 1)).take n.toNat)
        | _, _ => "", words)
    | (word :: rest, _) => .ok (word, (rest, word))

end

def expr (c : Call) : Effect :=
  let args := if c.args.head? = some "--" then c.args.tail else c.args
  if args.isEmpty then c.tryHelp "missing operand" 2
  else
    match exprLevel (16 * args.length + 32) 0 (args, "") with
    | .error e => c.complaint e.message 2
    | .ok (_, (word :: _, _)) => c.complaint (ExprFault.unexpected word).message 2
    | .ok (value, ([], _)) =>
      { Effect.out (value ++ "\n").toList with status := if isNull value then 1 else 0 }

end Lettermill.Shell.Utility
