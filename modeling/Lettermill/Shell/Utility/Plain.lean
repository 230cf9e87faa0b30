import Lettermill.Shell.Condition
import Lettermill.Shell.Print
import Lettermill.Shell.Utility.Options
/-! Programs that say something about their arguments alone: they print them, judge them, or take
paths apart. Some of them a shell carries out by itself, in a manner of its own. -/
namespace Lettermill.Shell.Utility
set_option autoImplicit false
open Text

def inQuotes (text : String) : String := "'" ++ text ++ "'"

/-! ## Printing -/

def charBytes (n : Nat) : List Char := widen (bytesOf (String.ofList [Char.ofNat n]))

/-- An escape of programs that print, from behind its backslash, and what follows it. -/
def longEscape? (cs : List Char) : Option (List Char × List Char) :=
  let hex (most : Nat) (rest : List Char) (write : Nat → List Char) :
      Option (List Char × List Char) :=
    let digits := (rest.take most).takeWhile fun c => (hexValue? c).isSome
    if digits.isEmpty then none
    else some (write (Arithmetic.digitsValue 16 digits), rest.drop digits.length)
  match cs with
  | 'x' :: rest => hex 2 rest fun n => [Char.ofNat n]
  | 'u' :: rest => hex 4 rest charBytes
  | 'U' :: rest => hex 8 rest charBytes
  | '"' :: rest => some (['"'], rest)
  | _ => none

/-- A format with the escapes that only programs know in the form that shells know. -/
def withoutLongEscapes : Nat → List Char → List Char
  | 0, cs => cs
  | _, [] => []
  | fuel + 1, c :: cs =>
    match c, longEscape? cs with
    | '\\', some (text, rest) =>
      let octal (d : Char) : List Char :=
        let digits := Nat.toDigits 8 d.toNat
        '\\' :: (List.replicate (3 - digits.length) '0' ++ digits)
      text.flatMap octal ++ withoutLongEscapes fuel rest
    | '\\', none =>
      match cs with
      | d :: rest => '\\' :: d :: withoutLongEscapes fuel rest
      | [] => ['\\']
    | _, _ => c :: withoutLongEscapes fuel cs

def PrintFault.inFull : PrintFault → String
  | .notNumber source => inQuotes source ++ ": expected a numeric value"
  | .afterNumber source => inQuotes source ++ ": value not completely converted"
  | .outOfRange source => inQuotes source ++ ": Numerical result out of range"
  | .badDirective source => source ++ ": invalid conversion specification"
  | .unfinished => "%: invalid conversion specification"

def printf (c : Call) : Effect :=
  let args := if c.args.head? = some "--" then c.args.tail else c.args
  match args with
  | [] => c.tryHelp "missing operand" 1
  | format :: args =>
    let text := withoutLongEscapes (format.length + 1) format.toList
    let p := printFormat (String.ofList text) args
    let usesNone := p.arguments.length = args.length
    let faults := p.complaints.map fun f => c.complaint (PrintFault.inFull f) 1
    let excess := match p.arguments with
      | first :: _ =>
        if usesNone then
          [Effect.err (c.name ++ ": warning: ignoring excess arguments, starting with "
            ++ inQuotes first) 0]
        else []
      | [] => []
    { Effect.all (faults ++ [Effect.out p.output] ++ excess) with status := min 1 p.status }

def isEchoOption (arg : String) : Bool :=
  match arg.toList with
  | '-' :: c :: cs => (c :: cs).all ['n', 'e', 'E'].contains
  | _ => false

/-- A text with the escapes of `echo` undone, and whether one of them asked to print no more. -/
def echoEscapes : Nat → List Char → List Char × Bool
  | 0, _ => ([], false)
  | _, [] => ([], false)
  | fuel + 1, c :: cs =>
    let onward (front rest : List Char) : List Char × Bool :=
      let (more, stop) := echoEscapes fuel rest
      (front ++ more, stop)
    match c, cs with
    | '\\', 'c' :: _ => ([], true)
    | '\\', '0' :: rest =>
      let digits := (rest.take 3).takeWhile isOctal
      onward [octalChar digits] (rest.drop digits.length)
    | '\\', 'x' :: rest =>
      let digits := (rest.take 2).takeWhile fun d => (hexValue? d).isSome
      if digits.isEmpty then onward ['\\', 'x'] rest
      else onward [Char.ofNat (Arithmetic.digitsValue 16 digits)] (rest.drop digits.length)
    | '\\', _ =>
      match escape? cs with
      | some (d, rest) => onward [d] rest
      | none => onward [c] cs
    | _, _ => onward [c] cs

def echo (c : Call) : Effect :=
  let given := c.args.takeWhile isEchoOption
  let letters := given.flatMap fun arg => arg.toList.tail
  let text := (" ".intercalate (c.args.drop given.length)).toList
  let escapes := (letters.reverse.find? fun l => l == 'e' || l == 'E') = some 'e'
  let (cs, stop) := if escapes then echoEscapes (text.length + 1) text else (text, false)
  Effect.out (if stop || letters.contains 'n' then cs else cs ++ ['\n'])

def yesBytes : Nat := 1048576

def yes (c : Call) : Effect :=
  let args := if c.args.head? = some "--" then c.args.tail else c.args
  let line := ((if args.isEmpty then "y" else " ".intercalate args) ++ "\n").toList
  Effect.out (List.replicate (yesBytes / line.length + 1) line).flatten

/-! ## Judging -/

def probe (m : Machine) : Condition.Probe :=
  let place? (path : String) : Option (Place × Occupant) :=
    match m.locate (pathOf path) with
    | .ok (place, some found) => some (place, found)
    | _ => none
  { one := fun operator path =>
      match operator, place? path with
      | "-t", _ => false
      | "-d", some (_, .folder) => true
      | "-f", some (_, .file _) | "-f", some (_, .program _) => true
      | "-s", some (_, .file content) => !content.isEmpty
      | "-s", some (_, .device _) => false
      | "-s", some _ => true
      | "-c", some (_, .device (.channel _)) => false
      | "-c", some (_, .device _) => true
      | "-p", some (_, .device (.channel _)) => true
      | "-x", some (place, .file _) => m.runnable.contains place
      | "-x", some (_, .device _) => false
      | "-x", some _ => true
      | "-e", found | "-r", found | "-w", found | "-O", found | "-G", found => found.isSome
      | _, _ => false
    two := fun operator a b =>
      match operator, place? a, place? b with
      | "-ef", some (p, _), some (q, _) => p = q
      | _, _, _ => false }

def test (bracket : Bool) (c : Call) : Effect :=
  if bracket && c.args.getLast? ≠ some "]" then c.complaint "missing ']'" 2
  else
    let words := if bracket then c.args.dropLast else c.args
    match Condition.judge (probe c.machine) words with
    | .ok answer => { status := if answer then 0 else 1 }
    | .error (.unexpectedOperator word) =>
      if words.length = 3 then
        c.complaint (inQuotes (words.getD 1 "") ++ ": binary operator expected") 2
      else c.complaint ("extra argument " ++ inQuotes word) 2
    | .error (.argumentExpected word) => c.complaint ("missing argument after " ++ inQuotes word) 2
    | .error (.illegalNumber word) => c.complaint ("invalid integer " ++ inQuotes word) 2
    | .error .unclosed => c.complaint "')' expected" 2
    | .error .tooDeep => { status := 2 }

/-! ## Paths -/

def withoutSlashes (cs : List Char) : List Char :=
  match (cs.reverse.dropWhile (· == '/')).reverse with
  | [] => if cs.isEmpty then [] else ['/']
  | rest => rest

def lastPart (path : String) : List Char :=
  let cs := withoutSlashes path.toList
  if cs = ['/'] then cs else (cs.reverse.takeWhile (· != '/')).reverse

/-- A name without what it may end with, unless that is all of it. -/
def withoutEnding (ending name : List Char) : List Char :=
  if name ≠ ending ∧ ending.isSuffixOf name then name.take (name.length - ending.length) else name

def basename (c : Call) : Effect :=
  let o : OptionSet :=
    { letters := "as:z", inOrder := true
      names := [("multiple", 'a'), ("suffix=", 's'), ("zero", 'z')] }
  c.withOptions o 1 fun g =>
    let stop := if g.has 'z' then ['\x00'] else ['\n']
    let many := g.has 'a' || g.has 's'
    let line (ending path : String) : List Char :=
      withoutEnding ending.toList (lastPart path) ++ stop
    match g.operands, many with
    | [], _ => c.tryHelp "missing operand" 1
    | paths, true => Effect.out (paths.flatMap (line ((g.value? 's').getD "")))
    | [path], false => Effect.out (line "" path)
    | [path, ending], false => Effect.out (line ending path)
    | _ :: _ :: extra :: _, false => c.tryHelp ("extra operand " ++ inQuotes extra) 1

def folderOf (path : String) : List Char :=
  let cs := withoutSlashes path.toList
  if cs = ['/'] then cs
  else match cs.reverse.dropWhile (· != '/') with
    | [] => ['.']
    | rest => withoutSlashes rest.reverse

def dirname (c : Call) : Effect :=
  c.withOptions { letters := "z", names := [("zero", 'z')] } 1 fun g =>
    if g.operands.isEmpty then c.tryHelp "missing operand" 1
    else
      let stop := if g.has 'z' then ['\x00'] else ['\n']
      Effect.out (g.operands.flatMap fun path => folderOf path ++ stop)

/-! ## Circumstances -/

def printenv (c : Call) : Effect :=
  let usage := Effect.err ("Try '" ++ c.name ++ " --help' for more information.") 2
  match ({ letters := "0iu:", names := [("null", '0')], inOrder := true } : OptionSet).read c.args with
  | .error e => c.tryHelp e.message 2
  | .ok g =>
    let stop := if g.has '0' then ['\x00'] else ['\n']
    if g.has 'i' || g.has 'u' then usage
    else if g.operands.isEmpty then
      Effect.out (c.environment.flatMap fun (x, value) => (x ++ "=" ++ value).toList ++ stop)
    else
      let values := g.operands.map fun x => c.environment.lookup x
      let found := values.filterMap id
      { Effect.out (found.flatMap fun value => value.toList ++ stop) with
        status := if values.all Option.isSome then 0 else 1 }

def isDuration (text : String) : Bool :=
  match doubleAtFront? text.toList with
  | some (_, rest) => rest = [] || [['s'], ['m'], ['h'], ['d']].contains rest
  | none => false

def sleep (c : Call) : Effect :=
  c.withOptions { letters := "" } 1 fun g =>
    match g.operands, g.operands.filter fun text => !isDuration text with
    | [], _ => c.tryHelp "missing operand" 1
    | _, [] => {}
    | _, bad =>
      let lines := bad.map fun text => c.complaint ("invalid time interval " ++ inQuotes text) 1
      (Effect.all lines).andThen
        (Effect.err ("Try '" ++ c.name ++ " --help' for more information.") 1)

def uname (c : Call) : Effect :=
  let o : OptionSet :=
    { letters := "asnrvmpio"
      names := [("all", 'a'), ("kernel-name", 's'), ("nodename", 'n'), ("kernel-release", 'r'),
        ("kernel-version", 'v'), ("machine", 'm'), ("processor", 'p'), ("hardware-platform", 'i'),
        ("operating-system", 'o')] }
  c.withOptions o 1 fun g =>
    let wanted (letter : Char) (text : String) : List String :=
      if g.has letter || g.has 'a' || (letter == 's' && g.options.isEmpty) then [text] else []
    let parts := wanted 's' "Linux" ++ wanted 'm' "x86_64" ++ wanted 'o' "GNU/Linux"
    match g.operands with
    | extra :: _ => c.tryHelp ("extra operand " ++ inQuotes extra) 1
    | [] => Effect.out (" ".intercalate parts ++ "\n").toList

def whoami (c : Call) : Effect :=
  c.withOptions { letters := "" } 1 fun g =>
    match g.operands with
    | extra :: _ => c.tryHelp ("extra operand " ++ inQuotes extra) 1
    | [] => Effect.out "root\n".toList

end Lettermill.Shell.Utility
