import Lettermill.Shell.Expansion
import Lettermill.Shell.Signal
import Lettermill.Shell.Utility.Plain
/-! Commands that a shell carries out by itself because they are about itself: its variables, its
arguments, its options, its place and its signals. A fault ends the shell; the caller takes that
back where a fault is not so bad. -/
namespace Lettermill.Shell.Builtin
set_option autoImplicit false
open Text

/-- A command of the shell: from arguments to what it does. -/
abbrev Action := List String → State → State

def fault (name text : String) (s : State) : State := (s.complainAs name text).exit 2

/-- Reads options of single letters up to the first operand. A colon behind a letter says that it
takes a value. -/
def options (letters : String) : Nat → List String → Except Char (List (Char × String) × List String)
  | 0, args => .ok ([], args)
  | _, [] => .ok ([], [])
  | fuel + 1, arg :: rest =>
    match arg.toList with
    | ['-', '-'] => .ok ([], rest)
    | '-' :: c :: cs => group fuel rest (c :: cs)
    | _ => .ok ([], arg :: rest)
where
  /-- Reads the letters of one argument. -/
  group (fuel : Nat) (rest : List String) :
      List Char → Except Char (List (Char × String) × List String)
    | [] => options letters fuel rest
    | c :: cs =>
      match letters.toList.dropWhile (· != c) with
      | _ :: ':' :: _ =>
        match cs, rest with
        | [], value :: rest => do
          let (more, operands) ← options letters fuel rest
          return ((c, value) :: more, operands)
        | [], [] => .error c
        | _, _ => do
          let (more, operands) ← options letters fuel rest
          return ((c, String.ofList cs) :: more, operands)
      | _ :: _ => do
        let (more, operands) ← group fuel rest cs
        return ((c, "") :: more, operands)
      | [] => .error c

def withOptions (name letters : String) (args : List String) (s : State)
    (act : List (Char × String) → List String → State → State) : State :=
  match options letters (args.length + 1) args with
  | .ok (given, operands) => act given operands s
  | .error c => fault name ("Illegal option -" ++ String.ofList [c]) s

def number? (text : String) : Option Nat := natural? text

def quoted (text : String) : String :=
  let parts := cutAt '\'' text.toList
  let joined := "'\"'\"'".toList.intercalate parts
  "'" ++ String.ofList joined ++ "'"

/-! ## Variables -/

def assign (caller name value : String) (s : State) : State :=
  if !isName name.toList then fault caller (name ++ ": bad variable name") s
  else match s.assign? name value with
    | some s => s
    | none => fault caller (name ++ ": is read only") s

/-- The name and, if there is an equals sign, the value of an argument. -/
def nameAndValue (arg : String) : String × Option String :=
  match cutOnce? '=' arg.toList with
  | some (name, value) => (String.ofList name, some (String.ofList value))
  | none => (arg, none)

/-- Marks variables, which may get values at the same time, or lists those that are marked. -/
def mark (name : String) (isMarked : Variable → Bool) (change : Variable → Variable) : Action :=
  fun args s => withOptions name "p" args s fun given operands s =>
    if operands.isEmpty || !given.isEmpty then
      let marked := (s.bindings.filter fun entry => isMarked entry.2).mergeSort (·.1 ≤ ·.1)
      s.print name (marked.flatMap fun (x, v) =>
        (name ++ " " ++ x ++ ((v.value.map fun text => "=" ++ quoted text).getD "") ++ "\n").toList)
    else
      operands.foldl (fun (s : State) arg =>
        if s.stopped then s
        else
          let (x, value) := nameAndValue arg
          let s := match value with
            | some text => assign name x text s
            | none =>
              if isName x.toList then s else fault name (x ++ ": bad variable name") s
          if s.stopped then s else s.bind x (change ((s.known? x).getD {}))) (s.giving 0)

def exportNames : Action := mark "export" (·.exported) fun v => { v with exported := true }

def readonlyNames : Action := mark "readonly" (·.fixed) fun v => { v with fixed := true }

def unset : Action := fun args s => withOptions "unset" "fv" args s fun given operands s =>
  let functions := (given.getLast?.map Prod.fst) = some 'f'
  operands.foldl (fun (s : State) x =>
    if s.stopped then s
    else if functions then { s with functions := s.functions.filter fun entry => entry.1 ≠ x }
    else if !isName x.toList then fault "unset" (x ++ ": bad variable name") s
    else if ((s.known? x).map Variable.fixed).getD false then
      fault "unset" (x ++ ": is read only") s
    else s.forget x) (s.giving 0)

def locals : Action := fun args s =>
  match s.hidden with
  | [] => fault "local" "not in a function" s
  | _ :: _ =>
    args.foldl (fun (s : State) arg =>
      if s.stopped || arg = "-" then s
      else
        let (x, value) := nameAndValue arg
        let s := match s.hidden with
          | frame :: outer =>
            if (frame.lookup x).isSome then s
            else { s with hidden := ((x, s.known? x) :: frame) :: outer }
          | [] => s
        match value with
        | some text => assign "local" x text s
        | none => if isName x.toList then s else fault "local" (x ++ ": bad variable name") s)
      (s.giving 0)

/-! ## Options and arguments -/

def optionNames : List (String × Char) := [("errexit", 'e'), ("noglob", 'f'), ("ignoreeof", 'I'),
  ("interactive", 'i'), ("monitor", 'm'), ("noexec", 'n'), ("stdin", 's'), ("xtrace", 'x'),
  ("verbose", 'v'), ("vi", 'V'), ("emacs", 'E'), ("noclobber", 'C'), ("allexport", 'a'),
  ("notify", 'b'), ("nounset", 'u'), ("nolog", 'l'), ("debug", 'd')]

def turn (on : Bool) (c : Char) (s : State) : State :=
  let others := s.options.filter (· != c)
  { s with options := if on then others ++ [c] else others }

def set : Action := fun args s =>
  match args with
  | [] =>
    let known := (s.bindings.filter fun entry => entry.2.value.isSome).mergeSort (·.1 ≤ ·.1)
    s.print "set" (known.flatMap fun (x, v) =>
      (x ++ "=" ++ quoted (v.value.getD "") ++ "\n").toList)
  | _ => onward (args.length + 1) args (s.giving 0)
where
  /-- Reads one argument after the other. -/
  onward : Nat → List String → State → State
    | 0, _, s => s
    | _, [], s => s
    | fuel + 1, arg :: rest, s =>
      match arg.toList with
      | ['-', '-'] => { s with arguments := rest }
      | ['-'] =>
        turn false 'x' (turn false 'v' (if rest.isEmpty then s else { s with arguments := rest }))
      | sign :: cs =>
        if sign = '-' ∨ sign = '+' then letters fuel (sign = '-') rest cs s
        else { s with arguments := arg :: rest }
      | [] => { s with arguments := arg :: rest }
  /-- Reads the letters of one argument. -/
  letters (fuel : Nat) (on : Bool) (rest : List String) : List Char → State → State
    | [], s => onward fuel rest s
    | 'o' :: cs, s =>
      match rest with
      | [] => list on s
      | name :: rest =>
        match optionNames.lookup name with
        | some c => letters fuel on rest cs (turn on c s)
        | none => fault "set" ("Illegal option -o " ++ name) s
    | c :: cs, s =>
      if optionNames.any fun entry => entry.2 == c && c != 'l' && c != 'd' then
        letters fuel on rest cs (turn on c s)
      else fault "set" ("Illegal option -" ++ String.ofList [c]) s
  /-- Lists the options. -/
  list (on : Bool) (s : State) : State :=
    let row (entry : String × Char) : String :=
      let isOn := s.options.contains entry.2
      if on then
        entry.1 ++ String.ofList (List.replicate (16 - entry.1.length) ' ')
          ++ (if isOn then "on" else "off") ++ "\n"
      else "set " ++ (if isOn then "-o " else "+o ") ++ entry.1 ++ "\n"
    s.print "set"
      ((if on then "Current option settings\n" else "")
        ++ String.join (optionNames.map row)).toList

def shift : Action := fun args s =>
  match args with
  | [] => drop 1 s
  | text :: _ =>
    match number? text with
    | some n => drop n s
    | none => fault "shift" ("Illegal number: " ++ text) s
where
  /-- Takes away some of them. -/
  drop (n : Nat) (s : State) : State :=
    if s.arguments.length < n then fault "shift" "can't shift that many" s
    else { s with arguments := s.arguments.drop n, status := 0 }

def getopts : Action := fun args s =>
  match args with
  | letters :: name :: args =>
    let silent := letters.toList.head? = some ':'
    let args := if args.isEmpty then s.arguments else args
    let place := ((s.value? "OPTIND").bind number?).getD 1
    let place := if place = 0 then 1 else place
    let finish (found : Char) (value : Option String) (place inner status : Nat) (s : State) :
        State :=
      let s := assign "getopts" name (String.ofList [found]) s
      let s := match value with
        | some text => assign "getopts" "OPTARG" text s
        | none => s.forget "OPTARG"
      let s := s.bind "OPTIND" { value := some (toString place) }
      { s with optionPlace := inner, status := if s.stopped then s.status else status }
    let fresh := s.optionPlace = 0
    let whole := ((args[if fresh then place - 1 else place - 2]?).getD "").toList
    let inner := if fresh then 1 else s.optionPlace
    let next := if fresh then place + 1 else place
    match whole with
    | '-' :: _ :: _ =>
      if whole = ['-', '-'] then finish '?' none next 0 1 s
      else
        match whole.drop inner with
        | [] => finish '?' none place 0 1 s
        | c :: rest =>
          let after := if rest.isEmpty then 0 else inner + 1
          match if c = ':' then [] else letters.toList.dropWhile (· != c) with
          | _ :: ':' :: _ =>
            match rest, args[next - 1]? with
            | [], some value => finish c (some value) (next + 1) 0 0 s
            | [], none =>
              if silent then finish ':' (some (String.ofList [c])) next 0 0 s
              else
                let s := (s.write 2
                  ("No arg for -" ++ String.ofList [c] ++ " option\n").toList).2
                finish '?' none next 0 0 s
            | _, _ => finish c (some (String.ofList rest)) next 0 0 s
          | _ :: _ => finish c none next after 0 s
          | [] =>
            if silent then finish '?' (some (String.ofList [c])) next after 0 s
            else
              let s := (s.write 2 ("Illegal option -" ++ String.ofList [c] ++ "\n").toList).2
              finish '?' none next after 0 s
    | _ => finish '?' none place 0 1 s
  | _ => fault "getopts" "Usage: getopts optstring var [arg...]" s

/-! ## Reading -/

/-- Takes a line from a text, in which a backslash hides the character behind it unless the text is
`raw`. What is hidden is marked. -/
def takeLine (raw : Bool) : List Char → List (Char × Bool) → List (Char × Bool) × List Char × Bool
  | [], line => (line.reverse, [], false)
  | '\n' :: rest, line => (line.reverse, rest, true)
  | '\x00' :: rest, line => takeLine raw rest line
  | '\\' :: cs, line =>
    if raw then takeLine raw cs (('\\', false) :: line)
    else match cs with
    | '\n' :: rest => takeLine raw rest line
    | c :: rest => takeLine raw rest ((c, true) :: line)
    | [] => (line.reverse, [], false)
  | c :: rest, line => takeLine raw rest ((c, false) :: line)

/-- Cuts a line at separators, but not more often than needed for `count` values. -/
def cutLine (separators : List Char) : Nat → List (Char × Bool) → List String
  | 0, _ => []
  | count + 1, line =>
    let isBlank (p : Char × Bool) : Bool :=
      !p.2 && separators.contains p.1 && (p.1 == ' ' || p.1 == '\t' || p.1 == '\n')
    let divides (p : Char × Bool) : Bool := !p.2 && separators.contains p.1
    let text (ps : List (Char × Bool)) : String := String.ofList (ps.map Prod.fst)
    let line := line.dropWhile isBlank
    if count = 0 then
      let trimmed := (line.reverse.dropWhile isBlank).reverse
      let field := trimmed.takeWhile fun p => !divides p
      let rest := (trimmed.drop field.length).dropWhile isBlank
      match rest with
      | [p] => [text (if divides p then field else trimmed)]
      | _ => [text trimmed]
    else
      let field := line.takeWhile fun p => !divides p
      let rest := (line.drop field.length).dropWhile isBlank
      let rest := match rest with
        | p :: more => if divides p then more else rest
        | [] => []
      text field :: cutLine separators count rest

def read : Action := fun args s => withOptions "read" "p:r" args s fun given names s =>
  if names.isEmpty then fault "read" "arg count" s
  else
    match s.port? 0 with
    | none => (s.complainAs "read" "read error: Bad file descriptor").giving 1
    | some port =>
      let raw := given.any fun o => o.1 == 'r'
      let (line, rest, ended) := takeLine raw (s.unread port) []
      let values := cutLine s.separators names.length line
      let s := s.leave port rest
      let s := (names.zip values).foldl (fun (s : State) (x, value) =>
        if s.stopped then s else assign "read" x value s) s
      if s.stopped then s else s.giving (if ended then 0 else 1)

/-! ## Printing and judging -/

def echo : Action := fun args s => s.print "echo" (echoText args)

def printf : Action := fun args s => withOptions "printf" "" args s fun _ operands s =>
  match operands with
  | [] => fault "printf" "usage: printf format [arg ...]" s
  | format :: args =>
    let p := printFormat format args
    let s := p.complaints.foldl (fun (s : State) f => s.complainAs "printf" f.message) s
    let s := s.print "printf" p.output
    s.giving (max s.status p.status)

def test (name : String) : Action := fun args s =>
  let words := if name = "[" then args.dropLast else args
  if name = "[" ∧ args.getLast? ≠ some "]" then fault "[" "missing ]" s
  else match Condition.judge (Utility.probe s.machine) words with
    | .ok answer => s.giving (if answer then 0 else 1)
    | .error e => fault name e.message s

/-! ## Places -/

def cd : Action := fun args s => withOptions "cd" "LP" args s fun _ operands s =>
  let back := operands.head? = some "-"
  let path := match operands with
    | [] => (s.value? "HOME").getD ""
    | path :: _ => if back then (s.value? "OLDPWD").getD "" else path
  let found := if path = "" then .ok (s.machine.here, some Occupant.folder)
    else s.machine.locate (pathOf path)
  match found with
  | .ok (place, some .folder) =>
    let old := "/" ++ joinParts s.machine.here
    let s := { s with machine := { s.machine with here := place } }
    let new := "/" ++ joinParts place
    let s := (s.bind "OLDPWD" { (s.known? "OLDPWD").getD {} with value := some old })
    let s := (s.bind "PWD" { (s.known? "PWD").getD {} with value := some new })
    if back then s.print "cd" (new ++ "\n").toList else s.giving 0
  | _ => fault "cd" ("can't cd to " ++ path) s

def pwd : Action := fun _ s => s.print "pwd" ("/" ++ joinParts s.machine.here ++ "\n").toList

/-! ## Signals -/

/-- Sends signals. Of all programs only the shell itself is known. -/
def kill : Action := fun args s =>
  match args with
  | "-l" :: [] =>
    s.print "kill" (String.join ((List.range 32).drop 1 |>.map fun n => signalName n ++ "\n")).toList
  | "-l" :: n :: _ =>
    match natural? n with
    | some n => s.print "kill" (signalName (n % 128) ++ "\n").toList
    | none => fault "kill" ("invalid signal number or exit status: " ++ n) s
  | "-s" :: name :: targets => withSignal name targets s
  | "--" :: targets => withSignal "TERM" targets s
  | first :: rest =>
    match first.toList with
    | '-' :: c :: cs =>
      let name := String.ofList (c :: cs)
      if (signal? name).isNone then
        fault "kill" ("Illegal option -" ++ String.ofList [c]) s
      else withSignal name rest s
    | _ => withSignal "TERM" args s
  | [] => usage s
where
  /-- Says how to call this. -/
  usage (s : State) : State :=
    fault "kill" ("Usage: kill [-s sigspec | -signum | -sigspec] [pid | job]... or\n"
      ++ "kill -l [exitstatus]") s
  /-- Sends a signal with a name. -/
  withSignal (name : String) (targets : List String) (s : State) : State :=
    let targets := if targets.head? = some "--" then targets.tail else targets
    match signal? name with
    | none => fault "kill" ("invalid signal number or name: " ++ name) s
    | some n =>
      if targets.isEmpty then usage s
      else targets.foldl (fun (s : State) target =>
        if s.stopped then s
        else if target = toString ownNumber ∨ target = "0" then (s.signal n)
        else if (target.toInt?).isNone && target.toList.head? ≠ some '%' then
          fault "kill" ("Illegal number: " ++ target) s
        else (s.complainAs "kill" "No such process\n").giving 1) (s.giving 0)

def trap : Action := fun args s => withOptions "trap" "" args s fun _ operands s =>
  match operands with
  | [] =>
    let sorted := s.traps.mergeSort (·.1 ≤ ·.1)
    s.print "trap" (sorted.flatMap fun (n, action) =>
      ("trap -- " ++ quoted action ++ " " ++ signalName n ++ "\n").toList)
  | [name] => each none [name] (s.giving 0)
  | action :: names => each (if action = "-" then none else some action) names (s.giving 0)
where
  /-- Says it for each signal. -/
  each (action : Option String) : List String → State → State
    | [], s => s
    | name :: rest, s =>
      match signal? name with
      | none => (s.write 2 ("trap: " ++ name ++ ": bad trap\n").toList).2.giving 1
      | some n =>
        let others := s.traps.filter fun entry => entry.1 ≠ n
        each action rest { s with traps := match action with
          | some text => (n, text) :: others
          | none => others }

/-! ## Loops and functions -/

def leaveLoops (name : String) (flow : Nat → Flow) : Action := fun args s =>
  let go (n : Nat) : State :=
    let levels := min n s.loops
    if levels = 0 then s.giving 0 else { s with status := 0, flow := flow levels }
  match args with
  | [] => go 1
  | text :: _ =>
    match number? text with
    | some (n + 1) => go (n + 1)
    | _ => fault name ("Illegal number: " ++ text) s

def return_ : Action := fun args s =>
  match args with
  | [] => { s with flow := .returning }
  | text :: _ =>
    match number? text with
    | some n => { s with status := n, flow := .returning }
    | none => fault "return" ("Illegal number: " ++ text) s

/-! ## The table -/

/-- Commands whose faults end the shell, and whose assignments stay. -/
def specials : List String := [".", ":", "break", "continue", "eval", "exec", "exit", "export",
  "local", "readonly", "return", "set", "shift", "times", "trap", "unset"]

/-- Commands that are not found among programs but belong to the shell. -/
def regulars : List String := ["[", "alias", "bg", "cd", "chdir", "command", "echo", "false", "fg",
  "getopts", "hash", "jobs", "kill", "printf", "pwd", "read", "test", "true", "type",
  "ulimit", "umask", "unalias", "wait"]

def plain? : String → Option Action
  | ":" | "true" => some fun _ s => s.giving 0
  | "false" => some fun _ s => s.giving 1
  | "[" => some (test "[")
  | "test" => some (test "test")
  | "alias" | "bg" | "fg" | "hash" | "jobs" | "unalias" => some fun _ s => s.giving 0
  | "break" => some (leaveLoops "break" .breaking)
  | "continue" => some (leaveLoops "continue" .continuing)
  | "cd" | "chdir" => some cd
  | "echo" => some echo
  | "export" => some exportNames
  | "getopts" => some getopts
  | "kill" => some kill
  | "local" => some locals
  | "printf" => some printf
  | "pwd" => some pwd
  | "read" => some read
  | "readonly" => some readonlyNames
  | "return" => some return_
  | "set" => some set
  | "shift" => some shift
  | "times" => some fun _ s =>
    s.print "times" "0m0.000000s 0m0.000000s\n0m0.000000s 0m0.000000s\n".toList
  | "trap" => some trap
  | "ulimit" => some fun args s =>
    if args.all fun arg => arg.toList.head? = some '-' then
      s.print "ulimit" "unlimited\n".toList
    else s.giving 0
  | "umask" => some fun args s =>
    match args with
    | [] => s.print "umask" "0022\n".toList
    | "-S" :: _ => s.print "umask" "u=rwx,g=rx,o=rx\n".toList
    | _ => s.giving 0
  | "unset" => some unset
  | "wait" => some fun args s =>
    match args with
    | [] => s.giving 0
    | n :: _ => s.giving (((natural? n).bind fun n => s.jobs.lookup n).getD 127)
  | _ => none

end Lettermill.Shell.Builtin
