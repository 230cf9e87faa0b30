import Lettermill.Machine.Executable
import Lettermill.Shell.Builtin
import Lettermill.Shell.Reader
import Lettermill.Shell.Redirect
import Lettermill.Shell.Utility.Awk
import Lettermill.Shell.Utility.Table
/-! Running scripts. What runs a command is given what runs the commands inside it; the depth to
which commands lie in each other is bounded, and so is the number of commands that run. -/
namespace Lettermill.Shell
set_option autoImplicit false
open Text

abbrev CommandRunner := Command → State → State

/-! ## Texts -/

/-- Runs the lines of a script; `fuel` bounds their number. -/
def runLines (run : CommandRunner) : Nat → List Char → State → State
  | 0, _, s => s
  | fuel + 1, source, s =>
    match readLine? source with
    | .error e =>
      { s with line := s.lines - e.behind + 1 }.abort ("Syntax error: " ++ e.cause.message)
    | .ok none => s
    | .ok (some (c, rest)) =>
      let s := run c s
      if s.stopped then s else runLines run fuel rest s

/-- Runs a script, whose lines are counted already. One without commands succeeds. -/
def runCounted (run : CommandRunner) (source : List Char) (s : State) : State :=
  let s := if (skipToCommand source).isEmpty then s.giving 0 else s
  runLines run (source.length + 1) source s

def runText (run : CommandRunner) (source : List Char) (s : State) : State :=
  { runCounted run source { s with lines := lineEnds source } with lines := s.lines }

/-- Ends a shell: what is to be done at the end is done, and it keeps its status unless that ends
the shell itself. -/
def finish (run : CommandRunner) (s : State) : State :=
  match s.traps.lookup 0 with
  | some action =>
    if action = "" ∨ s.killed.isSome then s
    else
      let traps := s.traps.filter fun entry => entry.1 ≠ 0
      let t := runText run action.toList { s with traps, flow := .onward, guarded := false }
      { t with status := if t.flow = .exiting then t.status else s.status, flow := .exiting }
  | none => s

def textRunner (run : CommandRunner) : TextRunner := fun source s =>
  finish run (runCounted run source s)

def answerSignals (run : CommandRunner) (s : State) : State :=
  if s.depth ≠ 0 ∨ s.stopped then s
  else
    s.pending.foldl (fun (s : State) n =>
      match s.traps.lookup n with
      | some action =>
        if s.stopped then s
        else
          let t := runText run action.toList s
          if t.flow = .onward then t.giving s.status else t
      | none => s) { s with pending := [] }

/-! ## Programs -/

/-- Does what a program leaves behind to the channels and the machine. -/
def State.absorb (s : State) (program : String) (e : Effect) : State :=
  let here := s.machine.here
  let s := match e.machine with
    | some m => { s with machine := { m with here } }
    | none => s
  let s := match e.left, s.port? 0 with
    | some rest, some port => s.leave port rest
    | _, _ => s
  let (s, cause) := e.pieces.foldl (fun (s, cause) (isError, text) =>
    let channel := if isError then 2 else 1
    match s.port? channel with
    | none => (s, if isError || text.isEmpty then cause else some "Bad file descriptor")
    | some port =>
      match s.writeTo port text with
      | .ok s => (s, cause)
      | .error why => (s, if isError then cause else some why.words)) (s, none)
  match cause with
  | none => s.giving e.status
  | some words =>
    (s.write 2 (program ++ ": write error: " ++ words ++ "\n").toList).2.giving (max 1 e.status)

def State.call (s : State) (name : String) (args : List String) : Call :=
  { name, args, machine := s.machine, environment := s.environment
    input := match s.port? 0 with
      | some port => s.unread port
      | none => [] }

def State.forProgram (s : State) : State :=
  { s with
    bindings := s.bindings.filter fun entry => entry.2.exported && entry.2.value.isSome }

def usualFolders : List String := ["/usr/local/sbin", "/usr/local/bin", "/usr/sbin", "/usr/bin",
  "/sbin", "/bin"]

def State.programFolders (s : State) : List String :=
  match s.value? "PATH" with
  | some folders => (cutAt ':' folders.toList).map String.ofList
  | none => usualFolders

/-- The path of a program: a name is looked for, unless it is a path itself. -/
def State.pathTo? (s : State) (name : String) : Option String :=
  if name.toList.contains '/' then some name else s.machine.search s.programFolders name

/-- Runs a script in a shell that is a program of its own. A signal that ends it does not end the
shell around it, if there is one. -/
def runShell (run : CommandRunner) (name : String) (arguments : List String) (options : List Char)
    (source : List Char) (s : State) : State :=
  let pending := s.pending
  let fresh (inner : State) : State :=
    { inner with
      name, arguments, options, functions := [], depth := 0, flow := .onward, loops := 0
      hidden := [], guarded := false, status := 0, jobs := [], pending := [], optionPlace := 0
      speaker := "", found := []
      traps := inner.traps.filter fun entry => entry.2 = "" }
  let after := s.apart fun inner => finish run (runText run source (fresh inner))
  let after := { after with pending }
  match after.killed with
  | none => after
  | some n =>
    if s.name = "" then after
    else
      let after := { after with killed := none, status := 128 + n, flow := s.flow }
      match signalWords.lookup n with
      | some words => (after.write 2 (words ++ "\n").toList).2
      | none => after

inductive ShellRefusal where
  | illegalOption (text : String)
  | argumentMissing
  | cannotOpen (path : String)

/-- How a shell is called: for a script in an argument, in a file or in the input. -/
inductive ShellCall where
  | text (source name : String) (arguments : List String) (options : List Char)
  | file (path : String) (arguments : List String) (options : List Char)
  | input (arguments : List String) (options : List Char)

def shellOptions : List Char := "aefnuvxCbmiIEV".toList

def ShellCall.read (name : String) (text fromInput : Bool) (options : List Char) :
    List String → Except ShellRefusal ShellCall
  | [] =>
    if text then .error .argumentMissing else .ok (.input [] options)
  | arg :: rest =>
    let operands (args : List String) : Except ShellRefusal ShellCall :=
      match text, args with
      | true, [] => .error .argumentMissing
      | true, source :: more => .ok (.text source (more.headD name) more.tail options)
      | false, [] => .ok (.input [] options)
      | false, path :: more =>
        if fromInput then .ok (.input args options) else .ok (.file path more options)
    match arg.toList with
    | ['-'] | ['-', '-'] => operands rest
    | sign :: c :: cs =>
      if sign = '-' ∨ sign = '+' then
        match (c :: cs).find? fun c => !(shellOptions ++ ['c', 's', 'l']).contains c with
        | some bad =>
          .error (.illegalOption (String.ofList
            (if bad = '-' then ['-', '-'] else ['-', bad])))
        | none =>
          let given := (c :: cs).filter shellOptions.contains
          ShellCall.read name (text || (c :: cs).contains 'c') (fromInput || (c :: cs).contains 's')
            (if sign = '-' then options ++ given else options.filter fun o => !given.contains o)
            rest
      else operands (arg :: rest)
    | _ => operands (arg :: rest)

def shellUsage (name : String) : List String :=
  [name ++ ": --: invalid option",
    "Usage:\t" ++ name ++ " [GNU long option] [option] ...",
    "\t" ++ name ++ " [GNU long option] [option] script-file ...", "GNU long options:"]
    ++ ["debug", "debugger", "dump-po-strings", "dump-strings", "help", "init-file", "login",
      "noediting", "noprofile", "norc", "posix", "pretty-print", "rcfile", "restricted", "verbose",
      "version"].map (fun option => "\t--" ++ option)
    ++ ["Shell options:",
      "\t-ilrsD or -c command or -O shopt_option\t\t(invocation only)",
      "\t-abefhkmnptuvxBCEHPT or -o option"]

def callShell (run : CommandRunner) (program name : String) (args : List String) (s : State) :
    State :=
  let refuse (text : String) : State :=
    (s.write 2 (name ++ ": 0: " ++ text ++ "\n").toList).2.giving 2
  match ShellCall.read name false false [] args with
  | .error (.illegalOption text) =>
    if program = "bash" ∧ text = "--" then
      (s.write 2 (Shell.unlines ((shellUsage name).map String.toList))).2.giving 2
    else refuse ("Illegal option " ++ text)
  | .error .argumentMissing => refuse "-c requires an argument"
  | .error (.cannotOpen path) => refuse ("cannot open " ++ path ++ ": No such file")
  | .ok (.text source own arguments options) =>
    runShell run own arguments options source.toList s
  | .ok (.input arguments options) =>
    let source := match s.port? 0 with
      | some port => s.unread port
      | none => []
    let s := match s.port? 0 with
      | some port => s.leave port []
      | none => s
    runShell run name arguments options source s
  | .ok (.file path arguments options) =>
    match s.machine.look (pathOf path) with
    | .ok (.file content) => runShell run path arguments options (widen content) s
    | .ok .folder | .ok (.device _) => runShell run path arguments options [] s
    | .ok (.program _) => runShell run path arguments options (widen Machine.programBytes) s
    | .error e =>
      refuse ("cannot open " ++ path ++ ": " ++ match e with
        | .notFound | .notFolder => "No such file"
        | _ => e.words)

/-! ## Programs that run others -/

/-- Runs a program with a name, given its arguments, and says whether it could. -/
abbrev Launcher := String → List String → State → Except FileError State

/-- What a program says that cannot run another, with its status. -/
def cannotRun (caller other : String) (e : FileError) (s : State) : State :=
  (s.write 2 (caller ++ ": " ++ other ++ ": " ++ e.words ++ "\n").toList).2.giving
    (if e = .notFound then 127 else 126)

/-- Runs a program for another one, which knows it by how it is shown. -/
def runFor (launch : Launcher) (caller shown : String) (command : List String) (s : State) : State :=
  match command with
  | [] => s.giving 0
  | name :: args =>
    match launch name args s with
    | .ok s => s
    | .error e => cannotRun caller shown e s

def env (launch : Launcher) (c : Call) (s : State) : State :=
  let o : OptionSet :=
    { letters := "0iu:C:S:v", inOrder := true
      names := [("ignore-environment", 'i'), ("null", '0'), ("unset=", 'u'), ("chdir=", 'C'),
        ("split-string=", 'S'), ("debug", 'v')] }
  match o.read c.args with
  | .error e => s.absorb c.name (c.tryHelp e.message 125)
  | .ok g =>
    let splits := (g.options.filter fun o => o.1 == 'S').flatMap fun o =>
      (cutAt ' ' o.2.toList).filter (· ≠ []) |>.map String.ofList
    let isPair (arg : String) : Bool := arg.toList.contains '='
    let words := splits ++ g.operands
    let ignoring := g.has 'i' || words.head? = some "-"
    let words := if words.head? = some "-" then words.tail else words
    let pairs := (words.takeWhile isPair).map Builtin.nameAndValue
    let command := words.drop pairs.length
    let gone := (g.options.filter fun o => o.1 == 'u').map Prod.snd
    let kept := if ignoring then []
      else s.environment.filter fun entry => !gone.contains entry.1
    let all := pairs.foldl (fun all (x, value) => Dict.put x (value.getD "") all) kept
    let inner := { s with bindings := all.map fun (x, value) =>
      (x, ({ value := some value, exported := true } : Variable)) }
    if g.has '0' && !command.isEmpty then
      s.absorb c.name (c.tryHelp "cannot specify --null (-0) with command" 125)
    else if command.isEmpty then
      s.absorb c.name (Effect.out (all.flatMap fun (x, value) =>
        (x ++ "=" ++ value).toList ++ [if g.has '0' then '\x00' else '\n']))
    else
      let after := runFor launch c.name (Utility.inQuotes (command.headD "")) command inner
      { after with bindings := s.bindings }

/-- The arguments that a text holds, between blanks; quotes and backslashes hide blanks. -/
def argumentsIn (quote : Option Char) (begun : Bool) (current : List Char) :
    List Char → List String
  | [] => if begun then [String.ofList current.reverse] else []
  | c :: cs =>
    match quote with
    | some q =>
      if c = q then argumentsIn none true current cs
      else argumentsIn quote true (c :: current) cs
    | none =>
      if c = '\'' ∨ c = '"' then argumentsIn (some c) true current cs
      else if c = '\\' then
        match cs with
        | d :: rest => argumentsIn none true (d :: current) rest
        | [] => argumentsIn none begun current []
      else if Arithmetic.isSpace c then
        if begun then String.ofList current.reverse :: argumentsIn none false [] cs
        else argumentsIn none false [] cs
      else argumentsIn none true (c :: current) cs

def groupsOf {α : Type} (size : Nat) : Nat → List α → List (List α)
  | 0, _ => []
  | _, [] => []
  | fuel + 1, xs => xs.take size :: groupsOf size fuel (xs.drop size)

def replaceAll (mark value : List Char) : Nat → List Char → List Char
  | 0, cs => cs
  | _, [] => []
  | fuel + 1, c :: cs =>
    match after? mark (c :: cs) with
    | some rest =>
      if mark.isEmpty then c :: cs else value ++ replaceAll mark value fuel rest
    | none => c :: replaceAll mark value fuel cs

def xargs (launch : Launcher) (c : Call) (s : State) : State :=
  let o : OptionSet :=
    { letters := "0a:d:E:I:iL:n:P:prs:tx", inOrder := true
      names := [("null", '0'), ("delimiter=", 'd'), ("max-args=", 'n'), ("max-lines=", 'L'),
        ("no-run-if-empty", 'r'), ("replace=", 'I'), ("max-procs=", 'P'), ("verbose", 't')] }
  match o.read c.args with
  | .error e => s.absorb c.name (c.tryHelp e.message 1)
  | .ok g =>
    let bad := ['s', 'n', 'L', 'P'].filterMap fun letter =>
      match g.value? letter with
      | some value => if (natural? value).isNone then some (letter, value) else none
      | none => none
    match bad with
    | (letter, value) :: _ =>
      s.absorb c.name (c.tryHelp ("invalid number \"" ++ value ++ "\" for -"
        ++ String.ofList [letter] ++ " option") 1)
    | [] =>
    let g := if g.has 'i' then g.add 'I' "\x7b\x7d" else g
    let command := if g.operands.isEmpty then ["echo"] else g.operands
    let s := match s.port? 0 with
      | some port => (s.leave port []).connect 0 (.device .null)
      | none => s
    let delimiter := if g.has '0' then some '\x00'
      else (g.value? 'd').map fun d => if d = "\\n" then '\n' else (d.toList.headD '\n')
    let lines := (Shell.linesOf c.input).map fun line => String.ofList (line.dropWhile Arithmetic.isSpace)
    let items := match delimiter, g.value? 'I' with
      | some d, _ =>
        let parts := (cutAt d c.input).map String.ofList
        if parts.getLast? = some "" then parts.dropLast else parts
      | none, some _ => lines.filter (· ≠ "")
      | none, none => argumentsIn none false [] c.input
    let calls : List (List String) := match g.value? 'I', (g.value? 'n').bind natural?,
        (g.value? 'L').bind natural? with
      | some mark, _, _ => items.map fun item => command.map fun arg =>
        String.ofList (replaceAll mark.toList item.toList (arg.length + 1) arg.toList)
      | none, some (n + 1), _ => (groupsOf (n + 1) (items.length + 1) items).map (command ++ ·)
      | none, _, some (n + 1) =>
        (groupsOf (n + 1) (lines.length + 1) (lines.filter (· ≠ ""))).map fun group =>
          command ++ group.flatMap fun line => argumentsIn none false [] line.toList
      | none, _, _ => if items.isEmpty then [] else [command ++ items]
    let calls := if calls.isEmpty && !g.has 'r' && (g.value? 'I').isNone then [command] else calls
    let (status, after) := calls.foldl (fun (status, s) call =>
      if status = 124 ∨ status = 126 ∨ status = 127 then (status, s)
      else
        let s := runFor launch c.name (call.headD "") call s
        let status := if s.status = 0 then status
          else if s.status = 255 then 124
          else if s.status = 126 ∨ s.status = 127 then s.status
          else 123
        (status, s)) (0, s)
    { after with channels := s.channels }.giving status

/-- Runs a program under circumstances that do not show, behind some options. -/
def wrapper (launch : Launcher) (o : OptionSet) (skip : Nat) (verb : String) (c : Call) (s : State) :
    State :=
  match o.read c.args with
  | .error e => s.absorb c.name (c.tryHelp e.message 125)
  | .ok g =>
    let command := g.operands.drop skip
    let isMode (value : String) : Bool := value = "L" || (natural? value).isSome
    match g.options.find? fun option => ['i', 'o', 'e'].contains option.1 && !isMode option.2 with
    | some (_, value) =>
      s.absorb c.name (c.complaint ("invalid mode " ++ Utility.inQuotes value) 125)
    | none =>
    if command.isEmpty then
      if skip = 0 then s.absorb c.name (c.tryHelp "missing operand" 125)
      else s.absorb c.name
        (Effect.err ("Try '" ++ c.name ++ " --help' for more information.") 125)
    else runFor launch c.name (verb ++ Utility.inQuotes (command.headD "")) command s

def failedToRun : String := "failed to run command "

/-- Runs the text of a command in a shell that is a program of its own. -/
def commander (run : CommandRunner) (s : State) : Utility.Commander := fun command input m =>
  let inner : State :=
    { s.forProgram with
      machine := m
      streams := #[{ unread := input }, {}, {}]
      channels := [(0, .stream 0), (1, .stream 1), (2, .stream 2)]
      name := "" }
  let after := runShell run "sh" [] [] command inner
  { pieces := [(true, after.unread (.stream 2)), (false, after.unread (.stream 1))]
    machine := some after.machine
    left := if after.unread (.stream 0) = input then none else some []
    status := match after.killed with
      | some n => 256 + n
      | none => after.status }

def runProgram (run : CommandRunner) (launch : Launcher) (program name : String)
    (args : List String) (s : State) : State :=
  let c := s.call name args
  match program with
  | "sh" | "dash" | "bash" => callShell run program name args s
  | "awk" | "mawk" => s.absorb name (Utility.awk (commander run s) c)
  | "env" => env launch c s
  | "xargs" => xargs launch c s
  | "nice" =>
    if args.isEmpty then s.absorb name (Effect.out "0\n".toList)
    else wrapper launch { letters := "n:", names := [("adjustment=", 'n')], inOrder := true } 0 "" c s
  | "nohup" => wrapper launch { letters := "", inOrder := true } 0 failedToRun c s
  | "timeout" =>
    let o : OptionSet :=
      { letters := "k:s:v", names := [("signal=", 's'), ("kill-after=", 'k')], inOrder := true }
    wrapper launch o 1 failedToRun c s
  | "stdbuf" => wrapper launch { letters := "i:o:e:", inOrder := true } 0 failedToRun c s
  | _ => s.absorb name (Utility.call program c)

/-- How often a file may be read by a program that is such a file itself. -/
def maxInterpreters : Nat := 5

/-- Runs the file at a path, under a name. Files of unknown shape are scripts if `lenient`. -/
def launchAt (run : CommandRunner) (lenient : Bool) : Nat → String → String → List String → State →
    Except FileError State
  | 0, _, _, _, _ => .error .permissionDenied
  | fuel + 1, path, name, args, s =>
    match s.machine.executable (pathOf path) with
    | .error e => .error e
    | .ok (.program program) =>
      let launch : Launcher := fun name args s =>
        match s.pathTo? name with
        | some path => launchAt run true fuel path name args s
        | none => .error .notFound
      .ok (runProgram run launch program name args s)
    | .ok (.interpreted interpreter argument) =>
      launchAt run lenient fuel interpreter interpreter (argument.toList ++ path :: args) s
    | .ok .shapeless =>
      match lenient, s.machine.look (pathOf path) with
      | true, .ok (.file content) => .ok (runShell run path args [] (widen content) s)
      | _, _ => .error .noFormat

def execute (run : CommandRunner) (name : String) (args : List String) (s : State) : State :=
  match s.pathTo? name with
  | none => s.fail 127 (name ++ ": not found")
  | some path =>
    let s := { s with found := name :: s.found }
    match launchAt run true (16 * maxInterpreters) path name args s with
    | .ok s => s
    | .error e =>
      if e = .notFound ∨ e = .notFolder then s.fail 127 (name ++ ": not found")
      else s.fail 126 (name ++ ": " ++ e.words)

/-! ## Commands of the shell that run others -/

inductive Meaning where
  | keyword
  | special
  | function
  | builtin
  | program (path : String) (known : Bool)

def meaning? (name : String) (s : State) : Option Meaning :=
  if keywords.contains name then some .keyword
  else if Builtin.specials.contains name then some .special
  else if (s.functions.lookup name).isSome then some .function
  else if Builtin.regulars.contains name then some .builtin
  else
    (s.pathTo? name).bind fun path =>
      if (s.machine.executable (pathOf path)).isOk then
        some (.program path (s.found.contains name))
      else none

def Meaning.describe (name : String) : Meaning → String
  | .keyword => name ++ " is a shell keyword"
  | .special => name ++ " is a special shell builtin"
  | .function => name ++ " is a shell function"
  | .builtin => name ++ " is a shell builtin"
  | .program path known => name ++ (if known then " is a tracked alias for " else " is ") ++ path

def Meaning.word (name : String) : Meaning → String
  | .program path _ => path
  | _ => name

def describeAll (caller : String) (names : List String) (s : State) : State :=
  names.foldl (fun (s : State) name =>
    match meaning? name s with
    | some m => (s.print caller (m.describe name ++ "\n").toList).giving s.status
    | none => (s.write 1 (name ++ ": not found\n").toList).2.giving 127) (s.giving 0)

def callAll (names : List String) (s : State) : State :=
  names.foldl (fun (s : State) name =>
    match meaning? name s with
    | some m => (s.print "command" (m.word name ++ "\n").toList).giving s.status
    | none => s.giving 127) (s.giving 0)

def State.withAssignments (s : State) (pairs : List (String × String)) (act : State → State) :
    State :=
  if pairs.isEmpty then act s
  else
    let old := pairs.map fun (x, _) => (x, s.known? x)
    let inner := pairs.foldl (fun (s : State) (x, value) =>
      if s.stopped then s
      else if ((s.known? x).map Variable.fixed).getD false then s.abort (x ++ ": is read only")
      else
        let s := if x = "OPTIND" then { s with optionPlace := 0 } else s
        s.bind x { value := some value, exported := true }) s
    if inner.stopped then inner
    else
      let after := act inner
      old.foldl (fun (s : State) (x, v) =>
        match v with
        | some v => s.bind x v
        | none => s.forget x) after

def callFunction (run : CommandRunner) (lines : Nat) (body : Command) (args : List String)
    (s : State) : State :=
  let inner := run body
    { s with arguments := args, hidden := [] :: s.hidden, loops := 0, optionPlace := 0, lines }
  let frame := inner.hidden.headD []
  let restored := frame.foldl (fun (t : State) (x, v) =>
    match v with
    | some v => t.bind x v
    | none => t.forget x) inner
  { restored with
    arguments := s.arguments, hidden := s.hidden, loops := s.loops, optionPlace := s.optionPlace
    lines := s.lines
    flow := if inner.flow = .returning then .onward else inner.flow }

def source (run : CommandRunner) (args : List String) (s : State) : State :=
  match args with
  | [] => s.giving 0
  | path :: _ =>
    let found := if path.toList.contains '/' then some path
      else (s.programFolders.map fun folder => folder ++ "/" ++ path).find? fun candidate =>
        match s.machine.look (pathOf candidate) with
        | .ok (.file _) => true
        | _ => false
    match found with
    | none => Builtin.fault "." (path ++ ": not found") s
    | some found =>
      match s.openForReading 0 found with
      | .error e => Builtin.fault "." e.message s
      | .ok opened =>
        let text := match opened.port? 0 with
          | some port => opened.unread port
          | none => []
        let after := runText run text { s with speaker := found }
        { after with
          speaker := s.speaker
          flow := if after.flow = .returning then .onward else after.flow }

/-- A command without the words in front that only say that functions do not count, and whether
there were any. -/
def plainCommand (plainly : Bool) : List String → Bool × List String
  | "command" :: "-p" :: rest => (true, rest)
  | "command" :: "--" :: rest => (true, rest)
  | "command" :: name :: rest =>
    if name.toList.head? = some '-' then (plainly, "command" :: name :: rest)
    else if name = "command" then plainCommand true (name :: rest)
    else (true, name :: rest)
  | words => (plainly, words)

def become (run : CommandRunner) (words : List String) (s : State) : State :=
  match words with
  | [] => s.giving 0
  | name :: args =>
    let refuse (e : FileError) : State :=
      if e = .notFound ∨ e = .notFolder then
        (s.complainAs "exec" (name ++ ": not found")).exit 127
      else (s.complainAs "exec" (name ++ ": " ++ e.words)).exit 126
    match s.pathTo? name with
    | none => refuse .notFound
    | some path =>
      match launchAt run true (16 * maxInterpreters) path name args s with
      | .ok s => { s with traps := [], flow := .exiting }
      | .error e => refuse e

/-- Runs a command by its name. Functions do not count if `plainly`, and faults of special commands
end the shell only otherwise. -/
def invokeNamed (run : CommandRunner) (plainly : Bool) (name : String) (args : List String)
    (s : State) : State :=
  let special := Builtin.specials.contains name
  match if plainly || special then none else s.functions.lookup name with
  | some (lines, body) => callFunction run lines body args s
  | none =>
    match name, args with
    | "exit", [] => s.exit s.status
    | "exit", text :: _ =>
      match natural? text with
      | some n => s.exit n
      | none => Builtin.fault "exit" ("Illegal number: " ++ text) s
    | "eval", _ =>
      let after := runText run (" ".intercalate args).toList { s with speaker := "eval" }
      { after with speaker := s.speaker }
    | ".", _ => source run args s
    | "type", _ => describeAll "type" args s
    | "command", "-v" :: names => callAll names s
    | "command", "-V" :: names => describeAll "command" names s
    | "command", first :: _ =>
      (s.complainAs "command" ("Illegal option " ++ String.ofList (first.toList.take 2))).giving 2
    | "command", [] => s.giving 0
    | "exec", words => become run words s
    | _, _ =>
      match Builtin.plain? name with
      | some act =>
        let after := act args s
        if after.flow = .exiting && after.killed.isNone && (plainly || !special) then
          { after with flow := s.flow }
        else after
      | none => execute run name args s

def invoke (run : CommandRunner) (words : List String) (s : State) : State :=
  match plainCommand false words with
  | (plainly, name :: args) => invokeNamed run plainly name args s
  | (_, []) => s.giving 0

/-! ## Simple commands -/

/-- Commands whose arguments may be assignments, which are not cut into fields. -/
def declaring : List String := ["export", "readonly", "local"]

def State.commandFields (s : State) (run : TextRunner) (words : List Word) : List String × State :=
  match words with
  | [] => ([], s)
  | first :: rest =>
    let (front, s) := s.fields run [first]
    if s.stopped then ([], s)
    else if declaring.contains (front.getLast?.getD "") then
      rest.foldl (fun (fields, s) w =>
        if s.stopped then (fields, s)
        else match assignment? w with
          | some (x, value) =>
            let (text, s) := s.single run value
            (fields ++ [x ++ "=" ++ text], s)
          | none =>
            let (more, s) := s.fields run [w]
            (fields ++ more, s)) (front, s)
    else
      let (more, s) := s.fields run rest
      (front ++ more, s)

def State.assignmentValues (s : State) (run : TextRunner) :
    List (String × Word) → List (String × String) × State
  | [] => ([], s)
  | (x, w) :: rest =>
    let (value, s) := s.single run w
    if s.stopped then ([], s)
    else
      let (more, s) := s.assignmentValues run rest
      ((x, value) :: more, s)

/-- Carries out assignments, one after the other, each seen by the next. -/
def State.assignAll (s : State) (run : TextRunner) (pairs : List (String × Word)) :
    List (String × String) × State :=
  pairs.foldl (fun (done, s) (x, w) =>
    if s.stopped then (done, s)
    else
      let (value, s) := s.single run w
      if s.stopped then (done, s)
      else match s.assign? x value with
        | some s => (done ++ [(x, value)], s)
        | none => (done, s.abort (x ++ ": is read only"))) ([], s)

/-- Says what is about to be done, if the shell is to say so. -/
def State.trace (s : State) (pairs : List (String × String)) (args : List String) : State :=
  if s.options.contains 'x' then
    let words := pairs.map (fun (x, value) => x ++ "=" ++ value) ++ args
    (s.write 2 ((s.value? "PS4").getD "+ " ++ " ".intercalate words ++ "\n").toList).2
  else s

def simple (run : CommandRunner) (behind : Nat) (assignments : List (String × Word))
    (words : List Word) (redirections : List Redirection) (s : State) : State :=
  if s.budget = 0 then { s with flow := .exiting }
  else
    let texts := textRunner run
    let s := { s with budget := s.budget - 1, substituted := none, line := s.lines - behind + 1 }
    let kept := s.channels
    let (args, s) := s.commandFields texts words
    if s.stopped then s
    else
      let (fine, s) := s.redirect texts redirections
      if s.stopped then { s with channels := kept }
      else match args with
      | [] =>
        if !fine then { s with channels := kept }
        else
          let (pairs, s) := s.assignAll texts assignments
          let s := s.trace pairs []
          let s := { s with channels := kept }
          if s.stopped then s else s.giving (s.substituted.getD 0)
      | name :: rest =>
        let special := Builtin.specials.contains name
        if !fine then
          let s := { s with channels := kept }
          if special then s.exit 2 else s
        else if special then
          let (pairs, s) := s.assignAll texts assignments
          if s.stopped then { s with channels := kept }
          else
            let s := invoke run args (s.trace pairs args)
            if name = "exec" ∧ rest = [] then s else { s with channels := kept }
        else
          let (pairs, s) := s.assignmentValues texts assignments
          if s.stopped then { s with channels := kept }
          else
            let s := s.trace pairs args
            let s := s.withAssignments pairs fun s => invoke run args s
            { s with channels := kept }

/-! ## Other commands -/

/-- Runs commands that feed each other. Only the last one's status counts. -/
def pipeline (run : CommandRunner) : Option Port → List Command → State → State
  | _, [], s => s
  | input, c :: rest, s =>
    let feed (inner : State) : State :=
      match input with
      | some port => inner.connect 0 port
      | none => inner
    if rest.isEmpty then s.apart fun inner => finish run (run c (feed inner))
    else
      let (n, s) := s.addStream []
      let share := s.budget / 2
      let after := { s with budget := s.budget - share }.apart fun inner =>
        finish run (run c ((feed inner).connect 1 (.stream n)))
      let after :=
        { after with
          budget := after.budget + share
          flow := if after.killed.isSome then after.flow else s.flow }
      if after.stopped then after else pipeline run (some (.stream n)) rest after

/-- Runs a command that is not waited for. It has no input. -/
def background (run : CommandRunner) (c : Command) (s : State) : State :=
  let after := s.apart fun inner =>
    finish run (run c { inner.connect 0 (.device .null) with guarded := false })
  { after with
    jobs := (ownNumber + 1 + after.jobs.length, after.status) :: after.jobs
    status := 0 }

/-- What comes after a round of a loop: another round or none. -/
def afterRound (s : State) : Bool × State :=
  match s.flow with
  | .onward => (true, s)
  | .continuing 1 => (true, { s with flow := .onward })
  | .continuing (n + 1) => (false, { s with flow := .continuing n })
  | .breaking 1 => (false, { s with flow := .onward })
  | .breaking (n + 1) => (false, { s with flow := .breaking n })
  | _ => (false, s)

def guardedly (run : CommandRunner) (c : Command) (s : State) : State :=
  { run c { s with guarded := true } with guarded := s.guarded }

/-- Runs the rounds of a loop; `fuel` bounds their number. -/
def rounds (run : CommandRunner) (answer : Bool) (test body : Command) : Nat → Nat → State → State
  | 0, _, s => { s with flow := .exiting }
  | fuel + 1, status, s =>
    let s := guardedly run test s
    if s.stopped then
      let (again, s) := afterRound s
      if again then rounds run answer test body fuel status s else s
    else if (s.status == 0) == answer then
      let (again, s) := afterRound (run body s)
      if again then rounds run answer test body fuel s.status s else s
    else s.giving status

def eachRound (run : CommandRunner) (name : String) (body : Command) : List String → State → State
  | [], s => s
  | value :: rest, s =>
    match s.assign? name value with
    | none => s.abort (name ++ ": is read only")
    | some s =>
      let (again, s) := afterRound (run body s)
      if again then eachRound run name body rest s else s

def branch (run : CommandRunner) (subject : String) : List (List Word × Command) → State → State
  | [], s => s.giving 0
  | (patterns, body) :: rest, s =>
    let (fits, s) := patterns.foldl (fun (fits, s) w =>
      if fits || s.stopped then (fits, s)
      else
        let (p, s) := s.pattern (textRunner run) w
        (!s.stopped && p.covers subject.toList, s)) (false, s)
    if s.stopped then s
    else if fits then run body s
    else branch run subject rest s

def step (run : CommandRunner) : CommandRunner
  | .simple behind assignments words redirections, s =>
    simple run behind assignments words redirections s
  | .pipeline cs, s => pipeline run none cs s
  | .negation c, s =>
    let s := guardedly run c s
    if s.flow = .exiting then s else s.giving (if s.status = 0 then 1 else 0)
  | .both first second, s =>
    let s := guardedly run first s
    if s.stopped || s.status ≠ 0 then s else run second s
  | .either first second, s =>
    let s := guardedly run first s
    if s.stopped || s.status = 0 then s else run second s
  | .sequence cs, s =>
    if cs.isEmpty then s.giving 0 else cs.foldl (fun s c => run c s) s
  | .background c, s => background run c s
  | .apart c, s => s.apart fun inner => finish run (run c inner)
  | .redirected c redirections, s =>
    let kept := s.channels
    let (fine, s) := s.redirect (textRunner run) redirections
    if fine then { run c s with channels := kept } else { s with channels := kept }
  | .conditional test yes no, s =>
    let s := guardedly run test s
    if s.stopped then s
    else if s.status = 0 then run yes s
    else match no with
      | some other => run other s
      | none => s.giving 0
  | .loop answer test body, s =>
    let after := rounds run answer test body (s.budget + 1) 0 { s with loops := s.loops + 1 }
    { after with loops := s.loops }
  | .each name words body, s =>
    let (values, s) := match words with
      | some words => s.fields (textRunner run) words
      | none => (s.arguments, s)
    if s.stopped then s
    else
      let after := eachRound run name body values { s with loops := s.loops + 1, status := 0 }
      { after with loops := s.loops }
  | .choice subject branches, s =>
    let (text, s) := s.single (textRunner run) subject
    if s.stopped then s else branch run text branches s
  | .define name body, s => { s with functions := Dict.put name (s.lines, body) s.functions, status := 0 }

/-- Does the failure of a command end a shell that is to end on failures? -/
def Command.matters : Command → Bool
  | .simple .. | .pipeline _ | .apart _ | .background _ => true
  | _ => false

def maxDepth : Nat := 3000

def runAt : Nat → CommandRunner
  | 0, _, s => s.abort "nesting too deep"
  | depth + 1, c, s =>
    if s.stopped || s.options.contains 'n' then s
    else
      let s := answerSignals (runAt depth) (step (runAt depth) c s)
      if c.matters && s.status ≠ 0 && s.options.contains 'e' && !s.guarded && s.flow ≠ .exiting then
        { s with flow := .exiting }
      else s

/-! ## Starting -/

/-- What a program that was started on a machine left behind, and the machine after it. -/
structure Aftermath where
  finished : Finished
  machine : Machine

/-- Runs the program at a path, or with a name that is looked for in folders, on what is in its
input. -/
def start (m : Machine) (folders : List String) (path : String) (args : List String)
    (input : Bytes) : Except StartError Aftermath :=
  let place := "/" ++ joinParts m.here
  let seen : List (String × String) := [("PATH", ":".intercalate folders), ("PWD", place)]
  let s : State :=
    { machine := m
      streams := #[{ unread := widen input }, {}, {}]
      channels := [(0, .stream 0), (1, .stream 1), (2, .stream 2)]
      bindings := seen.map fun (x, value) => (x, { value := some value, exported := true }) }
  let name := String.ofList (widen (bytesOf path))
  if path.toList.contains '\x00' then .error (.other "nul byte found in provided data")
  else match s.pathTo? name with
    | none => .error .notFound
    | some found =>
      match launchAt (runAt maxDepth) false (16 * maxInterpreters) found name args s with
      | .error .notFound => .error .notFound
      | .error .permissionDenied => .error .permissionDenied
      | .error e => .error (.other e.message)
      | .ok after =>
        let text (n : Nat) : Bytes := narrow (after.unread (.stream n))
        .ok
          { machine := { after.machine with here := m.here }
            finished :=
              { output := text 1, errors := text 2
                ending := match after.killed with
                  | some n => .signalled n
                  | none => .exited (after.status % 256) } }

def programAt (m : Machine) (folders : List String) (path : String) : Program := fun args input =>
  (start m folders path args input).map Aftermath.finished

end Lettermill.Shell
