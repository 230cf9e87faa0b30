import Lettermill.Shell.Utility.Options
import Lettermill.Shell.Utility.SedScript
/-! The stream editor: it reads line by line, runs its script on each line, and writes what is left
of it. -/
namespace Lettermill.Shell.Utility
set_option autoImplicit false
open Text

/-- A line of the input, with whether it had an end, and whether it is the last. -/
structure SedLine where
  text : List Char
  ended : Bool
  deriving Inhabited

structure SedState where
  /-- The lines that were not read yet. -/
  input : List SedLine
  number : Nat := 0
  space : List Char := []
  ended : Bool := true
  hold : List Char := []
  /-- What was written, the latest first. -/
  output : List (List Char) := []
  /-- Did the last line that was written lack its end? -/
  openLine : Bool := false
  /-- What comes behind the line. -/
  queue : List (List Char) := []
  /-- Ranges that have started: the commands, and the lines at which they end if that is known. -/
  ranges : List (Nat × Option Nat) := []
  /-- Ranges from the top that have ended. -/
  passed : List Nat := []
  lastPattern : SedPattern := none
  substituted : Bool := false
  stopped : Bool := false
  status : Nat := 0
  machine : Machine
  /-- Files that were written to. -/
  opened : List String := []

namespace SedState

def write (s : SedState) (cs : List Char) (ended : Bool) : SedState :=
  let front := if s.openLine then ['\n'] else []
  { s with output := (front ++ cs ++ if ended then ['\n'] else []) :: s.output, openLine := !ended }

def print (s : SedState) : SedState := s.write s.space s.ended

def flush (s : SedState) : SedState :=
  let s := s.queue.foldl (fun (s : SedState) cs =>
    if cs.isEmpty then s else s.write (if cs.getLast? = some '\n' then cs.dropLast else cs)
      (cs.getLast? = some '\n')) s
  { s with queue := [] }

def next? (s : SedState) : Option (SedLine × SedState) :=
  match s.input with
  | [] => none
  | l :: rest => some (l, { s with input := rest, number := s.number + 1, ended := l.ended })

/-- Writes to a file; a file that was not written to before is emptied first. -/
def writeFile (s : SedState) (path : String) (cs : List Char) : SedState :=
  if path = "/dev/stdout" then s.write cs true
  else
    let old := if s.opened.contains path then
        match s.machine.look (pathOf path) with
        | .ok (.file content) => content
        | _ => []
      else []
    { s with
      machine := s.machine.write (pathOf path) (old ++ narrow (cs ++ ['\n']))
      opened := path :: s.opened }

def pattern (s : SedState) (p : SedPattern) : SedPattern × SedState :=
  match p with
  | none => (s.lastPattern, s)
  | some _ => (p, { s with lastPattern := p })

def matching (s : SedState) (p : SedPattern) : Bool × SedState :=
  match s.pattern p with
  | (none, s) => (false, s)
  | (some (r, search), s) => (r.occursIn search s.space, s)

def atAddress (s : SedState) : SedAddress → Bool × SedState
  | .line n => (s.number = n, s)
  | .last => (s.input.isEmpty, s)
  | .pattern p => s.matching p
  | .every first step =>
    (if step = 0 then s.number = first else first ≤ s.number && (s.number - first) % step = 0, s)

def endsAt (s : SedState) (stop : SedEnd) (known : Option Nat) : Bool × SedState :=
  match stop, known with
  | .pattern p, _ => s.matching p
  | .last, _ => (s.input.isEmpty, s)
  | _, some n => (n ≤ s.number, s)
  | _, none => (true, s)

/-- The number of the line at which a range that starts here ends, where that is known. -/
def endOf (s : SedState) : SedEnd → Option Nat
  | .line k => some k
  | .after k => some (s.number + k)
  | .multiple k => some (if k = 0 then s.number else (s.number + k - 1) / k * k)
  | _ => none

def isSingle (s : SedState) (stop : SedEnd) (known : Option Nat) : Bool :=
  match known, stop with
  | some k, _ => k ≤ s.number
  | none, .last => s.input.isEmpty
  | none, _ => false

def selects (s : SedState) (n : Nat) : SedLines → Bool × SedState
  | .all => (true, s)
  | .at_ a => s.atAddress a
  | .fromTop p =>
    if s.passed.contains n then (false, s)
    else
      let (stop, s) := s.matching p
      (true, if stop then { s with passed := n :: s.passed } else s)
  | .range a stop =>
    match s.ranges.lookup n with
    | some known =>
      let beyond : Bool := match stop, known with
        | .line _, some k => k < s.number
        | _, _ => false
      let (ended, s) := s.endsAt stop known
      let s := if ended then { s with ranges := s.ranges.filter fun r => r.1 ≠ n } else s
      if beyond then
        -- The range ended before this line, where it may start again.
        let (hit, s) := s.atAddress a
        (hit, s)
      else (true, s)
    | none =>
      let (hit, s) := s.atAddress a
      if !hit then (false, s)
      else
        let known := s.endOf stop
        (true, if s.isSingle stop known then s else { s with ranges := (n, known) :: s.ranges })

/-! ## Substitution -/

/-- The case of letters in a replacement: of the next one, and of those behind it. -/
structure Casing where
  next : Char := 'E'
  rest : Char := 'E'

def Casing.apply (k : Casing) (cs : List Char) : List Char × Casing :=
  let change (mode c : Char) : Char :=
    match mode with
    | 'U' | 'u' => c.toUpper
    | 'L' | 'l' => lowerChar c
    | _ => c
  match cs with
  | [] => ([], k)
  | c :: rest =>
    (change (if k.next = 'E' then k.rest else k.next) c :: rest.map (change k.rest),
      { k with next := 'E' })

def replacement (pieces : List SedPiece) (found : Found) : List Char :=
  (pieces.foldl (fun (done, (k : Casing)) piece =>
    match piece with
    | .case c =>
      if c = 'l' ∨ c = 'u' then (done, { k with next := c }) else (done, { next := 'E', rest := c })
    | .text cs => let (cs, k) := k.apply cs; (done ++ cs, k)
    | .group 0 => let (cs, k) := k.apply found.text; (done ++ cs, k)
    | .group n => let (cs, k) := k.apply ((found.groups.lookup n).getD []); (done ++ cs, k))
    ([], {})).1

/-- A line with its matches replaced from a number on, and how many were. `afterMatch` says that a
match has just ended here, behind which an empty one does not count. -/
def replaced (r : Regex) (search : Search) (sub : SedSubstitution) (count : Nat)
    (afterMatch : Bool) (before : List Char) : Nat → List Char → List Char × Nat
  | 0, cs => (cs, 0)
  | fuel + 1, cs =>
    match r.find? search (fun k k' => !(afterMatch && k.before.length == before.length
        && k'.after.length == k.after.length)) before cs with
    | none => (cs, 0)
    | some found =>
      let skipped := cs.take (found.before.length - before.length)
      let wanted := sub.number ≤ count
      let text := if wanted then replacement sub.pieces found else found.text
      if wanted && !sub.everywhere then (skipped ++ text ++ found.after, 1)
      else if found.text.isEmpty then
        match found.after with
        | [] => (skipped ++ text, if wanted then 1 else 0)
        | c :: rest =>
          let (more, n) := replaced r search sub (count + 1) false (c :: found.before) fuel rest
          (skipped ++ text ++ c :: more, n + if wanted then 1 else 0)
      else
        let (more, n) := replaced r search sub (count + 1) true
          (found.text.reverse ++ found.before) fuel found.after
        (skipped ++ text ++ more, n + if wanted then 1 else 0)

def substitute (s : SedState) (sub : SedSubstitution) : SedState :=
  match s.pattern sub.pattern with
  | (none, s) => s
  | (some (r, search), s) =>
    let (text, n) := replaced r search sub 1 false [] (2 * s.space.length + 4) s.space
    if n = 0 then s
    else
      let s := { s with space := text, substituted := true }
      let s := (List.range sub.print).foldl (fun (s : SedState) _ => s.print) s
      match sub.file with
      | some path => s.writeFile path text
      | none => s

/-! ## Commands -/

def spelledOut (width : Nat) (cs : List Char) : List Char :=
  let spell (c : Char) : List Char :=
    match c with
    | '\\' => ['\\', '\\']
    | '\x07' => ['\\', 'a']
    | '\x08' => ['\\', 'b']
    | '\x0c' => ['\\', 'f']
    | '\n' => ['\\', 'n']
    | '\x0d' => ['\\', 'r']
    | '\t' => ['\\', 't']
    | '\x0b' => ['\\', 'v']
    | _ =>
      if ' ' ≤ c ∧ c ≤ '~' then [c]
      else
        let ds := Nat.toDigits 8 c.toNat
        '\\' :: (List.replicate (3 - ds.length) '0' ++ ds)
  let (lines, last) := cs.foldl (fun (lines, line) c =>
    let piece := spell c
    if 1 < width ∧ width - 1 < line.length + piece.length then
      (lines ++ [line ++ ['\\']], piece)
    else (lines, line ++ piece)) (([] : List (List Char)), ([] : List Char))
  ['\n'].intercalate (lines ++ [last ++ ['$']])

inductive Step where
  | onward
  | goto (n : Nat)
  /-- To the end of the script. -/
  | finish
  /-- To the next line, without writing this one. -/
  | drop
  /-- To the start of the script, with what is left of the line. -/
  | again
  /-- To the end of everything; the line is written unless it is `silent`. -/
  | quit (silent : Bool)

def simple (s : SedState) (quiet : Bool) : Char → Step × SedState
  | 'd' => (.drop, s)
  | 'D' =>
    if s.space.contains '\n' then
      (.again, { s with space := (s.space.dropWhile (· != '\n')).drop 1 })
    else (.drop, s)
  | 'g' => (.onward, { s with space := s.hold })
  | 'G' => (.onward, { s with space := s.space ++ '\n' :: s.hold })
  | 'h' => (.onward, { s with hold := s.space })
  | 'H' => (.onward, { s with hold := s.hold ++ '\n' :: s.space })
  | 'x' => (.onward, { s with space := s.hold, hold := s.space })
  | 'z' => (.onward, { s with space := [] })
  | 'p' => (.onward, s.print)
  | 'P' => (.onward, s.write (s.space.takeWhile (· != '\n')) true)
  | '=' => (.onward, s.write (digitsText s.number) true)
  | 'F' => (.onward, s.write ['-'] true)
  | 'n' =>
    match s.input with
    | [] => (.quit quiet, s)
    | _ =>
      let s := (if quiet then s else s.print).flush
      match s.next? with
      | some (l, s) => (.onward, { s with space := l.text })
      | none => (.quit quiet, s)
  | _ =>
    match s.flush.next? with
    | some (l, s) => (.onward, { s with space := s.space ++ '\n' :: l.text })
    | none => (.quit false, s)

def act (s : SedState) (quiet : Bool) (program : Array SedCommand) (n : Nat) (c : SedCommand) :
    Step × SedState :=
  let (hit, s) := s.selects n c.lines
  if hit == c.inverted then
    match c.action with
    | .openBlock stop => (.goto (stop + 1), s)
    | _ => (.onward, s)
  else match c.action with
  | .openBlock _ | .closeBlock | .label => (.onward, s)
  | .substitute sub => (.onward, s.substitute sub)
  | .translate source target =>
    (.onward, { s with space := s.space.map fun d => ((source.zip target).lookup d).getD d })
  | .text 'a' cs => (.onward, { s with queue := s.queue ++ [cs] })
  | .text 'i' cs => (.onward, s.write cs.dropLast true)
  | .text _ cs =>
    let atEnd : Bool := match c.lines with
      | .range _ _ => (s.ranges.lookup n).isNone || c.inverted
      | _ => true
    (.drop, if atEnd then s.write cs.dropLast true else s)
  | .jump kind name =>
    let taken := match kind with
      | 'b' => true
      | 't' => s.substituted
      | _ => !s.substituted
    let s := if kind = 'b' then s else { s with substituted := false }
    if !taken then (.onward, s)
    else if name = "" then (.finish, s)
    else match program.findIdx? fun d => d.label = name with
    | some k => (.goto k, s)
    | none => (.finish, s)
  | .file 'r' path =>
    let path := pathOf path
    match s.machine.look path with
    | .ok (.file content) => (.onward, { s with queue := s.queue ++ [widen content] })
    | _ => (.onward, s)
  | .file 'w' path => (.onward, s.writeFile path s.space)
  | .file 'W' path => (.onward, s.writeFile path (s.space.takeWhile (· != '\n')))
  | .file _ _ => (.onward, s)
  | .quit silent status => (.quit (silent || quiet), { s with status, stopped := silent })
  | .list width => (.onward, s.write (spelledOut width s.space) true)
  | .simple d => s.simple quiet d

/-- Runs the script from a command on; `fuel` bounds the number of commands. -/
def script (quiet : Bool) (program : Array SedCommand) : Nat → Nat → SedState → Step × SedState
  | 0, _, s => (.quit true, s)
  | fuel + 1, n, s =>
    match program[n]? with
    | none => (.finish, s)
    | some c =>
      match s.act quiet program n c with
      | (.onward, s) => script quiet program fuel (n + 1) s
      | (.goto k, s) => script quiet program fuel k s
      | other => other

/-- Runs the script on the lines that are left; `fresh` says that a line is to be read first. -/
def run (quiet : Bool) (program : Array SedCommand) (fresh : Bool) :
    Nat → SedState → SedState
  | 0, s => s
  | fuel + 1, s =>
    let ready := if fresh then
        (s.next?).map fun (l, s) => { s with space := l.text, substituted := false }
      else some s
    match ready with
    | none => s
    | some s =>
      let finish (s : SedState) (silent : Bool) : SedState :=
        (if silent then s else s.print).flush
      match s.script quiet program 100000 0 with
      | (.drop, s) => run quiet program true fuel (finish s true)
      | (.again, s) => run quiet program false fuel (finish s true)
      | (.quit silent, s) =>
        if s.stopped then s else finish s silent
      | (_, s) => run quiet program true fuel (finish s quiet)

end SedState

def sedInput (text : List Char) : List SedLine :=
  let ls := linesOf text
  let n := ls.length
  ((List.range n).zip ls).map fun (k, l) => ⟨l, k + 1 < n || endsLine text⟩

def joinInputs (texts : List (List Char)) : List SedLine :=
  let all := texts.map sedInput
  let count := (all.map List.length).foldl (· + ·) 0
  -- Only the very last line may lack its end.
  ((List.range count).zip all.flatten).map fun (k, l) => ⟨l.text, l.ended || k + 1 < count⟩

def sedUsage (c : Call) (status : Nat) : Effect :=
  let lines := ["Usage: " ++ c.name
      ++ " [OPTION]... \x7bscript-only-if-no-other-script\x7d [input-file]...", "",
    "  -n, --quiet, --silent",
    "                 suppress automatic printing of pattern space",
    "      --debug",
    "                 annotate program execution",
    "  -e script, --expression=script",
    "                 add the script to the commands to be executed",
    "  -f script-file, --file=script-file",
    "                 add the contents of script-file to the commands to be executed",
    "  --follow-symlinks",
    "                 follow symlinks when processing in place",
    "  -i[SUFFIX], --in-place[=SUFFIX]",
    "                 edit files in place (makes backup if SUFFIX supplied)",
    "  -l N, --line-length=N",
    "                 specify the desired line-wrap length for the \x60l' command",
    "  --posix",
    "                 disable all GNU extensions.",
    "  -E, -r, --regexp-extended",
    "                 use extended regular expressions in the script",
    "                 (for portability use POSIX -E).",
    "  -s, --separate",
    "                 consider files as separate rather than as a single",
    "                 continuous long stream.",
    "      --sandbox",
    "                 operate in sandbox mode (disable e/r/w commands).",
    "  -u, --unbuffered",
    "                 load minimal amounts of data from the input files and flush",
    "                 the output buffers more often",
    "  -z, --null-data",
    "                 separate lines by NUL characters",
    "      --help     display this help and exit",
    "      --version  output version information and exit", "",
    "If no -e, --expression, -f, or --file option is given, then the first",
    "non-option argument is taken as the sed script to interpret.  All",
    "remaining arguments are names of input files; if no input files are",
    "specified, then the standard input is read.", "",
    "GNU sed home page: <https:" ++ "//www.gnu.org/software/sed/>.",
    "General help using GNU software: <https:" ++ "//www.gnu.org/gethelp/>."]
  { pieces := [(true, unlines (lines.map String.toList))], status }

def sed (c : Call) : Effect :=
  let o : OptionSet :=
    { letters := "bsnrzuEe:f:i:l:"
      names := [("quiet", 'n'), ("silent", 'n'), ("expression=", 'e'), ("file=", 'f'),
        ("in-place", 'I'), ("line-length=", 'l'), ("regexp-extended", 'E'), ("separate", 's'),
        ("posix", 'p'), ("unbuffered", 'u'), ("null-data", 'z'), ("debug", 'D'),
        ("sandbox", 'S')] }
  -- The value of `-i` is never the next argument.
  let args := c.args.map fun arg => if arg = "-i" then "--in-place" else arg
  match o.read args with
  | .error e => (c.complaint e.message 1).andThen (sedUsage c 1)
  | .ok g =>
    let pieces := g.options.filterMap fun (k, value) =>
      if k = 'e' then some value.toList
      else if k = 'f' then some ((c.read value).toOption.getD [])
      else none
    let (script, paths) := match pieces, g.operands with
      | [], first :: rest => (some first.toList, rest)
      | [], [] => (none, [])
      | all, rest => (some (['\n'].intercalate all), rest)
    match script with
    | none => sedUsage c 1
    | some source =>
      let quiet := g.has 'n' || (after? ['#', 'n', '\n'] source).isSome || source = ['#', 'n']
      match readSed (g.has 'E' || g.has 'r') source with
      | .error (e, place) =>
        match e with
        | .unknownLabel _ => c.complaint ("-e expression #1, char " ++ toString source.length ++ ": "
            ++ e.message) 1
        | _ => c.complaint ("-e expression #1, char " ++ toString place ++ ": " ++ e.message) 1
      | .ok program =>
        let texts := c.texts paths
        let complaints := Effect.all (texts.filterMap fun (path, found) =>
          match found with
          | .error .isFolder => some (Effect.err (c.name ++ ": couldn't edit " ++ path
              ++ ": not a regular file") 2)
          | .error why => some (Effect.err (c.name ++ ": can't read " ++ path ++ ": " ++ why.words)
              2)
          | .ok _ => none)
        let readable := texts.filterMap fun (path, found) => found.toOption.map fun t => (path, t)
        let edit (m : Machine) (lines : List SedLine) : SedState :=
          SedState.run quiet program true (2 * lines.length + 100000) { input := lines, machine := m }
        if g.has 'I' || g.has 'i' then
          let m := readable.foldl (fun m (path, text) =>
            let s := edit m (sedInput text)
            s.machine.write (pathOf path) (narrow s.output.reverse.flatten)) c.machine
          { complaints with machine := some m }
        else
          let s := edit c.machine (joinInputs (readable.map Prod.snd))
          { complaints.andThen (Effect.out s.output.reverse.flatten) with
            status := if s.status ≠ 0 then s.status else complaints.status
            left := c.leftAfter paths, machine := some s.machine }

end Lettermill.Shell.Utility
