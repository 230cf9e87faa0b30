import Lettermill.Machine.Executable
import Lettermill.Shell.Pattern
import Lettermill.Shell.Utility.Plain
/-! Programs that look after files: they list, make, copy, move, compare and take them away. A
machine keeps no times and no owners. -/
namespace Lettermill.Shell.Utility
set_option autoImplicit false
open Text

/-- Goes through operands; each step sees the machine that the one before left. -/
def eachOperand (c : Call) (operands : List String) (act : Machine → String → Effect) : Effect :=
  operands.foldl (fun e operand => e.andThen (act (e.machine.getD c.machine) operand)) {}

def whatIs (m : Machine) (path : String) : Except FileError (Place × Occupant) :=
  match m.locate (pathOf path) with
  | .ok (place, some found) => .ok (place, found)
  | .ok (_, none) => .error .notFound
  | .error e => .error e

def within (folder name : String) : String :=
  if folder.toList.getLast? = some '/' then folder ++ name else folder ++ "/" ++ name

def sortedNames (names : List String) : List String :=
  (names.map fun name => String.ofList (widen (bytesOf name))).mergeSort (· ≤ ·)

/-! ## Lists -/

def ls (c : Call) : Effect :=
  let o : OptionSet :=
    { letters := "aAbBcCdfFghHiIklLmnNopqQrRsStTuUvwxXZ1"
      names := [("all", 'a'), ("almost-all", 'A'), ("directory", 'd'), ("reverse", 'r'),
        ("recursive", 'R'), ("classify", 'F')] }
  match o.read c.args with
  | .error e => c.tryHelp e.message 2
  | .ok g =>
    let order (names : List String) : List String :=
      if g.has 'r' then names.reverse else names
    let decorated (folder name : String) : String :=
      match whatIs c.machine (within folder name) with
      | .ok (_, .folder) => if g.has 'p' || g.has 'F' then name ++ "/" else name
      | .ok (place, .file _) =>
        if g.has 'F' && c.machine.runnable.contains place then name ++ "*" else name
      | _ => name
    let line (names : List String) : List Char :=
      if g.has 'm' then (if names.isEmpty then [] else (", ".intercalate names ++ "\n").toList)
      else names.flatMap fun name => (name ++ "\n").toList
    let inside (path : String) (place : Place) : List Char :=
      let names := sortedNames (c.machine.names place)
      let shown := names.filter fun name =>
        g.has 'a' || g.has 'A' || name.toList.head? ≠ some '.'
      let dots := if g.has 'a' then [".", ".."] else []
      line (order (dots ++ shown.map (decorated path)))
    let operands := (if g.operands.isEmpty then ["."] else g.operands).mergeSort (· ≤ ·)
    let found := (order operands).map fun path => (path, whatIs c.machine path)
    let missing := found.filterMap fun (path, what) =>
      match what with
      | .error why => some (c.complaint ("cannot access " ++ inQuotes path ++ ": " ++ why.words) 2)
      | .ok _ => none
    let files := found.filterMap fun (path, what) =>
      match what with
      | .ok (_, .folder) => if g.has 'd' then some path else none
      | .ok _ => some path
      | .error _ => none
    let folders := found.filterMap fun (path, what) =>
      match what with
      | .ok (place, .folder) => if g.has 'd' then none else some (path, place)
      | _ => none
    let titled := 1 < g.operands.length
    let parts := folders.map fun (path, place) =>
      (if titled then (path ++ ":\n").toList else []) ++ inside path place
    let blocks := (if files.isEmpty then [] else [line files]) ++ parts
    (Effect.all missing).andThen (Effect.out (['\n'].intercalate blocks))

def which (c : Call) : Effect :=
  match c.args.find? fun arg => arg.toList.head? = some '-' && arg ≠ "-a" && arg ≠ "-s" with
  | some arg =>
    (Effect.err ("Illegal option " ++ String.ofList (arg.toList.take 2)) 2).andThen
      (Effect.out ("Usage: " ++ c.name ++ " [-as] args\n").toList)
  | none =>
    let silent := c.args.contains "-s"
    let names := c.args.filter fun arg => arg.toList.head? ≠ some '-'
    let folders := (cutAt ':' ((c.environment.lookup "PATH").getD "").toList).map String.ofList
    let found := names.map fun name =>
      if name.toList.contains '/' then
        if (c.machine.executable (pathOf name)).isOk then some name else none
      else c.machine.search folders name
    let lines := found.filterMap id
    let all := names.isEmpty || !found.all Option.isSome
    { Effect.out (if silent then [] else lines.flatMap fun path => (path ++ "\n").toList) with
      status := if all then 1 else 0 }

/-- The paths below a path that fit, each folder before what is in it. -/
def pathsBelow (m : Machine) (most : Nat) : Nat → Nat → String → List (String × Nat × Occupant)
  | 0, _, _ => []
  | fuel + 1, depth, path =>
    match whatIs m path with
    | .ok (place, .folder) =>
      let deeper := if depth < most then
          (sortedNames (m.names place)).flatMap fun name =>
            pathsBelow m most fuel (depth + 1) (within path name)
        else []
      (path, depth, .folder) :: deeper
    | .ok (_, found) => [(path, depth, found)]
    | .error _ => []

def find (c : Call) : Effect :=
  let isTest (arg : String) : Bool := arg.toList.head? = some '-' || arg = "(" || arg = "!"
  let paths := c.args.takeWhile fun arg => !isTest arg
  let tests := c.args.drop paths.length
  let known : List String := ["-name", "-iname", "-type", "-maxdepth", "-mindepth", "-path"]
  let rec read : List String → Except String (List (String × String))
    | [] => .ok []
    | "-print" :: rest => read rest
    | test :: value :: rest =>
      if known.contains test then (read rest).map ((test, value) :: ·) else .error test
    | [test] => .error test
  match read tests with
  | .error test =>
    if known.contains test then
      c.complaint ("missing argument to \x60" ++ test ++ "'") 1
    else c.complaint ("unknown predicate \x60" ++ test ++ "'") 1
  | .ok given =>
    let number (name : String) (usual : Nat) : Nat :=
      ((given.lookup name).bind natural?).getD usual
    let fits (row : String × Nat × Occupant) : Bool :=
      let name := String.ofList (lastPart row.1)
      number "-mindepth" 0 ≤ row.2.1 && given.all fun (test, value) =>
        let p := Pattern.ofMarked (markAll false value.toList)
        match test with
        | "-name" => p.covers name.toList
        | "-iname" =>
          (Pattern.ofMarked (markAll false (lowerChars value.toList))).covers (lowerChars name.toList)
        | "-path" => p.covers row.1.toList
        | "-type" =>
          match value, row.2.2 with
          | "f", .file _ | "f", .program _ | "d", .folder | "c", .device _ => true
          | _, _ => false
        | _ => true
    Effect.all ((if paths.isEmpty then ["."] else paths).map fun path =>
      match whatIs c.machine path with
      | .error why => c.complaint (inQuotes path ++ ": " ++ why.words) 1
      | .ok _ =>
        let rows := (pathsBelow c.machine (number "-maxdepth" 64) 64 0 path).filter fits
        Effect.out (rows.flatMap fun row => (row.1 ++ "\n").toList))

/-! ## Making and taking away -/

def mkdir (c : Call) : Effect :=
  let o : OptionSet :=
    { letters := "m:pvZ", names := [("mode=", 'm'), ("parents", 'p'), ("verbose", 'v')] }
  c.withOptions o 1 fun g =>
    if g.operands.isEmpty then c.tryHelp "missing operand" 1
    else eachOperand c g.operands fun m path =>
      let refuse (e : FileError) : Effect :=
        c.complaint ("cannot create directory " ++ inQuotes path ++ ": " ++ e.words) 1
      match m.locate (pathOf ((String.ofList (withoutSlashes path.toList)))) with
      | .ok (_, some .folder) => if g.has 'p' then {} else refuse .exists
      | .ok (_, some _) => refuse .exists
      | .ok (place, none) => { machine := some (m.addFolder place) }
      | .error .notFound =>
        if g.has 'p' then
          let parts := pathParts (pathOf path)
          let start := if isAbsolute path then [] else m.here
          { machine := some (m.addFolder (start ++ parts)) }
        else refuse .notFound
      | .error e => refuse e

def rmdir (c : Call) : Effect :=
  let o : OptionSet :=
    { letters := "pv"
      names := [("parents", 'p'), ("verbose", 'v'), ("ignore-fail-on-non-empty", 'I')] }
  c.withOptions o 1 fun g =>
    if g.operands.isEmpty then c.tryHelp "missing operand" 1
    else eachOperand c g.operands fun m path =>
      let refuse (e : FileError) : Effect :=
        c.complaint ("failed to remove " ++ inQuotes path ++ ": " ++ e.words) 1
      match whatIs m path with
      | .ok (place, .folder) =>
        if (m.names place).isEmpty then { machine := some (m.remove place) } else refuse .notEmpty
      | .ok _ => refuse .notFolder
      | .error e => refuse e

def rm (c : Call) : Effect :=
  let o : OptionSet :=
    { letters := "dfiIrRv"
      names := [("dir", 'd'), ("force", 'f'), ("recursive", 'r'), ("verbose", 'v')] }
  c.withOptions o 1 fun g =>
    let forced := g.has 'f'
    if g.operands.isEmpty then (if forced then {} else c.tryHelp "missing operand" 1)
    else eachOperand c g.operands fun m path =>
      let refuse (e : FileError) : Effect :=
        c.complaint ("cannot remove " ++ inQuotes path ++ ": " ++ e.words) 1
      let taken (place : Place) : Effect :=
        { machine := some (m.remove place)
          pieces := if g.has 'v' then [(false, ("removed " ++ inQuotes path ++ "\n").toList)] else [] }
      match whatIs m path with
      | .ok (place, .folder) =>
        if g.has 'r' || g.has 'R' then taken place
        else if g.has 'd' then
          if (m.names place).isEmpty then taken place else refuse .notEmpty
        else refuse .isFolder
      | .ok (place, _) => taken place
      | .error .notFound | .error .notFolder => if forced then {} else refuse .notFound
      | .error e => refuse e

def touch (c : Call) : Effect :=
  let o : OptionSet :=
    { letters := "acd:fhmr:t:"
      names := [("no-create", 'c'), ("date=", 'd'), ("reference=", 'r')] }
  c.withOptions o 1 fun g =>
    if g.operands.isEmpty then c.tryHelp "missing file operand" 1
    else eachOperand c g.operands fun m path =>
      match m.locate (pathOf path), m.target (pathOf path) with
      | .ok (_, some _), _ => {}
      | _, .ok (.inr place) => if g.has 'c' then {} else { machine := some (m.put place []) }
      | _, .ok (.inl _) => {}
      | _, .error e => c.complaint ("cannot touch " ++ inQuotes path ++ ": " ++ e.words) 1

def chmod (c : Call) : Effect :=
  match c.args.filter fun arg => arg ≠ "-R" && arg ≠ "-v" && arg ≠ "-f" with
  | mode :: second :: paths =>
    eachOperand c (second :: paths) fun m path =>
      match whatIs m path with
      | .error e => c.complaint ("cannot access " ++ inQuotes path ++ ": " ++ e.words) 1
      | .ok (place, _) =>
        let cs := mode.toList
        let adds := cs.contains 'x' && !cs.contains '-' || cs.any ['1', '3', '5', '7'].contains
        if adds then { machine := some (m.allow place) }
        else if cs.contains '+' then {}
        else { machine := some { m with runnable := m.runnable.filter (· ≠ place) } }
  | [mode] => c.tryHelp ("missing operand after " ++ inQuotes mode) 1
  | [] => c.tryHelp "missing operand" 1

/-! ## Copying -/

/-- A machine with what is below one place also below another. -/
def copyBelow (m : Machine) (source target : Place) : Machine :=
  let moved (path : String) : Option Place :=
    let place := pathParts path
    if source.isPrefixOf place then some (target ++ place.drop source.length) else none
  let files := m.files.entries.filterMap fun (path, content) =>
    (moved path).map fun place => (joinParts place, content)
  let folders := m.folders.filterMap fun place => moved (joinParts place)
  let runnable := m.runnable.filterMap fun place => moved (joinParts place)
  { m with
    files := m.files.insertAll files
    folders := m.folders ++ target :: folders
    runnable := m.runnable ++ runnable }

def transfer (c : Call) (moving recursive : Bool) (m : Machine) (source target : String) : Effect :=
  match whatIs m source with
  | .error e => c.complaint ("cannot stat " ++ inQuotes source ++ ": " ++ e.words) 1
  | .ok (place, found) =>
    let into := match whatIs m target with
      | .ok (_, .folder) => within target (String.ofList (lastPart source))
      | _ => target
    let verb := if moving then "cannot move " else "cannot create regular file "
    let refuse (e : FileError) : Effect :=
      if moving then
        c.complaint (verb ++ inQuotes source ++ " to " ++ inQuotes into ++ ": " ++ e.words) 1
      else c.complaint (verb ++ inQuotes into ++ ": " ++ e.words) 1
    match found with
    | .folder =>
      if !moving && !recursive then
        c.complaint ("-r not specified; omitting directory " ++ inQuotes source) 1
      else match m.locate (pathOf into) with
        | .ok (there, _) =>
          let copied := copyBelow m place there
          { machine := some (if moving then copied.remove place else copied) }
        | .error e => refuse e
    | _ =>
      match m.target (pathOf into), c.read source with
      | .error e, _ => refuse e
      | _, .error e => c.complaint ("cannot open " ++ inQuotes source ++ " for reading: " ++ e.words) 1
      | .ok (.inl (.channel 1)), .ok text => Effect.out text
      | .ok (.inl _), _ => {}
      | .ok (.inr there), _ =>
        if there = place then
          c.complaint (inQuotes source ++ " and " ++ inQuotes into ++ " are the same file") 1
        else
          let content := match found with
            | .file content => content
            | _ => []
          let copied := m.put there content
          let copied := if m.runnable.contains place then copied.allow there else copied
          { machine := some (if moving then copied.remove place else copied) }

def transferAll (c : Call) (moving recursive : Bool) (operands : List String) : Effect :=
  match operands with
  | [] => c.tryHelp "missing file operand" 1
  | [source] => c.tryHelp ("missing destination file operand after " ++ inQuotes source) 1
  | _ =>
    let target := operands.getLast?.getD ""
    let isFolder := match whatIs c.machine target with
      | .ok (_, .folder) => true
      | _ => false
    if 2 < operands.length && !isFolder then
      c.complaint ("target " ++ inQuotes target ++ ": "
        ++ (if (whatIs c.machine target).isOk then FileError.notFolder else .notFound).words) 1
    else eachOperand c operands.dropLast fun m source =>
      transfer { c with machine := m } moving recursive m source target

def cp (c : Call) : Effect :=
  let o : OptionSet :=
    { letters := "abdfHiLlnPpRrsS:t:TuvxZ"
      names := [("archive", 'a'), ("force", 'f'), ("recursive", 'r'), ("verbose", 'v')] }
  c.withOptions o 1 fun g =>
    transferAll c false (g.has 'r' || g.has 'R' || g.has 'a') g.operands

def mv (c : Call) : Effect :=
  let o : OptionSet :=
    { letters := "bfinS:t:TuvZ", names := [("force", 'f'), ("verbose", 'v')] }
  c.withOptions o 1 fun g => transferAll c true true g.operands

/-! ## Paths -/

def realpath (c : Call) : Effect :=
  let o : OptionSet :=
    { letters := "eELmPqsz", names := [("canonicalize-existing", 'e'), ("zero", 'z')] }
  c.withOptions o 1 fun g =>
    if g.operands.isEmpty then c.tryHelp "missing operand" 1
    else eachOperand c g.operands fun m path =>
      match m.locate (pathOf path) with
      | .ok (place, _) =>
        Effect.out (widen (bytesOf ("/" ++ joinParts place ++ "\n")))
      | .error e => c.complaint (path ++ ": " ++ e.words) 1

def readlink (c : Call) : Effect :=
  let o : OptionSet :=
    { letters := "efmnqsvz", names := [("canonicalize", 'f'), ("no-newline", 'n')] }
  c.withOptions o 1 fun g =>
    if g.operands.isEmpty then c.tryHelp "missing operand" 1
    else eachOperand c g.operands fun m path =>
      if g.has 'f' || g.has 'e' || g.has 'm' then
        match m.locate (pathOf path) with
        | .ok (place, _) =>
          Effect.out (widen (bytesOf ("/" ++ joinParts place ++ (if g.has 'n' then "" else "\n"))))
        | .error _ => { status := 1 }
      else { status := 1 }

def pwd (c : Call) : Effect :=
  c.withOptions { letters := "LP" } 1 fun _ =>
    Effect.out (widen (bytesOf ("/" ++ joinParts c.machine.here ++ "\n")))

/-! ## Comparing -/

def firstDifference (n line : Nat) : List Char → List Char → Option (Nat × Nat)
  | c :: cs, d :: ds =>
    if c = d then firstDifference (n + 1) (if c = '\n' then line + 1 else line) cs ds
    else some (n, line)
  | _, _ => none

def cmp (c : Call) : Effect :=
  let hint := Effect.err (c.name ++ ": Try '" ++ c.name ++ " --help' for more information.") 2
  let o : OptionSet :=
    { letters := "bi:ln:s", names := [("silent", 's'), ("quiet", 's'), ("bytes=", 'n')] }
  match o.read c.args with
  | .error e => (c.complaint e.message 2).andThen hint
  | .ok g =>
    match (g.value? 'i').filter fun v => (natural? v).isNone with
    | some bad =>
      (c.complaint ("invalid --ignore-initial value " ++ inQuotes bad) 2).andThen hint
    | none =>
      match g.operands with
      | [] => (c.complaint ("missing operand after " ++ inQuotes c.name) 2).andThen hint
      | a :: rest =>
        let b := rest.headD "-"
        match c.read a, c.read b with
        | .error e, _ => c.complaint (a ++ ": " ++ e.words) 2
        | _, .error e => c.complaint (b ++ ": " ++ e.words) 2
        | .ok s, .ok t =>
          let silent := g.has 's'
          let left := if c.isInput a || c.isInput b then some [] else none
          let result : Effect := match firstDifference 1 1 s t with
            | some (n, line) =>
              { Effect.out (if silent then [] else (a ++ " " ++ b ++ " differ: char " ++ toString n
                  ++ ", line " ++ toString line ++ "\n").toList) with status := 1 }
            | none =>
              if s.length = t.length then {}
              else if silent then { status := 1 }
              else
                let (path, text) := if s.length < t.length then (a, s) else (b, t)
                let lines := (text.filter (· == '\n')).length
                c.complaint (if text.isEmpty then "EOF on " ++ path ++ " which is empty"
                  else "EOF on " ++ path ++ " after byte " ++ toString text.length ++
                    (if endsLine text then ", line " ++ toString lines
                      else ", in line " ++ toString (lines + 1))) 1
          { result with left }

end Lettermill.Shell.Utility
