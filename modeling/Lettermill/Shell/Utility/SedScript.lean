import Lettermill.Shell.Print
import Lettermill.Shell.Utility.Regex
/-! Scripts of the stream editor: commands with addresses, one after the other. Blocks know where
they end, and jumps where they lead. -/
namespace Lettermill.Shell.Utility
set_option autoImplicit false
open Text

/-! ## Commands -/

/-- An expression with how it is searched; none means the last one that was used. -/
abbrev SedPattern := Option (Regex × Search)

inductive SedAddress where
  | line (n : Nat)
  | last
  | pattern (p : SedPattern)
  /-- A line, and from there on every so many lines. -/
  | every (first step : Nat)

inductive SedEnd where
  | line (n : Nat)
  | last
  | pattern (p : SedPattern)
  | after (n : Nat)
  | multiple (n : Nat)

inductive SedLines where
  | all
  | at_ (a : SedAddress)
  | range (a : SedAddress) (b : SedEnd)
  /-- A range that starts before the first line. -/
  | fromTop (p : SedPattern)

inductive SedPiece where
  | text (cs : List Char)
  | group (n : Nat)
  /-- From here on, letters change as a letter behind a backslash says. -/
  | case (c : Char)

structure SedSubstitution where
  pattern : SedPattern
  pieces : List SedPiece
  everywhere : Bool := false
  number : Nat := 1
  print : Nat := 0
  file : Option String := none

inductive SedAction where
  | openBlock (after : Nat)
  | closeBlock
  | substitute (s : SedSubstitution)
  | translate (source target : List Char)
  /-- Adds a text behind the line, in front of it, or in place of it. -/
  | text (kind : Char) (cs : List Char)
  | label
  | jump (kind : Char) (label : String)
  | file (kind : Char) (path : String)
  | quit (silent : Bool) (status : Nat)
  | list (width : Nat)
  | simple (c : Char)

structure SedCommand where
  lines : SedLines
  inverted : Bool
  action : SedAction
  /-- The name of a label, or empty. -/
  label : String := ""

inductive SedError where
  | unknownCommand (c : Char)
  | missingCommand
  | unterminated (c : Char)
  | unterminatedAddress
  | unknownFlag
  | extraCharacters
  | unexpectedClose
  | unmatchedOpen
  | noAddresses (what : String)
  | oneAddress
  | differentLengths
  | badReference (n : Nat)
  | expectedText
  | noLabel
  | missingFile
  | zeroAddress
  | unknownLabel (name : String)
  | regex (e : RegexError)
  deriving DecidableEq, Repr

def SedError.message : SedError → String
  | unknownCommand c => "unknown command: \x60" ++ String.ofList [c] ++ "'"
  | missingCommand => "missing command"
  | unterminated c => "unterminated \x60" ++ String.ofList [c] ++ "' command"
  | unterminatedAddress => "unterminated address regex"
  | unknownFlag => "unknown option to \x60s'"
  | extraCharacters => "extra characters after command"
  | unexpectedClose => "unexpected \x60\x7d'"
  | unmatchedOpen => "unmatched \x60\x7b'"
  | noAddresses what => what ++ " any addresses"
  | oneAddress => "command only uses one address"
  | differentLengths => "strings for \x60y' command are different lengths"
  | badReference n => "invalid reference \\" ++ toString n ++ " on \x60s' command's RHS"
  | expectedText => "expected \\ after \x60a', \x60c' or \x60i'"
  | noLabel => "\":\" lacks a label"
  | missingFile => "missing filename in r/R/w/W commands"
  | zeroAddress => "invalid usage of line address 0"
  | unknownLabel name => "can't find label for jump to \x60" ++ name ++ "'"
  | regex e => e.message

abbrev SedReader := StateT (List Char) (Except SedError)

/-! ## Parts -/

/-- The text up to a delimiter. An escaped delimiter stands for itself, an escaped `n` for the end
of a line; all else keeps its backslash. Brackets hide delimiters when they may. -/
def untilDelimiter (d : Char) (brackets inBracket : Bool) :
    List Char → Option (List Char × List Char)
  | [] => none
  | '\\' :: c :: cs =>
    let kept := if inBracket then ['\\', c]
      else if c = d then if brackets && c = '|' then ['\\', c] else [c]
      else ['\\', c]
    let kept := if c = 'n' then ['\n'] else kept
    (untilDelimiter d brackets inBracket cs).map fun (text, rest) => (kept ++ text, rest)
  | c :: cs =>
    if c = d ∧ ¬ inBracket then some ([], cs)
    else
      let next := if !brackets then false
        else if inBracket then c != ']' else c == '['
      (untilDelimiter d brackets next cs).map fun (text, rest) => (c :: text, rest)

def withControls : List Char → List Char
  | '\\' :: 't' :: cs => '\t' :: withControls cs
  | '\\' :: 'f' :: cs => '\x0c' :: withControls cs
  | '\\' :: 'v' :: cs => '\x0b' :: withControls cs
  | '\\' :: 'a' :: cs => '\x07' :: withControls cs
  | '\\' :: 'r' :: cs => '\x0d' :: withControls cs
  | '\\' :: c :: cs => '\\' :: c :: withControls cs
  | c :: cs => c :: withControls cs
  | [] => []

def sedPattern (extended : Bool) (s : Search) (cs : List Char) : Except SedError (SedPattern × Nat) :=
  if cs.isEmpty then .ok (none, 9)
  else match Regex.read extended (withControls cs) with
  | .ok (r, n) => .ok (some (r, s), n)
  | .error e => .error (.regex e)

/-- The pieces of a replacement; `text` is what was read of a text, in reverse. -/
def sedPieces (text : List Char) : List Char → List SedPiece
  | [] => [.text text.reverse]
  | '&' :: cs => .text text.reverse :: .group 0 :: sedPieces [] cs
  | '\\' :: c :: cs =>
    if isDigit c then .text text.reverse :: .group (c.toNat - '0'.toNat) :: sedPieces [] cs
    else if ['L', 'U', 'l', 'u', 'E'].contains c then
      .text text.reverse :: .case c :: sedPieces [] cs
    else
      let d := match c with
        | 'n' => '\n'
        | 't' => '\t'
        | 'r' => '\x0d'
        | 'f' => '\x0c'
        | 'v' => '\x0b'
        | 'a' => '\x07'
        | _ => c
      sedPieces (d :: text) cs
  | c :: cs => sedPieces (c :: text) cs

def sedBlanks : SedReader Unit := modify fun cs => cs.dropWhile fun c => c == ' ' || c == '\t'

def sedNumber : SedReader (Option Nat) := do
  let cs ← get
  let digits := cs.takeWhile isDigit
  set (cs.drop digits.length)
  return if digits.isEmpty then none else some (decimalValue digits)

def sedAddressFlags (s : Search) : List Char → Search × List Char
  | 'I' :: cs => sedAddressFlags { s with anyCase := true } cs
  | 'M' :: cs => sedAddressFlags { s with manyLines := true } cs
  | cs => (s, cs)

def sedAddressPattern (extended : Bool) (d : Char) : SedReader SedPattern := do
  match untilDelimiter d true false (← get) with
  | none => set ([] : List Char); throw .unterminatedAddress
  | some (text, rest) =>
    let (s, rest) := sedAddressFlags {} rest
    set rest
    match sedPattern extended s text with
    | .ok (p, _) => return p
    | .error e => throw e

def sedAddress (extended : Bool) : SedReader (Option SedAddress) := do
  match ← get with
  | '$' :: rest => set rest; return some .last
  | '/' :: rest => set rest; return some (.pattern (← sedAddressPattern extended '/'))
  | '\\' :: d :: rest => set rest; return some (.pattern (← sedAddressPattern extended d))
  | _ =>
    match ← sedNumber with
    | none => return none
    | some n =>
      match ← get with
      | '~' :: rest => set rest; return some (.every n ((← sedNumber).getD 0))
      | _ => return some (.line n)

def sedLines (extended : Bool) : SedReader SedLines := do
  match ← sedAddress extended with
  | none => return .all
  | some a =>
    sedBlanks
    match ← get with
    | ',' :: rest =>
      set (rest.dropWhile fun c => c == ' ' || c == '\t')
      let stop : SedEnd ← match ← get with
        | '+' :: rest => set rest; pure (.after ((← sedNumber).getD 0))
        | '~' :: rest => set rest; pure (.multiple ((← sedNumber).getD 0))
        | _ =>
          match ← sedAddress extended with
          | some (.line n) => pure (.line n)
          | some .last => pure .last
          | some (.pattern p) => pure (.pattern p)
          | some (.every n _) => pure (.line n)
          | none => throw (.unknownCommand ',')
      match a, stop with
      | .line 0, .pattern p => return .fromTop p
      | .line 0, _ => throw .zeroAddress
      | _, _ => return .range a stop
    | _ =>
      match a with
      | .line 0 => throw .zeroAddress
      | _ => return .at_ a

def sedName : SedReader String := do
  sedBlanks
  let cs ← get
  let name := cs.takeWhile fun c => c != '\n' && c != ';'
  set (cs.drop name.length)
  return String.ofList (name.reverse.dropWhile fun c => c == ' ' || c == '\t').reverse

def sedPath : SedReader String := do
  sedBlanks
  let cs ← get
  let path := cs.takeWhile (· != '\n')
  set (cs.drop path.length)
  if path.isEmpty then throw .missingFile else return String.ofList path

/-- The text of a line and of those that escaped line ends join to it. -/
def sedTextLines : List Char → List Char × List Char
  | [] => ([], [])
  | '\n' :: cs => ([], cs)
  | '\\' :: c :: cs =>
    let (text, rest) := sedTextLines cs
    (c :: text, rest)
  | c :: cs =>
    let (text, rest) := sedTextLines cs
    (c :: text, rest)

def sedText : SedReader (List Char) := do
  sedBlanks
  let cs ← get
  let body ← match cs with
    | [] => throw .expectedText
    | '\\' :: rest =>
      match rest.dropWhile fun c => c == ' ' || c == '\t' with
      | '\n' :: more => pure more
      | [] => throw .expectedText
      | _ => pure (rest.dropWhile fun c => c == ' ' || c == '\t')
    | _ => pure cs
  let (text, rest) := sedTextLines body
  set ('\n' :: rest)
  return text ++ ['\n']

def sedFlags (s : SedSubstitution) (search : Search) : Nat →
    SedReader (SedSubstitution × Search)
  | 0 => return (s, search)
  | fuel + 1 => do
    match ← get with
    | 'g' :: rest => set rest; sedFlags { s with everywhere := true } search fuel
    | 'p' :: rest => set rest; sedFlags { s with print := s.print + 1 } search fuel
    | 'i' :: rest | 'I' :: rest => set rest; sedFlags s { search with anyCase := true } fuel
    | 'm' :: rest | 'M' :: rest => set rest; sedFlags s { search with manyLines := true } fuel
    | 'e' :: rest => set rest; sedFlags s search fuel
    | 'w' :: rest =>
      set rest
      let path ← sedPath
      return ({ s with file := some path }, search)
    | c :: rest =>
      if isDigit c then
        let n ← sedNumber
        sedFlags { s with number := n.getD 1 } search fuel
      else if [' ', '\t', '\n', ';', '\x7d', '#'].contains c then return (s, search)
      else set rest; throw .unknownFlag
    | [] => return (s, search)

def sedTwoTexts (command : Char) : SedReader (List Char × List Char) := do
  match ← get with
  | [] => throw (.unterminated command)
  | d :: rest =>
    match untilDelimiter d (command = 's') false rest with
    | none => set ([] : List Char); throw (.unterminated command)
    | some (a, rest) =>
      match untilSlash d rest with
      | none => set ([] : List Char); throw (.unterminated command)
      | some (b, rest) => set rest; return (a, b)
where
  /-- The text up to a delimiter that is not escaped. -/
  untilSlash (d : Char) : List Char → Option (List Char × List Char)
    | [] => none
    | '\\' :: c :: cs =>
      (untilSlash d cs).map fun (text, rest) =>
        ((if c = d then [c] else ['\\', c]) ++ text, rest)
    | c :: cs =>
      if c = d then some ([], cs) else (untilSlash d cs).map fun (text, rest) => (c :: text, rest)

def sedPlain : List Char → List Char
  | '\\' :: 'n' :: cs => '\n' :: sedPlain cs
  | '\\' :: 't' :: cs => '\t' :: sedPlain cs
  | '\\' :: c :: cs => c :: sedPlain cs
  | c :: cs => c :: sedPlain cs
  | [] => []

def sedFinish : SedReader Unit := do
  sedBlanks
  match ← get with
  | [] => return
  | c :: rest =>
    if c = '\n' ∨ c = ';' then set rest
    else if c = '\x7d' ∨ c = '#' then return
    else set rest; throw .extraCharacters

def sedAction (extended : Bool) (lines : SedLines) : SedReader (SedAction × String) := do
  let none' : Bool := match lines with
    | .all => true
    | _ => false
  let single : Bool := match lines with
    | .range _ _ | .fromTop _ => false
    | _ => true
  match ← get with
  | [] => throw .missingCommand
  | c :: rest =>
    set rest
    match c with
    | '\x7b' => return (.openBlock 0, "")
    | '\x7d' =>
      if !none' then throw (.noAddresses "\x7d doesn't want") else sedFinish; return (.closeBlock, "")
    | ':' =>
      if !none' then throw (.noAddresses ": doesn't want")
      else
        let name ← sedName
        if name = "" then throw .noLabel else return (.label, name)
    | 's' =>
      let (a, b) ← sedTwoTexts 's'
      let pieces := sedPieces [] b
      let (s, search) ← sedFlags { pattern := none, pieces } {} 64
      match sedPattern extended search a with
      | .error e => throw e
      | .ok (p, groups) =>
        let wrong := pieces.findSome? fun
          | .group n => if groups < n then some n else none
          | _ => none
        match wrong with
        | some n => throw (.badReference n)
        | none => sedFinish; return (.substitute { s with pattern := p }, "")
    | 'y' =>
      let (a, b) ← sedTwoTexts 'y'
      let (source, target) := (sedPlain a, sedPlain b)
      if source.length ≠ target.length then throw .differentLengths
      else sedFinish; return (.translate source target, "")
    | 'b' | 't' | 'T' =>
      let name ← sedName
      sedFinish
      return (.jump c name, "")
    | 'r' | 'R' | 'w' | 'W' => return (.file c (← sedPath), "")
    | 'a' | 'i' | 'c' => return (.text c (← sedText), "")
    | 'q' | 'Q' =>
      if !single then throw .oneAddress
      else
        sedBlanks
        let status := (← sedNumber).getD 0
        sedFinish
        return (.quit (c = 'Q') status, "")
    | 'l' | 'L' =>
      sedBlanks
      let width := (← sedNumber).getD 70
      sedFinish
      return (.list width, "")
    | _ =>
      if ['=', 'd', 'D', 'g', 'G', 'h', 'H', 'n', 'N', 'p', 'P', 'x', 'z', 'F'].contains c then
        sedFinish
        return (.simple c, "")
      else if c = '#' then throw (.noAddresses "comments don't accept")
      else if c = '\n' ∨ c = ';' then throw .missingCommand
      else throw (.unknownCommand c)

/-! ## Scripts -/

/-- The commands of a script, in order; `fuel` bounds their number. -/
def sedCommands (extended : Bool) : Nat → SedReader (List SedCommand)
  | 0 => return []
  | fuel + 1 => do
    modify fun cs => cs.dropWhile fun c => [' ', '\t', '\n', ';'].contains c
    match ← get with
    | [] => return []
    | '#' :: rest => set (rest.dropWhile (· != '\n')); sedCommands extended fuel
    | _ =>
      let lines ← sedLines extended
      sedBlanks
      let inverted ← match ← get with
        | '!' :: rest => set (rest.dropWhile fun c => [' ', '\t', '!'].contains c); pure true
        | _ => pure false
      let (action, label) ← sedAction extended lines
      return { lines, inverted, action, label } :: (← sedCommands extended fuel)

/-- The commands with the ends of their blocks, from a number on, with the numbers of the blocks
that are open, the innermost first. -/
def sedBlocks (commands : List SedCommand) (opened : List Nat) :
    Nat → List SedCommand → Except SedError (List (Nat × Nat))
  | _, [] => if opened.isEmpty then .ok [] else .error .unmatchedOpen
  | n, c :: rest =>
    match c.action, opened with
    | .openBlock _, _ => sedBlocks commands (n :: opened) (n + 1) rest
    | .closeBlock, [] => .error .unexpectedClose
    | .closeBlock, start :: more => (sedBlocks commands more (n + 1) rest).map ((start, n) :: ·)
    | _, _ => sedBlocks commands opened (n + 1) rest

/-- Reads a script. An error comes with the number of characters that were read. -/
def readSed (extended : Bool) (script : List Char) :
    Except (SedError × Nat) (Array SedCommand) :=
  match (sedCommands extended (script.length + 1)).run script with
  | .error e => .error (e, errorPlace e)
  | .ok (commands, _) =>
    match sedBlocks commands [] 0 commands with
    | .error e => .error (e, if e = .unmatchedOpen then 0 else script.length)
    | .ok ends =>
      let closed := (List.range commands.length).zip commands |>.map fun (n, c) =>
        match ends.lookup n with
        | some stop => { c with action := .openBlock stop }
        | none => c
      let missing := closed.findSome? fun c =>
        match c.action with
        | .jump _ name =>
          if name = "" ∨ closed.any (fun d => d.label = name) then none else some name
        | _ => none
      match missing with
      | some name => .error (.unknownLabel name, 0)
      | none => .ok closed.toArray
where
  /-- How much of the script has to be read for an error to show. -/
  errorPlace (e : SedError) : Nat :=
    let shows (n : Nat) : Bool :=
      match (sedCommands extended (n + 1)).run (script.take n) with
      | .error f => f = e
      | .ok _ => false
    match e with
    | .unterminated _ | .unterminatedAddress | .regex _ | .expectedText => script.length
    | _ => ((List.range (script.length + 1)).find? shows).getD script.length

end Lettermill.Shell.Utility
