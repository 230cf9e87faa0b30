import Lettermill.Shell.Utility.Options
import Lettermill.Shell.Utility.Regex
/-! Searching for lines that match. -/
namespace Lettermill.Shell.Utility
set_option autoImplicit false
open Text

structure Wanted where
  patterns : List Regex
  search : Search
  /-- Does a match have to be made of whole words? -/
  words : Bool
  /-- Does a match have to be a whole line? -/
  lines : Bool
  /-- Are the lines wanted that do not match? -/
  inverted : Bool

def Wanted.fits (w : Wanted) (k k' : Cursor) : Bool :=
  let outside (cs : List Char) : Bool := !(cs.head?.map isWordChar).getD false
  (!w.words || (outside k.before && outside k'.after))
    && (!w.lines || (k.before.isEmpty && k'.after.isEmpty))

/-- The first match in a line from a place on: the earliest, and of those the longest. -/
def Wanted.first? (w : Wanted) (before after : List Char) : Option Found :=
  (w.patterns.filterMap fun r => r.find? w.search w.fits before after).foldl (fun best found =>
    match best with
    | none => some found
    | some b =>
      if found.before.length < b.before.length
        ∨ (found.before.length = b.before.length ∧ b.text.length < found.text.length) then
        some found
      else best) none

def Wanted.selects (w : Wanted) (line : List Char) : Bool :=
  (w.first? [] line).isSome != w.inverted

def Wanted.parts (w : Wanted) : Nat → List Char → List Char → List (List Char)
  | 0, _, _ => []
  | fuel + 1, before, after =>
    match w.first? before after with
    | none => []
    | some found =>
      if found.text.isEmpty then
        match found.after with
        | [] => []
        | c :: rest => w.parts fuel (c :: found.before) rest
      else found.text :: w.parts fuel (found.text.reverse ++ found.before) found.after

structure GrepStyle where
  names : Bool
  numbers : Bool
  count : Bool
  partsOnly : Bool
  after : Nat
  before : Nat
  limit : Option Nat

/-- The lines of a text to show, with what stands in front of them: numbered from one, and marked
as wanted or as their surroundings. -/
def GrepStyle.rows (st : GrepStyle) (w : Wanted) (name : String) (lines : List (List Char)) :
    List (List Char) :=
  let numbered := (List.range lines.length).zip lines
  let hits := (numbered.filter fun (_, line) => w.selects line).map Prod.fst
  let hits := match st.limit with
    | some n => hits.take n
    | none => hits
  let front (mark : Char) (n : Nat) : List Char :=
    (if st.names then name.toList ++ [mark] else [])
      ++ (if st.numbers then digitsText (n + 1) ++ [mark] else [])
  if st.partsOnly then
    if w.inverted then []
    else hits.flatMap fun n =>
      let line := lines.getD n []
      (w.parts (line.length + 2) [] line).map fun part => front ':' n ++ part
  else
    let around := st.after != 0 || st.before != 0
    let close (n : Nat) : Bool := hits.any fun h => h ≤ n + st.before && n ≤ h + st.after
    let last := hits.getLast?.getD 0
    let shown := (List.range lines.length).filter fun n =>
      hits.contains n || (around && close n && (st.limit.isNone || n ≤ last + st.after))
    (shown.zip (none :: shown.map some)).flatMap fun (n, previous) =>
      let gap := match previous with
        | some p => around && p + 1 < n
        | none => false
      (if gap then [['-', '-']] else [])
        ++ [front (if hits.contains n then ':' else '-') n ++ lines.getD n []]

def grepPatterns (kind : Char) (text : String) : Except RegexError (List Regex) :=
  (cutAt '\n' text.toList).mapM fun line =>
    if kind = 'F' then .ok (line.foldr (fun c r => .chain (.exactly c) r) .nothing)
    else (Regex.readLenient (kind != 'G') line).map Prod.fst

/-- Searches texts for lines; the kind of the patterns may be given by the name of the program. -/
def grep (kind : Char) (c : Call) : Effect :=
  let o : OptionSet :=
    { letters := "A:aB:bC:cEe:Ff:GHhIiLlm:noPqRrsTUvwxyZz"
      names := [("after-context=", 'A'), ("before-context=", 'B'), ("context=", 'C'),
        ("count", 'c'), ("extended-regexp", 'E'), ("regexp=", 'e'), ("fixed-strings", 'F'),
        ("file=", 'f'), ("basic-regexp", 'G'), ("with-filename", 'H'), ("no-filename", 'h'),
        ("ignore-case", 'i'), ("files-without-match", 'L'), ("files-with-matches", 'l'),
        ("max-count=", 'm'), ("line-number", 'n'), ("only-matching", 'o'), ("perl-regexp", 'P'),
        ("quiet", 'q'), ("silent", 'q'), ("recursive", 'r'), ("no-messages", 's'), ("text", 'a'),
        ("invert-match", 'v'), ("word-regexp", 'w'), ("line-regexp", 'x'), ("color", 'K'),
        ("colour", 'K'), ("line-buffered", 'K')] }
  let usage := (Effect.err "Usage: grep [OPTION]... PATTERNS [FILE]..." 2).andThen
    (Effect.err "Try 'grep --help' for more information." 2)
  let args := c.args.flatMap fun arg =>
    match arg.toList with
    | '-' :: d :: ds => if isDigit d then ["-C", String.ofList (d :: ds)] else [arg]
    | _ => [arg]
  match o.read args with
  | .error e => (c.complaint e.message 2).andThen usage
  | .ok g =>
    let asked := (g.options.filter fun p => p.1 == 'e').map Prod.snd
      ++ ((g.value? 'f').map fun path =>
        String.ofList (['\n'].intercalate (linesOf ((c.read path).toOption.getD [])))).toList
    let (patterns, paths) := match asked, g.operands with
      | [], first :: rest => (some first, rest)
      | [], [] => (none, [])
      | all, rest => (some ("\n".intercalate all), rest)
    let kind := (g.lastOf? ['E', 'F', 'G', 'P']).getD kind
    match patterns with
    | none => usage
    | some source =>
      match grepPatterns kind source with
      | .error e => c.complaint e.message 2
      | .ok patterns =>
        let w : Wanted :=
          { patterns, search := { anyCase := g.has 'i' || g.has 'y' }, words := g.has 'w'
            lines := g.has 'x', inverted := g.has 'v' }
        let number (k : Char) : Option Nat := (g.value? k).bind natural?
        let st : GrepStyle :=
          { names := (1 < paths.length || g.has 'H') && g.lastOf? ['H', 'h'] ≠ some 'h'
            numbers := g.has 'n', count := g.has 'c', partsOnly := g.has 'o'
            after := ((number 'A').or (number 'C')).getD 0
            before := ((number 'B').or (number 'C')).getD 0, limit := number 'm' }
        let each := (c.texts paths).map fun (path, found) =>
          let name := if path = "-" then "(standard input)" else path
          match found with
          | .error why =>
            let line := if why = .isFolder then c.name ++ ": " ++ path ++ ": Is a directory"
              else c.name ++ ": " ++ path ++ ": " ++ why.words
            (if g.has 's' then { status := 2 } else Effect.err line 2, false)
          | .ok text =>
            let lines := linesOf text
            let hits := (lines.filter w.selects).length
            let hits := match st.limit with
              | some n => min n hits
              | none => hits
            let any := hits != 0
            let out := if g.has 'q' then []
              else if g.has 'l' then if any then [name.toList] else []
              else if g.has 'L' then if any then [] else [name.toList]
              else if st.count then
                [(if st.names then name.toList ++ [':'] else []) ++ digitsText hits]
              else st.rows w name lines
            (Effect.out (unlines out), any != g.has 'L')
        let e := Effect.all (each.map Prod.fst)
        let success := each.any Prod.snd
        let status := if g.has 'q' && success then 0
          else if e.status ≠ 0 then e.status
          else if success then 0 else 1
        { e with status, left := c.leftAfter paths }

end Lettermill.Shell.Utility
