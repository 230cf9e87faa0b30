import Lettermill.Shell.Pattern
/-! Regular expressions of programs that search text, in the basic and in the extended notation. Of
the matches that start first, the longest counts. A matcher keeps all ways to go on, at most one for
each place that it can reach. -/
namespace Lettermill.Shell.Utility
set_option autoImplicit false
open Text

inductive Regex where
  | nothing
  | any
  | one (negated : Bool) (sets : List CharSet)
  /-- The beginning of a line. -/
  | first
  /-- The end of a line. -/
  | last
  /-- A place beside which, of the characters before and behind, these belong to words. -/
  | border (accepted : List (Bool × Bool))
  | chain (a b : Regex)
  | either (a b : Regex)
  | repeated (a : Regex) (least : Nat) (most : Option Nat)
  | group (n : Nat) (a : Regex)
  /-- What a group matched before. -/
  | again (n : Nat)
  deriving Inhabited

/-! ## Matching -/

/-- A place in a text: the characters before it, the nearest first, and those behind it; and the
groups that were matched, with the characters before their beginnings and their texts. -/
structure Cursor where
  before : List Char
  after : List Char
  groups : List (Nat × List Char) := []

structure Search where
  /-- Do letters match themselves in any case? -/
  anyCase : Bool := false
  /-- Do lines end inside the text? -/
  manyLines : Bool := false

def isWordChar (c : Char) : Bool := isAlphanumeric c || c == '_'

def onePerPlace (seen : List Nat) : List Cursor → List Cursor
  | [] => []
  | k :: ks =>
    if seen.contains k.after.length then onePerPlace seen ks
    else k :: onePerPlace (k.after.length :: seen) ks

def Search.accepts (s : Search) (negated : Bool) (sets : List CharSet) (c : Char) : Bool :=
  let holds (d : Char) : Bool := sets.any (·.accepts d)
  (if s.anyCase then holds c || holds (lowerChar c) || holds c.toUpper else holds c) != negated

def Cursor.next (k : Cursor) (accept : Char → Bool) : List Cursor :=
  match k.after with
  | c :: rest => if accept c then [{ k with before := c :: k.before, after := rest }] else []
  | [] => []

/-- The cursors behind repetitions, the furthest first; `fuel` bounds their number. -/
def repetitions (step : Cursor → List Cursor) (least : Nat) (most : Option Nat) :
    Nat → Nat → List Cursor → List Cursor
  | 0, _, _ => []
  | fuel + 1, count, ks =>
    let here := if least ≤ count then ks else []
    let more : Bool := match most with
      | some n => count < n
      | none => true
    let next := if more then onePerPlace [] (ks.flatMap step) else []
    -- Past the least count, repetitions that read nothing lead nowhere new.
    let next := if least ≤ count then
        next.filter fun k => !(ks.any fun old => old.after.length == k.after.length)
      else next
    if next.isEmpty then here
    else repetitions step least most fuel (count + 1) next ++ here

def Regex.run (s : Search) : Regex → Cursor → List Cursor
  | .nothing, k => [k]
  | .any, k => k.next fun _ => true
  | .one negated sets, k => k.next (s.accepts negated sets)
  | .first, k =>
    let start := match k.before with
      | [] => true
      | c :: _ => s.manyLines && c == '\n'
    if start then [k] else []
  | .last, k =>
    let stop := match k.after with
      | [] => true
      | c :: _ => s.manyLines && c == '\n'
    if stop then [k] else []
  | .border accepted, k =>
    let side (cs : List Char) : Bool := (cs.head?.map isWordChar).getD false
    if accepted.contains (side k.before, side k.after) then [k] else []
  | .chain a b, k => onePerPlace [] ((a.run s k).flatMap (b.run s))
  | .either a b, k => onePerPlace [] (a.run s k ++ b.run s k)
  | .repeated a least most, k =>
    onePerPlace [] (repetitions (a.run s) least most (k.after.length + least + 2) 0 [k])
  | .group n a, k =>
    (a.run s k).map fun k' =>
      let text := k.after.take (k.after.length - k'.after.length)
      { k' with groups := (n, text) :: k'.groups.filter fun g => g.1 ≠ n }
  | .again n, k =>
    match k.groups.lookup n with
    | none => []
    | some text =>
      let front := k.after.take text.length
      if front = text ∨ (s.anyCase ∧ lowerChars front = lowerChars text) then
        [{ k with before := text.reverse ++ k.before, after := k.after.drop text.length }]
      else []

def longest? (ks : List Cursor) : Option Cursor :=
  ks.foldl (fun best k =>
    match best with
    | some b => if k.after.length < b.after.length then some k else best
    | none => some k) none

/-- A match: the text before it, which is reversed, its text and groups, and what follows. -/
structure Found where
  before : List Char
  text : List Char
  groups : List (Nat × List Char)
  after : List Char

def Regex.matchAt? (r : Regex) (s : Search) (accepted : Cursor → Cursor → Bool)
    (before after : List Char) : Option Found :=
  let start : Cursor := { before, after }
  (longest? ((r.run s start).filter (accepted start))).map fun k =>
    { before, text := after.take (after.length - k.after.length), groups := k.groups
      after := k.after }

def Regex.find? (r : Regex) (s : Search) (accepted : Cursor → Cursor → Bool)
    (before : List Char) : List Char → Option Found
  | [] => r.matchAt? s accepted before []
  | c :: cs =>
    match r.matchAt? s accepted before (c :: cs) with
    | some found => some found
    | none => r.find? s accepted (c :: before) cs

def Regex.occursIn (r : Regex) (s : Search) (cs : List Char) : Bool :=
  (r.find? s (fun _ _ => true) [] cs).isSome

/-! ## Notations -/

inductive RegexError where
  | unmatchedBracket
  | unmatchedOpening
  | unmatchedClosing
  | unmatchedBrace
  | badRange
  | badCount
  | nothingToRepeat
  | badReference
  | trailingBackslash
  | badClass
  deriving DecidableEq, Repr

def RegexError.message : RegexError → String
  | unmatchedBracket => "Unmatched [, [^, [:, [., or [="
  | unmatchedOpening => "Unmatched ( or \\("
  | unmatchedClosing => "Unmatched ) or \\)"
  | unmatchedBrace => "Unmatched \\\x7b"
  | badRange => "Invalid range end"
  | badCount => "Invalid content of \\\x7b\\\x7d"
  | nothingToRepeat => "Invalid preceding regular expression"
  | badReference => "Invalid back reference"
  | trailingBackslash => "Trailing backslash"
  | badClass => "Invalid character class name"

inductive RegexLexeme where
  | piece (r : Regex)
  | opening
  | closing
  | bar
  | times (least : Nat) (most : Option Nat)

def Regex.exactly (c : Char) : Regex := .one false [.range c c]

/-- The sets of a bracket, from behind its opening, and what follows it. -/
def bracketSets (first : Bool) : Nat → List Char → Except RegexError (List CharSet × List Char)
  | 0, _ => .error .unmatchedBracket
  | _, [] => .error .unmatchedBracket
  | fuel + 1, c :: rest =>
    let onward (set : CharSet) (rest : List Char) : Except RegexError (List CharSet × List Char) :=
      (bracketSets false fuel rest).map fun (sets, after) => (set :: sets, after)
    let single (d : Char) (rest : List Char) : Except RegexError (List CharSet × List Char) :=
      match rest with
      | '-' :: ']' :: _ => onward (.range d d) rest
      | '-' :: '[' :: '.' :: e :: '.' :: ']' :: rest =>
        if e < d then .error .badRange else onward (.range d e) rest
      | '-' :: e :: rest => if e < d then .error .badRange else onward (.range d e) rest
      | _ => onward (.range d d) rest
    match c, rest with
    | ']', _ => if first then single c rest else .ok ([], rest)
    | '[', ':' :: more =>
      let name := more.takeWhile isLetter
      match more.drop name.length with
      | ':' :: ']' :: after => onward (.named (String.ofList name)) after
      | _ => .error .unmatchedBracket
    | '[', '=' :: d :: '=' :: ']' :: after => onward (.range d d) after
    | '[', '.' :: d :: '.' :: ']' :: after => single d after
    | _, _ => single c rest

/-- A bracket, from behind its opening, and what follows it. -/
def bracket (cs : List Char) : Except RegexError (Regex × List Char) := do
  let (negated, inside) := match cs with
    | '^' :: rest => (true, rest)
    | _ => (false, cs)
  let (sets, rest) ← bracketSets true (inside.length + 1) inside
  return (.one negated sets, rest)

/-- The counts of a repetition, from behind the brace up to its end. -/
def counts? (stop cs : List Char) : Option (Nat × Option Nat × List Char) :=
  let low := cs.takeWhile isDigit
  let number (ds : List Char) : Nat := ds.foldl (fun n c => n * 10 + (c.toNat - '0'.toNat)) 0
  match cs.drop low.length with
  | ',' :: rest =>
    let high := rest.takeWhile isDigit
    (after? stop (rest.drop high.length)).map fun after =>
      (number low, if high.isEmpty then none else some (number high), after)
  | rest =>
    if low.isEmpty then none
    else (after? stop rest).map fun after => (number low, some (number low), after)

def escapedPiece? : Char → Option Regex
  | 'w' => some (.one false [.named "alnum", .range '_' '_'])
  | 'W' => some (.one true [.named "alnum", .range '_' '_'])
  | 's' => some (.one false [.named "space"])
  | 'S' => some (.one true [.named "space"])
  | 'b' => some (.border [(true, false), (false, true)])
  | 'B' => some (.border [(true, true), (false, false)])
  | '<' => some (.border [(false, true)])
  | '>' => some (.border [(true, false)])
  | '\x60' => some .first
  | '\'' => some .last
  | 'n' => some (.exactly '\n')
  | _ => none

/-- The lexemes of an expression; `opened` says that nothing can be repeated yet. -/
def regexLexemes (extended : Bool) (opened : Bool) :
    Nat → List Char → Except RegexError (List RegexLexeme)
  | 0, _ => .ok []
  | _, [] => .ok []
  | fuel + 1, c :: rest =>
    let onward (opened : Bool) (l : RegexLexeme) (rest : List Char) :
        Except RegexError (List RegexLexeme) :=
      (regexLexemes extended opened fuel rest).map (l :: ·)
    let plain (d : Char) (rest : List Char) : Except RegexError (List RegexLexeme) :=
      onward false (.piece (.exactly d)) rest
    let brace (stop rest : List Char) : Except RegexError (List RegexLexeme) :=
      match counts? stop rest with
      | some (least, most, after) => onward false (.times least most) after
      | none =>
        if extended then plain '\x7b' rest
        else if (before? stop rest).all fun p => p.2.isEmpty then .error .unmatchedBrace
        else .error .badCount
    match c, rest with
    | '[', _ => do
      let (r, after) ← bracket rest
      onward false (.piece r) after
    | '.', _ => onward false (.piece .any) rest
    | '*', _ => if opened then plain c rest else onward false (.times 0 none) rest
    | '\\', [] => .error .trailingBackslash
    | '\\', d :: after =>
      if isDigit d ∧ d ≠ '0' then
        onward false (.piece (.again (d.toNat - '0'.toNat))) after
      else match escapedPiece? d with
      | some r => onward false (.piece r) after
      | none =>
        if extended then plain d after
        else match d with
        | '(' => onward true .opening after
        | ')' => onward false .closing after
        | '|' => onward true .bar after
        | '\x7b' => if opened then plain d after else brace ['\\', '\x7d'] after
        | '+' => if opened then plain d after else onward false (.times 1 none) after
        | '?' => if opened then plain d after else onward false (.times 0 (some 1)) after
        | _ => plain d after
    | '^', _ =>
      if extended || opened then onward true (.piece .first) rest else plain c rest
    | '$', _ =>
      let atEnd := match rest with
        | [] | '\\' :: ')' :: _ | '\\' :: '|' :: _ => true
        | _ => extended
      if atEnd then onward false (.piece .last) rest else plain c rest
    | _, _ =>
      if extended then
        match c with
        | '(' => onward true .opening rest
        | ')' => onward false .closing rest
        | '|' => onward true .bar rest
        | '+' => if opened then plain c rest else onward false (.times 1 none) rest
        | '?' => if opened then plain c rest else onward false (.times 0 (some 1)) rest
        | '\x7b' => if opened then plain c rest else brace ['\x7d'] rest
        | _ => plain c rest
      else plain c rest

def withTimes (r : Regex) : List RegexLexeme → Regex × List RegexLexeme
  | .times least most :: rest => withTimes (.repeated r least most) rest
  | rest => (r, rest)

mutual

/-- Alternatives, up to a closing or the end; the number counts the groups. -/
def readEither (extended : Bool) : Nat → Nat → List RegexLexeme →
    Except RegexError (Regex × Nat × List RegexLexeme)
  | 0, n, ls => .ok (.nothing, n, ls)
  | fuel + 1, n, ls => do
    let (a, n, rest) ← readChain extended fuel n ls
    match rest with
    | .bar :: rest =>
      let (b, n, rest) ← readEither extended fuel n rest
      return (.either a b, n, rest)
    | _ => return (a, n, rest)

def readChain (extended : Bool) : Nat → Nat → List RegexLexeme →
    Except RegexError (Regex × Nat × List RegexLexeme)
  | 0, n, ls => .ok (.nothing, n, ls)
  | fuel + 1, n, ls =>
    match ls with
    | [] | .bar :: _ | .closing :: _ => .ok (.nothing, n, ls)
    | .times _ _ :: rest => readChain extended fuel n rest
    | .piece (.again k) :: rest =>
      if n < k then .error .badReference
      else do
        let (r, rest) := withTimes (.again k) rest
        let (more, n, rest) ← readChain extended fuel n rest
        return (.chain r more, n, rest)
    | .piece r :: rest => do
      let (r, rest) := withTimes r rest
      let (more, n, rest) ← readChain extended fuel n rest
      return (.chain r more, n, rest)
    | .opening :: rest => do
      let number := n + 1
      let (inside, n, rest) ← readEither extended fuel number rest
      match rest with
      | .closing :: rest =>
        let (r, rest) := withTimes (.group number inside) rest
        let (more, n, rest) ← readChain extended fuel n rest
        return (.chain r more, n, rest)
      | _ => .error .unmatchedOpening

end

/-- Lexemes in which a parenthesis that closes nothing stands for itself. -/
def withLoneClosings (depth : Nat) : List RegexLexeme → List RegexLexeme
  | [] => []
  | .opening :: ls => .opening :: withLoneClosings (depth + 1) ls
  | .closing :: ls =>
    (if depth = 0 then .piece (.exactly ')') else .closing) :: withLoneClosings (depth - 1) ls
  | l :: ls => l :: withLoneClosings depth ls

/-- The expression that lexemes make, and the number of its groups. -/
def Regex.ofLexemes (extended : Bool) (ls : List RegexLexeme) : Except RegexError (Regex × Nat) := do
  let (r, n, rest) ← readEither extended (4 * ls.length + 8) 0 ls
  match rest with
  | [] => return (r, n)
  | _ => .error .unmatchedClosing

/-- The expression that a text denotes, and the number of its groups. -/
def Regex.read (extended : Bool) (cs : List Char) : Except RegexError (Regex × Nat) := do
  Regex.ofLexemes extended (← regexLexemes extended true (cs.length + 1) cs)

/-- The expression that a text denotes where a parenthesis may close nothing. -/
def Regex.readLenient (extended : Bool) (cs : List Char) : Except RegexError (Regex × Nat) := do
  let ls ← regexLexemes extended true (cs.length + 1) cs
  Regex.ofLexemes extended (if extended then withLoneClosings 0 ls else ls)

end Lettermill.Shell.Utility
