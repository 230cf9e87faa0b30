import Lettermill.Shell.Pattern
import Lettermill.Shell.Print
import Lettermill.Shell.Utility.Options
/-! Programs that work on the characters and fields of lines: they replace, delete, select, join and
fold them. -/
namespace Lettermill.Shell.Utility
set_option autoImplicit false
open Text

/-! ## Characters for characters -/

inductive Member where
  | one (c : Char)
  | range (low high : Char)
  | named (name : String)
  /-- A character so many times, or as often as needed. -/
  | repeated (c : Char) (count : Nat)

/-- The character at the front of a set, with escapes undone, and what follows. -/
def setChar (cs : List Char) : Option (Char × List Char) :=
  match cs with
  | [] => none
  | '\\' :: rest =>
    match escape? rest, rest with
    | some (d, after), c :: _ => if c = 'e' then some ('e', rest.drop 1) else some (d, after)
    | some (d, after), [] => some (d, after)
    | none, d :: after => some (d, after)
    | none, [] => some ('\\', [])
  | c :: rest => some (c, rest)

/-- The members of a set; `fuel` bounds their number. -/
def members : Nat → List Char → List Member
  | 0, _ => []
  | _, [] => []
  | fuel + 1, cs =>
    let named := match cs with
      | '[' :: ':' :: rest =>
        let name := rest.takeWhile isLetter
        match rest.drop name.length with
        | ':' :: ']' :: rest => some (Member.named (String.ofList name), rest)
        | _ => none
      | '[' :: '=' :: c :: '=' :: ']' :: rest => some (Member.one c, rest)
      | '[' :: c :: '*' :: rest =>
        let digits := rest.takeWhile isDigit
        match rest.drop digits.length with
        | ']' :: rest => some (Member.repeated c (Arithmetic.digitsValue
            (if digits.head? = some '0' then 8 else 10) digits), rest)
        | _ => none
      | _ => none
    match named, setChar cs with
    | some (m, rest), _ => m :: members fuel rest
    | none, none => []
    | none, some (c, '-' :: rest) =>
      match setChar rest with
      | some (d, after) => .range c d :: members fuel after
      | none => [.one c, .one '-']
    | none, some (c, rest) => .one c :: members fuel rest

def allChars : List Char := (List.range 256).map Char.ofNat

/-- The characters of members; what repeats as often as needed does so up to a length. -/
def expandMembers (length : Nat) : List Member → List Char
  | [] => []
  | m :: ms =>
    let rest := expandMembers length ms
    match m with
    | .one c => c :: rest
    | .range low high =>
      ((List.range (high.toNat + 1 - low.toNat)).map fun n => Char.ofNat (low.toNat + n)) ++ rest
    | .named name => allChars.filter (isInClass name) ++ rest
    | .repeated c 0 => List.replicate (length - rest.length) c ++ rest
    | .repeated c n => List.replicate n c ++ rest

def backwards? (ms : List Member) : Option (Char × Char) :=
  ms.findSome? fun
    | .range low high => if high < low then some (low, high) else none
    | _ => none

/-- Leaves one of several equal characters of a set in a row. -/
def squeeze (set : List Char) (last : Option Char) : List Char → List Char
  | [] => []
  | c :: cs =>
    if last = some c ∧ set.contains c then squeeze set last cs else c :: squeeze set (some c) cs

def translated (source target : List Char) (c : Char) : Char :=
  match (source.zip target).reverse.lookup c with
  | some d => d
  | none => c

def tr (c : Call) : Effect :=
  let o : OptionSet :=
    { letters := "cCdst", inOrder := true
      names := [("complement", 'c'), ("delete", 'd'), ("squeeze-repeats", 's'),
        ("truncate-set1", 't')] }
  c.withOptions o 1 fun g =>
    let complement := g.has 'c' || g.has 'C'
    let delete := g.has 'd'
    let squeezing := g.has 's'
    let set (text : String) : List Member := members (text.length + 1) text.toList
    let firstSet (text : String) : List Char :=
      let cs := expandMembers 0 (set text)
      if complement then allChars.filter fun d => !cs.contains d else cs
    let wrong := g.operands.findSome? fun text => backwards? (set text)
    match wrong, g.operands with
    | some (low, high), _ =>
      let shown (d : Char) : String := String.ofList [d]
      c.complaint ("range-endpoints of '" ++ shown low ++ "-" ++ shown high
        ++ "' are in reverse collating sequence order") 1
    | none, [] => c.tryHelp "missing operand" 1
    | none, [a] =>
      let source := firstSet a
      if delete && !squeezing then
        (Effect.out (c.input.filter fun d => !source.contains d)).consuming
      else if squeezing && !delete then (Effect.out (squeeze source none c.input)).consuming
      else
        let hint := if delete then
            "Two strings must be given when both deleting and squeezing repeats."
          else "Two strings must be given when translating."
        ((c.complaint ("missing operand after '" ++ a ++ "'") 1).andThen
          (Effect.err hint 1)).andThen
            (Effect.err ("Try '" ++ c.name ++ " --help' for more information.") 1)
    | none, [a, b] =>
      let source := firstSet a
      if delete && !squeezing then
        ((c.complaint ("extra operand '" ++ b ++ "'") 1).andThen
          (Effect.err "Only one string may be given when deleting without squeezing repeats."
            1)).andThen (Effect.err ("Try '" ++ c.name ++ " --help' for more information.") 1)
      else
        let target := expandMembers source.length (set b)
        if delete then
          (Effect.out (squeeze target none (c.input.filter fun d => !source.contains d))).consuming
        else match target.getLast? with
        | none => c.complaint "when not truncating set1, string2 must be non-empty" 1
        | some last =>
          let padded := if g.has 't' then target
            else target ++ List.replicate (source.length - target.length) last
          let text := c.input.map (translated source padded)
          (Effect.out (if squeezing then squeeze target none text else text)).consuming
    | none, _ :: _ :: extra :: _ => c.tryHelp ("extra operand '" ++ extra ++ "'") 1

/-! ## Selected fields -/

/-- A range of places, counted from one; it may have no end. -/
structure PlaceRange where
  first : Nat
  last : Option Nat
  deriving DecidableEq

def inRanges (ranges : List PlaceRange) (n : Nat) : Bool :=
  ranges.any fun r => r.first ≤ n && (match r.last with
    | some last => n ≤ last
    | none => true)

def placeRange? (cs : List Char) : Option PlaceRange :=
  match cutOnce? '-' cs with
  | none => (natural? (String.ofList cs)).map fun n => ⟨n, some n⟩
  | some ([], []) => none
  | some ([], last) => (natural? (String.ofList last)).map fun n => ⟨1, some n⟩
  | some (first, []) => (natural? (String.ofList first)).map fun n => ⟨n, none⟩
  | some (first, last) => do
    some ⟨← natural? (String.ofList first), some (← natural? (String.ofList last))⟩

def placeRanges? (s : String) : Option (List PlaceRange) :=
  let pieces := (s.toList.map fun c => if c = ' ' then ',' else c)
  (cutAt ',' pieces).mapM placeRange?

def select {α : Type} (keep : Nat → Bool) (xs : List α) : List α :=
  ((List.range xs.length).zip xs).filterMap fun (n, x) => if keep (n + 1) then some x else none

def cut (c : Call) : Effect :=
  let o : OptionSet :=
    { letters := "b:c:d:f:nsz"
      names := [("bytes=", 'b'), ("characters=", 'c'), ("delimiter=", 'd'), ("fields=", 'f'),
        ("only-delimited", 's'), ("complement", 'C'), ("output-delimiter=", 'O')] }
  c.withOptions o 1 fun g =>
    match g.lastOf? ['b', 'c', 'f'] with
    | none => c.tryHelp "you must specify a list of bytes, characters, or fields" 1
    | some kind =>
      let list := (g.value? kind).getD ""
      match placeRanges? list with
      | none =>
        if kind = 'f' then c.tryHelp ("invalid field value '" ++ list ++ "'") 1
        else c.tryHelp ("invalid byte/character position '" ++ list ++ "'") 1
      | some ranges =>
        let keep (n : Nat) : Bool := inRanges ranges n != g.has 'C'
        let delimiter := ((g.value? 'd').getD "\t").toList.headD '\x00'
        let joint := ((g.value? 'O').getD (if kind = 'f' then String.ofList [delimiter] else "")).toList
        if ranges.any fun r => r.first = 0 then
          c.tryHelp (if kind = 'f' then "fields are numbered from 1"
            else "byte/character positions are numbered from 1") 1
        else if 1 < ((g.value? 'd').getD "").length then
          c.tryHelp "the delimiter must be a single character" 1
        else if kind ≠ 'f' ∧ g.has 'd' then
          c.tryHelp "an input delimiter may be specified only when operating on fields" 1
        else
          let line (l : List Char) : List (List Char) :=
            if kind ≠ 'f' then [select keep l]
            else
              let fields := cutAt delimiter l
              if fields.length = 1 then if g.has 's' then [] else [l]
              else [joint.intercalate (select keep fields)]
          c.filterEach g.operands fun text => unlines ((linesOf text).flatMap line)

/-! ## Lines side by side -/

def alternate (delimiters : List Char) : List (List Char) → List Char
  | [] => []
  | [x] => x
  | x :: y :: rest =>
    match delimiters with
    | [] => x ++ alternate [] (y :: rest)
    | d :: ds => x ++ (if d = '\x00' then [] else [d]) ++ alternate (ds ++ [d]) (y :: rest)

/-- Puts lines side by side, or the lines of each text one after the other. -/
def paste (c : Call) : Effect :=
  let o : OptionSet :=
    { letters := "d:sz", names := [("delimiters=", 'd'), ("serial", 's')] }
  c.withOptions o 1 fun g =>
    let source := (g.value? 'd').getD "\t"
    let delimiters := (unescaped (source.length + 1) source.toList).1
    let paths := if g.operands.isEmpty then ["-"] else g.operands
    let inputs := (paths.filter c.isInput).length
    let share := linesOf c.input
    let columns := (List.range paths.length).map fun n =>
      let path := paths.getD n "-"
      if c.isInput path && !g.has 's' then
        let order := ((paths.take n).filter c.isInput).length
        Except.ok (select (fun k => (k - 1) % inputs = order) share)
      else (c.readAt paths n).map linesOf
    match (paths.zip columns).find? fun entry => !entry.2.isOk with
    | some (path, .error why) => c.complaint (path ++ ": " ++ why.words) 1
    | _ =>
      let columns := columns.map fun column => (column.toOption).getD []
      let rows := if g.has 's' then columns
        else (List.range ((columns.map List.length).foldl max 0)).map fun n =>
          columns.map fun column => column.getD n []
      { Effect.out (unlines (rows.map (alternate delimiters))) with left := c.leftAfter paths }

/-! ## Lines folded and widened -/

/-- Cuts a line so that no piece is wider than the width; blanks may be where it is cut. -/
def foldLine (width : Nat) (atBlanks : Bool) : Nat → List Char → List (List Char)
  | 0, line => [line]
  | fuel + 1, line =>
    if line.length ≤ width then [line]
    else
      let piece := line.take width
      let cut := if atBlanks then
          let behind := piece.reverse.takeWhile (· != ' ')
          if behind.length = width then width else width - behind.length
        else width
      line.take cut :: foldLine width atBlanks fuel (line.drop cut)

def fold (c : Call) : Effect :=
  let o : OptionSet :=
    { letters := "bsw:", names := [("bytes", 'b'), ("spaces", 's'), ("width=", 'w')] }
  let args := match c.args with
    | first :: rest =>
      match first.toList with
      | '-' :: d :: ds => if isDigit d then "-w" :: String.ofList (d :: ds) :: rest else c.args
      | _ => c.args
    | [] => []
  { c with args }.withOptions o 1 fun g =>
    let width := ((g.value? 'w').bind natural?).getD (if g.has 'w' then 0 else 80)
    if width = 0 then
      c.complaint ("invalid number of columns: '" ++ (g.value? 'w').getD "" ++ "'") 1
    else
      c.filterEach g.operands fun text =>
        joinLines (endsLine text) ((linesOf text).flatMap fun (line : List Char) =>
          foldLine width (g.has 's') (line.length + 1) line)

def expandTabs (stop column : Nat) : List Char → List Char
  | [] => []
  | c :: cs =>
    if c = '\t' then
      let size := stop - column % stop
      List.replicate size ' ' ++ expandTabs stop (column + size) cs
    else if c = '\n' then c :: expandTabs stop 0 cs
    else c :: expandTabs stop (column + 1) cs

def expand (c : Call) : Effect :=
  c.withOptions { letters := "it:", names := [("initial", 'i'), ("tabs=", 't')] } 1 fun g =>
    let stop := max 1 (((g.value? 't').bind natural?).getD 8)
    c.filterEach g.operands (expandTabs stop 0)

end Lettermill.Shell.Utility
