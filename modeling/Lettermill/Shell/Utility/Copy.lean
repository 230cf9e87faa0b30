import Lettermill.Shell.Utility.Options
/-! Programs that copy what they read: all of it, its beginning or its end, in another order, with
numbers in front, or counted. -/
namespace Lettermill.Shell.Utility
set_option autoImplicit false
open Text

/-! ## Whole texts -/

structure CatStyle where
  numbers : Bool := false
  /-- Are only lines numbered that are not empty? -/
  skipEmpty : Bool := false
  squeeze : Bool := false
  ends : Bool := false
  tabs : Bool := false
  controls : Bool := false
  deriving DecidableEq

def visible (c : Char) : List Char :=
  let plain (c : Char) : List Char :=
    if c < ' ' then ['^', Char.ofNat (c.toNat + 64)]
    else if c = '\x7f' then ['^', '?']
    else [c]
  if c.toNat < 128 then plain c else 'M' :: '-' :: plain (Char.ofNat (c.toNat - 128))

def CatStyle.show (st : CatStyle) (line : List Char) : List Char :=
  (line.flatMap fun c =>
    if c = '\t' then if st.tabs then ['^', 'I'] else [c]
    else if st.controls then visible c
    else [c])

/-- Lines as `cat` shows them, from a number on, given whether the line before was empty. -/
def CatStyle.lines (st : CatStyle) (n : Nat) (afterEmpty : Bool) :
    List (List Char) → List (List Char)
  | [] => []
  | raw :: rest =>
    let ended := raw.getLast? = some '\n'
    let line := if ended then raw.dropLast else raw
    let isEmpty := line.isEmpty && ended
    if st.squeeze && isEmpty && afterEmpty then st.lines n true rest
    else
      let numbered := st.numbers && !(st.skipEmpty && isEmpty)
      let front := if numbered then padLeft 6 (digitsText n) ++ ['\t'] else []
      let back := if ended then (if st.ends then ['$', '\n'] else ['\n']) else []
      (front ++ st.show line ++ back)
        :: st.lines (if numbered then n + 1 else n) isEmpty rest

def cat (c : Call) : Effect :=
  let o : OptionSet :=
    { letters := "AbeEnstTuv"
      names := [("show-all", 'A'), ("number-nonblank", 'b'), ("show-ends", 'E'), ("number", 'n'),
        ("squeeze-blank", 's'), ("show-tabs", 'T'), ("show-nonprinting", 'v'), ("help", 'H'),
        ("version", 'V')] }
  c.withOptions o 1 fun g =>
    let st : CatStyle :=
      { numbers := g.has 'n' || g.has 'b', skipEmpty := g.has 'b', squeeze := g.has 's'
        ends := g.has 'E' || g.has 'A' || g.has 'e', tabs := g.has 'T' || g.has 'A' || g.has 't'
        controls := g.has 'v' || g.has 'A' || g.has 'e' || g.has 't' }
    if st = {} then c.filterEach g.operands id
    else c.filter g.operands fun text => (st.lines 1 false (rawLines text)).flatten

def tac (c : Call) : Effect :=
  c.withOptions { letters := "brs:", names := [("before", 'b'), ("regex", 'r'), ("separator=", 's')] }
    1 fun g => c.filterEach g.operands fun text => (rawLines text).reverse.flatten

def rev (c : Call) : Effect :=
  match ({ letters := "hV", names := [("help", 'h'), ("version", 'V')] : OptionSet }).read c.args with
  | .error e =>
    (c.complaint e.message 1).andThen (Effect.err "Try 'rev --help' for more information." 1)
  | .ok g =>
    let change (text : List Char) : List Char :=
      let bs := (decodeLossy (narrow text)).toList
      widen (bytesOf (String.ofList
        (joinLines (endsLine bs) ((linesOf bs).map List.reverse))))
    let each := (c.texts g.operands).map fun (path, found) =>
      match found with
      | .ok text => Effect.out (change text)
      | .error why => Effect.err ("rev: cannot open " ++ path ++ ": " ++ why.words) 1
    { Effect.all each with left := c.leftAfter g.operands }

def tee (c : Call) : Effect :=
  let o : OptionSet :=
    { letters := "aip", names := [("append", 'a'), ("ignore-interrupts", 'i')] }
  c.withOptions o 1 fun g =>
    let step (e : Effect) (path : String) : Effect :=
      let m := e.machine.getD c.machine
      match m.target (pathOf path) with
      | .error why => e.andThen (c.complaint (path ++ ": " ++ why.words) 1)
      | .ok (.inl .full) => e.andThen (c.complaint (path ++ ": " ++ FileError.noSpace.words) 1)
      | .ok (.inl (.channel 1)) => e.andThen (Effect.out c.input)
      | .ok (.inl (.channel 2)) => e.andThen { pieces := [(true, c.input)] }
      | .ok (.inl _) => e
      | .ok (.inr place) =>
        let before := match g.has 'a', m.occupant? place with
          | true, some (.file content) => content
          | _, _ => []
        { e with machine := some (m.put place (before ++ narrow c.input)) }
    (g.operands.foldl step (Effect.out c.input)).consuming

/-! ## Beginnings and ends -/

structure Extent where
  bytes : Bool := false
  count : Nat := 10
  /-- Is it counted from the other side? -/
  fromOther : Bool := false

def multiplier? : String → Option Nat
  | "" => some 1
  | "b" => some 512
  | "k" | "K" | "KiB" => some 1024
  | "kB" => some 1000
  | "m" | "M" | "MiB" => some 1048576
  | "MB" => some 1000000
  | "G" | "GiB" => some 1073741824
  | "GB" => some 1000000000
  | _ => none

def count? (cs : List Char) : Option Nat :=
  let digits := cs.takeWhile isDigit
  if digits.isEmpty then none
  else do
    let n ← natural? (String.ofList digits)
    let m ← multiplier? (String.ofList (cs.drop digits.length))
    some (n * m)

/-- The extent that an option asks for; `other` is the sign that counts from the other side. -/
def extent? (other : Char) (bytes : Bool) (value : String) : Option Extent :=
  match value.toList with
  | sign :: cs =>
    if sign = other then (count? cs).map fun count => { bytes, count, fromOther := true }
    else if sign = '-' ∨ sign = '+' then (count? cs).map fun count => { bytes, count }
    else (count? (sign :: cs)).map fun count => { bytes, count }
  | [] => none

def Extent.front (e : Extent) (text : List Char) : List Char :=
  if e.bytes then text.take (if e.fromOther then text.length - e.count else e.count)
  else
    let ls := rawLines text
    (ls.take (if e.fromOther then ls.length - e.count else e.count)).flatten

def Extent.back (e : Extent) (text : List Char) : List Char :=
  if e.bytes then text.drop (if e.fromOther then e.count - 1 else text.length - e.count)
  else
    let ls := rawLines text
    (ls.drop (if e.fromOther then e.count - 1 else ls.length - e.count)).flatten

/-- Arguments with a count that stands alone behind a dash put in the usual form. -/
def withOldCount (signs : List Char) (args : List String) : List String :=
  match args with
  | first :: rest =>
    match first.toList with
    | sign :: c :: cs =>
      if signs.contains sign && isDigit c then
        let digits := (c :: cs).takeWhile isDigit
        let letter := ((c :: cs).drop digits.length).headD 'l'
        let mark := if sign = '+' then ['+'] else []
        (if letter = 'c' then "-c" else "-n") :: String.ofList (mark ++ digits) :: rest
      else args
    | _ => args
  | [] => args

/-- Copies a part of each text, with titles when there are several. -/
def copyParts (c : Call) (g : Given) (verb : String) (part : List Char → List Char)
    (left : Option (List Char)) : Effect :=
  let titled := (g.has 'v' || 1 < g.operands.length) && g.lastOf? ['q', 'v'] ≠ some 'q'
  let title (path : String) (first : Bool) : List Char :=
    if titled then
      ((if first then "" else "\n") ++ "==> " ++ (if path = "-" then "standard input" else path)
        ++ " <==\n").toList
    else []
  let step (state : Effect × Bool) (entry : String × Except FileError (List Char)) :
      Effect × Bool :=
    match entry.2 with
    | .ok text => (state.1.andThen (Effect.out (title entry.1 state.2 ++ part text)), false)
    | .error .isFolder =>
      (state.1.andThen ((Effect.out (title entry.1 state.2)).andThen
        (c.complaint ("error reading '" ++ entry.1 ++ "': Is a directory") 1)), false)
    | .error why =>
      (state.1.andThen
        (c.complaint ("cannot open '" ++ entry.1 ++ "' for " ++ verb ++ ": " ++ why.words) 1),
        state.2)
  let (e, _) := (c.texts g.operands).foldl step ({}, true)
  { e with left }

def blockSize : Nat := 8192

def head (c : Call) : Effect :=
  let o : OptionSet :=
    { letters := "c:n:qvz"
      names := [("bytes=", 'c'), ("lines=", 'n'), ("quiet", 'q'), ("silent", 'q'),
        ("verbose", 'v'), ("zero-terminated", 'z')] }
  { c with args := withOldCount ['-'] c.args }.withOptions o 1 fun g =>
    let choice := g.lastOf? ['c', 'n']
    let bytes := choice = some 'c'
    let value := (choice.bind g.value?).getD "10"
    match extent? '-' bytes value with
    | none =>
      c.complaint ("invalid number of " ++ (if bytes then "bytes" else "lines") ++ ": '" ++ value
        ++ "'") 1
    | some e =>
      let left := (c.leftAfter g.operands).map fun _ =>
        if e.bytes && !e.fromOther then c.input.drop e.count
        else if e.fromOther then []
        else c.input.drop (blockSize * max 1 (((e.front c.input).length + blockSize - 1) / blockSize))
      copyParts { c with appetite := if e.bytes then e.count else c.appetite } g "reading" e.front left

def tail (c : Call) : Effect :=
  let o : OptionSet :=
    { letters := "c:n:fFqvzs:"
      names := [("bytes=", 'c'), ("lines=", 'n'), ("quiet", 'q'), ("silent", 'q'),
        ("verbose", 'v'), ("follow", 'f'), ("zero-terminated", 'z')] }
  { c with args := withOldCount ['-', '+'] c.args }.withOptions o 1 fun g =>
    let choice := g.lastOf? ['c', 'n']
    let bytes := choice = some 'c'
    let value := (choice.bind g.value?).getD "10"
    match extent? '+' bytes value with
    | none =>
      c.complaint ("invalid number of " ++ (if bytes then "bytes" else "lines") ++ ": '" ++ value
        ++ "'") 1
    | some e => copyParts c g "reading" e.back (c.leftAfter g.operands)

/-! ## Counts and numbers -/

def countWords : Bool → List Char → Nat
  | _, [] => 0
  | inWord, c :: cs =>
    let blank := c == ' ' || ('\t' ≤ c && c ≤ '\x0d')
    (if !blank && !inWord then 1 else 0) + countWords (!blank) cs

def longestLine (text : List Char) : Nat :=
  let width (line : List Char) : Nat :=
    line.foldl (fun n c => if c = '\t' then n / 8 * 8 + 8
      else if ' ' ≤ c ∧ c ≤ '~' then n + 1 else n) 0
  ((linesOf text).map width).foldl max 0

def wc (c : Call) : Effect :=
  let o : OptionSet :=
    { letters := "clLmw"
      names := [("bytes", 'c'), ("chars", 'm'), ("lines", 'l'), ("words", 'w'),
        ("max-line-length", 'L')] }
  c.withOptions o 1 fun g =>
    let wanted := ['l', 'w', 'm', 'c', 'L'].filter fun k =>
      g.has k || (g.options.isEmpty && ['l', 'w', 'c'].contains k)
    let count (text : List Char) (k : Char) : Nat :=
      match k with
      | 'l' => (text.filter (· == '\n')).length
      | 'w' => countWords false text
      | 'L' => longestLine text
      | _ => text.length
    let texts := c.texts g.operands
    let rows := texts.map fun (path, found) =>
      (path, found.map fun text => wanted.map (count text))
    let total := rows.foldl (fun sums (_, row) =>
      match row with
      | .ok ns => sums.zipWith (· + ·) ns
      | .error _ => sums) (wanted.map fun _ => 0)
    let sizes := texts.foldl (fun n (_, found) =>
      match found with
      | .ok text => n + text.length
      | .error _ => n) 0
    let width := if wanted.length = 1 ∧ rows.length = 1 then 1
      else if g.operands.isEmpty || g.operands.any c.isInput then 7
      else (digitsText sizes).length
    let line (ns : List Nat) (title : String) : List Char :=
      [' '].intercalate (ns.map fun n => padLeft width (digitsText n))
        ++ (if title = "" then [] else ' ' :: title.toList) ++ ['\n']
    let each := rows.map fun (path, row) =>
      match row with
      | .ok ns => Effect.out (line ns (if g.operands.isEmpty then "" else path))
      | .error .isFolder =>
        (c.complaint (path ++ ": Is a directory") 1).andThen
          (Effect.out (line (wanted.map fun _ => 0) path))
      | .error why => c.complaint (path ++ ": " ++ why.words) 1
    let sums := if 1 < rows.length then Effect.out (line total "total") else {}
    { (Effect.all each).andThen sums with left := c.leftAfter g.operands }

def nl (c : Call) : Effect :=
  let o : OptionSet := { letters := "b:d:f:h:i:l:n:ps:v:w:" }
  c.withOptions o 1 fun g =>
    let style := (g.value? 'b').getD "t"
    let width := ((g.value? 'w').bind natural?).getD 6
    let separator := ((g.value? 's').getD "\t").toList
    let increment := ((g.value? 'i').bind natural?).getD 1
    let number (n : Nat) : List Char :=
      match g.value? 'n' with
      | some "ln" => digitsText n ++ List.replicate (width - (digitsText n).length) ' '
      | some "rz" => List.replicate (width - (digitsText n).length) '0' ++ digitsText n
      | _ => padLeft width (digitsText n)
    match (g.value? 'i').map natural? with
    | some none =>
      c.complaint ("invalid line number increment: '" ++ (g.value? 'i').getD "" ++ "'") 1
    | _ =>
      c.filter g.operands fun text =>
        let (lines, _) := (linesOf text).foldl (fun (done, n) line =>
          if style = "a" ∨ (style = "t" ∧ line ≠ []) then
            (done ++ [number n ++ separator ++ line], n + increment)
          else (done ++ [List.replicate (width + separator.length) ' ' ++ line], n))
          ([], ((g.value? 'v').bind natural?).getD 1)
        unlines lines

end Lettermill.Shell.Utility
