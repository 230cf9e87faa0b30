import Lettermill.Shell.Utility.Copy
import Lettermill.Shell.Utility.Plain
/-! Programs that show bytes as text: as numbers in rows, or in an alphabet of sixty-four letters;
and the one that copies blocks of them. -/
namespace Lettermill.Shell.Utility
set_option autoImplicit false
open Text

/-! ## Rows of numbers -/

structure DumpType where
  kind : Char
  /-- How many bytes make a number. -/
  size : Nat
  deriving DecidableEq

namespace DumpType

def width (t : DumpType) : Nat :=
  match t.kind, t.size with
  | 'x', n => 2 * n
  | 'o', n => (8 * n + 2) / 3
  | 'u', 1 => 3
  | 'u', 2 => 5
  | 'u', 4 => 10
  | 'u', _ => 20
  | 'd', 1 => 4
  | 'd', 2 => 6
  | 'd', 4 => 11
  | 'd', _ => 20
  | _, _ => 3

def charText (c : Char) : List Char :=
  match c with
  | '\x00' => ['\\', '0']
  | '\x07' => ['\\', 'a']
  | '\x08' => ['\\', 'b']
  | '\x0c' => ['\\', 'f']
  | '\n' => ['\\', 'n']
  | '\x0d' => ['\\', 'r']
  | '\t' => ['\\', 't']
  | '\x0b' => ['\\', 'v']
  | c =>
    if ' ' ≤ c ∧ c ≤ '~' then [c]
    else
      let digits := Nat.toDigits 8 c.toNat
      List.replicate (3 - digits.length) '0' ++ digits

def charNames : List String := ["nul", "soh", "stx", "etx", "eot", "enq", "ack", "bel", "bs", "ht",
  "nl", "vt", "ff", "cr", "so", "si", "dle", "dc1", "dc2", "dc3", "dc4", "nak", "syn", "etb", "can",
  "em", "sub", "esc", "fs", "gs", "rs", "us", "sp"]

def fixedDigits (base width n : Nat) : List Char :=
  let digits := Nat.toDigits base n
  List.replicate (width - digits.length) '0' ++ digits

/-- The text of one number, from its bytes, the lowest first. -/
def cell (t : DumpType) (bs : List Char) : List Char :=
  let n := bs.reverse.foldl (fun n b => n * 256 + b.toNat) 0
  match t.kind with
  | 'x' => fixedDigits 16 t.width n
  | 'o' => fixedDigits 8 t.width n
  | 'u' => digitsText n
  | 'd' =>
    if n < Nat.pow 2 (8 * t.size - 1) then digitsText n
    else '-' :: digitsText (Nat.pow 2 (8 * t.size) - n)
  | 'a' =>
    let n := n % 128
    if n = 127 then "del".toList
    else match charNames[n]? with
      | some name => name.toList
      | none => [Char.ofNat n]
  | _ => charText (bs.headD '\x00')

def ofText? (text : String) : Option (List DumpType) := read (text.length + 1) text.toList
where
  /-- Reads one type after the other. -/
  read : Nat → List Char → Option (List DumpType)
    | 0, _ => some []
    | _, [] => some []
    | fuel + 1, k :: rest =>
      if k = 'a' ∨ k = 'c' then (read fuel rest).map (⟨k, 1⟩ :: ·)
      else if ['d', 'o', 'u', 'x'].contains k then
        let (size, rest) : Nat × List Char := match rest with
          | 'C' :: rest => (1, rest)
          | 'S' :: rest => (2, rest)
          | 'I' :: rest => (4, rest)
          | 'L' :: rest => (8, rest)
          | '1' :: rest => (1, rest)
          | '2' :: rest => (2, rest)
          | '4' :: rest => (4, rest)
          | '8' :: rest => (8, rest)
          | _ => (4, rest)
        (read fuel rest).map (⟨k, size⟩ :: ·)
      else none

end DumpType

def chunks {α : Type} (size : Nat) : Nat → List α → List (List α)
  | 0, _ => []
  | _, [] => []
  | fuel + 1, xs => xs.take size :: chunks size fuel (xs.drop size)

def dumpRow (types : List DumpType) (address : List Char) (row : List Char) : List Char :=
  let perBlock := (types.map fun t => (t.width + 1) * (8 / t.size)).foldl max 0
  let line (t : DumpType) : List Char :=
    let cells := (chunks t.size (row.length + 1) row).map fun bs =>
      padLeft (perBlock / (8 / t.size))
        (t.cell (bs ++ List.replicate (t.size - bs.length) '\x00'))
    cells.flatten
  let lines := types.map line
  let blanks := List.replicate address.length ' '
  match lines with
  | [] => []
  | first :: rest => address ++ first ++ '\n' :: rest.flatMap fun l => blanks ++ l ++ ['\n']

def od (c : Call) : Effect :=
  let o : OptionSet :=
    { letters := "A:abcdfij:lN:oS:st:vw:x"
      names := [("address-radix=", 'A'), ("skip-bytes=", 'j'), ("read-bytes=", 'N'),
        ("format=", 't'), ("output-duplicates", 'v'), ("width=", 'w')] }
  c.withOptions o 1 fun g =>
    let typesOf (option : Char × String) : Option (List DumpType) :=
      match option.1 with
      | 'a' => some [⟨'a', 1⟩]
      | 'b' => some [⟨'o', 1⟩]
      | 'c' => some [⟨'c', 1⟩]
      | 'd' => some [⟨'u', 2⟩]
      | 'i' => some [⟨'d', 4⟩]
      | 'l' => some [⟨'d', 8⟩]
      | 'o' => some [⟨'o', 2⟩]
      | 's' => some [⟨'d', 2⟩]
      | 'x' => some [⟨'x', 2⟩]
      | 't' => DumpType.ofText? option.2
      | _ => some []
    match g.options.find? fun option => (typesOf option).isNone with
    | some bad => c.complaint ("invalid type string " ++ inQuotes bad.2) 1
    | none =>
      let types := (g.options.filterMap typesOf).flatten
      let types := if types.isEmpty then [⟨'o', 2⟩] else types
      let width := match (g.value? 'w').bind natural? with
        | some (n + 1) => n + 1
        | _ => 16
      let (text, e) := c.gather g.operands 1
      let start := ((g.value? 'j').bind fun v => count? v.toList).getD 0
      let text := text.drop start
      let text := match (g.value? 'N').bind fun v => count? v.toList with
        | some n => text.take n
        | none => text
      let address (n : Nat) : List Char :=
        match (g.value? 'A').getD "o" with
        | "n" => []
        | "d" => DumpType.fixedDigits 10 7 n
        | "x" => DumpType.fixedDigits 16 6 n
        | _ => DumpType.fixedDigits 8 7 n
      let rows := chunks width (text.length + 1) text
      let (shown, _, _, _) := rows.foldl (fun (done, before, starred, n) row =>
        if before = some row && !g.has 'v' && row.length = width then
          ((if starred then done else done ++ ['*', '\n']), before, true, n + row.length)
        else (done ++ dumpRow types (address n) row, some row, false, n + row.length))
        (([] : List Char), (none : Option (List Char)), false, start)
      let final := address (start + text.length)
      e.andThen (Effect.out (shown ++ if final.isEmpty then [] else final ++ ['\n']))

/-! ## Sixty-four letters -/

def base64Letters : List Char :=
  "ABCDEFGHIJKLMNOPQRSTUVWXYZabcdefghijklmnopqrstuvwxyz0123456789+/".toList

def base64Group (bs : List Char) : List Char :=
  let n := (bs ++ List.replicate (3 - bs.length) '\x00').foldl (fun n b => n * 256 + b.toNat) 0
  let letter (shift : Nat) : Char := base64Letters.getD (n / Nat.pow 64 shift % 64) 'A'
  ([letter 3, letter 2, letter 1, letter 0].take (bs.length + 1))
    ++ List.replicate (3 - bs.length) '='

def base64Encode (cs : List Char) : List Char := (chunks 3 (cs.length + 1) cs).flatMap base64Group

/-- The bytes of up to four letters, unless they are not letters. -/
def base64Bytes? (ls : List Char) : Option (List Char) :=
  let letters := ls.takeWhile (· != '=')
  let values := letters.filterMap fun l => base64Letters.findIdx? (· == l)
  if values.length ≠ letters.length ∨ letters.length < 2 ∨ ls.length ≠ 4
      ∨ !(ls.drop letters.length).all (· == '=') then none
  else
    let n := (values ++ List.replicate (4 - values.length) 0).foldl (fun n v => n * 64 + v) 0
    some (([n / 65536, n / 256 % 256, n % 256].map Char.ofNat).take (letters.length - 1))

def base64 (c : Call) : Effect :=
  let o : OptionSet :=
    { letters := "diw:"
      names := [("decode", 'd'), ("ignore-garbage", 'i'), ("wrap=", 'w')] }
  c.withOptions o 1 fun g =>
    match g.operands with
    | _ :: extra :: _ => c.tryHelp ("extra operand " ++ inQuotes extra) 1
    | _ =>
      let (text, e) := c.gather g.operands 1
      if e.status ≠ 0 then e
      else if g.has 'd' then
        let letters := text.filter fun l =>
          if g.has 'i' then base64Letters.contains l || l == '=' else l != '\n'
        let groups := chunks 4 (letters.length + 1) letters
        let good := groups.takeWhile fun group => (base64Bytes? group).isSome
        let out := e.andThen (Effect.out (good.filterMap base64Bytes?).flatten)
        if good.length = groups.length then out else out.andThen (c.complaint "invalid input" 1)
      else
        let width := ((g.value? 'w').bind natural?).getD 76
        let letters := base64Encode text
        let lines := if width = 0 then letters
          else unlines (chunks width (letters.length + 1) letters)
        e.andThen (Effect.out lines)

/-! ## Blocks -/

def dd (c : Call) : Effect :=
  let pairs := c.args.map fun arg => cutOnce? '=' arg.toList
  let named := pairs.filterMap fun p => p.map fun (x, value) => (String.ofList x, String.ofList value)
  let known : List String := ["if", "of", "bs", "ibs", "obs", "count", "skip", "seek", "conv",
    "status", "iflag", "oflag", "cbs"]
  match c.withOptions { letters := "" } 1 (fun _ => {}),
      c.args.find? (fun arg => match cutOnce? '=' arg.toList with
        | some (x, _) => !known.contains (String.ofList x)
        | none => true) with
  | e, bad =>
    if e.status ≠ 0 then e
    else match bad with
    | some word => c.tryHelp ("unrecognized operand " ++ inQuotes word) 1
    | none =>
      let number (x : String) (usual : Nat) : Nat :=
        ((named.lookup x).bind fun v => count? v.toList).getD usual
      let size := max 1 (number "bs" (number "ibs" 512))
      let wanted := (named.lookup "count").map fun _ => number "count" 0
      let source := (named.lookup "if").getD "-"
      let endless := match c.machine.look (pathOf source) with
        | .ok (.device .zero) => true
        | _ => false
      let read := if endless then
          .ok (List.replicate ((wanted.getD 2048 + number "skip" 0) * size) '\x00')
        else c.read source
      match read with
      | .error why => c.complaint ("failed to open " ++ inQuotes source ++ ": " ++ why.words) 1
      | .ok text =>
        let skipped := text.drop (number "skip" 0 * size)
        let taken := match wanted with
          | some n => skipped.take (n * size)
          | none => skipped
        let left := if source = "-" then some (skipped.drop taken.length) else none
        let convert (cs : List Char) : List Char :=
          let names := (cutAt ',' ((named.lookup "conv").getD "").toList).map String.ofList
          if names.contains "ucase" then cs.map Char.toUpper
          else if names.contains "lcase" then cs.map lowerChar
          else cs
        let written := convert taken
        let full := taken.length / size
        let part := if taken.length % size = 0 then 0 else 1
        let count := toString full ++ "+" ++ toString part
        let report := if (named.lookup "status") = some "none" then ({} : Effect)
          else (Effect.err (count ++ " records in") 0).andThen
            (Effect.err (count ++ " records out") 0)
        match named.lookup "of" with
        | none => { (Effect.out written).andThen report with left }
        | some path =>
          match c.machine.target (pathOf path) with
          | .error why => c.complaint ("failed to open " ++ inQuotes path ++ ": " ++ why.words) 1
          | .ok (.inl (.channel 1)) => { (Effect.out written).andThen report with left }
          | .ok (.inl (.channel 2)) =>
            { ({ pieces := [(true, written)] } : Effect).andThen report with left }
          | .ok (.inl .full) =>
            { c.complaint ("error writing " ++ inQuotes path ++ ": "
              ++ FileError.noSpace.words) 1 with left }
          | .ok (.inl _) => { report with left }
          | .ok (.inr place) =>
            { report with left, machine := some (c.machine.put place (narrow written)) }

end Lettermill.Shell.Utility
