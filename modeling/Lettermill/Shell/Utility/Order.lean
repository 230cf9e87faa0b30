import Lettermill.Shell.Print
import Lettermill.Shell.Utility.Options
/-! Programs that put lines in order, and those that work on lines in order. Lines are compared by
keys, in the order in which these were asked for, and last of all as a whole. -/
namespace Lettermill.Shell.Utility
set_option autoImplicit false
open Text

/-! ## Comparing -/

def compareChars : List Char → List Char → Ordering
  | [], [] => .eq
  | [], _ :: _ => .lt
  | _ :: _, [] => .gt
  | a :: as, b :: bs => if a < b then .lt else if b < a then .gt else compareChars as bs

def compareInts (a b : Int) : Ordering := if a < b then .lt else if a = b then .eq else .gt

/-- The number at the front of a text, as an integer over a power of ten. -/
def leadingNumber (cs : List Char) : Int × Nat :=
  let cs := cs.dropWhile fun c => c == ' ' || c == '\t'
  let (negative, cs) := match cs with
    | '-' :: rest => (true, rest)
    | _ => (false, cs)
  let whole := cs.takeWhile isDigit
  let fraction := match cs.drop whole.length with
    | '.' :: rest => rest.takeWhile isDigit
    | _ => []
  let n : Int := decimalValue (whole ++ fraction)
  (if negative then -n else n, fraction.length)

def compareNumbers (a b : List Char) : Ordering :=
  let (m, i) := leadingNumber a
  let (n, j) := leadingNumber b
  compareInts (m * Int.pow 10 j) (n * Int.pow 10 i)

/-- The order of two numbers of double precision, of which undefined ones come first. -/
def compareDoubles (a b : Option Double) : Ordering :=
  let key : Option Double → Int × Int × Nat
    | none => (0, 0, 0)
    | some .undefined => (1, 0, 0)
    | some (.infinite true) => (2, 0, 0)
    | some (.finite true m e) =>
      let (num, den) := Double.overPower 2 m 1 (-e)
      (3, -(num : Int), den)
    | some (.finite false m e) =>
      let (num, den) := Double.overPower 2 m 1 (-e)
      (3, num, den)
    | some (.infinite false) => (4, 0, 0)
  let (k, m, i) := key a
  let (l, n, j) := key b
  (compareInts k l).then (compareInts (m * j) (n * i))

def monthOf (cs : List Char) : Nat :=
  let name := lower (String.ofList ((cs.dropWhile fun c => c == ' ' || c == '\t').take 3))
  match ["jan", "feb", "mar", "apr", "may", "jun", "jul", "aug", "sep", "oct", "nov", "dec"].idxOf?
      name with
  | some n => n + 1
  | none => 0

/-- A number with a letter for its size behind it: the size of the letter, and the number. -/
def sizedNumber (cs : List Char) : Int × (Int × Nat) :=
  let body := cs.dropWhile fun c => c == ' ' || c == '\t'
  let (negative, digits) := match body with
    | '-' :: rest => (true, rest)
    | _ => (false, body)
  let rest := (digits.dropWhile fun c => isDigit c || c == '.')
  let rank : Int := match ['K', 'M', 'G', 'T', 'P', 'E', 'Z', 'Y'].idxOf? (rest.headD ' ') with
    | some n => n + 1
    | none => if rest.headD ' ' = 'k' then 1 else 0
  (if negative then -rank else rank, leadingNumber cs)

/-! ## Keys -/

structure Manner where
  blanks : Bool := false
  dictionary : Bool := false
  fold : Bool := false
  printable : Bool := false
  kind : Char := 't'
  reverse : Bool := false
  deriving DecidableEq

def Manner.add (m : Manner) (c : Char) : Manner :=
  match c with
  | 'b' => { m with blanks := true }
  | 'd' => { m with dictionary := true }
  | 'f' => { m with fold := true }
  | 'i' => { m with printable := true }
  | 'r' => { m with reverse := true }
  | 'n' | 'g' | 'h' | 'M' | 'V' => { m with kind := c }
  | _ => m

def Manner.compare (m : Manner) (a b : List Char) : Ordering :=
  let shape (cs : List Char) : List Char :=
    let cs := if m.blanks then cs.dropWhile fun c => c == ' ' || c == '\t' else cs
    let cs := if m.dictionary then cs.filter fun c => isAlphanumeric c || c == ' ' || c == '\t'
      else cs
    let cs := if m.printable then cs.filter fun c => ' ' ≤ c && c ≤ '~' else cs
    if m.fold then cs.map Char.toUpper else cs
  let order := match m.kind with
    | 'n' => compareNumbers a b
    | 'g' => compareDoubles ((doubleAtFront? a).map Prod.fst) ((doubleAtFront? b).map Prod.fst)
    | 'M' => compareInts (monthOf a) (monthOf b)
    | 'h' =>
      let (k, m, i) := sizedNumber a
      let (l, n, j) := sizedNumber b
      (compareInts k l).then (compareInts (m * Int.pow 10 j) (n * Int.pow 10 i))
    | _ => compareChars (shape a) (shape b)
  if m.reverse then order.swap else order

/-- A place in a line: a field and a character of it, counted from zero. -/
structure FieldPlace where
  field : Nat
  char : Nat
  skipBlanks : Bool := false

structure SortKey where
  first : FieldPlace := ⟨0, 0, false⟩
  /-- The last field, and how many of its characters; all of them when there is no number. -/
  last : Option (Nat × Option Nat) := none
  skipBlanksAtEnd : Bool := false
  manner : Option Manner := none

def fieldSpans (separator : Option Char) (line : List Char) : List (Nat × Nat) :=
  match separator with
  | some s =>
    ((cutAt s line).foldl (fun (done, at_) field =>
      (done ++ [(at_, at_ + field.length)], at_ + field.length + 1)) ([], 0)).1
  | none => go line.length 0 line
where
  /-- Fields that are blanks with what follows them. -/
  go : Nat → Nat → List Char → List (Nat × Nat)
    | 0, _, _ => []
    | fuel + 1, start, cs =>
      match cs with
      | [] => []
      | _ =>
        let blanks := cs.takeWhile fun c => c == ' ' || c == '\t'
        let word := (cs.drop blanks.length).takeWhile fun c => c != ' ' && c != '\t'
        let size := blanks.length + word.length
        (start, start + size) :: go fuel (start + size) (cs.drop size)

def SortKey.part (k : SortKey) (separator : Option Char) (blanks : Bool) (line : List Char) :
    List Char :=
  let spans := fieldSpans separator line
  let skip (n : Nat) : Nat := n + ((line.drop n).takeWhile fun c => c == ' ' || c == '\t').length
  let start := match spans[k.first.field]? with
    | some (a, _) => (if blanks || k.first.skipBlanks then skip a else a) + k.first.char
    | none => line.length
  let stop := match k.last with
    | none => line.length
    | some (field, chars) =>
      match spans[field]?, chars with
      | some (_, b), none => b
      | some (a, _), some n => min line.length ((if k.skipBlanksAtEnd then skip a else a) + n)
      | none, _ => line.length
  (line.take stop).drop start

/-- The place that a text denotes, with the letters behind it. -/
def fieldPlace? (cs : List Char) : Option (Nat × Option Nat × List Char) :=
  let field := cs.takeWhile isDigit
  let rest := cs.drop field.length
  let (char, rest) := match rest with
    | '.' :: more => (some (decimalValue (more.takeWhile isDigit)), more.dropWhile isDigit)
    | _ => (none, rest)
  if field.isEmpty || !rest.all isLetter then none
  else some (decimalValue field, char, rest)

def sortKey? (s : String) : Option SortKey := do
  let (front, back) := match cutOnce? ',' s.toList with
    | some (front, back) => (front, some back)
    | none => (s.toList, none)
  let (field, char, letters) ← fieldPlace? front
  if field = 0 then none
  else
    let (last, more) ← match back with
      | none => some (none, [])
      | some text => do
        let (field, char, letters) ← fieldPlace? text
        let chars := match char with
          | some 0 | none => none
          | some n => some n
        some (some (field - 1, chars), letters)
    let all := letters ++ more
    let manner := (all.filter (· != 'b')).foldl Manner.add {}
    some
      { first := ⟨field - 1, char.getD 1 - 1, letters.contains 'b'⟩, last
        skipBlanksAtEnd := more.contains 'b'
        manner := if all.isEmpty then none else some manner }

/-! ## Sorting -/

def sort (c : Call) : Effect :=
  let o : OptionSet :=
    { letters := "bcCdfghik:mMno:rRsS:t:T:uVz"
      names := [("ignore-leading-blanks", 'b'), ("check", 'c'), ("dictionary-order", 'd'),
        ("ignore-case", 'f'), ("general-numeric-sort", 'g'), ("human-numeric-sort", 'h'),
        ("key=", 'k'), ("merge", 'm'), ("month-sort", 'M'), ("numeric-sort", 'n'),
        ("output=", 'o'), ("reverse", 'r'), ("stable", 's'), ("field-separator=", 't'),
        ("unique", 'u'), ("version-sort", 'V')] }
  c.withOptions o 2 fun g =>
    let shared : Manner := g.options.foldl (fun m (k, _) => m.add k) {}
    let asked := (g.options.filter fun p => p.1 == 'k').map Prod.snd
    match asked.find? fun s => (sortKey? s).isNone with
    | some wrong =>
      c.complaint ("-: invalid field specification '" ++ wrong ++ "'") 2
    | none =>
      let keys := match asked.filterMap sortKey? with
        | [] => [({} : SortKey)]
        | ks => ks
      let separator := (g.value? 't').bind fun s => (if s = "\\0" then ['\x00'] else s.toList).head?
      let byKeys (a b : List Char) : Ordering :=
        keys.foldl (fun order k =>
          let m := k.manner.getD shared
          order.then (m.compare (k.part separator m.blanks a) (k.part separator m.blanks b))) .eq
      let whole (a b : List Char) : Ordering :=
        if g.has 's' || g.has 'u' then .eq
        else if shared.reverse then (compareChars a b).swap else compareChars a b
      let order (a b : List Char) : Ordering := (byKeys a b).then (whole a b)
      let (text, e) := c.gather g.operands 2
      let lines := linesOf text
      if g.has 'c' || g.has 'C' then
        let wrong := (List.range lines.length).find? fun n =>
          0 < n && (match order (lines.getD (n - 1) []) (lines.getD n []) with
            | .gt => true
            | .eq => g.has 'u'
            | .lt => false)
        match wrong with
        | none => e
        | some n =>
          let name := g.operands.headD "-"
          e.andThen (if g.has 'C' then { status := 1 }
            else c.complaint (name ++ ":" ++ toString (n + 1) ++ ": disorder: "
              ++ String.ofList (lines.getD n [])) 1)
      else
        let sorted := lines.mergeSort fun a b => order a b != .gt
        let result := if g.has 'u' then
            sorted.foldr (fun line rest =>
              match rest with
              | next :: more => if byKeys line next == .eq then line :: more else line :: rest
              | [] => [line]) []
          else sorted
        let out := unlines result
        if e.status ≠ 0 then e
        else match g.value? 'o' with
        | none => e.andThen (Effect.out out)
        | some path => { e with machine := some (c.machine.write (pathOf path) (narrow out)) }

/-! ## Lines in order -/

def skipFields : Nat → List Char → List Char
  | 0, cs => cs
  | n + 1, cs =>
    let blank (c : Char) : Bool := c == ' ' || c == '\t'
    skipFields n ((cs.dropWhile blank).dropWhile fun c => !blank c)

/-- Runs of equal lines: the first of each and how many there are. -/
def runs (same : List Char → List Char → Bool) :
    List (List Char) → List (List Char × List (List Char))
  | [] => []
  | l :: ls =>
    match runs same ls with
    | (first, more) :: rest =>
      if same l first then (l, first :: more) :: rest else (l, []) :: (first, more) :: rest
    | [] => [(l, [])]

def uniq (c : Call) : Effect :=
  let o : OptionSet :=
    { letters := "cdDf:is:uw:z"
      names := [("count", 'c'), ("repeated", 'd'), ("all-repeated", 'D'), ("skip-fields=", 'f'),
        ("ignore-case", 'i'), ("skip-chars=", 's'), ("unique", 'u'), ("check-chars=", 'w')] }
  c.withOptions o 1 fun g =>
    let number (k : Char) : Option Nat := (g.value? k).bind natural?
    match g.value? 's' with
    | some text =>
      if (natural? text).isNone then c.complaint (text ++ ": invalid number of bytes to skip") 1
      else act g number
    | none => act g number
where
  /-- Carries out the call. -/
  act (g : Given) (number : Char → Option Nat) : Effect :=
    let key (line : List Char) : List Char :=
      let cs := (skipFields ((number 'f').getD 0) line).drop ((number 's').getD 0)
      let cs := match number 'w' with
        | some n => cs.take n
        | none => cs
      if g.has 'i' then lowerChars cs else cs
    let shown (run : List Char × List (List Char)) : List (List Char) :=
      let count := run.2.length + 1
      if g.has 'D' then if 1 < count then run.1 :: run.2 else []
      else if (g.has 'd' && count = 1) || (g.has 'u' && 1 < count) then []
      else [if g.has 'c' then padLeft 7 (digitsText count) ++ ' ' :: run.1 else run.1]
    match g.operands with
    | _ :: _ :: extra :: _ => c.tryHelp ("extra operand '" ++ extra ++ "'") 1
    | [source, target] =>
      match c.read source with
      | .error why => c.complaint (source ++ ": " ++ why.words) 1
      | .ok text =>
        let out := unlines ((runs (fun a b => key a == key b) (linesOf text)).flatMap shown)
        { machine := some (c.machine.write (pathOf target) (narrow out)) }
    | paths =>
      c.filter paths fun text =>
        unlines ((runs (fun a b => key a == key b) (linesOf text)).flatMap shown)

/-- Lines of two texts in order, side by side: those of the first, of the second and of both. -/
def mergeLines : Nat → List (List Char) → List (List Char) → List (Nat × List Char)
  | 0, _, _ => []
  | _, [], bs => bs.map fun b => (1, b)
  | _, as, [] => as.map fun a => (0, a)
  | fuel + 1, a :: as, b :: bs =>
    match compareChars a b with
    | .lt => (0, a) :: mergeLines fuel as (b :: bs)
    | .gt => (1, b) :: mergeLines fuel (a :: as) bs
    | .eq => (2, a) :: mergeLines fuel as bs

def comm (c : Call) : Effect :=
  c.withOptions { letters := "123z" } 1 fun g =>
    match g.operands with
    | [] => c.tryHelp "missing operand" 1
    | [a] => c.tryHelp ("missing operand after '" ++ a ++ "'") 1
    | [a, b] =>
      match c.read a, c.read b with
      | .error why, _ => c.complaint (a ++ ": " ++ why.words) 1
      | _, .error why => c.complaint (b ++ ": " ++ why.words) 1
      | .ok x, .ok y =>
        let hidden (n : Nat) : Bool := g.has (Char.ofNat ('1'.toNat + n))
        let merged := mergeLines (x.length + y.length + 2) (linesOf x) (linesOf y)
        let lines := merged.filterMap fun (n, line) =>
          if hidden n then none
          else some (List.replicate (((List.range n).filter fun k => !hidden k).length) '\t' ++ line)
        { Effect.out (unlines lines) with left := c.leftAfter [a, b] }
    | _ :: _ :: extra :: _ => c.tryHelp ("extra operand '" ++ extra ++ "'") 1

end Lettermill.Shell.Utility
