import Lettermill.Text.Letters
/-! Dates and times: a date, a time of day or both, and an offset for both together. Reading checks
the calendar; writing gives the one form that all spellings of a moment share. -/
namespace Lettermill.Toml
set_option autoImplicit false
open Text

structure Date where
  year : Nat
  month : Nat
  day : Nat
  deriving DecidableEq, Repr

structure Clock where
  hour : Nat
  minute : Nat
  second : Nat
  nanosecond : Nat := 0
  deriving DecidableEq, Repr

inductive Offset where
  | universal
  | minutes (n : Int)
  deriving DecidableEq, Repr

inductive Moment where
  | date (d : Date) (offset : Option Offset)
  | clock (t : Clock)
  | both (d : Date) (t : Clock) (offset : Option Offset)
  deriving DecidableEq, Repr

/-! ## The calendar -/

def daysIn (year month : Nat) : Nat :=
  if month = 2 then
    if year % 4 = 0 ∧ (year % 100 ≠ 0 ∨ year % 400 = 0) then 29 else 28
  else if [4, 6, 9, 11].contains month then 30
  else 31

def Date.valid (d : Date) : Bool :=
  1 ≤ d.month && d.month ≤ 12 && 1 ≤ d.day && d.day ≤ daysIn d.year d.month

/-! ## Reading -/

def number (digits : List Char) : Nat :=
  digits.foldl (fun n c => n * 10 + (c.toNat - '0'.toNat)) 0

/-- The number in the first `count` characters, which are digits, and what follows. -/
def field? (count : Nat) (cs : List Char) : Option (Nat × List Char) :=
  let digits := cs.take count
  if digits.length = count ∧ digits.all isDigit then some (number digits, cs.drop count) else none

def date? (cs : List Char) : Option (Date × List Char) := do
  let (year, cs) ← field? 4 cs
  let cs ← after? ['-'] cs
  let (month, cs) ← field? 2 cs
  let cs ← after? ['-'] cs
  let (day, cs) ← field? 2 cs
  if (Date.mk year month day).valid then some (⟨year, month, day⟩, cs) else none

/-- Nanoseconds from the digits behind the point, of which nine count. -/
def nanoseconds (digits : List Char) : Nat :=
  let kept := digits.take 9
  number (kept ++ List.replicate (9 - kept.length) '0')

def clock? (lastHour : Nat) (cs : List Char) : Option (Clock × List Char) := do
  let (hour, cs) ← field? 2 cs
  let cs ← after? [':'] cs
  let (minute, cs) ← field? 2 cs
  let cs ← after? [':'] cs
  let (second, cs) ← field? 2 cs
  let (nanosecond, cs) ← match cs with
    | '.' :: rest =>
      match rest.takeWhile isDigit with
      | [] => none
      | digits => some (nanoseconds digits, rest.drop digits.length)
    | _ => some (0, cs)
  if hour ≤ lastHour ∧ minute ≤ 59 ∧ second ≤ 60 then
    some (⟨hour, minute, second, nanosecond⟩, cs)
  else none

/-- An offset that makes up the whole text, with hours and minutes that are `accepted`. -/
def offset? (accepted : Nat → Nat → Bool) : List Char → Option Offset
  | ['Z'] | ['z'] => some .universal
  | sign :: cs => do
    let (hour, cs) ← field? 2 cs
    let cs ← after? [':'] cs
    let (minute, cs) ← field? 2 cs
    let n : Int := hour * 60 + minute
    if ¬ cs.isEmpty ∨ ¬ accepted hour minute then none
    else if sign = '+' then some (.minutes n)
    else if sign = '-' then some (.minutes (-n))
    else none
  | [] => none

def withinDay (hour minute : Nat) : Bool := hour ≤ 23 && minute ≤ 59

/-- A clock, with an offset if there is more, that makes up the whole text. -/
def Date.with? (d : Date) (cs : List Char) : Option Moment := do
  let (t, rest) ← clock? 23 cs
  match rest with
  | [] => some (.both d t none)
  | _ => (offset? withinDay rest).map fun offset => .both d t (some offset)

def Moment.read? (cs : List Char) : Option Moment :=
  match date? cs with
  | some (d, []) => some (.date d none)
  | some (d, c :: rest) => if ['T', 't', ' '].contains c then d.with? rest else none
  | none =>
    match clock? 23 cs with
    | some (t, []) => some (.clock t)
    | _ => none

/-! ## Reading with more leave

A moment that comes as a text may also be at the end of its day, name a date with an offset but
without a time, and have any offset of up to a day. -/

def upToDay (hour minute : Nat) : Bool := hour * 60 + minute ≤ 24 * 60

/-- The offset that makes up the whole text, if it is not empty. -/
def looseOffset? : List Char → Option (Option Offset)
  | [] => some none
  | cs => (offset? upToDay cs).map some

/-- A moment that makes up the whole text, read with more leave. -/
def Moment.readLoose? (cs : List Char) : Option Moment :=
  if cs[2]? = some ':' then
    match clock? 24 cs with
    | some (t, []) => some (.clock t)
    | _ => none
  else do
    let (d, cs) ← date? cs
    match cs with
    | 'T' :: rest | 't' :: rest | ' ' :: rest =>
      let (t, rest) ← clock? 24 rest
      return .both d t (← looseOffset? rest)
    | _ => return .date d (← looseOffset? cs)

/-! ## Writing -/

def padded (width n : Nat) : String :=
  let digits := Nat.toDigits 10 n
  String.ofList (List.replicate (width - digits.length) '0' ++ digits)

def Date.text (d : Date) : String :=
  padded 4 d.year ++ "-" ++ padded 2 d.month ++ "-" ++ padded 2 d.day

/-- The text of a time of day: the fraction of the second without needless zeros. -/
def Clock.text (t : Clock) : String :=
  let fraction := (padded 9 t.nanosecond).toList.reverse.dropWhile (· == '0')
  padded 2 t.hour ++ ":" ++ padded 2 t.minute ++ ":" ++ padded 2 t.second
    ++ if fraction.isEmpty then "" else String.ofList ('.' :: fraction.reverse)

def Offset.text : Offset → String
  | .universal => "Z"
  | .minutes n =>
    (if n < 0 then "-" else "+") ++ padded 2 (n.natAbs / 60) ++ ":" ++ padded 2 (n.natAbs % 60)

def Moment.text : Moment → String
  | .date d offset => d.text ++ ((offset.map Offset.text).getD "")
  | .clock t => t.text
  | .both d t offset => d.text ++ "T" ++ t.text ++ ((offset.map Offset.text).getD "")

end Lettermill.Toml
