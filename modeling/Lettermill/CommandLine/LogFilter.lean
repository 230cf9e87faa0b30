import Lettermill.CommandLine.LogDirective
/-! Which log entries are shown. A filter is a list of directives between commas. Of the directives
that hold for an entry, the most specific one decides: it names more of the source of the entry, or
else more of its parts. A filter that cannot be read counts as none. -/
namespace Lettermill.CommandLine
set_option autoImplicit false
open Text

/-! ## Specific and less specific -/

def compareSizes (a b : Nat) : Ordering :=
  if a < b then .lt else if a = b then .eq else .gt

def compareTexts : List Char → List Char → Ordering
  | [], [] => .eq
  | [], _ :: _ => .lt
  | _ :: _, [] => .gt
  | a :: as, b :: bs => if a < b then .lt else if b < a then .gt else compareTexts as bs

def compareLists : List String → List String → Ordering
  | [], [] => .eq
  | [], _ :: _ => .lt
  | _ :: _, [] => .gt
  | a :: as, b :: bs => (compareTexts a.toList b.toList).then (compareLists as bs)

/-- The order of optional sources, of which none comes first. -/
def compareSources {α : Type} (compare : α → α → Ordering) : Option α → Option α → Ordering
  | none, none => .eq
  | none, some _ => .lt
  | some _, none => .gt
  | some a, some b => compare a b

def Directive.compare (a b : Directive) : Ordering :=
  (compareSources compareSizes (a.source.map String.utf8ByteSize)
      (b.source.map String.utf8ByteSize)).then
    ((compareSizes a.conditions.length b.conditions.length).then
      ((compareSources (fun s t : String => compareTexts s.toList t.toList) a.source b.source).then
        (compareLists (a.conditions.map Condition.name) (b.conditions.map Condition.name))))

/-! ## Filters -/

/-- A filter: its directives, the most specific ones first. -/
abbrev LogFilter := List Directive

namespace LogFilter

/-- Adds a directive. One that names the same source and parts gives way to it. -/
def add (d : Directive) : LogFilter → LogFilter
  | [] => [d]
  | e :: rest =>
    match d.compare e with
    | .gt => d :: e :: rest
    | .eq => d :: rest
    | .lt => e :: add d rest

/-- The filter of directives. Those that ask for a span of work, or for the value of a part, can
hold for nothing here; those that only ask for parts are added after all others. A filter without
directives shows errors. -/
def ofDirectives (ds : List Directive) : LogFilter :=
  if ds.isEmpty then [⟨none, none, [], .error⟩]
  else
    let (always, bound) := ds.partition fun d => d.span.isNone && d.conditions.isEmpty
    (always ++ bound.filter Directive.isTimeless).foldl (fun f d => f.add d) []

def read? (text : String) : Option LogFilter :=
  let pieces := (cutAt ',' text.toList).filter (!·.isEmpty)
  (pieces.mapM Directive.read?).map ofDirectives

def shows (f : LogFilter) (source : String) (parts : List String) (level : Level) : Bool :=
  match f.find? (·.holds source parts) with
  | some d => level.rank ≤ d.level.rank
  | none => false

/-- The filter that is in force: the one that was set, if it can be read. -/
def inForce (setting : Option String) (verbose : Bool) : LogFilter :=
  (setting.bind read?).getD [⟨none, none, [], if verbose then .debug else .warn⟩]

end LogFilter

/-! ## Entries -/

def warningSource : String := "html2mjml::converter"

def warningParts : List String := ["message"]

/-- The form of a character in the log: what could steer a terminal is spelled out. -/
def logForm (c : Char) : List Char :=
  if ['\x1b', '\x07', '\x08', '\x0c', '\x7f'].contains c then
    let digits := Nat.toDigits 16 c.toNat
    ['\\', 'x'] ++ List.replicate (2 - digits.length) '0' ++ digits
  else if '\x80' ≤ c ∧ c ≤ '\u009f' then
    ['\\', 'u', '\x7b'] ++ Nat.toDigits 16 c.toNat ++ ['\x7d']
  else [c]

def warningEntry (text : String) : String :=
  " WARN " ++ String.ofList (text.toList.flatMap logForm) ++ "\n"

end Lettermill.CommandLine
