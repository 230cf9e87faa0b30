import Lettermill.Text.Letters
/-! Patterns of the shell, which match whole texts: a star matches any text, a question mark any
character, and brackets one of some characters. Characters that were quoted only match themselves.
-/
namespace Lettermill.Shell
set_option autoImplicit false
open Text

/-- A text of which every character is marked as quoted or not. -/
abbrev Marked := List (Char × Bool)

def markAll (quoted : Bool) (cs : List Char) : Marked := cs.map fun c => (c, quoted)

def Marked.text (m : Marked) : List Char := m.map Prod.fst

inductive CharSet where
  | range (low high : Char)
  | named (name : String)
  deriving DecidableEq, Repr

def isInClass (name : String) (c : Char) : Bool :=
  let punctuation := '!' ≤ c && c ≤ '~' && !isAlphanumeric c
  match name with
  | "alpha" => isLetter c
  | "digit" => isDigit c
  | "alnum" => isAlphanumeric c
  | "upper" => 'A' ≤ c && c ≤ 'Z'
  | "lower" => 'a' ≤ c && c ≤ 'z'
  | "space" => c == ' ' || ('\t' ≤ c && c ≤ '\x0d')
  | "blank" => c == ' ' || c == '\t'
  | "punct" => punctuation
  | "print" => ' ' ≤ c && c ≤ '~'
  | "graph" => '!' ≤ c && c ≤ '~'
  | "cntrl" => c < ' ' || c == '\x7f'
  | "xdigit" => (hexValue? c).isSome
  | _ => false

def CharSet.accepts (c : Char) : CharSet → Bool
  | range low high => low ≤ c && c ≤ high
  | named name => isInClass name c

inductive PatternItem where
  | exactly (c : Char)
  | any
  | many
  | oneOf (negated : Bool) (sets : List CharSet)
  deriving DecidableEq, Repr

/-- A pattern: its items in order. -/
abbrev Pattern := List PatternItem

namespace Pattern

/-! ## Reading -/

/-- The name of a class, from behind its opening, and what follows it. -/
def className? (m : Marked) : Option (String × Marked) :=
  let name := m.takeWhile fun (c, _) => isLetter c
  match m.drop name.length with
  | (':', _) :: (']', _) :: rest => some (String.ofList (Marked.text name), rest)
  | _ => none

/-- The sets of a bracket and what follows it. None when the bracket is not closed. -/
def sets? (first : Bool) : Nat → Marked → Option (List CharSet × Marked)
  | 0, _ => none
  | _, [] => none
  | fuel + 1, (c, quoted) :: rest =>
    let onward (set : CharSet) (rest : Marked) : Option (List CharSet × Marked) :=
      (sets? false fuel rest).map fun (sets, after) => (set :: sets, after)
    if c = ']' ∧ ¬ quoted ∧ ¬ first then some ([], rest)
    else
      let class? := match c, quoted, rest with
        | '[', false, (':', _) :: more => className? more
        | _, _, _ => none
      match class?, c, quoted, rest with
      | some (name, after), _, _, _ => onward (.named name) after
      | none, '\\', false, (d, _) :: more => onward (.range d d) more
      | none, _, _, ('-', false) :: (d, dQuoted) :: more =>
        if d = ']' ∧ ¬ dQuoted then onward (.range c c) rest else onward (.range c d) more
      | none, _, _, _ => onward (.range c c) rest

/-- The pattern that a text denotes; `fuel` bounds its length. -/
def readFrom : Nat → Marked → Pattern
  | 0, _ => []
  | _, [] => []
  | fuel + 1, (c, quoted) :: rest =>
    if quoted then .exactly c :: readFrom fuel rest
    else match c, rest with
    | '*', _ => .many :: readFrom fuel rest
    | '?', _ => .any :: readFrom fuel rest
    | '\\', (d, _) :: more => .exactly d :: readFrom fuel more
    | '[', _ =>
      let (negated, inside) := match rest with
        | ('!', false) :: more => (true, more)
        | _ => (false, rest)
      match sets? true (inside.length + 1) inside with
      | some (sets, after) => .oneOf negated sets :: readFrom fuel after
      | none => .exactly c :: readFrom fuel rest
    | _, _ => .exactly c :: readFrom fuel rest

def ofMarked (m : Marked) : Pattern := readFrom (m.length + 1) m

def isOpen (p : Pattern) : Bool :=
  p.any fun
    | .exactly _ => false
    | _ => true

/-! ## Matching -/

/-- A text and what is left of it after any number of characters. -/
def endings : List Char → List (List Char)
  | [] => [[]]
  | c :: cs => (c :: cs) :: endings cs

def covers : Pattern → List Char → Bool
  | [], cs => cs.isEmpty
  | .many :: p, cs => (endings cs).any fun rest => covers p rest
  | .exactly d :: p, c :: cs => c == d && covers p cs
  | .any :: p, _ :: cs => covers p cs
  | .oneOf negated sets :: p, c :: cs => (sets.any (·.accepts c) != negated) && covers p cs
  | _ :: _, [] => false

/-- The text without the front that the pattern matches: the shortest one, or the longest. -/
def dropFront (p : Pattern) (most : Bool) (cs : List Char) : List Char :=
  let sizes := (List.range (cs.length + 1)).filter fun n => p.covers (cs.take n)
  match if most then sizes.getLast? else sizes.head? with
  | some n => cs.drop n
  | none => cs

/-- The text without the end that the pattern matches: the shortest one, or the longest. -/
def dropBack (p : Pattern) (most : Bool) (cs : List Char) : List Char :=
  let sizes := (List.range (cs.length + 1)).filter fun n => p.covers (cs.drop n)
  match if most then sizes.head? else sizes.getLast? with
  | some n => cs.take n
  | none => cs

end Pattern

end Lettermill.Shell
