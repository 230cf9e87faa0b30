import Lettermill.Html.Construction
/-! Formatting elements: bold text, links and their like. Closing something around them does not end
their effect: they are opened anew where text goes on. An end tag out of turn is mended by moving
the blocks inside out of the formatting element and repeating it within them. -/
namespace Lettermill.Html
set_option autoImplicit false

namespace Construction

def isFormatting (s : Construction) (id : PartId) : Bool :=
  s.formatting.any fun
    | .element own _ => own = id
    | .marker => false

end Construction

def Formatting.isFor (id : PartId) : Formatting → Bool
  | .element own _ => own = id
  | .marker => false

namespace Build
open Construction

def forgetFormatting (id : PartId) : Build Unit :=
  modify fun s => { s with formatting := s.formatting.eraseP (Formatting.isFor id) }

def markFormatting : Build Unit :=
  modify fun s => { s with formatting := .marker :: s.formatting }

/-- Forgets the formatting elements behind the last marker, and the marker. -/
def clearFormatting : Build Unit :=
  modify fun s =>
    { s with formatting := (s.formatting.dropWhile fun
        | .marker => false
        | .element _ _ => true).drop 1 }

/-- Splits off the latest entries that are neither markers nor open. -/
def closedEntries (s : Construction) : List Formatting → List (PartId × Tag) × List Formatting
  | .element id tag :: rest =>
    if s.stack.contains id then ([], .element id tag :: rest)
    else let (closed, older) := closedEntries s rest; ((id, tag) :: closed, older)
  | entries => ([], entries)

/-- Opens elements anew, oldest first, each replacing its entry. -/
def reopen : List (PartId × Tag) → Build Unit
  | [] => pure ()
  | (_, tag) :: rest => do
    let id ← insertNamed { name := tag.name } tag.attrs true
    modify fun s => { s with formatting := .element id tag :: s.formatting }
    reopen rest

def reopenFormatting : Build Unit := do
  let s ← get
  let (closed, older) := closedEntries s s.formatting
  set { s with formatting := older }
  reopen closed.reverse

/-- Are two tags alike, the order of their attributes aside? -/
def alike (a b : Tag) : Bool :=
  a.name = b.name && a.attrs.length = b.attrs.length && a.attrs.all b.attrs.contains

/-- Puts a formatting element in place; of four alike, the oldest is forgotten. -/
def insertFormatting (tag : Tag) : Build Unit := do
  let same := (← get).recentFormatting.filter fun entry => alike tag entry.2
  if 3 ≤ same.length then
    match same.getLast? with
    | some (id, _) => forgetFormatting id
    | none => pure ()
  let id ← insert tag
  modify fun s => { s with formatting := .element id tag :: s.formatting }

/-- Ends an element that needs no rule of its own: everything inside the innermost element of this
name is closed with it, but not across a special element. -/
def endAny (name : String) : Build Unit :=
  modify fun s =>
    let inside := s.stack.takeWhile fun id =>
      !s.isHtml name id && !ElementSet.special (s.draft.nameOf id)
    match s.stack.drop inside.length with
    | id :: rest => if s.isHtml name id then { s with stack := rest } else s
    | [] => s

/-! ## End tags out of turn -/

def replaceEntry (old : PartId) (entry : Formatting) (entries : List Formatting) :
    List Formatting :=
  entries.map fun e => if e.isFor old then entry else e

/-- The elements between a formatting element and a block inside it, repeated one inside the other,
from the block outwards: those that are formatting elements and among the first three are repeated,
all others are closed. Gives the elements that stay open, the outermost element built so far, and
the first repeated element, if there is one. -/
def repeatBetween (block : PartId) :
    Nat → PartId → Option PartId → List PartId → Build (List PartId × PartId × Option PartId)
  | _, last, first, [] => return ([], last, first)
  | count, last, first, id :: rest => do
    let s ← get
    let entry := s.formatting.find? (Formatting.isFor id)
    match entry with
    | some (.element _ tag) =>
      if count < 3 then
        let copy ← makeElement { name := tag.name } tag.attrs
        modify fun s =>
          { s with formatting := replaceEntry id (.element copy tag) s.formatting }
        onDraft fun d => (d.detach last).append copy last
        let first := if last = block then some copy else first
        let (kept, outer, first) ← repeatBetween block (count + 1) copy first rest
        return (copy :: kept, outer, first)
      else
        forgetFormatting id
        repeatBetween block (count + 1) last first rest
    | _ => repeatBetween block (count + 1) last first rest

/-- Mends one formatting element that has a block inside it. `inner` are the open elements inside
the block, `between` those between the two, and `outer` those around the formatting element. -/
def mend (id : PartId) (tag : Tag) (inner between outer : List PartId) (block : PartId) :
    Build Unit := do
  let (kept, last, first) ← repeatBetween block 0 block none between
  onDraft fun d => d.detach last
  placePart (outer.headD Draft.document) last
  let copy ← makeElement { name := tag.name } tag.attrs
  onDraft fun d => (d.moveChildren block copy).append block copy
  let entry := Formatting.element copy tag
  modify fun s =>
    let formatting := match first with
      | none => replaceEntry id entry s.formatting
      | some after =>
        (s.formatting.flatMap fun e => if e.isFor after then [entry, e] else [e]).eraseP
          (Formatting.isFor id)
    { s with formatting, stack := inner ++ copy :: block :: kept ++ outer }

/-- Deals with one formatting element that an end tag names. Says whether to look for another. -/
def mendOnce (name : String) : Build Bool := do
  let s ← get
  match s.recentFormatting.find? fun entry => entry.2.name = name with
  | none => endAny name; return false
  | some (id, tag) =>
    if !s.stack.contains id then
      forgetFormatting id
      return false
    else if !s.inScopeWhere ElementSet.scope (· = id) then return false
    else
      let inside := s.stack.takeWhile (· != id)
      let outer := s.stack.drop (inside.length + 1)
      match inside.reverse.find? fun part => ElementSet.special (s.draft.nameOf part) with
      | none =>
        set { s with stack := outer }
        forgetFormatting id
        return false
      | some block =>
        let inner := inside.takeWhile (· != block)
        mend id tag inner (inside.drop (inner.length + 1)) outer block
        return true

def mendUpTo (name : String) : Nat → Build Unit
  | 0 => pure ()
  | n + 1 => do
    if ← mendOnce name then mendUpTo name n

def endFormatting (name : String) : Build Unit := do
  let s ← get
  -- One end tag mends eight formatting elements at most.
  if s.currentIs name && !s.isFormatting s.current then pop else mendUpTo name 8

def endOpenLink : Build Unit := do
  match (← get).recentFormatting.find? fun entry => entry.2.name = "a" with
  | none => pure ()
  | some (id, _) =>
    endFormatting "a"
    forgetFormatting id
    removeOpen id

end Build

end Lettermill.Html
