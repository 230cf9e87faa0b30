import Lettermill.Shell.Arithmetic
import Lettermill.Shell.Pattern
import Lettermill.Shell.State
/-! What words stand for. Parameters, outputs and sums are filled in; then what was filled in
without quotes is cut into fields at separators; then fields that are patterns give way to the
paths that they match. Scripts inside words are run by a function that is handed in. -/
namespace Lettermill.Shell
set_option autoImplicit false
open Text

abbrev TextRunner := List Char → State → State

/-! ## Atoms -/

inductive Mark where
  | plain
  | quoted
  /-- Filled in without quotes. -/
  | filled
  deriving DecidableEq, Repr

inductive Atom where
  | char (c : Char) (mark : Mark)
  /-- Quotes, which make a field even when there is nothing between them. -/
  | quotes
  /-- The end of one argument and the beginning of the next. -/
  | gap
  deriving DecidableEq, Repr

def atoms (mark : Mark) (cs : List Char) : List Atom := cs.map fun c => .char c mark

def filledAtoms (quoted : Bool) (s : String) : List Atom :=
  atoms (if quoted then .quoted else .filled) s.toList

def argumentAtoms (quoted : Bool) (args : List String) : List Atom :=
  [Atom.gap].intercalate (args.map fun arg =>
    (if quoted then [.quotes] else []) ++ filledAtoms quoted arg)

/-- A word as one text, of which it is known what was quoted; gaps are filled. -/
def markedText (joint : String) (as : List Atom) : Marked :=
  as.flatMap fun
    | .char c mark => [(c, mark == .quoted)]
    | .quotes => []
    | .gap => markAll true joint.toList

def plainText (joint : String) (as : List Atom) : String :=
  String.ofList (Marked.text (markedText joint as))

/-! ## Fields -/

structure Cutting where
  /-- The fields so far, and the field at work, all in reverse. -/
  done : List Marked := []
  current : Marked := []
  begun : Bool := false
  /-- Was the last field ended by blanks alone? -/
  afterBlank : Bool := false

def Cutting.close (k : Cutting) (afterBlank : Bool) : Cutting :=
  { done := k.current.reverse :: k.done, afterBlank }

/-- Cuts at an atom. Blank separators end a field that has begun; of the others, each ends a field,
but for one behind blanks. -/
def Cutting.step (separators : List Char) (k : Cutting) (a : Atom) : Cutting :=
  match a with
  | .quotes => { k with begun := true }
  | .gap => if k.begun then k.close false else { k with afterBlank := false }
  | .char c mark =>
    if mark == .filled && separators.contains c then
      if c = ' ' ∨ c = '\t' ∨ c = '\n' then if k.begun then k.close true else k
      else if k.begun then k.close false
      else if k.afterBlank then { k with afterBlank := false }
      else k.close false
    else { k with current := (c, mark == .quoted) :: k.current, begun := true }

def cutFields (separators : List Char) (as : List Atom) : List Marked :=
  let k := as.foldl (Cutting.step separators) {}
  (if k.begun then k.close false else k).done.reverse

/-! ## Paths that match -/

def cutMarked : Marked → List Marked
  | [] => [[]]
  | (c, quoted) :: rest =>
    match c, cutMarked rest with
    | '/', parts => [] :: parts
    | _, [] => [[(c, quoted)]]
    | _, part :: parts => ((c, quoted) :: part) :: parts

/-- The names in a folder that a pattern matches, in order. Names with a dot in front only match
patterns with one. -/
def matchingNames (m : Machine) (front : String) (pattern : Marked) : List String :=
  let folder := if front = "" then "." else front
  match m.locate folder with
  | .ok (place, some .folder) =>
    let p := Pattern.ofMarked pattern
    let dotted := (pattern.head?.map Prod.fst) = some '.'
    let names := (m.names place).filter fun name =>
      p.covers (widen (bytesOf name)) && (dotted || name.toList.head? ≠ some '.')
    (names.map fun name => String.ofList (widen (bytesOf name))).mergeSort (· ≤ ·)
  | _ => []

/-- The paths that match the parts of a pattern, from a front on. -/
def matchingPaths (m : Machine) (front : String) : List Marked → List String
  | [] => [front]
  | part :: rest =>
    let last := rest.isEmpty
    let onward (name : String) : List String :=
      if last then [front ++ name] else matchingPaths m (front ++ name ++ "/") rest
    if (Pattern.ofMarked part).isOpen then (matchingNames m front part).flatMap onward
    else
      let name := String.ofList (Marked.text part)
      if last && name ≠ "" && !(m.look (front ++ name)).isOk then [] else onward name

/-- The field itself, or the paths that it matches as a pattern, if there are any. -/
def matchPaths (m : Machine) (field : Marked) : List String :=
  let paths := if (Pattern.ofMarked field).isOpen then matchingPaths m "" (cutMarked field) else []
  if paths.isEmpty then [String.ofList (Marked.text field)] else paths

/-! ## Filling in -/

namespace State

/-- The output of a script, run in a shell of its own, without the line ends at its end. -/
def output (s : State) (run : TextRunner) (source : List Char) (behind : Option Nat) :
    String × State :=
  let (n, s) := s.addStream []
  let lines := match behind with
    | some k => s.lines - k
    | none => lineEnds source
  let s := s.apart fun inner =>
    run source { inner.connect 1 (.stream n) with lines, guarded := false }
  let text := (s.unread (.stream n)).filter (· ≠ '\x00')
  let text := (text.reverse.dropWhile (· == '\n')).reverse
  (String.ofList text, { s with substituted := some s.status })

/-- The value of an arithmetic expression, whose assignments are carried out. -/
def arithmetic (s : State) (text : String) : String × State :=
  let value := (Arithmetic.read text.toList).bind fun e => e.value (fun x => (s.value? x).getD "") []
  match value with
  | .error e => ("", s.abort (e.message text))
  | .ok (n, assigned) =>
    let s := assigned.reverse.foldl (fun (s : State) (name, n) =>
      match s.assign? name (toString n) with
      | some s => s
      | none => s.abort (name ++ ": is read only")) s
    (toString n, s)

def parameterAtoms (s : State) (name : String) (quoted : Bool) (change : String → String) :
    List Atom :=
  match name with
  | "@" => argumentAtoms quoted (s.arguments.map change)
  | "*" =>
    if quoted then filledAtoms true (s.joint.intercalate (s.arguments.map change))
    else argumentAtoms false (s.arguments.map change)
  | _ => filledAtoms quoted (change ((s.parameter? name).getD ""))

def unsetMessage (name : String) (strict : Bool) : String :=
  name ++ ": parameter not set" ++ if strict then " or null" else ""

/-- Is a parameter without a value, or without one that counts? -/
def lacks (s : State) (name : String) (strict : Bool) : Bool :=
  match s.parameter? name with
  | none => true
  | some value => strict && value = ""

/-- With the status kept that a script inside a word had before. -/
def keeping (s : State) (act : State → String × State) : String × State :=
  let (text, next) := act s
  (text, if next.stopped then next else next.giving s.status)

end State

mutual

/-- The atoms of a part of a word; in words that are filled in, plain text counts as filled. -/
def partAtoms (run : TextRunner) (inner : Bool) : Part → State → List Atom × State
  | .literal [] _, s => ([.quotes], s)
  | .literal text quoted, s =>
    (atoms (if quoted then .quoted else if inner then .filled else .plain) text, s)
  | .home owner, s =>
    match owner, s.value? "HOME" with
    | "", some home => (atoms .quoted home.toList, s)
    | "root", _ => (atoms .quoted "/root".toList, s)
    | _, _ => (atoms .quoted ('~' :: owner.toList), s)
  | .output source behind quoted, s =>
    let (text, s) := s.keeping fun s => s.output run source behind
    (filledAtoms quoted text, s)
  | .arithmetic expression quoted, s =>
    let (as, s) := wordAtoms run false expression s
    if s.stopped then ([], s)
    else
      let (text, s) := s.keeping fun s => s.arithmetic (plainText s.joint as)
      (filledAtoms quoted text, s)
  | .parameter name taking word quoted, s =>
    let own (change : String → String) : List Atom × State :=
      if s.options.contains 'u' && name ≠ "@" && name ≠ "*" && s.lacks name false then
        ([], s.abort (State.unsetMessage name false))
      else (s.parameterAtoms name quoted change, s)
    match taking with
    | .value => own id
    | .length =>
      if s.options.contains 'u' && s.lacks name false then
        ([], s.abort (State.unsetMessage name false))
      else
        let size := ((s.parameter? name).getD "").length
        (filledAtoms quoted (toString size), s)
    | .orWord strict =>
      if s.lacks name strict then wordAtoms run (!quoted) word s else own id
    | .instead strict => if s.lacks name strict then ([], s) else wordAtoms run (!quoted) word s
    | .orAssign strict =>
      if s.lacks name strict then
        let (as, s) := wordAtoms run (!quoted) word s
        let text := plainText s.joint as
        if s.stopped then ([], s)
        else if !isName name.toList then ([], s.abort (name ++ ": bad variable name"))
        else match s.assign? name text with
          | some s => (filledAtoms quoted text, s)
          | none => ([], s.abort (name ++ ": is read only"))
      else own id
    | .orFail strict =>
      if s.lacks name strict then
        let (as, s) := wordAtoms run false word s
        let text := plainText s.joint as
        if s.stopped then ([], s)
        else ([], s.abort (if as.isEmpty then State.unsetMessage name strict
          else name ++ ": " ++ text))
      else own id
    | .withoutFront most =>
      let (as, s) := wordAtoms run false word s
      let p := Pattern.ofMarked (markedText s.joint as)
      if s.stopped then ([], s)
      else if s.options.contains 'u' && s.lacks name false then
        ([], s.abort (State.unsetMessage name false))
      else
        (s.parameterAtoms name quoted fun v => String.ofList (p.dropFront most v.toList), s)
    | .withoutBack most =>
      let (as, s) := wordAtoms run false word s
      let p := Pattern.ofMarked (markedText s.joint as)
      if s.stopped then ([], s)
      else if s.options.contains 'u' && s.lacks name false then
        ([], s.abort (State.unsetMessage name false))
      else
        (s.parameterAtoms name quoted fun v => String.ofList (p.dropBack most v.toList), s)
    | .nonsense => ([], s.abort "Bad substitution")

def wordAtoms (run : TextRunner) (inner : Bool) : List Part → State → List Atom × State
  | [], s => ([], s)
  | part :: rest, s =>
    let (front, s) := partAtoms run inner part s
    if s.stopped then (front, s)
    else
      let (back, s) := wordAtoms run inner rest s
      (front ++ back, s)

end

namespace State

def single (s : State) (run : TextRunner) (w : Word) : String × State :=
  let (as, s) := wordAtoms run false w s
  (plainText s.joint as, s)

def pattern (s : State) (run : TextRunner) (w : Word) : Pattern × State :=
  let (as, s) := wordAtoms run false w s
  (Pattern.ofMarked (markedText s.joint as), s)

def fields (s : State) (run : TextRunner) : List Word → List String × State
  | [] => ([], s)
  | w :: rest =>
    let (as, s) := wordAtoms run false w s
    if s.stopped then ([], s)
    else
      let cut := cutFields s.separators as
      let front := cut.flatMap fun field =>
        if s.options.contains 'f' then [String.ofList (Marked.text field)]
        else matchPaths s.machine field
      let (back, s) := s.fields run rest
      (front ++ back, s)

end State

end Lettermill.Shell
