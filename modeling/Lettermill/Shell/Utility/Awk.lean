import Lettermill.Shell.Utility.AwkState
/-! Running programs for records. The text of the input falls into records, and these into fields;
each rule sees each record. -/
namespace Lettermill.Shell.Utility
set_option autoImplicit false
open Text

/-! ## Functions that every program has -/

/-- A text with the matches of a pattern replaced, and how many were. `afterMatch` says that a match
has just ended here, behind which an empty one does not count. -/
def awkReplaced (r : Regex) (everywhere : Bool) (make : List Char → List Char) (afterMatch : Bool)
    (before : List Char) : Nat → List Char → List Char × Nat
  | 0, cs => (cs, 0)
  | fuel + 1, cs =>
    match r.find? {} (fun k k' => !(afterMatch && k.before.length == before.length
        && k'.after.length == k.after.length)) before cs with
    | none => (cs, 0)
    | some found =>
      let skipped := cs.take (found.before.length - before.length)
      if !everywhere then (skipped ++ make found.text ++ found.after, 1)
      else match found.text, found.after with
      | [], [] => (skipped ++ make [], 1)
      | [], c :: rest =>
        let (more, n) := awkReplaced r true make false (c :: found.before) fuel rest
        (skipped ++ make [] ++ c :: more, n + 1)
      | text, after =>
        let (more, n) := awkReplaced r true make true (text.reverse ++ found.before) fuel after
        (skipped ++ make text ++ more, n + 1)

/-- A replacement for a match: an ampersand stands for the match, unless a backslash hides it. -/
def awkReplacement (found : List Char) : List Char → List Char
  | [] => []
  | '\\' :: '&' :: rest => '&' :: awkReplacement found rest
  | '\\' :: '\\' :: rest => '\\' :: awkReplacement found rest
  | '&' :: rest => found ++ awkReplacement found rest
  | c :: rest => c :: awkReplacement found rest

/-- The characters from a position on, counted from one, as many as are wanted. -/
def awkSubstring (cs : List Char) (start : Int) (count : Option Int) : List Char :=
  let beyond : Int := cs.length + 1
  let last := match count with
    | none => beyond
    | some n => min (start + n) beyond
  let first := max start 1
  (cs.drop (first - 1).toNat).take (last - first).toNat

/-- The place of the first occurrence of a text, counted from one; zero when there is none. -/
def awkIndex (part : List Char) (n : Nat) : List Char → Nat
  | [] => 0
  | c :: cs => if (after? part (c :: cs)).isSome then n else awkIndex part (n + 1) cs

def awkNextSeed (seed : Nat) : Nat := (seed * 1103515245 + 12345) % 2147483648

/-! ## Expressions -/

inductive AwkPlace where
  | variable (name : String)
  | field (n : Nat)
  | element (name : String) (key : List Char)

/-- What is kept at a place. An element is there as soon as it is looked at. -/
def awkFetch (place : AwkPlace) : AwkM AwkValue := do
  let s ← get
  match place with
  | .variable x => return s.get x
  | .field n => return s.field n
  | .element x key =>
    match (s.array x).lookup key with
    | some v => return v
    | none =>
      set (s.setElement x key .unset)
      return .unset

def awkStore (place : AwkPlace) (v : AwkValue) : AwkM Unit :=
  modify fun s =>
    match place with
    | .variable x => s.set x v
    | .field n => s.setField n v
    | .element x key => s.setElement x key v

def awkFail {α : Type} (text : String) : AwkM α := do
  let s ← get
  let number (x : String) : String := String.ofList (s.textOf x)
  throw (.fault ("run time error: " ++ text ++ "\n\tFILENAME=\"" ++ number "FILENAME" ++ "\" FNR="
    ++ number "FNR" ++ " NR=" ++ number "NR"))

def awkKeep (r : Except String AwkState) : AwkM Unit :=
  match r with
  | .ok s => set s
  | .error text => throw (.fault text)

def awkFieldNumber (v : AwkValue) : AwkM Nat := do
  let n := v.toInt
  if n < 0 then awkFail ("negative field index $" ++ toString n) else return n.toNat

def awkTextOf (v : AwkValue) : AwkM (List Char) := do return v.toText (← get).convert

/-- Takes what was read into a target, or into the record. Records of the input are counted, each
by the names that are given. -/
def awkReceive (target : Option AwkPlace) (names : List String) (r : Int × List Char) :
    AwkM AwkValue := do
  if r.1 = 1 then
    modify fun s => s.count names
    match target with
    | none => modify fun s => s.setRecord r.2
    | some place => awkStore place (.field r.2)
  return .number (Double.ofInt r.1)

def awkStackLimit : Nat := 1008

mutual

/-- The value of an expression; `fuel` bounds how deeply functions and expressions are nested. -/
def awkValue (run : Commander) (p : AwkProgram) : Nat → AwkExpr → AwkM AwkValue
  | 0, _ => throw (.fault "function nesting too deep")
  | fuel + 1, e =>
    match e with
    | .number x => return .number x
    | .text cs => return .text cs
    | .pattern r => do return .ofBool (r.occursIn {} (← get).record)
    | .variable x => do return (← get).get x
    | .field _ => do awkFetch (← awkPlace run p fuel e)
    | .element _ _ => do awkFetch (← awkPlace run p fuel e)
    | .assign none target value => do
      let v ← awkValue run p fuel value
      awkStore (← awkPlace run p fuel target) v
      return v
    | .assign (some o) target value => do
      let place ← awkPlace run p fuel target
      let v ← awkValue run p fuel value
      let old ← awkFetch place
      let new : AwkValue := .number (AwkValue.calculate o old.toNumber v.toNumber)
      awkStore place new
      return new
    | .step o late target => do
      let place ← awkPlace run p fuel target
      let old := (← awkFetch place).toNumber
      let new := AwkValue.calculate o old (Double.ofInt 1)
      awkStore place (.number new)
      return .number (if late then old else new)
    | .sign negative a => do
      let x := (← awkValue run p fuel a).toNumber
      return .number (if negative then x.negated else x)
    | .no a => do return .ofBool !(← awkValue run p fuel a).isTrue
    | .binary o a b => do
      let x := (← awkValue run p fuel a).toNumber
      let y := (← awkValue run p fuel b).toNumber
      return .number (AwkValue.calculate o x y)
    | .compare r a b => do
      let x ← awkValue run p fuel a
      let y ← awkValue run p fuel b
      return .ofBool (AwkValue.holds (← get).convert r x y)
    | .join a b => do
      let x ← awkTextOf (← awkValue run p fuel a)
      let y ← awkTextOf (← awkValue run p fuel b)
      return .text (x ++ y)
    | .like negated a b => do
      let cs ← awkTextOf (← awkValue run p fuel a)
      let r ← awkPattern run p fuel b
      return .ofBool (r.occursIn {} cs != negated)
    | .member keys x => do
      let key ← awkKey run p fuel keys
      return .ofBool (((← get).array x).lookup key).isSome
    | .both a b => do
      if (← awkValue run p fuel a).isTrue then
        return .ofBool (← awkValue run p fuel b).isTrue
      else return .ofBool false
    | .either a b => do
      if (← awkValue run p fuel a).isTrue then return .ofBool true
      else return .ofBool (← awkValue run p fuel b).isTrue
    | .choice test yes no => do
      if (← awkValue run p fuel test).isTrue then awkValue run p fuel yes
      else awkValue run p fuel no
    | .builtin name args => awkBuiltin run p fuel name args
    | .call name args => awkCall run p fuel name args
    | .readMain target => do
      let place ← target.mapM (awkPlace run p fuel)
      match (← get).next? with
      | .error text => throw (.fault text)
      | .ok (none, s) =>
        set s
        return .ofNat 0
      | .ok (some cs, s) =>
        set s
        awkReceive place ["NR", "FNR"] (1, cs)
    | .readFile target path => do
      let place ← target.mapM (awkPlace run p fuel)
      let name ← awkTextOf (← awkValue run p fuel path)
      let (n, cs, s) := (← get).readFrom run false (String.ofList name)
      set s
      awkReceive place [] (n, cs)
    | .readCommand target command => do
      let place ← target.mapM (awkPlace run p fuel)
      let name ← awkTextOf (← awkValue run p fuel command)
      let (n, cs, s) := (← get).readFrom run true (String.ofList name)
      set s
      awkReceive place ["NR"] (n, cs)

def awkPlace (run : Commander) (p : AwkProgram) : Nat → AwkExpr → AwkM AwkPlace
  | 0, _ => throw (.fault "function nesting too deep")
  | fuel + 1, e =>
    match e with
    | .variable x => return .variable x
    | .field n => do return .field (← awkFieldNumber (← awkValue run p fuel n))
    | .element x keys => do return .element x (← awkKey run p fuel keys)
    | _ => return .field 0

def awkKey (run : Commander) (p : AwkProgram) : Nat → List AwkExpr → AwkM (List Char)
  | 0, _ => throw (.fault "function nesting too deep")
  | fuel + 1, keys => do
    let vs ← keys.mapM (awkValue run p fuel)
    let s ← get
    return (s.textOf "SUBSEP").intercalate (vs.map (AwkValue.toText s.convert))

def awkPattern (run : Commander) (p : AwkProgram) : Nat → AwkExpr → AwkM Regex
  | 0, _ => throw (.fault "function nesting too deep")
  | fuel + 1, e =>
    match e with
    | .pattern r => return r
    | _ => do
      let cs ← awkTextOf (← awkValue run p fuel e)
      match readAwkPattern cs with
      | .ok r => return r
      | .error fault =>
        awkFail ("regular expression compile failed (" ++ fault.message ++ ")\n" ++ String.ofList cs)

def awkBuiltin (run : Commander) (p : AwkProgram) : Nat → String → List AwkExpr → AwkM AwkValue
  | 0, _, _ => throw (.fault "function nesting too deep")
  | fuel + 1, name, args => do
    let value (e : AwkExpr) : AwkM AwkValue := awkValue run p fuel e
    let text (e : AwkExpr) : AwkM (List Char) := do awkTextOf (← awkValue run p fuel e)
    let onNumber (f : Double → Double) (e : AwkExpr) : AwkM AwkValue := do
      return .number (f (← awkValue run p fuel e).toNumber)
    match name, args with
    | "length", [] => return .ofNat (← get).record.length
    | "length", [.variable x] => do
      let s ← get
      match s.get x, s.arrays.lookup (s.arrayName x) with
      | .unset, some a => return .ofNat a.length
      | v, _ => return .ofNat (v.toText s.convert).length
    | "length", [e] => return .ofNat (← text e).length
    | "substr", [e, start] => do
      let cs ← text e
      return .text (awkSubstring cs (← value start).toInt none)
    | "substr", [e, start, count] => do
      let cs ← text e
      let first := (← value start).toInt
      return .text (awkSubstring cs first (some (← value count).toInt))
    | "index", [e, part] => do
      let cs ← text e
      return .ofNat (awkIndex (← text part) 1 cs)
    | "split", e :: .variable x :: separator => do
      let cs ← text e
      let pieces ← match separator with
        | [.pattern r] => pure (if cs.isEmpty then [] else AwkState.between r (cs.length + 1) cs)
        | [other] => pure (AwkState.split (← text other) cs)
        | _ => pure (AwkState.split ((← get).textOf "FS") cs)
      let elements := (List.range pieces.length).zip pieces
      modify fun s => s.setArray x
        (elements.map fun (n, piece) => (digitsText (n + 1), AwkValue.field piece)).reverse
      return .ofNat pieces.length
    | "match", [e, pattern] => do
      let cs ← text e
      let r ← awkPattern run p fuel pattern
      let (start, size) : Int × Int := match r.find? {} (fun _ _ => true) [] cs with
        | some found => (found.before.length + 1, found.text.length)
        | none => (0, -1)
      modify fun s => (s.setGlobal "RSTART" (.number (Double.ofInt start))).setGlobal "RLENGTH"
        (.number (Double.ofInt size))
      return .number (Double.ofInt start)
    | "sprintf", format :: more => do
      let format ← text format
      let vs ← more.mapM (awkValue run p fuel)
      match awkPrintf (← get).convert format (format.length + 1) 1 format vs with
      | (cs, none) => return .text cs
      | (_, some fault) => awkFail (fault.message "sprintf" format)
    | "tolower", [e] => return .text ((← text e).map lowerChar)
    | "toupper", [e] => return .text ((← text e).map Char.toUpper)
    | "int", [e] => onNumber Double.truncated e
    | "sqrt", [e] => onNumber Double.squareRoot e
    | "exp", [e] => onNumber Double.exponential e
    | "log", [e] => onNumber Double.logarithm e
    | "sin", [e] => onNumber (Double.wave false) e
    | "cos", [e] => onNumber (Double.wave true) e
    | "atan2", [y, x] => do
      let y := (← value y).toNumber
      return .number (y.angle (← value x).toNumber)
    | "rand", _ => do
      let seed := awkNextSeed (← get).seed
      modify fun s => { s with seed }
      return .number (Double.ofFraction false seed 2147483648)
    | "srand", given => do
      let old := (← get).seed
      let seed ← match given with
        | [e] => pure (← value e).toInt.toNat
        | _ => pure (old + 1)
      modify fun s => { s with seed }
      return .ofNat old
    | "system", [e] => do
      let command ← text e
      let s := (← get).flush
      let effect := run command s.input s.machine
      let s := if effect.left.isSome then s.takeInput.2 else s
      set (s.absorb effect false)
      return .ofNat effect.status
    | "close", [e] => do
      let (n, s) := (← get).close run (String.ofList (← text e))
      set s
      return .number (Double.ofInt n)
    | "fflush", _ => do
      modify AwkState.flush
      return .ofNat 0
    | _, pattern :: make :: target =>
      -- What is left are substitutions.
      do
        let r ← awkPattern run p fuel pattern
        let made ← text make
        let place ← match target with
          | [e] => awkPlace run p fuel e
          | _ => pure (.field 0)
        let cs ← awkTextOf (← awkFetch place)
        let (cs, n) := awkReplaced r (name = "gsub") (awkReplacement · made) false []
          (2 * cs.length + 4) cs
        if n ≠ 0 then awkStore place (.text cs)
        return .ofNat n
    | _, _ => return .unset

def awkCall (run : Commander) (p : AwkProgram) : Nat → String → List AwkExpr → AwkM AwkValue
  | 0, _, _ => throw (.fault "function nesting too deep")
  | fuel + 1, name, args =>
    match p.functions.lookup name with
    | none => return .unset
    | some f => do
      let given ← args.mapM (awkArgument run p fuel)
      let s ← get
      let stack := s.stack + max 1 f.parameters.length
      if awkStackLimit < stack then throw (.fault "program limit exceeded: eval stack size=1024")
      let fresh (x : String) : AwkLocal := .array (x ++ " " ++ toString s.calls)
      let locals := (List.range f.parameters.length).map fun n =>
        let x := f.parameters.getD n ""
        (x, (given[n]?).getD (fresh x))
      set { s with locals, stack, calls := s.calls + 1 }
      let r ← outcome (awkPerform run p fuel f.body)
      modify fun t => { t with locals := s.locals, stack := s.stack }
      match r with
      | .ok _ => return .unset
      | .error (.leave v) => return v
      | .error jump => throw jump

/-- What an argument is for a function: a name without a value may be that of an array. -/
def awkArgument (run : Commander) (p : AwkProgram) : Nat → AwkExpr → AwkM AwkLocal
  | 0, _ => throw (.fault "function nesting too deep")
  | fuel + 1, e =>
    match e with
    | .variable x => do
      let s ← get
      match s.get x with
      | .unset => return .array (s.arrayName x)
      | v => return .value v
    | _ => do return .value (← awkValue run p fuel e)

def awkOutlet (run : Commander) (p : AwkProgram) : Nat → Option (AwkSink × AwkExpr) →
    AwkM (Option (AwkSink × String))
  | 0, _ => throw (.fault "function nesting too deep")
  | _, none => return none
  | fuel + 1, some (sink, e) => do
    let name ← awkTextOf (← awkValue run p fuel e)
    return some (sink, String.ofList name)

def awkPerform (run : Commander) (p : AwkProgram) : Nat → AwkStatement → AwkM Unit
  | 0, _ => throw (.fault "function nesting too deep")
  | fuel + 1, statement =>
    match statement with
    | .value e => do
      let _ ← awkValue run p fuel e
    | .print args sink => do
      let vs ← args.mapM (awkValue run p fuel)
      let outlet ← awkOutlet run p fuel sink
      let s ← get
      let format := s.textOf "OFMT"
      let cs := if args.isEmpty then s.record
        else (s.textOf "OFS").intercalate (vs.map (AwkValue.toText format))
      awkKeep (s.put outlet (cs ++ s.textOf "ORS"))
    | .printf args sink => do
      let vs ← args.mapM (awkValue run p fuel)
      let outlet ← awkOutlet run p fuel sink
      let s ← get
      let format := (vs.headD .unset).toText s.convert
      let (cs, fault) := awkPrintf s.convert format (format.length + 1) 1 format vs.tail
      awkKeep (s.put outlet cs)
      match fault with
      | some fault => awkFail (fault.message "printf" format)
      | none => return ()
    | .block ss => awkPerformAll run p fuel ss
    | .choose test yes no => do
      if (← awkValue run p fuel test).isTrue then awkPerform run p fuel yes
      else match no with
        | some other => awkPerform run p fuel other
        | none => return ()
    | .loop late test behind body => awkRounds run p late test behind body fuel
    | .each x array body => do
      let keys := AwkState.keysInOrder ((← get).array array)
      awkEach run p x body fuel keys
    | .breakLoop => throw .breakLoop
    | .nextRound => throw .nextRound
    | .nextRecord => throw .nextRecord
    | .nextFile => throw .nextFile
    | .exit status => do
      match status with
      | some e =>
        let n := (← awkValue run p fuel e).toInt
        modify fun s => { s with status := (n % 256).toNat }
      | none => pure ()
      throw .exit
    | .leave value => do
      let v ← match value with
        | some e => awkValue run p fuel e
        | none => pure .unset
      throw (.leave v)
    | .delete x [] => modify fun s => s.setArray x []
    | .delete x keys => do
      let key ← awkKey run p fuel keys
      modify fun s => s.setArray x ((s.array x).filter fun entry => entry.1 ≠ key)

def awkPerformAll (run : Commander) (p : AwkProgram) : Nat → List AwkStatement → AwkM Unit
  | 0, _ => throw (.fault "function nesting too deep")
  | _, [] => return ()
  | fuel + 1, first :: rest => do
    awkPerform run p fuel first
    awkPerformAll run p fuel rest

def awkRounds (run : Commander) (p : AwkProgram) (late : Bool) (test : AwkExpr)
    (behind : Option AwkStatement) (body : AwkStatement) : Nat → AwkM Unit
  | 0 => throw (.fault "too many rounds")
  | fuel + 1 => do
    let go ← if late then pure true else pure (← awkValue run p fuel test).isTrue
    if go then
      let r ← outcome (awkPerform run p fuel body)
      let again ← match r with
        | .ok _ => pure true
        | .error .nextRound => pure true
        | .error .breakLoop => pure false
        | .error jump => throw jump
      if again then
        match behind with
        | some s => awkPerform run p fuel s
        | none => pure ()
        if late then
          if (← awkValue run p fuel test).isTrue then awkRounds run p late test behind body fuel
        else awkRounds run p late test behind body fuel

def awkEach (run : Commander) (p : AwkProgram) (x : String) (body : AwkStatement) :
    Nat → List (List Char) → AwkM Unit
  | 0, _ => throw (.fault "too many rounds")
  | _, [] => return ()
  | fuel + 1, key :: rest => do
    modify fun s => s.set x (.field key)
    let r ← outcome (awkPerform run p fuel body)
    match r with
    | .ok _ => awkEach run p x body fuel rest
    | .error .nextRound => awkEach run p x body fuel rest
    | .error .breakLoop => return ()
    | .error jump => throw jump

end

/-! ## Programs -/

def awkFuel : Nat := 10000000

def awkApplies (run : Commander) (p : AwkProgram) (n : Nat) : AwkTrigger → AwkM Bool
  | .always => return true
  | .when test => do return (← awkValue run p awkFuel test).isTrue
  | .between first last => do
    let begun := (← get).ranges.contains n
    let hit ← if begun then pure true else pure (← awkValue run p awkFuel first).isTrue
    if hit then
      let ended ← awkValue run p awkFuel last
      modify fun s =>
        let others := s.ranges.filter (· ≠ n)
        { s with ranges := if ended.isTrue then others else n :: others }
    return hit
  | _ => return false

def awkVisit (run : Commander) (p : AwkProgram) : AwkM Unit :=
  ((List.range p.rules.length).zip p.rules).forM fun (n, rule) => do
    if ← awkApplies run p n rule.trigger then
      awkPerform run p awkFuel (rule.body.getD (.print [] none))

/-- Lets the rules see each record; `fuel` bounds the number of records. -/
def awkVisitAll (run : Commander) (p : AwkProgram) : Nat → AwkM Unit
  | 0 => return ()
  | fuel + 1 => do
    match (← get).next? with
    | .error text => throw (.fault text)
    | .ok (none, s) => set s
    | .ok (some cs, s) =>
      set ((s.setRecord cs).count ["NR", "FNR"])
      let r ← outcome (awkVisit run p)
      match r with
      | .error .nextFile =>
        modify fun s => { s with source := none }
        awkVisitAll run p fuel
      | .ok _ => awkVisitAll run p fuel
      | .error .nextRecord => awkVisitAll run p fuel
      | .error jump => throw jump

def awkOutside (run : Commander) (p : AwkProgram) (atEnd : Bool) : AwkM Unit :=
  p.rules.forM fun rule =>
    match rule.trigger, atEnd, rule.body with
    | .atStart, false, some body => awkPerform run p awkFuel body
    | .atEnd, true, some body => awkPerform run p awkFuel body
    | _, _, _ => return ()

def AwkProgram.reads (p : AwkProgram) : Bool :=
  p.rules.any fun rule => match rule.trigger with
    | .atStart => false
    | _ => true

def awkMain (run : Commander) (p : AwkProgram) : AwkM Unit := do
  let settle (r : Except AwkJump Unit) : AwkM Bool :=
    match r with
    | .error (.fault text) => throw (.fault text)
    | .error .exit => return false
    | _ => return true
  let r ← outcome (awkOutside run p false)
  let onward ← settle r
  if p.reads && onward then
    let r ← outcome (awkVisitAll run p 1000000)
    let _ ← settle r
  let r ← outcome (awkOutside run p true)
  let _ ← settle r

/-! ## Calls -/

structure AwkOptions where
  separator : Option String := none
  assignments : List String := []
  /-- Files that hold the program. -/
  files : List String := []
  operands : List String := []

/-- Reads options; the error says what is wrong with them. -/
def AwkOptions.read (o : AwkOptions) : List String → Except String AwkOptions
  | [] => .ok o
  | arg :: rest =>
    let lacking : Except String AwkOptions := .error ("option " ++ arg ++ " lacks argument")
    match arg.toList with
    | ['-', '-'] => .ok { o with operands := rest }
    | ['-', 'F'] =>
      match rest with
      | value :: rest => AwkOptions.read { o with separator := some value } rest
      | [] => lacking
    | ['-', 'v'] =>
      match rest with
      | value :: rest => AwkOptions.read { o with assignments := o.assignments ++ [value] } rest
      | [] => lacking
    | ['-', 'f'] =>
      match rest with
      | value :: rest => AwkOptions.read { o with files := o.files ++ [value] } rest
      | [] => lacking
    | '-' :: 'F' :: value => AwkOptions.read { o with separator := some (String.ofList value) } rest
    | '-' :: 'v' :: value =>
      AwkOptions.read { o with assignments := o.assignments ++ [String.ofList value] } rest
    | '-' :: 'f' :: value => AwkOptions.read { o with files := o.files ++ [String.ofList value] } rest
    | '-' :: 'W' :: _ => AwkOptions.read o rest
    | '-' :: _ :: _ => .error ("not an option: " ++ arg)
    | _ => .ok { o with operands := arg :: rest }

def awkUsage : List String := ["Usage: mawk [Options] [Program] [file ...]", "", "Program:",
  "    The -f option value is the name of a file containing program text.",
  "    If no -f option is given, a \"--\" ends option processing; the following",
  "    parameters are the program text.", "", "Options:",
  "    -f program-file  Program  text is read from file instead of from the",
  "                     command-line.  Multiple -f options are accepted.",
  "    -F value         sets the field separator, FS, to value.",
  "    -v var=value     assigns value to program variable var.",
  "    --               unambiguous end of options.", "",
  "    Implementation-specific options are prefixed with \"-W\".  They can be",
  "    abbreviated:", "", "    -W version       show version information and exit.",
  "    -W compat        pre-POSIX 2001.",
  "    -W dump          show assembler-like listing of program and exit.",
  "    -W help          show this message and exit.",
  "    -W interactive   set unbuffered output, line-buffered input.",
  "    -W exec file     use file as program as well as last option.",
  "    -W posix         stricter POSIX checking.",
  "    -W random=number set initial random seed.",
  "    -W sprintf=number adjust size of sprintf buffer.",
  "    -W usage         show this message and exit."]

def awk (run : Commander) (c : Call) : Effect :=
  let name := String.ofList ((cutAt '/' c.name.toList).getLast?.getD [])
  let refuse (text : String) : Effect := Effect.err (name ++ ": " ++ text) 2
  match AwkOptions.read {} c.args with
  | .error text => refuse text
  | .ok o =>
    let source : Except String (List Char × List String) :=
      match o.files, o.operands with
      | [], [] => .error ""
      | [], program :: rest => .ok (program.toList, rest)
      | files, operands => do
        let texts ← files.mapM fun path =>
          match c.read path with
          | .ok cs => .ok cs
          | .error e => .error ("cannot open \"" ++ path ++ "\" (" ++ e.words ++ ")")
        return (['\n'].intercalate texts, operands)
    match source with
    | .error "" => Effect.err ("\n".intercalate awkUsage) 0
    | .error text => refuse text
    | .ok (text, operands) =>
      match readAwk text with
      | .error fault => { Effect.all (fault.messages.map refuse) with status := 2 }
      | .ok p =>
        let arguments := name :: operands
        let numbered := ((List.range arguments.length).zip arguments).map fun (n, arg) =>
          (digitsText n, AwkValue.field arg.toList)
        let s : AwkState :=
          { machine := c.machine, input := c.input, operands
            globals := ("ARGC", .ofNat arguments.length) :: AwkState.initialGlobals
            arrays := [("ARGV", numbered.reverse),
              ("ENVIRON", (c.environment.map fun (x, v) => (x.toList, AwkValue.field v.toList)))] }
        let given := (o.separator.map fun v => "FS=" ++ v).toList ++ o.assignments
        let s := (given.filterMap AwkState.assignmentIn?).foldl (fun (s : AwkState) (x, v) =>
          s.setGlobal x v) s
        let (r, s) := ((awkMain run p).run).run s
        let s := match r with
          | .error (.fault text) =>
            { s with pieces := (true, (name ++ ": " ++ text ++ "\n").toList) :: s.pieces, status := 2 }
          | _ => s
        let s := s.finish run
        { pieces := s.pieces.reverse, status := s.status, machine := some s.machine
          left := if s.inputRead then some [] else none }

end Lettermill.Shell.Utility
