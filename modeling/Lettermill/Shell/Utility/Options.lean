import Lettermill.Shell.Utility.Basic
/-! Options of programs: letters behind a dash, several of them at once if need be, and names behind
two dashes, which may be cut short. Options may stand behind operands, unless a program wants them
in front. -/
namespace Lettermill.Shell
set_option autoImplicit false
open Text

structure OptionSet where
  /-- The letters; a colon behind a letter says that it takes a value. -/
  letters : String
  /-- The names, with the letters that they stand for; an equals sign behind a name says that it
  takes a value. -/
  names : List (String × Char) := []
  /-- Do options end where operands begin? -/
  inOrder : Bool := false

inductive OptionError where
  | unknownLetter (c : Char)
  | unknownName (text : String)
  | letterNeedsValue (c : Char)
  | nameNeedsValue (name : String)
  | nameTakesNone (name : String)
  | ambiguous (text : String) (names : List String)
  deriving DecidableEq, Repr

def OptionError.message : OptionError → String
  | unknownLetter c => "invalid option -- '" ++ String.ofList [c] ++ "'"
  | unknownName text => "unrecognized option '" ++ text ++ "'"
  | letterNeedsValue c => "option requires an argument -- '" ++ String.ofList [c] ++ "'"
  | nameNeedsValue name => "option '--" ++ name ++ "' requires an argument"
  | nameTakesNone name => "option '--" ++ name ++ "' doesn't allow an argument"
  | ambiguous text names =>
    "option '" ++ text ++ "' is ambiguous; possibilities:"
      ++ String.join (names.map fun name => " '--" ++ name ++ "'")

/-- The options of a call, in order, and its operands. -/
structure Given where
  options : List (Char × String) := []
  operands : List String := []

namespace Given

def has (g : Given) (c : Char) : Bool := g.options.any fun o => o.1 == c

def value? (g : Given) (c : Char) : Option String :=
  (g.options.reverse.find? fun o => o.1 == c).map Prod.snd

def lastOf? (g : Given) (letters : List Char) : Option Char :=
  (g.options.reverse.find? fun o => letters.contains o.1).map Prod.fst

def add (g : Given) (c : Char) (value : String) : Given :=
  { g with options := g.options ++ [(c, value)] }

end Given

namespace OptionSet

def takesValue? (o : OptionSet) (c : Char) : Option Bool :=
  match o.letters.toList.dropWhile (· != c) with
  | _ :: ':' :: _ => if c = ':' then none else some true
  | _ :: _ => if c = ':' then none else some false
  | [] => none

def bare (name : String) : String :=
  String.ofList (name.toList.filter (· != '='))

def named (o : OptionSet) (text : String) (name : String) :
    Except OptionError (String × Bool × Char) :=
  let shape (entry : String × Char) : String × Bool × Char :=
    (bare entry.1, entry.1.toList.contains '=', entry.2)
  match o.names.find? (fun entry => bare entry.1 = name) with
  | some entry => .ok (shape entry)
  | none =>
    match o.names.filter fun entry => name.toList.isPrefixOf entry.1.toList with
    | [] => .error (.unknownName text)
    | [entry] => .ok (shape entry)
    | entry :: more =>
      if more.all fun other => other.2 == entry.2 then .ok (shape entry)
      else .error (.ambiguous text ((entry :: more).map fun e => bare e.1))

/-- Reads the letters of one argument; what the last of them takes may be the next argument. -/
def readLetters (o : OptionSet) (g : Given) (rest : List String) :
    List Char → Except OptionError (Given × List String)
  | [] => .ok (g, rest)
  | c :: cs =>
    match o.takesValue? c with
    | none => .error (.unknownLetter c)
    | some false => o.readLetters (g.add c "") rest cs
    | some true =>
      match cs, rest with
      | [], [] => .error (.letterNeedsValue c)
      | [], value :: rest => .ok (g.add c value, rest)
      | _, _ => .ok (g.add c (String.ofList cs), rest)

/-- Reads arguments; `fuel` bounds their number. -/
def readFrom (o : OptionSet) (g : Given) : Nat → List String → Except OptionError Given
  | 0, rest => .ok { g with operands := g.operands ++ rest }
  | _, [] => .ok g
  | fuel + 1, arg :: rest =>
    match arg.toList with
    | ['-', '-'] => .ok { g with operands := g.operands ++ rest }
    | '-' :: '-' :: name =>
      let (name, value) := match cutOnce? '=' name with
        | some (name, value) => (name, some (String.ofList value))
        | none => (name, none)
      match o.named arg (String.ofList name) with
      | .error e => .error e
      | .ok (full, takes, c) =>
        match takes, value, rest with
        | true, some v, _ => o.readFrom (g.add c v) fuel rest
        | true, none, v :: rest => o.readFrom (g.add c v) fuel rest
        | true, none, [] => .error (.nameNeedsValue full)
        | false, some _, _ => .error (.nameTakesNone full)
        | false, none, _ => o.readFrom (g.add c "") fuel rest
    | '-' :: c :: cs =>
      match o.readLetters g rest (c :: cs) with
      | .error e => .error e
      | .ok (g, rest) => o.readFrom g fuel rest
    | _ =>
      if o.inOrder then .ok { g with operands := g.operands ++ arg :: rest }
      else o.readFrom { g with operands := g.operands ++ [arg] } fuel rest

def read (o : OptionSet) (args : List String) : Except OptionError Given :=
  o.readFrom {} (args.length + 1) args

end OptionSet

/-- Carries out a call with its options read. Unknown ones end it with a status. -/
def Call.withOptions (c : Call) (o : OptionSet) (status : Nat) (act : Given → Effect) : Effect :=
  match o.read c.args with
  | .ok g => act g
  | .error e => c.tryHelp e.message status

end Lettermill.Shell
