import Lettermill.Shell.Syntax
/-! Reading shell scripts. A script is read one line at a time, or as many lines as it takes to end
the command that began on the first of them; so what stands in front of a mistake is still run. All
readers are bounded by a number that every step down decreases. -/
namespace Lettermill.Shell
set_option autoImplicit false
open Text

abbrev Reader := StateT (List Char) (Except Unreadable)

/-! ## Blanks -/

def skipBlanks : List Char → List Char
  | ' ' :: cs => skipBlanks cs
  | '\t' :: cs => skipBlanks cs
  | '\\' :: '\n' :: cs => skipBlanks cs
  | '#' :: cs => cs.dropWhile (· != '\n')
  | cs => cs

/-- Without blanks, comments and line ends in front; `fuel` bounds the number of lines. -/
def skipLines : Nat → List Char → List Char
  | 0, cs => cs
  | fuel + 1, cs =>
    match skipBlanks cs with
    | '\n' :: rest => skipLines fuel rest
    | rest => rest

def skipToCommand (cs : List Char) : List Char := skipLines (cs.length + 1) cs

/-! ## Characters -/

def endsWord (c : Char) : Bool :=
  [' ', '\t', '\n', ';', '|', '&', '<', '>', '(', ')'].contains c

def startsPart (c : Char) : Bool := ['\'', '"', '\\', '$', '\x60'].contains c

def isNameChar (c : Char) : Bool := isAlphanumeric c || c == '_'

def isName : List Char → Bool
  | [] => false
  | c :: cs => (isLetter c || c == '_') && cs.all isNameChar

def isSpecial (c : Char) : Bool := ['@', '*', '#', '?', '-', '$', '!'].contains c

def nameAtFront? (cs : List Char) : Option (String × List Char) :=
  match cs with
  | [] => none
  | c :: rest =>
    if isSpecial c then some (String.ofList [c], rest)
    else
      let name := cs.takeWhile (if isDigit c then isDigit else isNameChar)
      if name.isEmpty then none else some (String.ofList name, cs.drop name.length)

def keywords : List String :=
  ["if", "then", "else", "elif", "fi", "do", "done", "case", "esac", "while", "until", "for",
    "\x7b", "\x7d", "!"]

/-- A word in front that has no quotes and no parameters in it, and what follows it. -/
def plainWord? (cs : List Char) : Option (String × List Char) :=
  let word := cs.takeWhile fun c => !endsWord c && !startsPart c
  let rest := cs.drop word.length
  match word, rest with
  | [], _ => none
  | _, [] => some (String.ofList word, rest)
  | _, c :: _ => if endsWord c then some (String.ofList word, rest) else none

def keyword? (cs : List Char) : Option (String × List Char) :=
  (plainWord? cs).bind fun (word, rest) =>
    if keywords.contains word then some (word, rest) else none

structure Arrow where
  channel : Nat
  direction : Direction
  /-- Do tabs in front of the lines of a document count for nothing? -/
  withoutTabs : Bool := false

def arrowSign? (channel : Option Nat) : List Char → Option (Arrow × List Char)
  | '>' :: '>' :: cs => some (⟨channel.getD 1, .append, false⟩, cs)
  | '>' :: '&' :: cs => some (⟨channel.getD 1, .duplicate, false⟩, cs)
  | '>' :: '|' :: cs => some (⟨channel.getD 1, .overwrite, false⟩, cs)
  | '>' :: cs => some (⟨channel.getD 1, .write, false⟩, cs)
  | '<' :: '<' :: '-' :: cs => some (⟨channel.getD 0, .document, true⟩, cs)
  | '<' :: '<' :: cs => some (⟨channel.getD 0, .document, false⟩, cs)
  | '<' :: '&' :: cs => some (⟨channel.getD 0, .duplicate, false⟩, cs)
  | '<' :: '>' :: cs => some (⟨channel.getD 0, .readWrite, false⟩, cs)
  | '<' :: cs => some (⟨channel.getD 0, .read, false⟩, cs)
  | _ => none

def arrow? : List Char → Option (Arrow × List Char)
  | c :: cs =>
    if isDigit c then arrowSign? (some (c.toNat - '0'.toNat)) cs else arrowSign? none (c :: cs)
  | [] => none

def lexemeAt (cs : List Char) : String :=
  match cs with
  | [] => "end of file"
  | '\n' :: _ => "newline"
  | ';' :: ';' :: _ => "\";;\""
  | '&' :: '&' :: _ => "\"&&\""
  | '|' :: '|' :: _ => "\"||\""
  | '<' :: _ | '>' :: _ => "redirection"
  | c :: _ =>
    if endsWord c then "\"" ++ String.ofList [c] ++ "\""
    else match keyword? cs with
      | some (word, _) => "\"" ++ word ++ "\""
      | none => "word"

def lineEnds (cs : List Char) : Nat := (cs.filter (· == '\n')).length

def giveUp {α : Type} (cause : SyntaxError) : Reader α := do throw ⟨cause, lineEnds (← get)⟩

def giveUpAtEnd {α : Type} (cause : SyntaxError) : Reader α := throw ⟨cause, 0⟩

/-- Fails because of what stands in front. The end of a line counts as passed. -/
def refuse {α : Type} (expected : String) : Reader α := do
  match ← get with
  | [] => giveUpAtEnd (.endOfFile expected)
  | '\n' :: cs => throw ⟨.unexpected "newline" expected, lineEnds cs⟩
  | cs =>
    let found := if (arrow? cs).isSome then "redirection" else lexemeAt cs
    giveUp (.unexpected found expected)

def expectKeyword (word : String) : Reader Unit := do
  let cs := skipToCommand (← get)
  set cs
  match keyword? cs with
  | some (found, rest) => if found = word then set rest else refuse ("\"" ++ word ++ "\"")
  | none => refuse ("\"" ++ word ++ "\"")

/-! ## Texts inside a script -/

/-- The text up to the next backquote, with the escapes in it undone. -/
def untilBackquote (quoted : Bool) : List Char → Option (List Char × List Char)
  | [] => none
  | '\x60' :: cs => some ([], cs)
  | '\\' :: c :: cs =>
    let kept := if c = '$' || c = '\x60' || c = '\\' || (quoted && c = '"') then [c] else ['\\', c]
    (untilBackquote quoted cs).map fun (text, rest) => (kept ++ text, rest)
  | c :: cs => (untilBackquote quoted cs).map fun (text, rest) => (c :: text, rest)

/-- The rest of a line with its end, where `quote` is the quote that is open, and what follows. -/
def restOfLine (quote : Option Char) : List Char → List Char × List Char
  | [] => ([], [])
  | [c] => ([c], [])
  | c :: d :: cs =>
    if quote = none ∧ c = '\n' then ([c], d :: cs)
    else if c = '\\' ∧ quote ≠ some '\'' then
      let (line, rest) := restOfLine quote cs
      (c :: d :: line, rest)
    else if quote = none ∧ c = ' ' ∧ d = '#' then
      ((c :: d :: cs).takeWhile (· != '\n') ++ ['\n'], ((d :: cs).dropWhile (· != '\n')).drop 1)
    else
      let next := match quote with
        | some q => if c = q then none else some q
        | none => if c = '\'' ∨ c = '"' then some c else none
      let (line, rest) := restOfLine next (d :: cs)
      (c :: line, rest)

/-- The lines up to the one that is the delimiter, and what follows that one; tabs in front of lines
may count for nothing. `fuel` bounds the number of lines. -/
def documentLines (withoutTabs : Bool) (delimiter : List Char) :
    Nat → List Char → List Char × List Char
  | 0, _ => ([], [])
  | _, [] => ([], [])
  | fuel + 1, cs =>
    let cs := if withoutTabs then cs.dropWhile (· == '\t') else cs
    let line := cs.takeWhile (· != '\n')
    let rest := (cs.drop line.length).drop 1
    if line = delimiter then ([], rest)
    else
      let (text, after) := documentLines withoutTabs delimiter fuel rest
      (cs.take (line.length + 1) ++ text, after)

/-- Takes the document that starts behind the current line out of the text. -/
def takeDocument (withoutTabs : Bool) (delimiter : List Char) : Reader (List Char) := do
  let cs ← get
  let (line, rest) := restOfLine none cs
  let (text, rest) := documentLines withoutTabs delimiter (rest.length + 1) rest
  set (line ++ rest)
  return text

def literalText : Word → List Char
  | [] => []
  | .literal text _ :: rest => text ++ literalText rest
  | .parameter name _ _ _ :: rest => '$' :: name.toList ++ literalText rest
  | _ :: rest => literalText rest

def hasQuotes (w : Word) : Bool :=
  w.any fun
    | .literal _ quoted => quoted
    | _ => false

/-- A word with a tilde in front of it read as a home folder. -/
def withHome (w : Word) : Word :=
  match w with
  | .literal ('~' :: text) false :: rest =>
    let owner := text.takeWhile (· != '/')
    let after := text.drop owner.length
    if !owner.all isNameChar || (after.isEmpty && !rest.isEmpty) then w
    else .home (String.ofList owner) :: .literal after false :: rest
  | _ => w

/-! ## Redirections -/

/-! ## Parts of commands -/

/-- Where a run of parts stands: what ends it, and what is quoted in it. -/
inductive Surroundings where
  | quotes
  | document
  /-- With so many parentheses open. -/
  | arithmetic (opened : Nat)
  | braces (quoted : Bool)
  deriving DecidableEq

def Surroundings.quoted : Surroundings → Bool
  | braces quoted => quoted
  | _ => true

def Surroundings.escapes (s : Surroundings) (c : Char) : Bool :=
  match s with
  | braces false => true
  | braces true => ['$', '\x60', '"', '\\', '\x7d'].contains c
  | document => ['$', '\x60', '\\'].contains c
  | _ => ['$', '\x60', '"', '\\'].contains c

/-- What is wrong when the text ends here, if anything is. -/
def Surroundings.atEnd : Surroundings → Option SyntaxError
  | quotes => some .unclosedQuotes
  | document => none
  | arithmetic _ => some .unclosedArithmetic
  | braces _ => some .unclosedBraces

def isInsideMark (c : Char) : Bool :=
  ['\\', '$', '\x60', '"', '\'', '(', ')', '\x7d'].contains c

/-- The sign behind the name of a parameter, and what follows it. -/
def taking? : List Char → Option (Taking × List Char)
  | ':' :: '-' :: cs => some (.orWord true, cs)
  | ':' :: '=' :: cs => some (.orAssign true, cs)
  | ':' :: '?' :: cs => some (.orFail true, cs)
  | ':' :: '+' :: cs => some (.instead true, cs)
  | '-' :: cs => some (.orWord false, cs)
  | '=' :: cs => some (.orAssign false, cs)
  | '?' :: cs => some (.orFail false, cs)
  | '+' :: cs => some (.instead false, cs)
  | '#' :: '#' :: cs => some (.withoutFront true, cs)
  | '#' :: cs => some (.withoutFront false, cs)
  | '%' :: '%' :: cs => some (.withoutBack true, cs)
  | '%' :: cs => some (.withoutBack false, cs)
  | _ => none

/-- Does the word behind a sign share the quotes around the braces? -/
def Taking.sharesQuotes : Taking → Bool
  | withoutFront _ | withoutBack _ => false
  | _ => true

/-- Can a word, once it is filled in, be the number of a channel, or a dash? -/
def mayBeChannel (w : Word) : Bool :=
  let isPlain := w.all fun
    | .literal .. => true
    | _ => false
  match literalText w with
  | ['-'] => true
  | [c] => !isPlain || isDigit c
  | _ => !isPlain

structure Simple where
  assignments : List (String × Word) := []
  words : List Word := []
  redirections : List Redirection := []

def assignment? : Word → Option (String × Word)
  | .literal text false :: rest =>
    (cutOnce? '=' text).bind fun (name, value) =>
      if isName name then
        let front : Word := if value.isEmpty then [] else [.literal value false]
        some (String.ofList name, withHome (front ++ rest))
      else none
  | _ => none

/-- What stands between quotes. Quotes around nothing but all arguments make no field of their own.
-/
def withoutNeedlessQuotes : Word → Word
  | [.parameter "@" .value word true, .literal [] true] => [.parameter "@" .value word true]
  | parts => parts

def Command.ofList : List Command → Command
  | [c] => c
  | cs => .sequence cs

/-! ## The readers -/

mutual

/-- A word from here on; no parts when there is none. -/
def readWord : Nat → Reader Word
  | 0 => giveUp .tooDeep
  | fuel + 1 => do
    match ← get with
    | [] => return []
    | c :: rest =>
      if endsWord c then return []
      else match c, rest with
      | '\\', '\n' :: rest => set rest; readWord fuel
      | '\\', d :: rest => set rest; return .literal [d] true :: (← readWord fuel)
      | '\'', _ =>
        match cutOnce? '\'' rest with
        | none => giveUpAtEnd .unclosedQuotes
        | some (text, rest) => set rest; return .literal text true :: (← readWord fuel)
      | '"', _ =>
        set rest
        let parts ← readInside .quotes fuel
        return withoutNeedlessQuotes parts ++ (← readWord fuel)
      | '$', _ => set rest; return (← readDollar false fuel) ++ (← readWord fuel)
      | '\x60', _ =>
        match untilBackquote false rest with
        | none => giveUpAtEnd .unclosedOutput
        | some (source, rest) =>
          checkInside source fuel
          set rest
          return .output source none false :: (← readWord fuel)
      | _, _ =>
        let text := c :: rest.takeWhile fun d => !endsWord d && !startsPart d
        set ((c :: rest).drop text.length)
        return .literal text false :: (← readWord fuel)

def checkInside (source : List Char) : Nat → Reader Unit
  | 0 => giveUp .tooDeep
  | fuel + 1 => do
    set source
    let _ ← readCommands fuel
    modify skipToCommand
    if !(← get).isEmpty then refuse ""

def readInside (s : Surroundings) : Nat → Reader Word
  | 0 => giveUp .tooDeep
  | fuel + 1 => do
    match ← get with
    | [] =>
      match s.atEnd with
      | some e => giveUpAtEnd e
      | none => return []
    | c :: rest =>
      match c, rest, s with
      | '"', _, .quotes => set rest; return [.literal [] true]
      | '\x7d', _, .braces _ => set rest; return []
      | ')', ')' :: rest, .arithmetic 0 => set rest; return []
      | ')', _, .arithmetic 0 => giveUp .unclosedArithmetic
      | ')', _, .arithmetic (n + 1) =>
        set rest
        return .literal [c] true :: (← readInside (.arithmetic n) fuel)
      | '(', _, .arithmetic n =>
        set rest
        return .literal [c] true :: (← readInside (.arithmetic (n + 1)) fuel)
      | '\\', '\n' :: rest, _ => set rest; readInside s fuel
      | '\\', d :: after, _ =>
        if s.escapes d then
          set after
          return .literal [d] true :: (← readInside s fuel)
        else
          set rest
          return .literal [c] s.quoted :: (← readInside s fuel)
      | '$', _, _ => set rest; return (← readDollar s.quoted fuel) ++ (← readInside s fuel)
      | '\x60', _, _ =>
        match untilBackquote s.quoted rest with
        | none => giveUpAtEnd .unclosedOutput
        | some (source, rest) =>
          checkInside source fuel
          set rest
          return .output source none s.quoted :: (← readInside s fuel)
      | '\'', _, .braces false =>
        match cutOnce? '\'' rest with
        | none => giveUpAtEnd .unclosedQuotes
        | some (text, rest) => set rest; return .literal text true :: (← readInside s fuel)
      | '"', _, .braces _ =>
        set rest
        let parts ← readInside .quotes fuel
        return parts ++ (← readInside s fuel)
      | '"', _, .arithmetic _ => set rest; readInside s fuel
      | _, _, _ =>
        let text := c :: rest.takeWhile fun d => !isInsideMark d
        set ((c :: rest).drop text.length)
        return .literal text s.quoted :: (← readInside s fuel)

def readDollar (quoted : Bool) : Nat → Reader Word
  | 0 => giveUp .tooDeep
  | fuel + 1 => do
    match ← get with
    | '(' :: '(' :: rest =>
      set rest
      return [.arithmetic (← readInside (.arithmetic 0) fuel) quoted]
    | '(' :: rest =>
      set rest
      let _ ← readCommands fuel
      match ← get with
      | ')' :: after =>
        set after
        let source := rest.take (rest.length - after.length - 1)
        return [.output source (some (lineEnds after)) quoted]
      | _ => refuse "\")\""
    | '\x7b' :: rest =>
      set rest
      return [← readBraces quoted fuel]
    | cs =>
      match cs with
      | [] => return [.literal ['$'] quoted]
      | c :: rest =>
        if isSpecial c || isDigit c then
          set rest
          return [.parameter (String.ofList [c]) .value [] quoted]
        else
          match nameAtFront? cs with
          | some (name, rest) => set rest; return [.parameter name .value [] quoted]
          | none => return [.literal ['$'] quoted]

/-- A parameter between braces, from behind the first of them. -/
def readBraces (quoted : Bool) : Nat → Reader Part
  | 0 => giveUp .tooDeep
  | fuel + 1 => do
    let cs ← get
    let length : Option (String × List Char) := match cs with
      | '#' :: rest =>
        match nameAtFront? rest with
        | some (name, '\x7d' :: rest) => some (name, rest)
        | _ => none
      | _ => none
    match length, nameAtFront? cs with
    | some (name, rest), _ => set rest; return .parameter name .length [] quoted
    | none, some (name, '\x7d' :: rest) => set rest; return .parameter name .value [] quoted
    | none, some (name, rest) =>
      match taking? rest with
      | some (taking, rest) =>
        set rest
        let word ← readInside (.braces (quoted && taking.sharesQuotes)) fuel
        return .parameter name taking word quoted
      | none =>
        if rest.head? = some '\n' && !quoted then
          set (rest.drop 1)
          giveUp .unclosedBraces
        else
          set rest
          return .parameter name .nonsense (← readInside (.braces quoted) fuel) quoted
    | none, none => return .parameter "" .nonsense (← readInside (.braces quoted) fuel) quoted

def readRedirection (arrow : Arrow) : Nat → Reader Redirection
  | 0 => giveUp .tooDeep
  | fuel + 1 => do
    modify skipBlanks
    let word ← readWord fuel
    if word.isEmpty then refuse ""
    else if arrow.direction = .document then
      let text ← takeDocument arrow.withoutTabs (literalText word)
      if hasQuotes word then return ⟨arrow.channel, .document, [.literal text true]⟩
      else
        let after ← get
        set text
        let parts ← readInside .document fuel
        set after
        return ⟨arrow.channel, .document, parts⟩
    else if arrow.direction = .duplicate && !mayBeChannel word then
      modify (·.drop 1)
      giveUp .badChannel
    else return ⟨arrow.channel, arrow.direction, withHome word⟩

def readRedirections : Nat → Reader (List Redirection)
  | 0 => giveUp .tooDeep
  | fuel + 1 => do
    modify skipBlanks
    match arrow? (← get) with
    | none => return []
    | some (arrow, rest) =>
      set rest
      let r ← readRedirection arrow fuel
      return r :: (← readRedirections fuel)

def readSimple (c : Simple) : Nat → Reader Simple
  | 0 => giveUp .tooDeep
  | fuel + 1 => do
    modify skipBlanks
    let cs ← get
    match arrow? cs with
    | some (arrow, rest) =>
      set rest
      let r ← readRedirection arrow fuel
      readSimple { c with redirections := c.redirections ++ [r] } fuel
    | none =>
      let word ← readWord fuel
      match word, (if c.words.isEmpty then assignment? word else none) with
      -- A word that is only quotes has a part; no parts are no word.
      | [], _ =>
        if (← get).length = (skipBlanks cs).length then return c else readSimple c fuel
      | _, some a => readSimple { c with assignments := c.assignments ++ [a] } fuel
      | _, none => readSimple { c with words := c.words ++ [withHome word] } fuel

def readSimpleOrFunction : Nat → Reader Command
  | 0 => giveUp .tooDeep
  | fuel + 1 => do
    let start ← get
    let c ← readSimple {} fuel
    match c.words, c.assignments, ← get with
    | [name], [], '(' :: rest =>
      match skipBlanks rest with
      | ')' :: rest =>
        if !isName (literalText name) then giveUp (.badName (String.ofList (literalText name)))
        else
          set (skipToCommand rest)
          return .define (String.ofList (literalText name)) (← readCommand fuel)
      | rest => set rest; refuse "\")\""
    | _, _, _ =>
      if c.words.isEmpty && c.assignments.isEmpty && c.redirections.isEmpty then
        set start
        refuse ""
      else
        return .simple (lineEnds start) c.assignments c.words c.redirections

/-- The patterns of a branch, up to the parenthesis behind them. -/
def readPatterns : Nat → Reader (List Word)
  | 0 => giveUp .tooDeep
  | fuel + 1 => do
    modify skipBlanks
    let word ← readWord fuel
    if word.isEmpty then refuse ""
    else
      modify skipBlanks
      match ← get with
      | '|' :: rest => set rest; return word :: (← readPatterns fuel)
      | ')' :: rest => set rest; return [word]
      | _ => refuse "\")\""

def readBranches : Nat → Reader (List (List Word × Command))
  | 0 => giveUp .tooDeep
  | fuel + 1 => do
    modify skipToCommand
    let cs ← get
    match keyword? cs with
    | some ("esac", rest) => set rest; return []
    | _ =>
      set (match cs with
        | '(' :: rest => rest
        | _ => cs)
      let patterns ← readPatterns fuel
      let body ← readCommands fuel
      match ← get with
      | ';' :: ';' :: rest => set rest; return (patterns, body) :: (← readBranches fuel)
      | _ => expectKeyword "esac"; return [(patterns, body)]

def readWords : Nat → Reader (List Word)
  | 0 => giveUp .tooDeep
  | fuel + 1 => do
    modify skipBlanks
    let word ← readWord fuel
    if word.isEmpty then return [] else return withHome word :: (← readWords fuel)

/-- The rest of a loop over words, from behind its keyword. -/
def readEach : Nat → Reader Command
  | 0 => giveUp .tooDeep
  | fuel + 1 => do
    modify skipBlanks
    match plainWord? (← get) with
    | none => giveUp .badLoopName
    | some (name, rest) =>
      if !isName name.toList then giveUp .badLoopName
      set (skipBlanks rest)
      let ahead := skipToCommand rest
      let words : Option (List Word) ← match plainWord? ahead with
        | some ("in", rest) => set rest; pure (some (← readWords fuel))
        | _ => pure none
      modify skipBlanks
      match ← get with
      | ';' :: rest => set rest
      | _ => pure ()
      expectKeyword "do"
      let body ← readBody fuel
      expectKeyword "done"
      return .each name words body

/-- The rest of a condition, from behind `if` or `elif`, with its end. -/
def readConditional : Nat → Reader Command
  | 0 => giveUp .tooDeep
  | fuel + 1 => do
    let test ← readBody fuel
    expectKeyword "then"
    let yes ← readBody fuel
    modify skipToCommand
    match keyword? (← get) with
    | some ("elif", rest) =>
      set rest
      return .conditional test yes (some (← readConditional fuel))
    | some ("else", rest) =>
      set rest
      let no ← readBody fuel
      expectKeyword "fi"
      return .conditional test yes (some no)
    | _ => expectKeyword "fi"; return .conditional test yes none

def readCompound : Nat → Reader (Option Command)
  | 0 => giveUp .tooDeep
  | fuel + 1 => do
    let cs ← get
    match cs, keyword? cs with
    | '(' :: rest, _ =>
      set rest
      let body ← readBody fuel
      match ← get with
      | ')' :: rest => set rest; return some (.apart body)
      | _ => refuse "\")\""
    | _, some ("\x7b", rest) =>
      set rest
      let body ← readBody fuel
      expectKeyword "\x7d"
      return some body
    | _, some ("if", rest) => set rest; return some (← readConditional fuel)
    | _, some ("for", rest) => set rest; return some (← readEach fuel)
    | _, some ("case", rest) =>
      set (skipBlanks rest)
      let subject ← readWord fuel
      if subject.isEmpty then refuse ""
      else
        modify skipToCommand
        match plainWord? (← get) with
        | some ("in", rest) =>
          set rest
          return some (.choice (withHome subject) (← readBranches fuel))
        | _ => refuse "\"in\""
    | _, some (word, rest) =>
      if word = "while" || word = "until" then
        set rest
        let test ← readBody fuel
        expectKeyword "do"
        let body ← readBody fuel
        expectKeyword "done"
        return some (.loop (word = "while") test body)
      else refuse ""
    | _, none => return none

def readCommand : Nat → Reader Command
  | 0 => giveUp .tooDeep
  | fuel + 1 => do
    modify skipBlanks
    match ← readCompound fuel with
    | none => readSimpleOrFunction fuel
    | some c =>
      let rs ← readRedirections fuel
      return if rs.isEmpty then c else .redirected c rs

def readPipe : Nat → Reader (List Command)
  | 0 => giveUp .tooDeep
  | fuel + 1 => do
    let c ← readCommand fuel
    modify skipBlanks
    match ← get with
    | '|' :: '|' :: _ => return [c]
    | '|' :: rest => set (skipToCommand rest); return c :: (← readPipe fuel)
    | _ => return [c]

def readPipeline : Nat → Reader Command
  | 0 => giveUp .tooDeep
  | fuel + 1 => do
    modify skipBlanks
    match keyword? (← get) with
    | some ("!", rest) =>
      set (skipBlanks rest)
      match keyword? (skipBlanks rest) with
      | some ("!", _) => refuse ""
      | _ => return .negation (← readPipeline fuel)
    | _ =>
      match ← readPipe fuel with
      | [c] => return c
      | cs => return .pipeline cs

/-- Pipelines that depend on the success of those before them, behind the first of them. -/
def readJoined (first : Command) : Nat → Reader Command
  | 0 => giveUp .tooDeep
  | fuel + 1 => do
    modify skipBlanks
    match ← get with
    | '&' :: '&' :: rest =>
      set (skipToCommand rest)
      let second ← readPipeline fuel
      readJoined (.both first second) fuel
    | '|' :: '|' :: rest =>
      set (skipToCommand rest)
      let second ← readPipeline fuel
      readJoined (.either first second) fuel
    | _ => return first

def readCommandList : Nat → Reader (List Command)
  | 0 => giveUp .tooDeep
  | fuel + 1 => do
    modify skipToCommand
    let cs ← get
    let closed := match keyword? cs with
      | some (word, _) => ["then", "else", "elif", "fi", "do", "done", "esac", "\x7d"].contains word
      | none => false
    match cs with
    | [] | ')' :: _ | ';' :: ';' :: _ => return []
    | _ =>
      if closed then return []
      else
        let c ← readJoined (← readPipeline fuel) fuel
        match ← get with
        | ';' :: ';' :: _ => return [c]
        | ';' :: rest => set rest; return c :: (← readCommandList fuel)
        | '&' :: rest => set rest; return .background c :: (← readCommandList fuel)
        | '\n' :: rest => set rest; return c :: (← readCommandList fuel)
        | _ => return [c]

def readCommands : Nat → Reader Command
  | 0 => giveUp .tooDeep
  | fuel + 1 => do return .ofList (← readCommandList fuel)

def readBody : Nat → Reader Command
  | 0 => giveUp .tooDeep
  | fuel + 1 => do
    match ← readCommandList fuel, ← get with
    | [], [] => return .ofList []
    | [], _ => refuse ""
    | cs, _ => return .ofList cs

end

/-- The commands of a line, from here on; `fuel` bounds their number. -/
def readLineFrom (depth : Nat) : Nat → Reader (List Command)
  | 0 => return []
  | fuel + 1 => do
    modify skipBlanks
    match ← get with
    | [] => return []
    | '\n' :: rest => set rest; return []
    | _ =>
      let c ← readJoined (← readPipeline depth) depth
      match ← get with
      | ';' :: ';' :: _ => refuse ""
      | ';' :: rest => set rest; return c :: (← readLineFrom depth fuel)
      | '&' :: rest => set rest; return .background c :: (← readLineFrom depth fuel)
      | '\n' :: rest => set rest; return [c]
      | [] => return [c]
      | _ => refuse ""

/-- The next line of a script with commands on it, and what follows it. Nothing when there is no
such line. -/
def readLine? (source : List Char) : Except Unreadable (Option (Command × List Char)) :=
  match skipToCommand source with
  | [] => .ok none
  | cs => do
    let (line, rest) ← (readLineFrom (16 * cs.length + 64) (cs.length + 1)).run cs
    return some (.ofList line, rest)

end Lettermill.Shell
