import Lettermill.Shell.Utility.AwkSyntax
/-! Reading programs for records. Operators bind, from the loosest to the tightest: a choice, either,
both, membership, likeness, comparison, joining, sums, products, signs and powers. -/
namespace Lettermill.Shell.Utility
set_option autoImplicit false

/-- Why reading does not go on: at some lexemes, or because of a fault. -/
inductive AwkStuck where
  | before (rest : List AwkLexeme)
  | fault (f : AwkFault)

abbrev AwkReading := Except AwkStuck

abbrev Ahead (α : Type) := α × List AwkLexeme

/-! ## Lexemes -/

def behind? (t : AwkToken) : List AwkLexeme → Option (List AwkLexeme)
  | l :: rest => if l.token = t then some rest else none
  | [] => none

def behind (t : AwkToken) (ls : List AwkLexeme) : AwkReading (List AwkLexeme) :=
  match behind? t ls with
  | some rest => .ok rest
  | none => .error (.before ls)

def skipLineEnds : List AwkLexeme → List AwkLexeme
  | l :: rest => if l.token = .lineEnd then skipLineEnds rest else l :: rest
  | [] => []

def lineAt (ls : List AwkLexeme) : Nat := (ls.head?.map AwkLexeme.line).getD 0

def AwkExpr.isTarget : AwkExpr → Bool
  | .variable _ | .field _ | .element _ _ => true
  | _ => false

def assignmentOf? : AwkToken → Option (Option AwkOperator)
  | .sign "=" => some none
  | .sign "+=" => some (some .plus)
  | .sign "-=" => some (some .minus)
  | .sign "*=" => some (some .times)
  | .sign "/=" => some (some .divide)
  | .sign "%=" => some (some .remainder)
  | .sign "^=" => some (some .power)
  | _ => none

def relationOf? : String → Option AwkRelation
  | "<" => some .less
  | "<=" => some .lessEqual
  | "==" => some .equal
  | "!=" => some .notEqual
  | ">" => some .greater
  | ">=" => some .greaterEqual
  | _ => none

def startsOperand : List AwkLexeme → Bool
  | [] => false
  | l :: _ =>
    match l.token with
    | .number _ | .text _ | .pattern _ | .name _ | .called _ => true
    | .word w => (awkFunctions.lookup w).isSome
    | .sign s => ["$", "(", "++", "--", "!"].contains s
    | .lineEnd => false

def atStatementEnd : List AwkLexeme → Bool
  | [] => true
  | l :: _ => [.sign ";", .sign "\x7d", .lineEnd, .sign ">", .sign ">>", .sign "|"].contains l.token

/-! ## Expressions

A `plain` expression has no comparison for more, whose sign names a file there. -/

def awkLevels : Nat := 8

mutual

def awkExpr : Nat → Bool → List AwkLexeme → AwkReading (Ahead AwkExpr)
  | 0, _, _ => .error (.fault .tooDeep)
  | fuel + 1, plain, ls => do
    let (test, rest) ← awkBinary fuel 1 plain ls
    match behind? (.sign "?") rest with
    | none => return (test, rest)
    | some rest =>
      let (yes, rest) ← awkExpr fuel plain (skipLineEnds rest)
      let rest ← behind (.sign ":") (skipLineEnds rest)
      let (no, rest) ← awkExpr fuel plain (skipLineEnds rest)
      return (.choice test yes no, rest)

def awkBinary : Nat → Nat → Bool → List AwkLexeme → AwkReading (Ahead AwkExpr)
  | 0, _, _, _ => .error (.fault .tooDeep)
  | fuel + 1, level, plain, ls =>
    if awkLevels < level then awkUnary fuel plain ls
    else do
      let (a, rest) ← awkBinary fuel (level + 1) plain ls
      awkBinaryRest fuel level plain a rest

def awkBinaryRest : Nat → Nat → Bool → AwkExpr → List AwkLexeme → AwkReading (Ahead AwkExpr)
  | 0, _, _, _, _ => .error (.fault .tooDeep)
  | fuel + 1, level, plain, a, ls =>
    let further (make : AwkExpr → AwkExpr → AwkExpr) (rest : List AwkLexeme) :
        AwkReading (Ahead AwkExpr) := do
      let (b, rest) ← awkBinary fuel (level + 1) plain rest
      awkBinaryRest fuel level plain (make a b) rest
    let liked (negated : Bool) (rest : List AwkLexeme) : AwkReading (Ahead AwkExpr) := do
      let (b, after) ← awkBinary fuel (level + 1) plain rest
      match b with
      | .text cs =>
        match readAwkPattern cs with
        | .ok r => awkBinaryRest fuel level plain (.like negated a (.pattern r)) after
        | .error fault => .error (.fault (.badPattern (lineAt rest) fault cs))
      | _ => awkBinaryRest fuel level plain (.like negated a b) after
    match ls with
    | [] => .ok (a, ls)
    | l :: rest =>
      match level, l.token with
      | 1, .sign "||" => further .either rest
      | 2, .sign "&&" => further .both rest
      | 3, .word "in" =>
        match rest with
        | ⟨.name x, _⟩ :: rest => awkBinaryRest fuel level plain (.member [a] x) rest
        | _ => .error (.before rest)
      | 4, .sign "~" => liked false rest
      | 4, .sign "!~" => liked true rest
      | 5, .sign s =>
        match relationOf? s with
        | some r => if plain && r = .greater then .ok (a, ls) else further (.compare r) rest
        | none => .ok (a, ls)
      | 6, _ => if startsOperand ls then further .join ls else .ok (a, ls)
      | 7, .sign "+" => further (.binary .plus) rest
      | 7, .sign "-" => further (.binary .minus) rest
      | 8, .sign "*" => further (.binary .times) rest
      | 8, .sign "/" => further (.binary .divide) rest
      | 8, .sign "%" => further (.binary .remainder) rest
      | _, _ => .ok (a, ls)

def awkUnary : Nat → Bool → List AwkLexeme → AwkReading (Ahead AwkExpr)
  | 0, _, _ => .error (.fault .tooDeep)
  | fuel + 1, plain, ls =>
    match ls with
    | ⟨.sign "!", _⟩ :: rest => do
      let (e, rest) ← awkUnary fuel plain rest
      return (.no e, rest)
    | ⟨.sign "-", _⟩ :: rest => do
      let (e, rest) ← awkUnary fuel plain rest
      return (.sign true e, rest)
    | ⟨.sign "+", _⟩ :: rest => do
      let (e, rest) ← awkUnary fuel plain rest
      return (.sign false e, rest)
    | _ => do
      let (a, rest) ← awkOperand fuel plain ls
      match behind? (.sign "^") rest with
      | none => return (a, rest)
      | some rest =>
        let (b, rest) ← awkUnary fuel plain rest
        return (.binary .power a b, rest)

/-- An operand with what is done to it: a step, an assignment, or reading from it as a command. -/
def awkOperand : Nat → Bool → List AwkLexeme → AwkReading (Ahead AwkExpr)
  | 0, _, _ => .error (.fault .tooDeep)
  | fuel + 1, plain, ls => do
    let (a, rest) ← awkAtom fuel ls
    if !a.isTarget then awkPipes fuel a rest
    else match rest with
    | [] => return (a, [])
    | l :: more =>
      match l.token, assignmentOf? l.token with
      | .sign "++", _ => awkPipes fuel (.step .plus true a) more
      | .sign "--", _ => awkPipes fuel (.step .minus true a) more
      | _, some o =>
        let (value, rest) ← awkExpr fuel plain (skipLineEnds more)
        return (.assign o a value, rest)
      | _, none => awkPipes fuel a rest

def awkPipes : Nat → AwkExpr → List AwkLexeme → AwkReading (Ahead AwkExpr)
  | 0, _, _ => .error (.fault .tooDeep)
  | fuel + 1, a, ls =>
    match ls with
    | ⟨.sign "|", _⟩ :: ⟨.word "getline", _⟩ :: rest => do
      let (target, rest) ← awkTarget fuel rest
      awkPipes fuel (.readCommand target a) rest
    | _ => .ok (a, ls)

def awkTarget : Nat → List AwkLexeme → AwkReading (Ahead (Option AwkExpr))
  | 0, _ => .error (.fault .tooDeep)
  | fuel + 1, ls =>
    let read : AwkReading (Ahead (Option AwkExpr)) := do
      let (e, rest) ← awkAtom fuel ls
      return (some e, rest)
    match ls with
    | ⟨.name _, _⟩ :: _ => read
    | ⟨.sign "$", _⟩ :: _ => read
    | _ => .ok (none, ls)

def awkAtom : Nat → List AwkLexeme → AwkReading (Ahead AwkExpr)
  | 0, _ => .error (.fault .tooDeep)
  | fuel + 1, ls =>
    let stepped (o : AwkOperator) (rest : List AwkLexeme) : AwkReading (Ahead AwkExpr) := do
      let (e, after) ← awkAtom fuel rest
      if e.isTarget then return (.step o false e, after) else .error (.before rest)
    match ls with
    | [] => .error (.before [])
    | l :: rest =>
      match l.token with
      | .number x => .ok (.number x, rest)
      | .text cs => .ok (.text cs, rest)
      | .pattern cs =>
        match readAwkPattern cs with
        | .ok r => .ok (.pattern r, rest)
        | .error fault => .error (.fault (.badPattern l.line fault cs))
      | .name x =>
        match behind? (.sign "[") rest with
        | none => .ok (.variable x, rest)
        | some rest => do
          let (keys, rest) ← awkList fuel false rest
          let rest ← behind (.sign "]") rest
          return (.element x keys, rest)
      | .called f => do
        let rest ← behind (.sign "(") rest
        let (args, rest) ← awkArguments fuel rest
        return (.call f args, rest)
      | .word "getline" => do
        let (target, rest) ← awkTarget fuel rest
        match behind? (.sign "<") rest with
        | none => return (.readMain target, rest)
        | some rest =>
          let (path, rest) ← awkAtom fuel rest
          return (.readFile target path, rest)
      | .word w =>
        match awkFunctions.lookup w with
        | none => .error (.before ls)
        | some (least, most) =>
          match behind? (.sign "(") rest with
          | none => if w = "length" then .ok (.builtin w [], rest) else .error (.before rest)
          | some rest => do
            let (args, rest) ← awkArguments fuel rest
            if args.length < least ∨ most < args.length then
              .error (.fault (.wrongCount l.line w))
            else return (.builtin w args, rest)
      | .sign "$" =>
        match rest with
        | ⟨.sign "-", _⟩ :: more => do
          let (e, after) ← awkAtom fuel more
          return (.field (.sign true e), after)
        | _ => do
          let (e, after) ← awkAtom fuel rest
          return (.field e, after)
      | .sign "++" => stepped .plus rest
      | .sign "--" => stepped .minus rest
      | .sign "(" => do
        let (es, rest) ← awkList fuel false rest
        let rest ← behind (.sign ")") rest
        match es, rest with
        | [e], _ =>
          -- Around what can be assigned to, parentheses only matter for what stands behind them.
          return (e, rest)
        | _, ⟨.word "in", _⟩ :: ⟨.name x, _⟩ :: after => return (.member es x, after)
        | _, _ => .error (.before rest)
      | _ => .error (.before ls)

def awkList : Nat → Bool → List AwkLexeme → AwkReading (Ahead (List AwkExpr))
  | 0, _, _ => .error (.fault .tooDeep)
  | fuel + 1, plain, ls => do
    let (e, rest) ← awkExpr fuel plain (skipLineEnds ls)
    match behind? (.sign ",") rest with
    | none => return ([e], rest)
    | some rest =>
      let (es, rest) ← awkList fuel plain rest
      return (e :: es, rest)

def awkArguments : Nat → List AwkLexeme → AwkReading (Ahead (List AwkExpr))
  | 0, _ => .error (.fault .tooDeep)
  | fuel + 1, ls =>
    match behind? (.sign ")") ls with
    | some rest => .ok ([], rest)
    | none => do
      let (es, rest) ← awkList fuel false ls
      let rest ← behind (.sign ")") rest
      return (es, rest)

end

/-! ## Statements -/

structure AwkSetting where
  inFunction : Bool := false
  inLoop : Bool := false
  /-- Is there a record at hand? -/
  inRecord : Bool := true

def awkOptional (fuel : Nat) (ls : List AwkLexeme) : AwkReading (Ahead (Option AwkExpr)) :=
  if atStatementEnd ls then .ok (none, ls)
  else do
    let (e, rest) ← awkExpr fuel false ls
    return (some e, rest)

/-- What is printed: between parentheses or without them. -/
def awkPrinted (fuel : Nat) (ls : List AwkLexeme) : AwkReading (Ahead (List AwkExpr)) :=
  let bare : AwkReading (Ahead (List AwkExpr)) :=
    if atStatementEnd ls then .ok ([], ls) else awkList fuel true ls
  match behind? (.sign "(") ls with
  | none => bare
  | some inside =>
    match awkList fuel false inside with
    | .ok (es, rest) =>
      match behind? (.sign ")") rest with
      | some after => if atStatementEnd after then .ok (es, after) else bare
      | none => bare
    | .error _ => bare

def awkSink (fuel : Nat) (ls : List AwkLexeme) : AwkReading (Ahead (Option (AwkSink × AwkExpr))) :=
  let into (sink : AwkSink) (rest : List AwkLexeme) : AwkReading (Ahead (Option (AwkSink × AwkExpr))) := do
    let (e, rest) ← awkExpr fuel true rest
    return (some (sink, e), rest)
  match ls with
  | ⟨.sign ">", _⟩ :: rest => into .file rest
  | ⟨.sign ">>", _⟩ :: rest => into .append rest
  | ⟨.sign "|", _⟩ :: rest => into .command rest
  | _ => .ok (none, ls)

def awkSimple (setting : AwkSetting) (fuel : Nat) (ls : List AwkLexeme) :
    AwkReading (Ahead AwkStatement) :=
  let value : AwkReading (Ahead AwkStatement) := do
    let (e, rest) ← awkExpr fuel false ls
    return (.value e, rest)
  match ls with
  | ⟨.word "print", _⟩ :: rest => do
    let (args, rest) ← awkPrinted fuel rest
    let (sink, rest) ← awkSink fuel rest
    return (.print args sink, rest)
  | ⟨.word "printf", line⟩ :: rest => do
    let (args, rest) ← awkPrinted fuel rest
    if args.isEmpty then .error (.fault (.nothingToPrint line))
    else
      let (sink, rest) ← awkSink fuel rest
      return (.printf args sink, rest)
  | ⟨.word "next", line⟩ :: rest =>
    if setting.inRecord then .ok (.nextRecord, rest)
    else .error (.fault (.outsideRecord line "next"))
  | ⟨.word "nextfile", line⟩ :: rest =>
    if setting.inRecord then .ok (.nextFile, rest)
    else .error (.fault (.outsideRecord line "nextfile"))
  | ⟨.word "break", line⟩ :: rest =>
    if setting.inLoop then .ok (.breakLoop, rest)
    else .error (.fault (.outsideLoop line "break"))
  | ⟨.word "continue", line⟩ :: rest =>
    if setting.inLoop then .ok (.nextRound, rest)
    else .error (.fault (.outsideLoop line "continue"))
  | ⟨.word "exit", _⟩ :: rest => do
    let (e, rest) ← awkOptional fuel rest
    return (.exit e, rest)
  | ⟨.word "return", line⟩ :: rest =>
    if setting.inFunction then do
      let (e, rest) ← awkOptional fuel rest
      return (.leave e, rest)
    else .error (.fault (.outsideFunction line))
  | ⟨.word "delete", _⟩ :: ⟨.name x, _⟩ :: rest =>
    match behind? (.sign "[") rest with
    | none => .ok (.delete x [], rest)
    | some rest => do
      let (keys, rest) ← awkList fuel false rest
      let rest ← behind (.sign "]") rest
      return (.delete x keys, rest)
  | _ => value

def awkTerminator (ls : List AwkLexeme) : AwkReading (List AwkLexeme) :=
  match ls with
  | ⟨.sign ";", _⟩ :: rest => .ok rest
  | ⟨.lineEnd, _⟩ :: rest => .ok rest
  | ⟨.sign "\x7d", _⟩ :: _ => .ok ls
  | _ => .error (.before ls)

def awkTest (fuel : Nat) (ls : List AwkLexeme) : AwkReading (Ahead AwkExpr) := do
  let rest ← behind (.sign "(") ls
  let (e, rest) ← awkExpr fuel false rest
  let rest ← behind (.sign ")") rest
  return (e, rest)

/-- A simple statement of the head of a loop, unless its end comes first. -/
def awkHeadPart (fuel : Nat) (stop : String) (ls : List AwkLexeme) :
    AwkReading (Ahead (Option AwkStatement)) :=
  match behind? (.sign stop) ls with
  | some rest => .ok (none, rest)
  | none => do
    let (s, rest) ← awkSimple {} fuel ls
    let rest ← behind (.sign stop) rest
    return (some s, rest)

mutual

def awkStatement (setting : AwkSetting) : Nat → List AwkLexeme → AwkReading (Ahead AwkStatement)
  | 0, _ => .error (.fault .tooDeep)
  | fuel + 1, ls =>
    let inLoop : AwkSetting := { setting with inLoop := true }
    match ls with
    | ⟨.sign "\x7b", _⟩ :: rest => awkBlock setting fuel rest
    | ⟨.sign ";", _⟩ :: rest => .ok (.block [], rest)
    | ⟨.word "if", _⟩ :: rest => do
      let (test, rest) ← awkTest fuel rest
      let (yes, rest) ← awkStatement setting fuel (skipLineEnds rest)
      match behind? (.word "else") (skipLineEnds rest) with
      | none => return (.choose test yes none, rest)
      | some rest =>
        let (no, rest) ← awkStatement setting fuel (skipLineEnds rest)
        return (.choose test yes (some no), rest)
    | ⟨.word "while", _⟩ :: rest => do
      let (test, rest) ← awkTest fuel rest
      let (body, rest) ← awkStatement inLoop fuel (skipLineEnds rest)
      return (.loop false test none body, rest)
    | ⟨.word "do", _⟩ :: rest => do
      let (body, rest) ← awkStatement inLoop fuel (skipLineEnds rest)
      let rest ← behind (.word "while") (skipLineEnds rest)
      let (test, rest) ← awkTest fuel rest
      let rest ← awkTerminator rest
      return (.loop true test none body, rest)
    | ⟨.word "for", _⟩ :: ⟨.sign "(", _⟩ :: ⟨.name x, _⟩ :: ⟨.word "in", _⟩ :: ⟨.name array, _⟩
        :: ⟨.sign ")", _⟩ :: rest => do
      let (body, rest) ← awkStatement inLoop fuel (skipLineEnds rest)
      return (.each x array body, rest)
    | ⟨.word "for", _⟩ :: rest => do
      let rest ← behind (.sign "(") rest
      let (start, rest) ← awkHeadPart fuel ";" rest
      let (test, rest) ← awkOptional fuel rest
      let rest ← behind (.sign ";") rest
      let (step, rest) ← awkHeadPart fuel ")" rest
      let (body, rest) ← awkStatement inLoop fuel (skipLineEnds rest)
      let loop : AwkStatement := .loop false (test.getD (.number (Double.ofInt 1))) step body
      return (.block (start.toList ++ [loop]), rest)
    | _ => do
      let (s, rest) ← awkSimple setting fuel ls
      let rest ← awkTerminator rest
      return (s, rest)

def awkBlock (setting : AwkSetting) : Nat → List AwkLexeme → AwkReading (Ahead AwkStatement)
  | 0, _ => .error (.fault .tooDeep)
  | fuel + 1, ls => do
    let (ss, rest) ← awkStatements setting fuel ls
    return (.block ss, rest)

def awkStatements (setting : AwkSetting) : Nat → List AwkLexeme → AwkReading (Ahead (List AwkStatement))
  | 0, _ => .error (.fault .tooDeep)
  | fuel + 1, ls =>
    match behind? (.sign "\x7d") (skipLineEnds ls) with
    | some rest => .ok ([], rest)
    | none => do
      let (s, rest) ← awkStatement setting fuel (skipLineEnds ls)
      let (ss, rest) ← awkStatements setting fuel rest
      return (s :: ss, rest)

end

/-! ## Programs -/

def awkParameters (seen : List String) : List AwkLexeme → AwkReading (Ahead (List String))
  | ⟨.sign ")", _⟩ :: rest => .ok (seen.reverse, rest)
  | ⟨.sign ",", _⟩ :: rest => if seen.isEmpty then .error (.before rest) else awkParameters seen rest
  | ⟨.name x, line⟩ :: rest =>
    if seen.contains x then .error (.fault (.namedTwice line x)) else awkParameters (x :: seen) rest
  | ls => .error (.before ls)

/-- A body, which a rule needs when its condition is the beginning or the end. -/
def awkBody (setting : AwkSetting) (fuel : Nat) (ls : List AwkLexeme) : AwkReading (Ahead AwkStatement) := do
  let rest ← behind (.sign "\x7b") ls
  awkBlock setting fuel rest

/-- The rules and functions of a program; `fuel` bounds how deeply they are nested. -/
def awkProgram : Nat → AwkProgram → List AwkLexeme → AwkReading AwkProgram
  | 0, _, _ => .error (.fault .tooDeep)
  | fuel + 1, p, ls =>
    let rule (trigger : AwkTrigger) (body : Option AwkStatement) : AwkProgram :=
      { p with rules := p.rules ++ [⟨trigger, body⟩] }
    let whole (trigger : AwkTrigger) (rest : List AwkLexeme) : AwkReading AwkProgram := do
      match behind? (.sign "\x7b") rest with
      | some inside =>
        let (body, rest) ← awkBlock {} fuel inside
        awkProgram fuel (rule trigger (some body)) rest
      | none =>
        let rest ← match rest with
          | ⟨.sign ";", _⟩ :: rest => .ok rest
          | ⟨.lineEnd, _⟩ :: rest => .ok rest
          | _ => .error (.before rest)
        awkProgram fuel (rule trigger none) rest
    let define (name : String) (line : Nat) (rest : List AwkLexeme) :
        AwkReading AwkProgram := do
      if (p.functions.lookup name).isSome then .error (.fault (.definedTwice line name))
      else
        let rest ← behind (.sign "(") rest
        let (parameters, rest) ← awkParameters [] rest
        let (body, rest) ← awkBody { inFunction := true } fuel (skipLineEnds rest)
        awkProgram fuel { p with functions := p.functions ++ [(name, ⟨parameters, body⟩)] } rest
    match skipLineEnds ls with
    | [] => .ok p
    | l :: rest =>
      match l.token, rest with
      | .sign ";", _ => if p.rules.isEmpty then .error (.before (l :: rest)) else awkProgram fuel p rest
      | .word "BEGIN", _ => do
        let (body, rest) ← awkBody { inRecord := false } fuel rest
        awkProgram fuel (rule .atStart (some body)) rest
      | .word "END", _ => do
        let (body, rest) ← awkBody { inRecord := false } fuel rest
        awkProgram fuel (rule .atEnd (some body)) rest
      | .word "function", ⟨.called name, line⟩ :: rest => define name line rest
      | .word "function", ⟨.name name, line⟩ :: rest => define name line rest
      | .word "func", ⟨.called name, line⟩ :: rest => define name line rest
      | .sign "\x7b", _ => whole .always (l :: rest)
      | _, _ => do
        let (first, rest) ← awkExpr fuel false (l :: rest)
        match behind? (.sign ",") rest with
        | none => whole (.when first) rest
        | some rest =>
          let (last, rest) ← awkExpr fuel false rest
          whole (.between first last) rest

def surplus (opening closing : String) (ls : List AwkLexeme) : Nat :=
  let count (s : String) : Nat := (ls.filter fun l => l.token = .sign s).length
  count opening - count closing

/-- The fault of a program whose reading stops before some lexemes. -/
def awkFaultBefore (lines : Nat) (all rest : List AwkLexeme) : AwkFault :=
  let done := all.take (all.length - rest.length)
  let parentheses := surplus "(" ")" done
  let braces := surplus "\x7b" "\x7d" done
  match rest with
  | [] =>
    if parentheses ≠ 0 then .missing lines ")" "end of line"
    else if braces ≠ 0 then .missing (lines + 1) "\x7d" "end of file"
    else .near lines "end of line"
  | l :: _ =>
    match l.token with
    | .sign ")" => if parentheses = 0 then .extra l.line ")" else .near l.line ")"
    | .sign "\x7d" =>
      if parentheses ≠ 0 then .missing l.line ")" "\x7d"
      else if braces = 0 then .extra l.line "\x7d"
      else .near l.line "\x7d"
    | .lineEnd =>
      if parentheses ≠ 0 then .missing l.line ")" "end of line" else .near l.line "end of line"
    | t => .near l.line t.shown

def readAwk (source : List Char) : Except AwkFault AwkProgram := do
  let source := source ++ ['\n']
  let lines := (source.filter (· == '\n')).length
  let ls ← awkLexemes (source.length + 1) .lineEnd 1 source
  match awkProgram (30 * ls.length + 100) {} ls with
  | .error (.fault f) => .error f
  | .error (.before rest) => .error (awkFaultBefore lines ls rest)
  | .ok p =>
    match ls.findSome? fun l => match l.token with
      | .called f => if (p.functions.lookup f).isSome then none else some f
      | _ => none with
    | some f => .error (.undefinedFunction (lines + 1) f)
    | none => .ok p

end Lettermill.Shell.Utility
