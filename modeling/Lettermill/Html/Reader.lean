import Lettermill.Html.TableRules
/-! Reading HTML: text is taken apart token by token, each token is dealt with by the rule for where
the reader is, and what the text spells out is kept of the resulting tree. Any text can be read,
unless it is too long or holds a NUL. -/
namespace Lettermill.Html
set_option autoImplicit false

namespace Build
open Construction

/-! ## The end of a document -/

def inTextRule (t : Token) : Rule := do
  let leave : Build Unit := do
    pop
    modify fun s => { s with mode := s.returnTo, content := .data }
  match t with
  | .text text => keepText text
  | .endTag _ => leave; done
  | .eof => leave; return [.eof]
  | _ => done

def afterBodyRule (t : Token) : Rule := do
  let reenter (t : Token) : Rule := again .inBody t
  match t with
  | .text text => byRuns text (fun run => inBodyRule (.text run)) fun run => reenter (.text run)
  | .comment text => addCommentTo ((← get).stack.getLastD Draft.document) text
  | .startTag tag => if tag.name = "html" then mergeRoot tag else reenter t
  | .endTag name => if name = "html" then goTo .afterAfterBody; done else reenter t
  | _ => done

def afterAfterBodyRule (t : Token) : Rule := do
  let reenter (t : Token) : Rule := again .inBody t
  match t with
  | .text text => byRuns text (fun run => inBodyRule (.text run)) fun run => reenter (.text run)
  | .comment text => addCommentTo Draft.document text
  | .startTag tag => if tag.name = "html" then mergeRoot tag else reenter t
  | .endTag _ => reenter t
  | _ => done

def inFramesetRule (t : Token) : Rule := do
  match t with
  | .text text => byRuns text keepText fun _ => done
  | .comment text => addComment text
  | .startTag tag =>
    if tag.name = "html" then mergeRoot tag
    else if tag.name = "frameset" then let _ ← insert tag; done
    else if tag.name = "frame" then let _ ← insertVoid tag; done
    else if tag.name = "noframes" then startRaw tag
    else done
  | .endTag name =>
    if name = "frameset" && (← get).stack.length != 1 then
      pop
      if !(← get).currentIs "frameset" then goTo .afterFrameset
    done
  | _ => done

def afterFramesetRule (t : Token) : Rule := do
  match t with
  | .text text => byRuns text keepText fun _ => done
  | .comment text => addComment text
  | .startTag tag =>
    if tag.name = "html" then mergeRoot tag
    else if tag.name = "noframes" then startRaw tag
    else done
  | .endTag name => if name = "html" then goTo .afterAfterFrameset; done else done
  | _ => done

def afterAfterFramesetRule (t : Token) : Rule := do
  match t with
  | .text text => byRuns text (fun run => inBodyRule (.text run)) fun _ => done
  | .comment text => addCommentTo Draft.document text
  | .startTag tag =>
    if tag.name = "html" then mergeRoot tag
    else if tag.name = "noframes" then startRaw tag
    else done
  | _ => done

/-! ## All rules -/

def ruleFor (mode : Mode) (t : Token) : Rule :=
  match mode with
  | .initial => initialRule t
  | .beforeHtml => beforeHtmlRule t
  | .beforeHead => beforeHeadRule t
  | .inHead => inHeadRule t
  | .afterHead => afterHeadRule t
  | .inBody => inBodyRule t
  | .inText => inTextRule t
  | .inTable => inTableRule t
  | .inTableText => inTableTextRule t
  | .inCaption => inCaptionRule t
  | .inColumnGroup => inColumnGroupRule t
  | .inTableBody => inTableBodyRule t
  | .inRow => inRowRule t
  | .inCell => inCellRule t
  | .inSelect => inSelectRule t
  | .inSelectInTable => inSelectInTableRule t
  | .inTemplate => inTemplateRule t
  | .afterBody => afterBodyRule t
  | .inFrameset => inFramesetRule t
  | .afterFrameset => afterFramesetRule t
  | .afterAfterBody => afterAfterBodyRule t
  | .afterAfterFrameset => afterAfterFramesetRule t

def rule (t : Token) : Rule := do
  let s ← get
  if s.isForeign t then inForeign (fun t => do ruleFor (← get).mode t) t
  else ruleFor s.mode t

/-- Deals with tokens in turn, and first with those that a rule hands back. Every such token costs
one of `fuel`. -/
def settle : Nat → List Token → Build Unit
  | 0, _ => pure ()
  | _, [] => pure ()
  | fuel + 1, t :: rest => do
    let more ← rule t
    settle fuel (more ++ rest)

/-- The line feed that a rule asked to drop is dropped. -/
def withoutNewline (skip : Bool) : Token → Token
  | .text ('\n' :: rest) => if skip then .text rest else .text ('\n' :: rest)
  | t => t

def keepNewline : Build Unit := modify fun s => { s with skipNewline := false }

/-- Deals with a token of the text. Document types only count in front of everything else. Each round
closes an element, moves to another mode or uses up some of the text, so the rounds are bounded by
the three together. -/
def take (t : Token) : Build Unit := do
  let s ← get
  keepNewline
  match withoutNewline s.skipNewline t, s.mode with
  | .text [], _ => pure ()
  | .doctype d, .initial => discard (initialRule (.doctype d))
  | .doctype _, _ => pure ()
  | t, _ =>
    let size := match t with
      | .text chars => chars.length
      | _ => 1
    settle (64 + 4 * (size + s.stack.length)) [t]

def withoutMark : List Char → List Char
  | '\ufeff' :: cs => cs
  | cs => cs

/-- Reads a whole text; each token uses up some of it, so `fuel` is its length. Where the text goes on
behind a script, a byte order mark does not count. -/
def readText : Nat → List Char → Build Unit
  | _, [] => take .eof
  | 0, _ => take .eof
  | fuel + 1, cs => do
    let s ← get
    -- A line feed that is written as a broken reference is never dropped.
    if s.content.hasReferences && Reference.startsUnclosed cs then keepNewline
    let foreign := !s.stack.isEmpty && s.currentName.vocabulary != .html
    let (t, rest) := Token.read s.content foreign cs
    match t with
    | some t => take t
    | none => keepNewline
    match s.content, t with
    | .script, some (.endTag _) => readText fuel (withoutMark rest)
    | _, _ => readText fuel rest

end Build

/-! ## Whole texts -/

def plainLines : List Char → List Char
  | [] => []
  | '\x0d' :: '\n' :: cs => '\n' :: plainLines cs
  | '\x0d' :: cs => '\n' :: plainLines cs
  | c :: cs => c :: plainLines cs

def treesOf (source : String) : List Tree :=
  let cs := plainLines (Build.withoutMark source.toList)
  let (_, s) := (Build.readText cs.length cs).run {}
  s.draft.trees

end Html

inductive InputError where
  | tooLong (size limit : Nat)
  | nul (offset : Nat)
  /-- What is not said by the reader of HTML. -/
  | other (reason : String)
  deriving DecidableEq, Repr

def InputError.message : InputError → String
  | .tooLong size limit =>
    "input is " ++ toString size ++ " bytes, limit is " ++ toString limit ++ " bytes"
  | .nul offset => "input contains a NUL byte at offset " ++ toString offset
  | .other reason => reason

namespace Html

/-- The limit on the length of a text, in bytes, unless another one is set. -/
def defaultLimit : Nat := 5000000

def nulOffset? (source : String) : Option Nat :=
  let front := source.toList.takeWhile (· != '\x00')
  let offset := (String.ofList front).utf8ByteSize
  if offset < source.utf8ByteSize then some offset else none

def refusal? (limit : Nat) (source : String) : Option InputError :=
  if source.utf8ByteSize > limit then some (.tooLong source.utf8ByteSize limit)
  else (nulOffset? source).map .nul

/-- Reads a text of at most `limit` bytes into a document. -/
def read (limit : Nat) (source : String) : Except InputError Document :=
  match refusal? limit source with
  | some e => .error e
  | none => .ok (toDocument (Written.ofSource source) (treesOf (expand source)))

end Html

end Lettermill
