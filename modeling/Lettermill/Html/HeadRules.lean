import Lettermill.Html.Foreign
import Lettermill.Html.Formatting
/-! The rules up to the body: the document type, the implied skeleton, what a head holds, and the
end of templates, which can stand anywhere. -/
namespace Lettermill.Html
set_option autoImplicit false

namespace Build
open Construction

/-- Gives the root the attributes of another `html` tag, unless a template is open. -/
def mergeRoot (tag : Tag) : Rule := do
  let s ← get
  if !s.hasOpen "template" then
    match s.stack.getLast? with
    | some root => onDraft fun d => d.addMissing root tag.attrs
    | none => pure ()
  done

def insertRoot (attrs : List (String × String)) : Build Unit := do
  let id ← makeElement { name := "html" } attrs
  onDraft fun d => d.append Draft.document id
  push id

def headVoid : List String := ["base", "basefont", "bgsound", "link", "meta"]

/-- Tags that belong into a head wherever they stand. -/
def headTags : List String :=
  headVoid ++ ["noframes", "script", "style", "template", "title"]

def impliesBody (name : String) : Bool := ["head", "body", "html", "br"].contains name

def initialRule (t : Token) : Rule :=
  match t with
  | .text text =>
    byRuns text (fun _ => done) fun run => do
      modify fun s => { s with oldRules := true }
      again .beforeHtml (.text run)
  | .comment text => addCommentTo Draft.document text
  | .doctype d => do
    let id ← makePart (.doctype d)
    onDraft fun draft => draft.append Draft.document id
    modify fun s => { s with oldRules := d.asksForOldRules }
    goTo .beforeHtml
    done
  | t => do
    modify fun s => { s with oldRules := true }
    again .beforeHtml t

def beforeHtmlRule (t : Token) : Rule :=
  let imply (t : Token) : Rule := do insertRoot []; again .beforeHead t
  match t with
  | .text text => byRuns text (fun _ => done) fun run => imply (.text run)
  | .comment text => addCommentTo Draft.document text
  | .startTag tag =>
    if tag.name = "html" then do insertRoot tag.attrs; goTo .beforeHead; done else imply t
  | .endTag name => if impliesBody name then imply t else done
  | .doctype _ => done
  | .eof => imply t

def beforeHeadRule (t : Token) : Rule :=
  let enter (id : PartId) : Build Unit := modify fun s => { s with head := some id }
  let imply (t : Token) : Rule := do enter (← insertImplied "head"); again .inHead t
  match t with
  | .text text => byRuns text (fun _ => done) fun run => imply (.text run)
  | .comment text => addComment text
  | .startTag tag =>
    if tag.name = "html" then mergeRoot tag
    else if tag.name = "head" then do enter (← insert tag); goTo .inHead; done
    else imply t
  | .endTag name => if impliesBody name then imply t else done
  | .doctype _ => done
  | .eof => imply t

def endTemplate : Rule := do
  if (← get).hasOpen "template" then
    closeImplied ElementSet.impliedThoroughly
    popNamed "template"
    clearFormatting
    modify fun s => { s with templateModes := s.templateModes.drop 1 }
    resetMode
  done

def startTemplate (tag : Tag) : Rule := do
  let _ ← insert tag
  markFormatting
  noFrameset
  modify fun s => { s with mode := .inTemplate, templateModes := .inTemplate :: s.templateModes }
  done

def headTag (tag : Tag) : Rule :=
  if headVoid.contains tag.name then do let _ ← insertVoid tag; done
  else if tag.name = "title" then startEscapable tag
  else if tag.name = "script" then startText tag .script
  else if tag.name = "template" then startTemplate tag
  else startRaw tag

def inHeadRule (t : Token) : Rule :=
  let leave (t : Token) : Rule := do pop; again .afterHead t
  match t with
  | .text text => byRuns text keepText fun run => leave (.text run)
  | .comment text => addComment text
  | .startTag tag =>
    if tag.name = "html" then mergeRoot tag
    else if headTags.contains tag.name || tag.name = "noscript" then headTag tag
    else if tag.name = "head" then done
    else leave t
  | .endTag name =>
    if name = "head" then do pop; goTo .afterHead; done
    else if name = "template" then endTemplate
    else if impliesBody name then leave t
    else done
  | .doctype _ => done
  | .eof => leave t

def afterHeadRule (t : Token) : Rule :=
  let imply (t : Token) : Rule := do let _ ← insertImplied "body"; again .inBody t
  match t with
  | .text text => byRuns text keepText fun run => imply (.text run)
  | .comment text => addComment text
  | .startTag tag =>
    if tag.name = "html" then mergeRoot tag
    else if tag.name = "body" then do let _ ← insert tag; noFrameset; goTo .inBody; done
    else if tag.name = "frameset" then do let _ ← insert tag; goTo .inFrameset; done
    else if headTags.contains tag.name then do
      -- The element goes into the head that was closed already.
      match (← get).head with
      | some head => do
        push head
        let tokens ← headTag tag
        removeOpen head
        return tokens
      | none => headTag tag
    else if tag.name = "head" then done
    else imply t
  | .endTag name =>
    if name = "template" then endTemplate
    else if impliesBody name && name != "head" then imply t
    else done
  | .doctype _ => done
  | .eof => imply t

end Build

end Lettermill.Html
