import Lettermill.Html.HeadRules
/-! The rules of the body, for start tags, end tags, text and the end of the input. Tables,
selections and templates fall back on them. -/
namespace Lettermill.Html
set_option autoImplicit false

namespace Build
open Construction

/-! ## Kinds of tags -/

/-- Blocks: they end an open paragraph and may hold others of their kind. -/
def blockTags : List String := [
  "address", "article", "aside", "blockquote", "center", "details", "dialog", "dir", "div", "dl",
  "fieldset", "figcaption", "figure", "footer", "header", "hgroup", "main", "menu", "nav", "ol",
  "p", "search", "section", "summary", "ul"]

def blockEnds : List String := [
  "address", "article", "aside", "blockquote", "button", "center", "details", "dialog", "dir",
  "div", "dl", "fieldset", "figcaption", "figure", "footer", "header", "hgroup", "listing", "main",
  "menu", "nav", "ol", "pre", "search", "section", "summary", "ul"]

def headingTags : List String := ["h1", "h2", "h3", "h4", "h5", "h6"]

/-- Formatting elements, links and unbreakable text aside. -/
def formattingTags : List String :=
  ["b", "big", "code", "em", "font", "i", "s", "small", "strike", "strong", "tt", "u"]

/-- Elements that formatting does not reach into. -/
def islandTags : List String := ["applet", "marquee", "object"]

def voidTags : List String := ["area", "br", "embed", "img", "input", "keygen", "wbr"]

def innerVoidTags : List String := ["param", "source", "track"]

/-- Parts of tables and documents, which mean nothing in a body. -/
def strayTags : List String := [
  "caption", "col", "colgroup", "frame", "head", "tbody", "td", "tfoot", "th", "thead", "tr"]

def isHidden (tag : Tag) : Bool :=
  tag.attrs.any fun a => a.1 = "type" && Text.lower a.2 = "hidden"

/-! ## Start tags -/

def startPlain (tag : Tag) : Rule := do reopenFormatting; let _ ← insert tag; done

def startBlock (tag : Tag) : Rule := do endParagraph; let _ ← insert tag; done

def startVoid (tag : Tag) : Rule := do
  reopenFormatting
  let _ ← insertVoid tag
  if !(tag.name = "input" && isHidden tag) then noFrameset
  done

/-- Closes the innermost open item that the start of another one ends. -/
def endOpenItem (names : List String) : Build Unit := do
  let s ← get
  let outside := s.stack.dropWhile fun id =>
    let name := s.draft.nameOf id
    !ElementSet.html names name && !ElementSet.specialBlock name
  match outside with
  | [] => pure ()
  | id :: _ =>
    let name := s.draft.nameOf id
    if ElementSet.html names name then
      closeImplied (ElementSet.impliedBut name.name)
      popNamed name.name

/-- An item of a list or a glossary. -/
def startItem (names : List String) (tag : Tag) : Rule := do
  noFrameset
  endOpenItem names
  endParagraph
  let _ ← insert tag
  done

def startFrameset (tag : Tag) : Rule := do
  let s ← get
  match s.framesetOk, s.bodyElement? with
  | true, some body =>
    onDraft fun d => d.detach body
    modify fun s => { s with stack := s.stack.drop (s.stack.length - 1) }
    let _ ← insert tag
    goTo .inFrameset
    done
  | _, _ => done

/-- Another `body` tag, which only brings attributes. -/
def mergeBody (tag : Tag) : Rule := do
  let s ← get
  match s.bodyElement? with
  | some body =>
    if !s.hasOpen "template" then
      noFrameset
      onDraft fun d => d.addMissing body tag.attrs
  | none => pure ()
  done

def startForm (tag : Tag) : Rule := do
  let s ← get
  let inTemplate := s.hasOpen "template"
  if s.form.isNone || inTemplate then
    endParagraph
    let id ← insert tag
    if !inTemplate then modify fun s => { s with form := some id }
  done

def startSelect (tag : Tag) : Rule := do
  reopenFormatting
  let _ ← insert tag
  noFrameset
  let inTable := match (← get).mode with
    | .inTable | .inCaption | .inTableBody | .inRow | .inCell => true
    | _ => false
  goTo (if inTable then .inSelectInTable else .inSelect)
  done

def startTable (tag : Tag) : Rule := do
  if !(← get).oldRules then endParagraph
  let _ ← insert tag
  noFrameset
  goTo .inTable
  done

def startInBody (tag : Tag) : Rule := do
  let name := tag.name
  if name = "html" then mergeRoot tag
  else if headTags.contains name then headTag tag
  else if name = "body" then mergeBody tag
  else if name = "frameset" then startFrameset tag
  else if blockTags.contains name then startBlock tag
  else if headingTags.contains name then
    endParagraph
    if ElementSet.heading (← get).currentName then pop
    let _ ← insert tag
    done
  else if name = "pre" || name = "listing" then
    endParagraph
    let _ ← insert tag
    modify fun s => { s with skipNewline := true }
    noFrameset
    done
  else if name = "form" then startForm tag
  else if name = "li" then startItem ["li"] tag
  else if name = "dd" || name = "dt" then startItem ["dd", "dt"] tag
  else if name = "plaintext" then
    endParagraph
    let _ ← insert tag
    modify fun s => { s with content := .plain }
    done
  else if name = "button" then
    if (← get).inScope ElementSet.scope "button" then
      closeImplied ElementSet.implied
      popNamed "button"
    reopenFormatting
    let _ ← insert tag
    noFrameset
    done
  else if name = "a" then endOpenLink; reopenFormatting; insertFormatting tag; done
  else if formattingTags.contains name then reopenFormatting; insertFormatting tag; done
  else if name = "nobr" then
    reopenFormatting
    if (← get).inScope ElementSet.scope "nobr" then
      endFormatting "nobr"
      reopenFormatting
    insertFormatting tag
    done
  else if islandTags.contains name then
    reopenFormatting
    let _ ← insert tag
    markFormatting
    noFrameset
    done
  else if name = "table" then startTable tag
  else if voidTags.contains name then startVoid tag
  else if innerVoidTags.contains name then let _ ← insertVoid tag; done
  else if name = "hr" then endParagraph; let _ ← insertVoid tag; noFrameset; done
  else if name = "image" then startVoid { tag with name := "img" }
  else if name = "textarea" then
    modify fun s => { s with skipNewline := true }
    noFrameset
    startEscapable tag
  else if name = "xmp" then endParagraph; reopenFormatting; noFrameset; startRaw tag
  else if name = "iframe" then noFrameset; startRaw tag
  else if name = "noembed" || name = "noscript" then startRaw tag
  else if name = "select" then startSelect tag
  else if name = "optgroup" || name = "option" then
    if (← get).currentIs "option" then pop
    startPlain tag
  else if name = "rb" || name = "rtc" then
    if (← get).inScope ElementSet.scope "ruby" then closeImplied ElementSet.implied
    let _ ← insert tag
    done
  else if name = "rp" || name = "rt" then
    if (← get).inScope ElementSet.scope "ruby" then closeImplied (ElementSet.impliedBut "rtc")
    let _ ← insert tag
    done
  else if name = "math" then enterForeign .mathml tag
  else if name = "svg" then enterForeign .svg tag
  else if strayTags.contains name then done
  else startPlain tag

/-! ## End tags -/

def endInScope (name : String) : Build Bool := do
  if (← get).inScope ElementSet.scope name then
    closeImplied ElementSet.implied
    popNamed name
    return true
  else return false

def endForm : Rule := do
  let s ← get
  if s.hasOpen "template" then
    let _ ← endInScope "form"
    done
  else
    set { s with form := none }
    match s.form with
    | some form =>
      if s.inScopeWhere ElementSet.scope (· = form) then
        closeImplied ElementSet.implied
        removeOpen form
    | none => pure ()
    done

/-- The end of a list item, with all that is implied in it but its like. -/
def endItem (bound : ElementSet) (name : String) : Rule := do
  if (← get).inScope bound name then
    closeImplied (ElementSet.impliedBut name)
    popNamed name
  done

def endInBody (name : String) : Rule := do
  if name = "template" then endTemplate
  else if name = "body" then
    if (← get).inScope ElementSet.scope "body" then goTo .afterBody
    done
  else if name = "html" then
    if (← get).inScope ElementSet.scope "body" then again .afterBody (.endTag name) else done
  else if blockEnds.contains name then let _ ← endInScope name; done
  else if name = "form" then endForm
  else if name = "p" then
    if !(← get).inScope ElementSet.buttonScope "p" then
      let _ ← insertImplied "p"
    closeParagraph
    done
  else if name = "li" then endItem ElementSet.listScope name
  else if name = "dd" || name = "dt" then endItem ElementSet.scope name
  else if headingTags.contains name then
    let s ← get
    if s.inScopeWhere ElementSet.scope fun id => ElementSet.heading (s.draft.nameOf id) then
      closeImplied ElementSet.implied
      popThrough fun s id => ElementSet.heading (s.draft.nameOf id)
    done
  else if formattingTags.contains name || name = "a" || name = "nobr" then
    endFormatting name
    done
  else if islandTags.contains name then
    if ← endInScope name then clearFormatting
    done
  else if name = "br" then startVoid { name }
  else endAny name; done

/-! ## The body and templates -/

/-- The end of the input inside templates: the innermost one is closed. -/
def endInTemplate : Rule := do
  if (← get).hasOpen "template" then
    popNamed "template"
    clearFormatting
    modify fun s => { s with templateModes := s.templateModes.drop 1 }
    resetMode
    return [.eof]
  else done

def inBodyRule (t : Token) : Rule :=
  match t with
  | .text text => do
    reopenFormatting
    if text.any fun c => !Text.isAsciiBlank c then noFrameset
    keepText text
  | .comment text => addComment text
  | .startTag tag => startInBody tag
  | .endTag name => endInBody name
  | .doctype _ => done
  | .eof => do if (← get).templateModes.isEmpty then done else endInTemplate

/-- In a template: the first tag says what it holds. -/
def inTemplateRule (t : Token) : Rule :=
  let holds (mode : Mode) : Rule := do
    modify fun s => { s with templateModes := mode :: s.templateModes.drop 1 }
    again mode t
  match t with
  | .startTag tag =>
    if headTags.contains tag.name then headTag tag
    else if ["caption", "colgroup", "tbody", "tfoot", "thead"].contains tag.name then holds .inTable
    else if tag.name = "col" then holds .inColumnGroup
    else if tag.name = "tr" then holds .inTableBody
    else if tag.name = "td" || tag.name = "th" then holds .inRow
    else holds .inBody
  | .endTag name => if name = "template" then endTemplate else done
  | .eof => endInTemplate
  | t => inBodyRule t

end Build

end Lettermill.Html
