import Lettermill.Html.BodyRules
/-! The rules of tables and selections. Content that a table cannot hold is put in front of it;
blank text stays inside. A part of a table that starts out of turn implies the parts around it. -/
namespace Lettermill.Html
set_option autoImplicit false

namespace Build
open Construction

/-- A rule by which content goes in front of the innermost table. -/
def fostered (rule : Rule) : Rule := do
  modify fun s => { s with fostering := true }
  let tokens ← rule
  modify fun s => { s with fostering := false }
  return tokens

def partTags : List String :=
  ["caption", "col", "colgroup", "tbody", "td", "tfoot", "th", "thead", "tr"]

def groupTags : List String := ["tbody", "tfoot", "thead"]

/-! ## Tables -/

def inTableRule (t : Token) : Rule := do
  match t with
  | .text _ =>
    let s ← get
    if ElementSet.fosters s.currentName then
      set { s with returnTo := s.mode, pending := [] }
      again .inTableText t
    else fostered (inBodyRule t)
  | .comment text => addComment text
  | .startTag tag =>
    let name := tag.name
    if name = "caption" then
      popTo ElementSet.tableScope
      markFormatting
      let _ ← insert tag
      goTo .inCaption
      done
    else if name = "colgroup" then
      popTo ElementSet.tableScope
      let _ ← insert tag
      goTo .inColumnGroup
      done
    else if name = "col" then
      popTo ElementSet.tableScope
      let _ ← insertImplied "colgroup"
      again .inColumnGroup t
    else if groupTags.contains name then
      popTo ElementSet.tableScope
      let _ ← insert tag
      goTo .inTableBody
      done
    else if ["td", "th", "tr"].contains name then
      popTo ElementSet.tableScope
      let _ ← insertImplied "tbody"
      again .inTableBody t
    else if name = "table" then
      -- Tables do not nest by themselves: the open one ends, and the tag is read again.
      if (← get).inScope ElementSet.tableScope "table" then
        popNamed "table"
        resetMode
        return [t]
      else done
    else if ["style", "script", "template"].contains name then headTag tag
    else if name = "input" && isHidden tag then let _ ← insertVoid tag; done
    else if name = "form" then
      let s ← get
      if !s.hasOpen "template" && s.form.isNone then
        let id ← insertVoid tag
        modify fun s => { s with form := some id }
      done
    else fostered (inBodyRule t)
  | .endTag name =>
    if name = "table" then
      if (← get).inScope ElementSet.tableScope "table" then
        popNamed "table"
        resetMode
      done
    else if name = "template" then endTemplate
    else if name = "body" || name = "html" || partTags.contains name then done
    else fostered (inBodyRule t)
  | .eof => inBodyRule t
  | .doctype _ => done

/-- In text inside a table: it is placed once it is complete. -/
def inTableTextRule (t : Token) : Rule := do
  match t with
  | .text text =>
    modify fun s => { s with pending := s.pending ++ text }
    done
  | _ =>
    let s ← get
    set { s with pending := [], mode := s.returnTo }
    if s.pending.all Text.isAsciiBlank then addText s.pending
    else let _ ← fostered (inBodyRule (.text s.pending))
    return [t]

def inCaptionRule (t : Token) : Rule := do
  let leave (asEnd : Bool) : Rule := do
    if (← get).inScope ElementSet.tableScope "caption" then
      closeImplied ElementSet.implied
      popNamed "caption"
      clearFormatting
      goTo .inTable
      return if asEnd then [] else [t]
    else done
  match t with
  | .startTag tag => if partTags.contains tag.name then leave false else inBodyRule t
  | .endTag name =>
    if name = "caption" then leave true
    else if name = "table" then leave false
    else if name = "body" || name = "html" || partTags.contains name then done
    else inBodyRule t
  | t => inBodyRule t

def inColumnGroupRule (t : Token) : Rule := do
  let leave (t : Token) : Rule := do
    if (← get).currentIs "colgroup" then pop; again .inTable t else done
  match t with
  | .text text => byRuns text keepText fun run => leave (.text run)
  | .comment text => addComment text
  | .startTag tag =>
    if tag.name = "html" then mergeRoot tag
    else if tag.name = "col" then let _ ← insertVoid tag; done
    else if tag.name = "template" then headTag tag
    else leave t
  | .endTag name =>
    if name = "colgroup" then
      if (← get).currentIs "colgroup" then pop; goTo .inTable
      done
    else if name = "col" then done
    else if name = "template" then endTemplate
    else leave t
  | .eof => inBodyRule t
  | .doctype _ => done

def inTableBodyRule (t : Token) : Rule := do
  let leave : Rule := do
    let s ← get
    if s.inScopeWhere ElementSet.tableScope fun id =>
        ElementSet.html ["table", "tbody", "tfoot"] (s.draft.nameOf id) then
      popTo ElementSet.rowGroup
      pop
      again .inTable t
    else done
  match t with
  | .startTag tag =>
    if tag.name = "tr" then
      popTo ElementSet.rowGroup
      let _ ← insert tag
      goTo .inRow
      done
    else if tag.name = "th" || tag.name = "td" then
      popTo ElementSet.rowGroup
      let _ ← insertImplied "tr"
      again .inRow t
    else if partTags.contains tag.name then leave
    else inTableRule t
  | .endTag name =>
    if groupTags.contains name then
      if (← get).inScope ElementSet.tableScope name then
        popTo ElementSet.rowGroup
        pop
        goTo .inTable
      done
    else if name = "table" then leave
    else if name = "body" || name = "html" || partTags.contains name then done
    else inTableRule t
  | t => inTableRule t

def inRowRule (t : Token) : Rule := do
  let close : Build Unit := do popTo ElementSet.rowHolder; pop
  let leave : Rule := do
    if (← get).inScope ElementSet.tableScope "tr" then close; again .inTableBody t else done
  match t with
  | .startTag tag =>
    if tag.name = "th" || tag.name = "td" then
      popTo ElementSet.rowHolder
      let _ ← insert tag
      goTo .inCell
      markFormatting
      done
    else if partTags.contains tag.name then leave
    else inTableRule t
  | .endTag name =>
    if name = "tr" then
      if (← get).inScope ElementSet.tableScope "tr" then close; goTo .inTableBody
      done
    else if name = "table" then leave
    else if groupTags.contains name then
      if (← get).inScope ElementSet.tableScope name then leave else done
    else if name = "body" || name = "html" || partTags.contains name then done
    else inTableRule t
  | t => inTableRule t

def inCellRule (t : Token) : Rule := do
  let leave : Rule := do
    closeImplied ElementSet.implied
    popThrough fun s id => ElementSet.cell (s.draft.nameOf id)
    clearFormatting
    again .inRow t
  match t with
  | .startTag tag =>
    let s ← get
    if partTags.contains tag.name then
      if s.inScopeWhere ElementSet.tableScope fun id => ElementSet.cell (s.draft.nameOf id) then
        leave
      else done
    else inBodyRule t
  | .endTag name =>
    if name = "td" || name = "th" then
      if (← get).inScope ElementSet.tableScope name then
        closeImplied ElementSet.implied
        popNamed name
        clearFormatting
        goTo .inRow
      done
    else if ["body", "caption", "col", "colgroup", "html"].contains name then done
    else if ["table", "tbody", "tfoot", "thead", "tr"].contains name then
      if (← get).inScope ElementSet.tableScope name then leave else done
    else inBodyRule t
  | t => inBodyRule t

/-! ## Selections -/

def inSelectRule (t : Token) : Rule := do
  let closeOption : Build Unit := do if (← get).currentIs "option" then pop
  let closeGroup : Build Unit := do if (← get).currentIs "optgroup" then pop
  match t with
  | .text text => keepText text
  | .comment text => addComment text
  | .startTag tag =>
    let name := tag.name
    if name = "html" then mergeRoot tag
    else if name = "option" then closeOption; let _ ← insert tag; done
    else if name = "optgroup" then closeOption; closeGroup; let _ ← insert tag; done
    else if name = "hr" then closeOption; closeGroup; let _ ← insertVoid tag; done
    else if name = "select" then
      if (← get).inScope ElementSet.selectScope "select" then popNamed "select"; resetMode
      done
    else if ["input", "keygen", "textarea"].contains name then
      if (← get).inScope ElementSet.selectScope "select" then
        popNamed "select"
        resetMode
        return [t]
      else done
    else if name = "script" || name = "template" then headTag tag
    else done
  | .endTag name =>
    if name = "optgroup" then
      let s ← get
      match s.stack with
      | _ :: below :: _ => if s.currentIs "option" && s.isHtml "optgroup" below then pop
      | _ => pure ()
      closeGroup
      done
    else if name = "option" then closeOption; done
    else if name = "select" then
      if (← get).inScope ElementSet.selectScope "select" then popNamed "select"; resetMode
      done
    else if name = "template" then endTemplate
    else done
  | .eof => inBodyRule t
  | .doctype _ => done

/-- In a selection inside a table, of which the parts still count. -/
def inSelectInTableRule (t : Token) : Rule := do
  let parts := ["caption", "table", "tbody", "tfoot", "thead", "tr", "td", "th"]
  let leave : Rule := do popNamed "select"; resetMode; return [t]
  match t with
  | .startTag tag => if parts.contains tag.name then leave else inSelectRule t
  | .endTag name =>
    if parts.contains name then
      if (← get).inScope ElementSet.tableScope name then leave else done
    else inSelectRule t
  | t => inSelectRule t

end Build

end Lettermill.Html
