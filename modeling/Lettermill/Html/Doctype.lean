import Lettermill.Text.Blank
import Lettermill.Text.Letters
/-! Document type declarations, and which of them ask for the layout rules of old browsers. -/
namespace Lettermill.Html
set_option autoImplicit false
open Text

/-- What a document type declaration says; `forced` marks one that is broken. -/
structure Doctype where
  name : Option String := none
  publicId : Option String := none
  systemId : Option String := none
  forced : Bool := false
  deriving DecidableEq, Repr, Inhabited

namespace Doctype

/-! ## Reading -/

def skipRest (cs : List Char) : List Char := (cs.dropWhile (· != '>')).drop 1

def broken (d : Doctype) (cs : List Char) : Doctype × List Char :=
  ({ d with forced := true }, skipRest cs)

/-- An identifier up to its quote; a bracket or the end of the text inside it breaks the
declaration. -/
def quotedId (quote : Char) (cs : List Char) : String × Bool × List Char :=
  let inner := cs.takeWhile fun c => c != quote && c != '>'
  match cs.drop inner.length with
  | [] => (String.ofList inner, false, [])
  | c :: rest => (String.ofList inner, c == quote, if c == quote then rest else c :: rest)

/-- What stands behind a system identifier: nothing of note up to the bracket. -/
def afterSystem (d : Doctype) (cs : List Char) : Doctype × List Char :=
  match cs.dropWhile isAsciiBlank with
  | [] => ({ d with forced := true }, [])
  | rest => (d, skipRest rest)

def systemAt (d : Doctype) (quote : Char) (cs : List Char) : Doctype × List Char :=
  let (id, closed, rest) := quotedId quote cs
  let d := { d with systemId := some id }
  if closed then d.afterSystem rest else d.broken rest

/-- What stands behind a public identifier: perhaps a system identifier. -/
def afterPublic (d : Doctype) (cs : List Char) : Doctype × List Char :=
  match cs.dropWhile isAsciiBlank with
  | '>' :: rest => (d, rest)
  | '"' :: rest => d.systemAt '"' rest
  | '\'' :: rest => d.systemAt '\'' rest
  | rest => d.broken rest

def publicAt (d : Doctype) (quote : Char) (cs : List Char) : Doctype × List Char :=
  let (id, closed, rest) := quotedId quote cs
  let d := { d with publicId := some id }
  if closed then d.afterPublic rest else d.broken rest

/-- What stands behind the name: perhaps one of the keywords and an identifier. -/
def afterName (d : Doctype) (cs : List Char) : Doctype × List Char :=
  let rest := cs.dropWhile isAsciiBlank
  match rest with
  | '>' :: after => (d, after)
  | _ =>
    match afterLetters? "public".toList rest with
    | some more =>
      match more.dropWhile isAsciiBlank with
      | '"' :: after => d.publicAt '"' after
      | '\'' :: after => d.publicAt '\'' after
      | after => d.broken after
    | none =>
      match afterLetters? "system".toList rest with
      | some more =>
        match more.dropWhile isAsciiBlank with
        | '"' :: after => d.systemAt '"' after
        | '\'' :: after => d.systemAt '\'' after
        | after => d.broken after
      | none => d.broken rest

def read (cs : List Char) : Doctype × List Char :=
  let cs := cs.dropWhile isAsciiBlank
  match cs with
  | [] => ({ forced := true }, [])
  | '>' :: rest => ({ forced := true }, rest)
  | _ =>
    let name := cs.takeWhile fun c => !isAsciiBlank c && c != '>'
    afterName { name := some (String.ofList (lowerChars name)) } (cs.drop name.length)

/-! ## Layout rules -/

def oldPublic : List String :=
  ["-//w3o//dtd w3 html strict 3.0//en//", "-/w3c/dtd html 4.0 transitional/en", "html"]

/-- System identifiers that ask for the old rules, without the scheme in front. -/
def oldSystem : List String := ["//www.ibm.com/data/dtd/v11/ibmxhtml1-transitional.dtd"]

def oldPublicStarts : List String := [
  "-//advasoft ltd//dtd html 3.0 aswedit + extensions//",
  "-//as//dtd html 3.0 aswedit + extensions//",
  "-//ietf//dtd html 2.0 level 1//", "-//ietf//dtd html 2.0 level 2//",
  "-//ietf//dtd html 2.0 strict level 1//", "-//ietf//dtd html 2.0 strict level 2//",
  "-//ietf//dtd html 2.0 strict//", "-//ietf//dtd html 2.0//", "-//ietf//dtd html 2.1e//",
  "-//ietf//dtd html 3.0//", "-//ietf//dtd html 3.2 final//", "-//ietf//dtd html 3.2//",
  "-//ietf//dtd html 3//", "-//ietf//dtd html level 0//", "-//ietf//dtd html level 1//",
  "-//ietf//dtd html level 2//", "-//ietf//dtd html level 3//",
  "-//ietf//dtd html strict level 0//", "-//ietf//dtd html strict level 1//",
  "-//ietf//dtd html strict level 2//", "-//ietf//dtd html strict level 3//",
  "-//ietf//dtd html strict//", "-//ietf//dtd html//",
  "-//metrius//dtd metrius presentational//",
  "-//microsoft//dtd internet explorer 2.0 html strict//",
  "-//microsoft//dtd internet explorer 2.0 html//",
  "-//microsoft//dtd internet explorer 2.0 tables//",
  "-//microsoft//dtd internet explorer 3.0 html strict//",
  "-//microsoft//dtd internet explorer 3.0 html//",
  "-//microsoft//dtd internet explorer 3.0 tables//",
  "-//netscape comm. corp.//dtd html//", "-//netscape comm. corp.//dtd strict html//",
  "-//o'reilly and associates//dtd html 2.0//",
  "-//o'reilly and associates//dtd html extended 1.0//",
  "-//o'reilly and associates//dtd html extended relaxed 1.0//",
  "-//softquad software//dtd hotmetal pro 6.0::19990601::extensions to html 4.0//",
  "-//softquad//dtd hotmetal pro 4.0::19971010::extensions to html 4.0//",
  "-//spyglass//dtd html 2.0 extended//", "-//sq//dtd html 2.0 hotmetal + extensions//",
  "-//sun microsystems corp.//dtd hotjava html//",
  "-//sun microsystems corp.//dtd hotjava strict html//", "-//w3c//dtd html 3 1995-03-24//",
  "-//w3c//dtd html 3.2 draft//", "-//w3c//dtd html 3.2 final//", "-//w3c//dtd html 3.2//",
  "-//w3c//dtd html 3.2s draft//", "-//w3c//dtd html 4.0 frameset//",
  "-//w3c//dtd html 4.0 transitional//", "-//w3c//dtd html experimental 19960712//",
  "-//w3c//dtd html experimental 970421//", "-//w3c//dtd w3 html//", "-//w3o//dtd w3 html 3.0//",
  "-//webtechs//dtd mozilla html 2.0//", "-//webtechs//dtd mozilla html//"]

/-- Beginnings of public identifiers that ask for the old rules when no system identifier comes
along. -/
def frameStarts : List String :=
  ["-//w3c//dtd html 4.01 frameset//", "-//w3c//dtd html 4.01 transitional//"]

def asksForOldRules (d : Doctype) : Bool :=
  let publicId := d.publicId.map lower
  let systemId := d.systemId.map lower
  let startsAs (starts : List String) := match publicId with
    | some id => starts.any fun start => id.startsWith start
    | none => false
  d.forced || d.name != some "html"
    || (match publicId with | some id => oldPublic.contains id | none => false)
    || (match systemId with
      | some id => oldSystem.any fun old => id = "http:" ++ old
      | none => false)
    || startsAs oldPublicStarts || (systemId.isNone && startsAs frameStarts)

end Doctype

end Lettermill.Html
