import Lettermill.Proofs.Converter.Draft
import Lettermill.Proofs.Document.Printer
/-! What becomes of a text inside an embedded mail document. An element of the mail document is
written in a frame that does not depend on it, and its text is written in escaped form, whatever the
element is called. Main statement: the element is written with its text as it stands exactly when the
text holds none of the characters that are escaped; a script or a style sheet that holds one of them
comes out changed. -/
namespace Lettermill
set_option autoImplicit false
open Markup

/-! ## The frame of an element -/

namespace Markup

/-- A start tag. -/
def startTag (tag : String) (attrs : Attributes) : String := "<" ++ tag ++ attributes attrs ++ ">"

/-- An end tag. -/
def endTag (tag : String) : String := "</" ++ tag ++ ">"

theorem full_eq (tag : String) (attrs : Attributes) (content : String) :
    full tag attrs content = startTag tag attrs ++ content ++ endTag tag := by
  simp only [full, startTag, endTag, String.append_assoc]

end Markup

/-- What is written of nodes before the element at a position. -/
def markupBefore (nodes : List Node) : Path → String
  | [] => ""
  | [i] => markupAll (nodes.take i)
  | i :: next :: path =>
    match nodes[i]? with
    | some (.element name attributes children) =>
      markupAll (nodes.take i) ++ startTag name attributes ++ markupBefore children (next :: path)
    | _ => ""

/-- What is written of nodes after the element at a position. -/
def markupAfter (nodes : List Node) : Path → String
  | [] => ""
  | [i] => markupAll (nodes.drop (i + 1))
  | i :: next :: path =>
    match nodes[i]? with
    | some (.element name _ children) =>
      markupAfter children (next :: path) ++ endTag name ++ markupAll (nodes.drop (i + 1))
    | _ => ""

theorem markupAll_append (front back : List Node) :
    markupAll (front ++ back) = markupAll front ++ markupAll back := by
  induction front with
  | nil => exact String.empty_append.symm
  | cons node rest ih => rw [List.cons_append, markupAll, markupAll, ih, String.append_assoc]

theorem markupAll_at (front back : List Node) (node : Node) :
    markupAll (front ++ node :: back) = markupAll front ++ node.markup ++ markupAll back := by
  rw [markupAll_append, markupAll, String.append_assoc]

theorem Node.markup_full (name : String) (attributes : Attributes) {children : List Node}
    (h : children ≠ []) : (Node.element name attributes children).markup
      = startTag name attributes ++ markupAll children ++ endTag name := by
  rw [Node.markup_element, if_neg h, full_eq]

theorem ne_nil_of_elementAt? {nodes : List Node} {path : Path} {e : Element}
    (h : elementAt? nodes path = some e) : nodes ≠ [] := by
  rintro rfl
  match path with
  | [] => cases h
  | [_] => cases h
  | _ :: _ :: _ => cases h

theorem markupAll_eq_framed {path : Path} : ∀ {nodes : List Node} {e : Element},
    elementAt? nodes path = some e →
    markupAll nodes = markupBefore nodes path ++ e.outerMarkup ++ markupAfter nodes path := by
  induction path with
  | nil => intro nodes e h; cases h
  | cons k path ih =>
    intro nodes e h
    obtain ⟨front, node, back, rfl, rfl, ⟨rfl, rfl⟩ |
      ⟨j, q, own, attributes, children, rfl, rfl, hin⟩⟩ := elementAt?_split h
    · rw [markupBefore, markupAfter, List.take_left, ← List.drop_drop, List.drop_left]
      exact markupAll_at front back e.toNode
    · have hat : (front ++ Node.element own attributes children :: back)[front.length]?
          = some (.element own attributes children) := by
        rw [List.getElem?_append_right (Nat.le_refl _), Nat.sub_self]
        rfl
      rw [markupBefore, markupAfter, hat, List.take_left, ← List.drop_drop, List.drop_left,
        markupAll_at, Node.markup_full own attributes (ne_nil_of_elementAt? hin), ih hin]
      simp only [String.append_assoc]
      rfl

namespace Element

/-- What is written of an element before the one at a position below it. -/
def before (e : Element) (place : Path) : String :=
  startTag e.name e.attributes ++ markupBefore e.children place

/-- What is written of an element after the one at a position below it. -/
def behind (e : Element) (place : Path) : String :=
  markupAfter e.children place ++ endTag e.name

theorem outerMarkup_eq_framed {e inner : Element} {place : Path}
    (h : elementAt? e.children place = some inner) :
    e.outerMarkup = e.before place ++ inner.outerMarkup ++ e.behind place := by
  have hown : e.outerMarkup = startTag e.name e.attributes ++ markupAll e.children ++ endTag e.name :=
    Node.markup_full e.name e.attributes (ne_nil_of_elementAt? h)
  rw [hown, markupAll_eq_framed h, before, behind]
  simp only [String.append_assoc]

theorem outerMarkup_of_text (name : String) (attributes : Attributes) (s : String) :
    (⟨name, attributes, [.text s]⟩ : Element).outerMarkup
      = full name attributes (escapeText s) := by
  have hone : markupAll [.text s] = escapeText s := by
    rw [markupAll, markupAll, Node.markup]
    exact String.append_empty
  rw [outerMarkup, toNode, Node.markup_full name attributes (List.cons_ne_nil _ _), hone, full_eq]

end Element

theorem Markup.full_inj {tag : String} {attrs : Attributes} {a b : String} :
    full tag attrs a = full tag attrs b ↔ a = b := by
  rw [full_eq, full_eq, String.append_left_inj, String.append_right_inj]

namespace Converter

/-- **A text inside a mail document is written in escaped form.** Where a mail document passes
through, an element in it that only holds a text stands in its frame with the text escaped. This is
the text itself just when none of its characters is one of `&`, `<` and `>`. -/
theorem convertDetailed_escapes_text (c : Converter) (options : Options) (html : String)
    (d : Document) (root : Element) (place : Path) (name : String) (attributes : Attributes)
    (s : String) (hread : c.parse html = .ok d)
    (hfind : (options.rooted d).find? "mjml" = some root)
    (hat : elementAt? root.children place = some ⟨name, attributes, [.text s]⟩)
    (hoff : options.validateOutput = false ∨ options.validatePassthrough = false) :
    ∃ conversion, c.convertDetailed options html = .ok conversion ∧ conversion.kind = .mjml ∧
      conversion.output
        = root.before place ++ full name attributes (escapeText s) ++ root.behind place ∧
      (conversion.output = root.before place ++ full name attributes s ++ root.behind place
        ↔ s.toList.all isPlain = true) := by
  rw [Document.find?, Option.map_eq_some_iff] at hfind
  obtain ⟨⟨path, found⟩, hloc, rfl⟩ := hfind
  have hkept : ∀ warnings, Draft.isToCompile
      { markup := Text.trim found.outerMarkup, passedThrough := true, warnings } options = false := by
    intro warnings
    rcases hoff with h | h <;> simp [Draft.isToCompile, h]
  have hout : Text.trim found.outerMarkup
      = found.before place ++ full name attributes (escapeText s) ++ found.behind place := by
    rw [found.bracketed_outerMarkup.trim, Element.outerMarkup_eq_framed hat,
      Element.outerMarkup_of_text]
  refine ⟨_, convertDetailed_of_kept hread (draft_of_some hloc) (hkept _), rfl, hout, ?_⟩
  dsimp only
  rw [hout, String.append_left_inj, String.append_right_inj, full_inj, escapeText_eq_self_iff]

/-- A script with an ampersand in it, beside a style sheet. -/
theorem convertDetailed_escapes_script :
    let mail : Element := ⟨"mjml", ∅, [.element "style" ∅ [.text ".a"],
      .element "mj-raw" ∅ [.element "script" ∅ [.text "a && b"]]]⟩
    ∃ conversion, Converter.convertDetailed { parse := fun _ => .ok ⟨[mail.toNode]⟩ }
        { validateOutput := false, wrapContent := false } "" = .ok conversion ∧
      conversion.output = "<mjml><style>.a</style><mj-raw><script>a &amp;&amp; b</script>"
        ++ "</mj-raw></mjml>" ∧
      conversion.output ≠ "<mjml><style>.a</style><mj-raw><script>a && b</script>"
        ++ "</mj-raw></mjml>" := by
  intro mail
  have hname : Text.sameLetters "mjml" "mjml" = true := beq_self_eq_true _
  have hfind : (⟨[mail.toNode]⟩ : Document).find? "mjml" = some mail := by
    simp [mail, Element.toNode, Document.find?, Document.locate?, locateAmong?, Node.locate?, hname]
  obtain ⟨conversion, hok, -, hout, hiff⟩ := convertDetailed_escapes_text
    { parse := fun _ => .ok ⟨[mail.toNode]⟩ } { validateOutput := false, wrapContent := false } ""
    ⟨[mail.toNode]⟩ mail [1, 0] "script" ∅ "a && b" rfl hfind rfl (.inl rfl)
  refine ⟨conversion, hok, hout.trans (by decide +kernel), fun h => ?_⟩
  exact absurd (hiff.mp (h.trans (by decide +kernel))) (by decide +kernel)

/-- A style sheet with a child combinator does not come out as it went in. -/
theorem convertDetailed_changes_sheet :
    ∃ conversion, Converter.convertDetailed {} { validateOutput := false }
        "<mjml><style>a > b \x7b\x7d</style></mjml>" = .ok conversion ∧
      ¬ "<style>a > b \x7b\x7d</style>".toList <:+: conversion.output.toList := by
  refine ⟨{ output := "<mjml><style>a &gt; b \x7b\x7d</style></mjml>", kind := .mjml }, ?_, ?_⟩
  · decide +kernel
  · decide +kernel

end Converter

end Lettermill
