import Lettermill.Proofs.Converter.RawText
import Lettermill.Proofs.Html.Source
import Lettermill.Proofs.Transform.Component
/-! Expanding printed markup. The scan over a source meets the tags and comments of a printed tree one
by one: it takes each component without children as one tag that closes itself and copies everything
else, since text and values hold no opening bracket. `Becomes a b` says what the scan makes of a piece
of source wherever the piece stands; every piece of printed markup has a rule, and rules compose. Main
statement: expanding the markup of a tree gives the markup in which every component without children
has an end tag. -/
namespace Lettermill
set_option autoImplicit false
open Text

namespace Html

/-! ## Names -/

/-- May `c` stand in the name of an element, behind its first letter? -/
def isElementChar (c : Char) : Bool := ('a' ≤ c && c ≤ 'z') || isDigit c || c == '-'

/-- A word of small letters, digits and hyphens that starts with a letter. -/
def IsElementName (name : String) : Prop :=
  (∃ c ∈ name.toList.head?, 'a' ≤ c ∧ c ≤ 'z') ∧ ∀ c ∈ name.toList, isElementChar c = true

/-- Would a tag of this name be taken for that of a script or a style sheet? A hyphen ends a word. -/
def StartsRaw (name : String) : Prop :=
  ∃ raw ∈ ["script".toList, "style".toList], name.toList = raw ∨ raw ++ ['-'] <+: name.toList

/-- A word without blanks, quotes, brackets, slashes and equals signs. -/
def IsAttributeName (name : String) : Prop :=
  name ≠ "" ∧ ∀ c ∈ name.toList, isNameChar c = true ∧ c ≠ '<'

instance (name : String) : Decidable (IsElementName name) :=
  decidable_of_iff
    ((name.toList.head?.any fun c => 'a' ≤ c ∧ c ≤ 'z') = true
      ∧ name.toList.all isElementChar = true)
    (by rw [Option.any_eq_true, List.all_eq_true]; simp [IsElementName])

instance (name : String) : Decidable (IsAttributeName name) :=
  @instDecidableAnd _ _ _ (List.decidableBAll _ _)

instance (name : String) : Decidable (StartsRaw name) :=
  inferInstanceAs (Decidable (∃ raw ∈ ["script".toList, "style".toList],
    name.toList = raw ∨ raw ++ ['-'] <+: name.toList))

/-- The names that the expansion knows: `mjml`, and `mj-` with something behind it. -/
def isExpandable (name : String) : Bool := Component.isComponent name && name != "mj-"

theorem ascii_of_isElementChar {c : Char} (h : isElementChar c = true) : c.toNat < 128 := by
  simp only [isElementChar, Bool.or_eq_true, Bool.and_eq_true, decide_eq_true_eq, beq_iff_eq] at h
  rcases h with (⟨-, h⟩ | h) | rfl
  · have hle : c.toNat ≤ 122 := h
    omega
  · exact toNat_of_isDigit h
  · decide

theorem elementChar_spec {c : Char} (h : isElementChar c = true) :
    foldChar c = c ∧ isBlank c = false ∧ isComponentChar c = true ∧ (c ≠ '-' → isWordChar c = true)
      ∧ c ≠ '/' ∧ c ≠ '>' ∧ c ≠ '<' := by
  have hall := of_ascii (q := fun c => foldChar c == c && !isBlank c && isComponentChar c
    && (c == '-' || isWordChar c) && c != '/' && c != '>' && c != '<')
    (by decide +kernel) (ascii_of_isElementChar h) h
  simp only [Bool.and_eq_true, Bool.or_eq_true, beq_iff_eq, Bool.not_eq_true', bne_iff_ne] at hall
  obtain ⟨⟨⟨⟨⟨⟨hfold, hblank⟩, hcomponent⟩, hword⟩, hslash⟩, hclose⟩, hopen⟩ := hall
  exact ⟨hfold, hblank, hcomponent, fun hne => hword.resolve_left hne, hslash, hclose, hopen⟩

section
variable {name : String} (h : IsElementName name)
include h

theorem IsElementName.isTagName : IsTagName name.toList := by
  obtain ⟨⟨c, hc, hlow, hhigh⟩, hall⟩ := h
  refine ⟨⟨c, hc, by simp [isLetter, hlow, hhigh]⟩, fun d hd => ?_⟩
  obtain ⟨-, hblank, -, -, hslash, hclose, hopen⟩ := elementChar_spec (hall d hd)
  exact ⟨hblank, hslash, hclose, hopen⟩

theorem IsElementName.map_foldChar {word more : List Char} (hword : name.toList = word ++ more) :
    word.map foldChar = word := by
  refine (List.map_congr_left fun c hc => ?_).trans (List.map_id word)
  exact (elementChar_spec (h.2 c (by rw [hword]; exact List.mem_append_left _ hc))).1

theorem IsElementName.startsRaw {raw : List Char} (hraw : raw ∈ rawNames)
    (hopens : OpensRaw raw name.toList) : StartsRaw name := by
  obtain ⟨word, more, hword, hname, hends⟩ := hopens
  rw [h.map_foldChar hname] at hword
  subst hword
  refine ⟨word, hraw, ?_⟩
  cases more with
  | nil => exact .inl (by rw [hname, List.append_nil])
  | cons c more =>
    have hc : c = '-' := by
      by_contra hne
      have hmem : c ∈ name.toList := by rw [hname]; simp
      simp [wordEnds, (elementChar_spec (h.2 c hmem)).2.2.2.1 hne] at hends
    subst hc
    exact .inr ⟨more, by rw [hname]; simp⟩

end

/-! ## Component tags -/

theorem isExpandable_iff {name : String} : isExpandable name = true
    ↔ name.toList = "mjml".toList ∨ ∃ more, more ≠ [] ∧ name.toList = "mj-".toList ++ more := by
  rw [isExpandable, Bool.and_eq_true, Component.isComponent_iff, bne_iff_ne]
  constructor
  · rintro ⟨rfl | ⟨more, hmore⟩, hne⟩
    · exact .inl rfl
    · refine .inr ⟨more, ?_, hmore.symm⟩
      rintro rfl
      exact hne (String.toList_inj.mp (hmore.symm.trans (by decide)))
  · rintro (h | ⟨more, hmore, h⟩)
    · rw [String.toList_inj.mp h]
      exact ⟨.inl rfl, by decide⟩
    · refine ⟨.inr ⟨more, h.symm⟩, ?_⟩
      rintro rfl
      exact hmore (List.append_cancel_left (h.symm.trans (by decide : _ = "mj-".toList ++ [])))

theorem isComponentName_iff {name : String} (h : IsElementName name) :
    IsComponentName name.toList ↔ isExpandable name = true := by
  rw [isExpandable_iff, IsComponentName, h.map_foldChar (List.append_nil _).symm]
  refine or_congr_right ⟨?_, ?_⟩
  · rintro ⟨front, more, hfront, hne, hname, -⟩
    rw [h.map_foldChar hname] at hfront
    exact ⟨more, hne, by rw [hname, hfront]⟩
  · rintro ⟨more, hne, hname⟩
    refine ⟨_, more, by decide, hne, hname, fun c hc => ?_⟩
    exact (elementChar_spec (h.2 c (by rw [hname]; exact List.mem_append_right _ hc))).2.2.1

/-! ## Printed tags -/

section
open Markup
variable {name : String} {attributes : Attributes}

/-- Names that keep a tag from being taken for an opaque span, or for a tag in several pieces. -/
structure Expands (name : String) (attributes : Attributes) : Prop where
  element : IsElementName name
  opens : ¬ StartsRaw name
  named : ∀ key ∈ attributes.keys, IsAttributeName key

instance (name : String) (attributes : Attributes) : Decidable (Expands name attributes) :=
  decidable_of_iff
    (IsElementName name ∧ ¬ StartsRaw name ∧ ∀ key ∈ attributes.keys, IsAttributeName key)
    ⟨fun h => ⟨h.1, h.2.1, h.2.2⟩, fun h => ⟨h.element, h.opens, h.named⟩⟩

/-- A tag as it is printed: one blank in front of each attribute, and escaped values. -/
def printedTag (name : String) (attributes : Attributes) (closed : Bool) : SpelledTag where
  name := name.toList
  attributes := (valuesOf attributes).map fun v => ⟨[' '], v.1.toList, some ⟨[], [], v.2.toList⟩⟩
  gap := if closed then [' '] else []
  closed := closed

theorem attributesText_printed (closed : Bool) :
    attributesText (printedTag name attributes closed).attributes
      = writtenValues (valuesOf attributes) := by
  rw [attributesText, writtenValues, printedTag, List.flatMap_map]
  refine congrArg (List.flatMap · _) (funext fun v => ?_)
  simp [SpelledAttribute.text, writtenValue]

theorem toList_startTag :
    (startTag name attributes).toList = (printedTag name attributes false).text := by
  rw [SpelledTag.text, attributesText_printed]
  simp [startTag, String.toList_append, toList_attributes, SpelledTag.ending, printedTag]

theorem toList_selfClosing :
    (selfClosing name attributes).toList = (printedTag name attributes true).text := by
  rw [SpelledTag.text, attributesText_printed]
  simp [selfClosing, String.toList_append, toList_attributes, SpelledTag.ending, printedTag]

theorem Expands.isSound (h : Expands name attributes) (closed : Bool) :
    (printedTag name attributes closed).IsSound where
  name := h.element.isTagName
  attributes := by
    intro a ha
    obtain ⟨v, hv, rfl⟩ := List.mem_map.mp ha
    obtain ⟨e, he, rfl⟩ := List.mem_map.mp hv
    have hname := h.named e.1 (List.mem_map_of_mem he)
    have hne : e.1.toList ≠ [] := fun hnil => hname.1 (String.toList_inj.mp hnil)
    refine ⟨by simp, by simp [isAsciiBlank], hne, hname.2, ?_, ?_⟩
    · rintro v hv c hc
      obtain rfl := Option.some.inj hv
      simp at hc
    · rintro v hv
      obtain rfl := Option.some.inj hv
      dsimp only
      exact quote_not_mem_escape e.2
  gap := by cases closed <;> simp [printedTag, isAsciiBlank]

theorem Expands.inert (closed : Bool) : ∀ v ∈ (printedTag name attributes closed).values, Inert v := by
  intro v hv
  obtain ⟨a, ha, hvalue⟩ := List.mem_filterMap.mp hv
  obtain ⟨v, hv, rfl⟩ := List.mem_map.mp ha
  obtain ⟨e, he, rfl⟩ := List.mem_map.mp hv
  obtain rfl := Option.some.inj hvalue
  refine .of_plain ?_
  dsimp only
  exact bracket_not_mem_escapeAttribute e.2

theorem Expands.becomes (h : Expands name attributes) (closed : Bool) :
    Becomes (printedTag name attributes closed).text
      (if isExpandable name = true ∧ closed = true then (printedTag name attributes closed).expanded
        else (printedTag name attributes closed).text) := by
  have hraw : ∀ raw ∈ rawNames, ¬ OpensRaw raw name.toList := fun raw hmem hopens =>
    h.opens (h.element.startsRaw hmem hopens)
  have hwalked : ∀ v ∈ (Span.tag (printedTag name attributes closed)).walked, Inert v := by
    rw [Span.walked]
    split
    · simp
    · exact Expands.inert closed
  have hsound : (Span.tag (printedTag name attributes closed)).IsSound := ⟨h.isSound closed, hraw⟩
  have hbecomes := Span.becomes hsound hwalked
  have hexpanded : (Span.tag (printedTag name attributes closed)).expanded
      = if isExpandable name = true ∧ closed = true then (printedTag name attributes closed).expanded
        else (printedTag name attributes closed).text :=
    if_congr (and_congr_left' (isComponentName_iff h.element)) rfl rfl
  rw [hexpanded] at hbecomes
  exact hbecomes

theorem becomes_start (h : Expands name attributes) :
    Becomes (startTag name attributes).toList (startTag name attributes).toList := by
  have hbecomes := h.becomes false
  rw [if_neg (by simp), ← toList_startTag] at hbecomes
  exact hbecomes

theorem becomes_end (h : IsElementName name) :
    Becomes (endTag name).toList (endTag name).toList := by
  have hlist : (endTag name).toList = '<' :: '/' :: (name.toList ++ ['>']) := by
    simp [endTag, String.toList_append]
  have hname : '<' ∉ name.toList := fun hc => (h.isTagName.2 _ hc).2.2.2 rfl
  rw [hlist]
  exact becomes_mark (by simp [hname]) (by simp) (by simp) (by simp; decide)

theorem becomes_selfClosing (h : Expands name attributes) :
    Becomes (selfClosing name attributes).toList
      (if isExpandable name = true then full name attributes ""
        else selfClosing name attributes).toList := by
  have hbecomes := h.becomes true
  have hout : (full name attributes "").toList = (printedTag name attributes true).expanded := by
    rw [SpelledTag.expanded, attributesText_printed]
    simp [full, writtenOut, String.toList_append, toList_attributes, printedTag]
  rw [← hout, ← toList_selfClosing] at hbecomes
  by_cases hexp : isExpandable name = true
  · simpa [hexp] using hbecomes
  · simpa [hexp] using hbecomes

end

end Html

open Html Markup

/-! ## Printed trees -/

mutual

/-- The markup of a node in which a component without children is a start tag and an end tag. -/
def Node.writtenOut : Node → String
  | .element name attributes children =>
    match children with
    | [] =>
      if isExpandable name = true then full name attributes "" else selfClosing name attributes
    | child :: rest => full name attributes (child.writtenOut ++ writtenOutAll rest)
  | .text content => escapeText content
  | .comment content => "<!--" ++ content ++ "-->"

def writtenOutAll : List Node → String
  | [] => ""
  | node :: rest => node.writtenOut ++ writtenOutAll rest

end

/-- A node whose own markup the scan reads as what it is. Texts, values and comments may look like
tags. -/
def Node.CanExpand : Node → Prop
  | .element name attributes _ => Expands name attributes
  | .text _ => True
  | .comment content => ¬ commentEnd <:+: content.toList

instance : DecidablePred Node.CanExpand
  | .element name attributes _ => inferInstanceAs (Decidable (Expands name attributes))
  | .text _ => inferInstanceAs (Decidable True)
  | .comment content => inferInstanceAs (Decidable (¬ commentEnd <:+: content.toList))

mutual

theorem Node.becomes_writtenOut (n : Node) (h : ∀ m ∈ n.subtree, m.CanExpand) :
    Becomes n.markup.toList n.writtenOut.toList := by
  match n with
  | .element name attributes [] =>
    have hown : Expands name attributes := h _ (List.mem_cons_self ..)
    rw [Node.markup, Node.writtenOut]
    exact becomes_selfClosing hown
  | .element name attributes (child :: rest) =>
    obtain ⟨hown, hall⟩ := List.forall_mem_cons.mp h
    rw [subtreeAll, List.forall_mem_append] at hall
    have hchild := child.becomes_writtenOut hall.1
    have hrest := becomes_writtenOutAll rest hall.2
    rw [Node.markup, Node.writtenOut, full_eq, full_eq]
    simp only [String.toList_append]
    exact ((becomes_start hown).append (hchild.append hrest)).append (becomes_end hown.element)
  | .text content => exact Becomes.of_plain (bracket_not_mem_escapeText content)
  | .comment content =>
    have hown : ¬ commentEnd <:+: content.toList := h _ (List.mem_singleton_self _)
    rw [Node.markup, Node.writtenOut, String.toList_append, String.toList_append, List.append_assoc]
    exact becomes_comment hown

theorem becomes_writtenOutAll (ns : List Node) (h : ∀ m ∈ subtreeAll ns, m.CanExpand) :
    Becomes (markupAll ns).toList (writtenOutAll ns).toList := by
  match ns with
  | [] => exact .nil
  | n :: ns =>
    rw [subtreeAll, List.forall_mem_append] at h
    rw [markupAll, writtenOutAll, String.toList_append, String.toList_append]
    exact (n.becomes_writtenOut h.1).append (becomes_writtenOutAll ns h.2)

end

/-- **Expanding undoes the short form of components, and only that.** The source that a tree is
printed as is expanded to the markup of the tree in which each component without children has an end
tag. -/
theorem Element.expand_outerMarkup {e : Element} (h : ∀ m ∈ e.toNode.subtree, m.CanExpand) :
    expand e.outerMarkup = e.toNode.writtenOut :=
  (e.toNode.becomes_writtenOut h).expand

/-- Components with and without children beside other elements, a comment and a text that look like a
component, a value with the end of a tag in it, and two names that only begin like a component's. -/
theorem Element.expand_outerMarkup_letter :
    expand (⟨"mjml", ∅, [.element "mj-head" ∅ [], .comment " <mj-raw/> --",
        .element "mj-body" ∅ [.element "mj-image" (Dict.ofList [("alt", "\"/>"), ("mj-é", "")]) [],
          .text "<mj-raw />", .element "br" ∅ [], .element "mj-" ∅ [], .element "mjml-x" ∅ []]]⟩
        : Element).outerMarkup
      = "<mjml><mj-head></mj-head><!-- <mj-raw/> ----><mj-body>"
        ++ "<mj-image alt=\"&quot;/&gt;\" mj-é=\"\"></mj-image>"
        ++ "&lt;mj-raw /&gt;<br /><mj- /><mjml-x /></mj-body></mjml>" :=
  (Element.expand_outerMarkup (by decide +kernel)).trans (by decide +kernel)

end Lettermill
