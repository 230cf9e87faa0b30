import Lettermill.Proofs.Html.Value
/-! What the expansion does to a source. A source is made of texts, comments, scripts and styles, tags,
and other marks. The scan takes the comments, scripts and styles whole and writes out the tags of
components that close themselves. Everything else it walks through character by character, and that
includes the values of all other tags: a value stays as it is when nothing that the scan looks for
begins in it, and a value that closes the tag's attributes is expanded as if it were a source. -/
namespace Lettermill.Html
set_option autoImplicit false
open Text

/-! ## Scanning -/

/-- The scan turns `a` into `b` wherever it starts on it, and goes on with what follows. -/
def Becomes (a b : List Char) : Prop :=
  ∀ fuel rest, (a ++ rest).length ≤ fuel →
    ∃ left, rest.length ≤ left ∧ expandWith fuel (a ++ rest) = b ++ expandWith left rest

theorem Becomes.nil : Becomes [] [] := fun fuel _ h => ⟨fuel, h, rfl⟩

theorem Becomes.append {a b c d : List Char} (h : Becomes a b) (k : Becomes c d) :
    Becomes (a ++ c) (b ++ d) := by
  intro fuel rest hfuel
  rw [List.append_assoc] at hfuel ⊢
  obtain ⟨middle, hmiddle, hfront⟩ := h fuel (c ++ rest) hfuel
  obtain ⟨left, hleft, hback⟩ := k middle rest hmiddle
  exact ⟨left, hleft, by rw [hfront, hback, List.append_assoc]⟩

theorem Becomes.of_found {a b : List Char}
    (h : ∀ rest, expandStep ('<' :: (a ++ rest)) = some (b, rest)) : Becomes ('<' :: a) b := by
  intro fuel rest hfuel
  cases fuel with
  | zero => simp at hfuel
  | succ fuel =>
    refine ⟨fuel, ?_, ?_⟩
    · simp only [List.cons_append, List.length_cons, List.length_append] at hfuel
      omega
    · rw [List.cons_append, expandWith, if_pos rfl, h]

theorem Becomes.of_other {c : Char} (h : c ≠ '<') : Becomes [c] [c] := by
  intro fuel rest hfuel
  cases fuel with
  | zero => simp at hfuel
  | succ fuel =>
    refine ⟨fuel, Nat.le_of_succ_le_succ hfuel, ?_⟩
    rw [List.singleton_append, expandWith, if_neg h, List.singleton_append]

theorem Becomes.of_plain {a : List Char} (h : '<' ∉ a) : Becomes a a := by
  induction a with
  | nil => exact .nil
  | cons c a ih =>
    rw [List.mem_cons, not_or] at h
    exact (Becomes.of_other fun e => h.1 e.symm).append (ih h.2)

theorem Becomes.of_none {a b : List Char} (h : ∀ rest, expandStep ('<' :: (a ++ rest)) = none)
    (k : Becomes a b) : Becomes ('<' :: a) ('<' :: b) := by
  intro fuel rest hfuel
  cases fuel with
  | zero => simp at hfuel
  | succ fuel =>
    rw [List.cons_append] at hfuel
    obtain ⟨left, hleft, hrest⟩ := k fuel rest (Nat.le_of_succ_le_succ hfuel)
    exact ⟨left, hleft, by rw [List.cons_append, expandWith, if_pos rfl, h, hrest]; rfl⟩

theorem Becomes.expand {a b : String} (h : Becomes a.toList b.toList) : expand a = b := by
  have hlength : (a.toList ++ []).length ≤ a.length := by
    rw [List.append_nil]
    exact Nat.le_of_eq String.length_toList
  obtain ⟨left, -, hscan⟩ := h a.length [] hlength
  rw [List.append_nil] at hscan
  have hnil : expandWith left [] = [] := by cases left <;> rfl
  rw [Html.expand, hscan, hnil, List.append_nil, String.ofList_toList]

/-! ## Comments -/

theorem through_comment {content : List Char} (h : ¬ commentEnd <:+: content) (rest : List Char) :
    through commentEnd? (content ++ (commentEnd ++ rest)) = (content ++ commentEnd, rest) := by
  induction content with
  | nil => rfl
  | cons c content ih =>
    have hnone : commentEnd? (c :: content ++ (commentEnd ++ rest)) = none := by
      rw [commentEnd?.eq_def]
      split
      · next found heq =>
        have hempty := commentEnd_rest h heq.symm
        cases hempty
      · rfl
    have hinner : ¬ commentEnd <:+: content := fun hi => h (List.infix_cons hi)
    rw [List.cons_append, through]
    rw [List.cons_append] at hnone
    rw [hnone, ih hinner]
    rfl

theorem becomes_comment {content : List Char} (h : ¬ commentEnd <:+: content) :
    Becomes ("<!--".toList ++ (content ++ commentEnd)) ("<!--".toList ++ (content ++ commentEnd)) := by
  refine Becomes.of_found (a := "!--".toList ++ (content ++ commentEnd)) fun rest => ?_
  have hafter : after? "<!--".toList ('<' :: ("!--".toList ++ (content ++ commentEnd) ++ rest))
      = some (content ++ (commentEnd ++ rest)) := by
    simp [after?]
  rw [expandStep, opaqueSpan?, commentSpan?, hafter]
  simp only [through_comment h]
  rfl

/-! ## Raw elements -/

/-- Does the end tag of `raw` begin somewhere in the text? -/
def HoldsEnd (raw cs : List Char) : Prop :=
  ∃ word back, word.map foldChar = '<' :: '/' :: raw ∧ word ++ back <:+ cs

section
variable {raw : List Char} (hraw : raw ∈ rawNames)
include hraw

theorem bracket_not_mem_of_mem_rawNames : '<' ∉ '/' :: raw := by
  have hall : ∀ raw ∈ rawNames, '<' ∉ '/' :: raw := by decide
  exact hall raw hraw

theorem rawEnd?_none {cs s rest : List Char} (h : ¬ HoldsEnd raw cs) (hs : s ≠ []) (hsuffix : s <:+ cs)
    (hrest : ∀ c ∈ rest.head?, c = '<') : rawEnd? raw (s ++ rest) = none := by
  have hnone : afterFolded? ('<' :: '/' :: raw) s = none := by
    rw [Option.eq_none_iff_forall_ne_some]
    intro back hback
    obtain ⟨word, hword, rfl⟩ := afterFolded?_eq_some_iff.mp hback
    exact h ⟨word, back, hword, hsuffix⟩
  have hstop : ∀ c ∈ rest.head?, foldChar c ∉ '/' :: raw := by
    rintro c hc
    rw [hrest c hc]
    exact bracket_not_mem_of_mem_rawNames hraw
  obtain ⟨c, s, rfl⟩ := List.exists_cons_of_ne_nil hs
  have hopen : afterFolded? ('<' :: '/' :: raw) (c :: s ++ rest) = none := by
    rw [afterFolded?] at hnone
    rw [List.cons_append, afterFolded?]
    split
    · next hfold =>
      rw [if_pos hfold] at hnone
      rw [afterFolded?_append hstop, hnone]
      rfl
    · rfl
  rw [rawEnd?, hopen]

theorem opaqueSpan?_start {t : SpelledTag} (ht : t.IsSound) (hopens : OpensRaw raw t.name) :
    ∃ front back, t.text = front ++ back
      ∧ ∀ rest, opaqueSpan? (t.text ++ rest)
          = some (front ++ (through (rawEnd? raw) (back ++ rest)).1,
              (through (rawEnd? raw) (back ++ rest)).2) := by
  obtain ⟨word, more, hword, hname, hends⟩ := hopens
  have hbracket : '>' ∈ more ++ (attributesText t.attributes ++ t.ending) := by
    have hlast : '>' ∈ t.ending := by
      rw [SpelledTag.ending]
      cases t.closed <;> simp
    simp [hlast]
  obtain ⟨inTag, back, hcut, hinTag⟩ := List.eq_append_cons_of_mem hbracket
  have htext : t.text = '<' :: (word ++ (inTag ++ '>' :: back)) := by
    rw [SpelledTag.text, hname, List.append_assoc, hcut]
  refine ⟨'<' :: (word ++ (inTag ++ ['>'])), back, by simp [htext], fun rest => ?_⟩
  have hwhole : t.text ++ rest = '<' :: (word ++ (inTag ++ '>' :: (back ++ rest))) := by
    simp [htext]
  have hends' : wordEnds (inTag ++ '>' :: (back ++ rest)) = true := by
    have hmore : wordEnds (more ++ (attributesText t.attributes ++ t.ending ++ rest))
        = wordEnds more := wordEnds_name (ht.leaves_name rest).endsWord
    have hsame : more ++ (attributesText t.attributes ++ t.ending ++ rest)
        = inTag ++ '>' :: (back ++ rest) := by
      rw [← List.append_assoc, hcut]
      simp
    rw [hsame, hends] at hmore
    exact hmore
  have hspan : rawSpan? raw (t.text ++ rest)
      = some ('<' :: (word ++ (inTag ++ ['>'])) ++ (through (rawEnd? raw) (back ++ rest)).1,
          (through (rawEnd? raw) (back ++ rest)).2) := by
    have hfolded : ('<' :: word).map foldChar = '<' :: raw := congrArg (List.cons '<') hword
    rw [hwhole, ← List.cons_append, rawSpan?_front hfolded, if_pos hends', cutOnce?_front hinTag]
    simp
  have hcomment : commentSpan? (t.text ++ rest) = none := by
    have hnamed : commentSpan?
        ('<' :: (t.name ++ (attributesText t.attributes ++ t.ending ++ rest))) = none :=
      commentSpan?_name ht.name
    simpa [SpelledTag.text] using hnamed
  have hnames : raw = "script".toList ∨ raw = "style".toList := by simpa [rawNames] using hraw
  rw [opaqueSpan?, hcomment]
  rcases hnames with rfl | rfl
  · rw [hspan]
    rfl
  · have hother : afterFolded? ('<' :: "script".toList) (t.text ++ rest) = none := by
      rw [Option.eq_none_iff_forall_ne_some]
      intro after hafter
      obtain ⟨other, hother, hsame⟩ := afterFolded?_eq_some_iff.mp hafter
      have hfolded := congrArg (List.map foldChar) (hwhole.symm.trans hsame)
      simp [hother, hword] at hfolded
    have hscript : rawSpan? "script".toList (t.text ++ rest) = none := by rw [rawSpan?, hother]
    rw [hscript, hspan]
    rfl

section
variable {t : SpelledTag} (ht : t.IsSound) (hopens : OpensRaw raw t.name) {content : List Char}
  (hcontent : ¬ HoldsEnd raw (t.text ++ content))
include ht hopens hcontent

/-- A raw element without an end tag goes on to the end of the source. -/
theorem expandStep_unclosed : expandStep (t.text ++ content) = some (t.text ++ content, []) := by
  obtain ⟨front, back, htext, hspan⟩ := opaqueSpan?_start hraw ht hopens
  have hthrough : through (rawEnd? raw) (back ++ content ++ []) = (back ++ content ++ [], []) := by
    refine through_of_none fun s hs hsuffix => ?_
    refine rawEnd?_none hraw hcontent hs (hsuffix.trans ?_) (by simp)
    rw [htext, List.append_assoc]
    exact List.suffix_append front _
  rw [List.append_nil] at hthrough
  rw [expandStep, hspan, hthrough, htext, List.append_assoc]

theorem expandStep_raw {close gap : List Char} (hclose : close.map foldChar = raw)
    (hgap : ∀ c ∈ gap, isAsciiBlank c = true) (rest : List Char) :
    expandStep (t.text ++ (content ++ '<' :: '/' :: (close ++ gap ++ '>' :: rest)))
      = some (t.text ++ (content ++ '<' :: '/' :: (close ++ gap ++ ['>'])), rest) := by
  obtain ⟨front, back, htext, hspan⟩ := opaqueSpan?_start hraw ht hopens
  have hblank : ∀ c ∈ gap, isBlank c = true := fun c hc => isBlank_of_isAsciiBlank (hgap c hc)
  have hstops : Stops isBlank ('>' :: rest) := (stops_cons ..).mpr (by decide)
  have hlength : close.length = raw.length := by simpa using congrArg List.length hclose
  have hopen : afterFolded? ('<' :: '/' :: raw) ('<' :: '/' :: (close ++ gap ++ '>' :: rest))
      = some (gap ++ '>' :: rest) := by
    refine afterFolded?_eq_some_iff.mpr ⟨'<' :: '/' :: close, ?_, by simp⟩
    rw [List.map_cons, List.map_cons, hclose]
    rfl
  have hend : rawEnd? raw ('<' :: '/' :: (close ++ gap ++ '>' :: rest))
      = some ('<' :: '/' :: (close ++ gap ++ ['>']), rest) := by
    rw [rawEnd?, hopen]
    simp only [dropWhile_run hblank hstops, takeWhile_run hblank hstops]
    rw [← hlength, List.take_succ_cons, List.take_succ_cons, List.append_assoc close,
      List.take_left]
    simp
  have hthrough : through (rawEnd? raw) (back ++ content ++ '<' :: '/' :: (close ++ gap ++ '>' :: rest))
      = (back ++ content ++ '<' :: '/' :: (close ++ gap ++ ['>']), rest) := by
    rw [through_of_none, through, hend]
    intro s hs hsuffix
    refine rawEnd?_none hraw hcontent hs (hsuffix.trans ?_) (by simp)
    rw [htext, List.append_assoc]
    exact List.suffix_append front _
  rw [expandStep, hspan, ← List.append_assoc back, hthrough, htext]
  simp

end

end

/-! ## The parts of a source -/

/-- A part of a source: a text without brackets, a bracket that opens neither a tag nor a comment with
what follows it, a comment, a raw element, or a tag. -/
inductive Span where
  | plain (content : List Char)
  | mark (content : List Char)
  | comment (content : List Char)
  | raw (name : List Char) (start : SpelledTag) (content close gap : List Char)
  | tag (t : SpelledTag)

instance : DecidablePred IsComponentName := fun name =>
  decidable_of_iff (componentName? name = some (name, []))
    ⟨fun h => (componentName?_eq_some h).1, componentName?_self⟩

namespace Span

def text : Span → List Char
  | plain content => content
  | mark content => '<' :: content
  | comment content => "<!--".toList ++ (content ++ commentEnd)
  | raw _ start content close gap =>
    start.text ++ (content ++ '<' :: '/' :: (close ++ gap ++ ['>']))
  | tag t => t.text

/-- A component's tag that closes itself gets an end tag; every other part stays as it is. -/
def expanded : Span → List Char
  | tag t => if IsComponentName t.name ∧ t.closed = true then t.expanded else t.text
  | part => part.text

def IsSound : Span → Prop
  | plain content => '<' ∉ content
  | mark content =>
    '<' ∉ content ∧ ¬ "!--".toList <+: content ∧ ¬ content <+: "!--".toList
      ∧ ∀ c ∈ content.head?, isLetter (foldChar c) = false
  | comment content => ¬ commentEnd <:+: content
  | raw name start content close gap =>
    name ∈ rawNames ∧ start.IsSound ∧ OpensRaw name start.name
      ∧ ¬ HoldsEnd name (start.text ++ content)
      ∧ close.map foldChar = name ∧ ∀ c ∈ gap, isAsciiBlank c = true
  | tag t => t.IsSound ∧ ∀ name ∈ rawNames, ¬ OpensRaw name t.name

end Span

/-- Whatever follows the closing quote, the scan finds nothing in the value but comments, scripts and
styles that end in it. -/
inductive Inert : List Char → Prop where
  | nil : Inert []
  | past {c : Char} {cs : List Char} :
      (c = '<' → ∀ rest, expandStep (c :: (cs ++ '"' :: rest)) = none) → Inert cs → Inert (c :: cs)
  | across {span cs : List Char} :
      (∀ rest, opaqueSpan? (span ++ (cs ++ '"' :: rest)) = some (span, cs ++ '"' :: rest)) →
      Inert cs → Inert (span ++ cs)

/-- The values that the scan walks through. -/
def Span.walked : Span → List (List Char)
  | tag t => if IsComponentName t.name ∧ t.closed = true then [] else t.values
  | _ => []

/-- The end of a source: nothing, or a comment or a raw element that is not closed. -/
def Unclosed (cs : List Char) : Prop :=
  cs = [] ∨ (∃ content, ¬ commentEnd <:+: content ∧ cs = "<!--".toList ++ content)
    ∨ ∃ name ∈ rawNames, ∃ start content, SpelledTag.IsSound start ∧ OpensRaw name start.name
        ∧ ¬ HoldsEnd name (start.text ++ content) ∧ cs = start.text ++ content

theorem becomes_value {value : List Char} (h : Inert value) :
    Becomes (value ++ ['"']) (value ++ ['"']) := by
  induction h with
  | nil => exact Becomes.of_plain (by decide)
  | @past c cs hnone _ ih =>
    by_cases hc : c = '<'
    · subst hc
      rw [List.cons_append]
      refine Becomes.of_none (fun rest => ?_) ih
      rw [List.append_assoc]
      exact hnone rfl rest
    · exact (Becomes.of_other hc).append ih
  | @across span cs hspan _ ih =>
    intro fuel rest hfuel
    obtain ⟨inner, rfl, -⟩ := opaqueSpan?_eq_some (hspan rest)
    have hwhole : '<' :: inner ++ cs ++ ['"'] ++ rest = '<' :: (inner ++ (cs ++ '"' :: rest)) := by simp
    rw [hwhole] at hfuel ⊢
    obtain ⟨fuel, rfl⟩ := Nat.exists_eq_add_one_of_ne_zero (Nat.ne_zero_of_lt hfuel)
    have hfound : expandStep ('<' :: (inner ++ (cs ++ '"' :: rest)))
        = some ('<' :: inner, cs ++ '"' :: rest) := by
      rw [expandStep, ← List.cons_append, hspan]
    obtain ⟨left, hleft, hrest⟩ := ih fuel rest (by simp at hfuel ⊢; omega)
    refine ⟨left, hleft, ?_⟩
    rw [List.append_assoc, List.singleton_append] at hrest
    rw [expandWith, if_pos rfl, hfound]
    simp only
    rw [hrest]
    simp

theorem becomes_blanks {gap : List Char} (h : ∀ c ∈ gap, isAsciiBlank c = true) : Becomes gap gap :=
  Becomes.of_plain fun hc => absurd (h _ hc) (by decide)

theorem SpelledAttribute.IsSound.becomes {a : SpelledAttribute} (h : a.IsSound)
    (hv : ∀ v ∈ a.value?, Inert v) : Becomes a.text a.text := by
  obtain ⟨gap, name, assigned⟩ := a
  have hfront : Becomes (gap ++ name) (gap ++ name) :=
    (becomes_blanks h.gap).append (Becomes.of_plain fun hc => (h.name _ hc).2 rfl)
  cases assigned with
  | none => exact hfront
  | some v =>
    have haround := List.forall_mem_append.mp (h.around v rfl)
    have hsign : Becomes ['='] ['='] := Becomes.of_plain (by decide)
    have hquote : Becomes ['"'] ['"'] := Becomes.of_plain (by decide)
    have hvalue := becomes_value (hv v.value rfl)
    have hwhole := hfront.append ((becomes_blanks haround.1).append
      (hsign.append ((becomes_blanks haround.2).append (hquote.append hvalue))))
    exact hwhole

theorem becomes_attributesText {attributes : List SpelledAttribute} (h : ∀ a ∈ attributes, a.IsSound)
    (hv : ∀ v ∈ attributes.filterMap SpelledAttribute.value?, Inert v) :
    Becomes (attributesText attributes) (attributesText attributes) := by
  induction attributes with
  | nil => exact .nil
  | cons a attributes ih =>
    rw [List.forall_mem_cons] at h
    have hfirst : ∀ v ∈ a.value?, Inert v := fun v hmem =>
      hv v (List.mem_filterMap.mpr ⟨a, List.mem_cons_self .., hmem⟩)
    have hrest : ∀ v ∈ attributes.filterMap SpelledAttribute.value?, Inert v := by
      intro v hmem
      obtain ⟨b, hb, hvalue⟩ := List.mem_filterMap.mp hmem
      exact hv v (List.mem_filterMap.mpr ⟨b, List.mem_cons_of_mem a hb, hvalue⟩)
    exact (h.1.becomes hfirst).append (ih h.2 hrest)

/-- A tag that is not taken is walked through. -/
theorem SpelledTag.IsSound.becomes {t : SpelledTag} (h : t.IsSound)
    (hraw : ∀ name ∈ rawNames, ¬ OpensRaw name t.name)
    (hstays : ¬ (IsComponentName t.name ∧ t.closed = true)) (hv : ∀ v ∈ t.values, Inert v) :
    Becomes t.text t.text := by
  have hname : Becomes t.name t.name := Becomes.of_plain fun hc => (h.name.2 _ hc).2.2.2 rfl
  have hend : Becomes t.ending t.ending := by
    refine (becomes_blanks h.gap).append (Becomes.of_plain ?_)
    cases t.closed <;> decide
  refine Becomes.of_none (fun rest => ?_)
    (hname.append ((becomes_attributesText h.attributes hv).append hend))
  exact (h.expandStep rest hraw).2 hstays

theorem becomes_mark {content : List Char} (hplain : '<' ∉ content)
    (hcomment : ¬ "!--".toList <+: content) (hshort : ¬ content <+: "!--".toList)
    (hfirst : ∀ c ∈ content.head?, isLetter (foldChar c) = false) :
    Becomes ('<' :: content) ('<' :: content) := by
  refine Becomes.of_none (fun rest => ?_) (Becomes.of_plain hplain)
  cases content with
  | nil => exact absurd (List.nil_prefix) hshort
  | cons c cs =>
    have hletter : ∀ d, isLetter d = true → ¬ d = foldChar c := by
      rintro d hd rfl
      rw [hfirst c rfl] at hd
      cases hd
    have hs : ¬ 's' = foldChar c := hletter 's' (by decide)
    have hm : ¬ 'm' = foldChar c := hletter 'm' (by decide)
    have hnone : after? "<!--".toList ('<' :: c :: (cs ++ rest)) = none := by
      rw [Option.eq_none_iff_forall_ne_some]
      intro behind hbehind
      have hfront : "!--".toList ++ behind = c :: cs ++ rest :=
        (List.cons.inj (after?_eq_some_iff.mp hbehind)).2.symm
      rcases List.prefix_or_prefix_of_prefix (List.prefix_append "!--".toList behind)
        (hfront ▸ List.prefix_append (c :: cs) rest) with h | h
      · exact hcomment h
      · exact hshort h
    have hcomment : commentSpan? ('<' :: c :: (cs ++ rest)) = none := by rw [commentSpan?, hnone]
    have hraw : ∀ raw, rawSpan? ('s' :: raw) ('<' :: c :: (cs ++ rest)) = none := by
      intro raw
      have hno : afterFolded? ('<' :: 's' :: raw) ('<' :: c :: (cs ++ rest)) = none := if_neg hs
      rw [rawSpan?, hno]
    have hname : componentName? (c :: (cs ++ rest)) = none := by
      have hno : ∀ piece, afterFolded? ('m' :: piece) (c :: (cs ++ rest)) = none := fun _ => if_neg hm
      have hmjml : afterFolded? "mjml".toList (c :: (cs ++ rest)) = none := hno _
      have hmj : afterFolded? "mj-".toList (c :: (cs ++ rest)) = none := hno _
      rw [componentName?, hmjml, hmj]
    have hscript : rawSpan? "script".toList ('<' :: c :: (cs ++ rest)) = none := hraw _
    have hstyle : rawSpan? "style".toList ('<' :: c :: (cs ++ rest)) = none := hraw _
    rw [List.cons_append, expandStep, opaqueSpan?, hcomment, hscript, hstyle, selfClosing?, hname]
    rfl

theorem Span.becomes {part : Span} (h : part.IsSound) (hv : ∀ v ∈ part.walked, Inert v) :
    Becomes part.text part.expanded := by
  cases part with
  | plain content => exact Becomes.of_plain h
  | mark content => exact becomes_mark h.1 h.2.1 h.2.2.1 h.2.2.2
  | comment content => exact becomes_comment h
  | raw name start content close gap =>
    obtain ⟨hname, hstart, hopens, hcontent, hclose, hgap⟩ := h
    have htext : (Span.raw name start content close gap).text
        = start.text ++ (content ++ '<' :: '/' :: (close ++ gap ++ ['>'])) := rfl
    have hexpanded : (Span.raw name start content close gap).expanded
        = (Span.raw name start content close gap).text := rfl
    rw [hexpanded, htext]
    refine Becomes.of_found (a := start.name ++ (attributesText start.attributes ++ start.ending)
      ++ (content ++ '<' :: '/' :: (close ++ gap ++ ['>']))) fun rest => ?_
    have hstep := expandStep_raw hname hstart hopens hcontent hclose hgap rest
    simpa [SpelledTag.text] using hstep
  | tag t =>
    obtain ⟨hsound, hraw⟩ := h
    by_cases htaken : IsComponentName t.name ∧ t.closed = true
    · rw [Span.expanded, if_pos htaken]
      exact Becomes.of_found fun rest => (hsound.expandStep rest hraw).1 htaken.1 htaken.2
    · rw [Span.walked, if_neg htaken] at hv
      rw [Span.expanded, if_neg htaken]
      exact hsound.becomes hraw htaken hv

theorem becomes_spans {parts : List Span}
    (h : ∀ part ∈ parts, part.IsSound ∧ ∀ v ∈ part.walked, Inert v) :
    Becomes (parts.flatMap Span.text) (parts.flatMap Span.expanded) := by
  induction parts with
  | nil => exact .nil
  | cons part parts ih =>
    rw [List.forall_mem_cons] at h
    exact (Span.becomes h.1.1 h.1.2).append (ih h.2)

theorem expandWith_unclosed {cs : List Char} (h : Unclosed cs) {fuel : Nat} (hfuel : cs.length ≤ fuel) :
    expandWith fuel cs = cs := by
  have hwhole : ∀ cs, expandStep ('<' :: cs) = some ('<' :: cs, []) → ('<' :: cs).length ≤ fuel →
      expandWith fuel ('<' :: cs) = '<' :: cs := by
    intro cs hstep hlength
    obtain ⟨fuel, rfl⟩ := Nat.exists_eq_add_one_of_ne_zero (Nat.ne_zero_of_lt hlength)
    rw [expandWith, if_pos rfl, hstep]
    cases fuel <;> simp [expandWith]
  rcases h with rfl | ⟨content, hcontent, rfl⟩ | ⟨name, hname, start, content, hstart, hopens, hno, rfl⟩
  · cases fuel <;> rfl
  · refine hwhole ("!--".toList ++ content) ?_ hfuel
    have hthrough : through commentEnd? (content ++ []) = (content ++ [], []) := by
      refine through_of_none fun s _ hsuffix => ?_
      rw [List.append_nil, commentEnd?.eq_def]
      split
      · exact absurd (List.IsInfix.trans ⟨[], _, rfl⟩ hsuffix.isInfix) hcontent
      · rfl
    rw [List.append_nil] at hthrough
    have hafter : after? "<!--".toList ('<' :: ("!--".toList ++ content)) = some content := by
      simp [after?]
    rw [expandStep, opaqueSpan?, commentSpan?, hafter]
    simp only [hthrough]
    rfl
  · exact hwhole _ (expandStep_unclosed hname hstart hopens hno) hfuel

/-- A tag that ends with a value: the scan walks up to the value, and expands the value. -/
theorem expandWith_tag {name front value : List Char} (hn : IsTagName name)
    (hname : ¬ IsComponentName name) (hraw : ∀ raw ∈ rawNames, ¬ OpensRaw raw name)
    (hfront : LeavesName front) (hplain : '<' ∉ front) (hv : '"' ∉ value) {fuel : Nat}
    (hfuel : ('<' :: (name ++ (front ++ ['"'])) ++ (value ++ closing)).length ≤ fuel) :
    expandWith fuel ('<' :: (name ++ (front ++ ['"'])) ++ (value ++ closing))
      = '<' :: (name ++ (front ++ ['"'])) ++ (expandWith value.length value ++ closing) := by
  have hbracket : '<' ∉ name ++ (front ++ ['"']) := by
    have hletters : '<' ∉ name := fun h => (hn.2 _ h).2.2.2 rfl
    simp [hletters, hplain]
  have hleaves : ∀ rest, LeavesName (front ++ ['"'] ++ rest) := by
    intro rest
    obtain ⟨c, cs, rfl, hc⟩ := hfront
    exact ⟨c, _, rfl, hc⟩
  have hbecomes : Becomes ('<' :: (name ++ (front ++ ['"']))) ('<' :: (name ++ (front ++ ['"']))) := by
    refine Becomes.of_none (fun rest => ?_) (Becomes.of_plain hbracket)
    rw [List.append_assoc, expandStep, opaqueSpan?_name hn hraw (hleaves rest).endsWord,
      selfClosing?_name hn hname (hleaves rest).endsWord]
  obtain ⟨left, hleft, hscan⟩ := hbecomes fuel (value ++ closing) hfuel
  rw [hscan, expandWith_value hv hleft (Nat.le_refl _)]

/-- **What the expansion changes.** In a source whose walked values are inert, it writes out exactly the
component tags that close themselves and stand outside comments, scripts, styles and values. At a last
start tag of any other element, ending with a value, it expands the value like a source, whatever the
value is; so that tag stays as it is just when no component tag in the value is uncovered. -/
theorem expand_source (parts : List Span) (tail : List Char) (name front value : String)
    (hparts : ∀ part ∈ parts, part.IsSound ∧ ∀ v ∈ part.walked, Inert v) (htail : Unclosed tail)
    (hn : IsTagName name.toList) (hname : ¬ IsComponentName name.toList)
    (hraw : ∀ raw ∈ rawNames, ¬ OpensRaw raw name.toList) (hfront : LeavesName front.toList)
    (hplain : '<' ∉ front.toList) (hv : '"' ∉ value.toList) :
    expand (String.ofList (parts.flatMap Span.text ++ tail))
        = String.ofList (parts.flatMap Span.expanded ++ tail)
      ∧ expand (String.ofList (parts.flatMap Span.text)
            ++ ("<" ++ name ++ front ++ "\"" ++ value ++ "\">"))
          = String.ofList (parts.flatMap Span.expanded)
            ++ ("<" ++ name ++ front ++ "\"" ++ expand value ++ "\">")
      ∧ (expand (String.ofList (parts.flatMap Span.text)
              ++ ("<" ++ name ++ front ++ "\"" ++ value ++ "\">"))
            = String.ofList (parts.flatMap Span.expanded)
              ++ ("<" ++ name ++ front ++ "\"" ++ value ++ "\">")
          ↔ ¬ HoldsComponent value.toList) := by
  have htag : (String.ofList (parts.flatMap Span.text)
        ++ ("<" ++ name ++ front ++ "\"" ++ value ++ "\">")).toList
      = parts.flatMap Span.text
        ++ ('<' :: (name.toList ++ (front.toList ++ ['"'])) ++ (value.toList ++ closing)) := by
    simp [closing]
  have hexpanded : expand (String.ofList (parts.flatMap Span.text)
        ++ ("<" ++ name ++ front ++ "\"" ++ value ++ "\">"))
      = String.ofList (parts.flatMap Span.expanded)
        ++ ("<" ++ name ++ front ++ "\"" ++ expand value ++ "\">") := by
    obtain ⟨left, hleft, hscan⟩ := becomes_spans hparts _ _ (Nat.le_refl _)
    rw [expandWith_tag hn hname hraw hfront hplain hv hleft, ← htag, String.length_toList,
      String.length_toList] at hscan
    rw [← String.toList_inj, expand, expand, String.toList_ofList, hscan]
    simp [closing]
  refine ⟨?_, hexpanded, ?_⟩
  · have hlength : (parts.flatMap Span.text ++ tail).length
        ≤ (String.ofList (parts.flatMap Span.text ++ tail)).length := by simp
    obtain ⟨left, hleft, hscan⟩ := becomes_spans hparts _ tail hlength
    rw [expand, String.toList_ofList, hscan, expandWith_unclosed htail hleft]
  · rw [hexpanded, ← expandWith_eq_self_iff (Nat.le_refl value.toList.length)]
    simp only [String.append_left_inj, String.append_right_inj, String.length_toList]
    rw [← String.toList_inj, expand, String.toList_ofList]

theorem Inert.of_plain {value : List Char} (h : '<' ∉ value) : Inert value := by
  induction value with
  | nil => exact .nil
  | cons c value ih =>
    rw [List.mem_cons, not_or] at h
    exact .past (fun hc => absurd hc.symm h.1) (ih h.2)

/-- A component whose value looks like one, a tag whose value holds a bracket and a comment, a comment
and text; and a value that is taken for a tag. -/
theorem expand_source_letter :
    expand ("<mj-image alt=\"<mj-raw/>\" /><P title =\"1<2<!--<mj-raw/>-->\">"
          ++ "<!-- <mj-raw/> -->x</P>")
        = "<mj-image alt=\"<mj-raw/>\"></mj-image><P title =\"1<2<!--<mj-raw/>-->\">"
          ++ "<!-- <mj-raw/> -->x</P>"
      ∧ ¬ expand ("<mj-image alt=\"<mj-raw/>\" /><P title =\"1<2<!--<mj-raw/>-->\">"
            ++ "<!-- <mj-raw/> -->x</P>" ++ "<p title=\"a <mj-raw/>\">")
          = "<mj-image alt=\"<mj-raw/>\"></mj-image><P title =\"1<2<!--<mj-raw/>-->\">"
            ++ "<!-- <mj-raw/> -->x</P>" ++ "<p title=\"a <mj-raw/>\">" := by
  have hcomment : Inert ("<!--<mj-raw/>-->".toList ++ []) := .across (fun _ => rfl) .nil
  have hvalue : Inert ('1' :: '<' :: '2' :: ("<!--<mj-raw/>-->".toList ++ [])) :=
    .past (fun h => absurd h (by decide)) (.past (fun _ _ => rfl)
      (.past (fun h => absurd h (by decide)) hcomment))
  let image : SpelledTag :=
    ⟨"mj-image".toList, [⟨[' '], "alt".toList, some ⟨[], [], "<mj-raw/>".toList⟩⟩], [' '], true⟩
  let paragraph : SpelledTag :=
    ⟨['P'], [⟨[' '], "title".toList,
      some ⟨[' '], [], '1' :: '<' :: '2' :: ("<!--<mj-raw/>-->".toList ++ [])⟩⟩], [], false⟩
  have himage : image.IsSound ∧ ∀ name ∈ rawNames, ¬ OpensRaw name image.name := by decide +kernel
  have hparagraph : paragraph.IsSound ∧ ∀ name ∈ rawNames, ¬ OpensRaw name paragraph.name := by
    decide +kernel
  have htaken : (Span.tag image).walked = [] := by decide +kernel
  have hwalked : (Span.tag paragraph).walked
      = ['1' :: '<' :: '2' :: ("<!--<mj-raw/>-->".toList ++ [])] := by decide +kernel
  have hparts : ∀ part ∈ [.tag image, .tag paragraph, .comment " <mj-raw/> ".toList, .plain ['x'],
      .mark "/P>".toList], Span.IsSound part ∧ ∀ v ∈ part.walked, Inert v := by
    have hplain : '<' ∉ ['x'] := by decide
    have hcommented : ¬ commentEnd <:+: " <mj-raw/> ".toList := by decide +kernel
    have hopens : ∀ c ∈ "/P>".toList.head?, isLetter (foldChar c) = false := by
      rintro c hc
      obtain rfl : '/' = c := Option.some.inj hc
      decide
    have hmark : '<' ∉ "/P>".toList ∧ ¬ "!--".toList <+: "/P>".toList
        ∧ ¬ "/P>".toList <+: "!--".toList := by decide +kernel
    simp only [List.forall_mem_cons, htaken, hwalked]
    exact ⟨⟨himage, by simp⟩, ⟨hparagraph, hvalue, by simp⟩, ⟨hcommented, by simp [Span.walked]⟩,
      ⟨hplain, by simp [Span.walked]⟩,
      ⟨⟨hmark.1, hmark.2.1, hmark.2.2, hopens⟩, by simp [Span.walked]⟩, by simp⟩
  obtain ⟨hsource, -, hiff⟩ := expand_source _ [] "p" " title=" "a <mj-raw/>" hparts (.inl rfl)
    (by decide) (by decide +kernel) (by decide +kernel) ⟨' ', "title=".toList, rfl, rfl⟩ (by decide)
    (by decide)
  have htext : String.ofList (List.flatMap Span.text [.tag image, .tag paragraph,
        .comment " <mj-raw/> ".toList, .plain ['x'], .mark "/P>".toList])
      = "<mj-image alt=\"<mj-raw/>\" /><P title =\"1<2<!--<mj-raw/>-->\">"
        ++ "<!-- <mj-raw/> -->x</P>" := by decide +kernel
  have hexpanded : String.ofList (List.flatMap Span.expanded [.tag image, .tag paragraph,
        .comment " <mj-raw/> ".toList, .plain ['x'], .mark "/P>".toList])
      = "<mj-image alt=\"<mj-raw/>\"></mj-image><P title =\"1<2<!--<mj-raw/>-->\">"
        ++ "<!-- <mj-raw/> -->x</P>" := by decide +kernel
  have hholds : HoldsComponent "a <mj-raw/>".toList :=
    ⟨"<mj-raw/>".toList, .past rfl (.past rfl (.here rfl)), by decide +kernel⟩
  have htag : "<" ++ "p" ++ " title=" ++ "\"" ++ "a <mj-raw/>" ++ "\">"
      = "<p title=\"a <mj-raw/>\">" := by decide +kernel
  rw [List.append_nil, List.append_nil, htext, hexpanded] at hsource
  rw [htext, hexpanded, htag] at hiff
  exact ⟨hsource, fun h => hiff.mp h hholds⟩

/-- A value that looks like a component is rewritten. -/
theorem expand_value_component :
    '"' ∉ "<mj-raw/>".toList
      ∧ expand "<p title=\"<mj-raw/>\">" = "<p title=\"<mj-raw></mj-raw>\">"
      ∧ ¬ expand ("<p title=\"" ++ "<mj-raw/>" ++ "\">") = "<p title=\"" ++ "<mj-raw/>" ++ "\">" := by
  decide +kernel

end Lettermill.Html
