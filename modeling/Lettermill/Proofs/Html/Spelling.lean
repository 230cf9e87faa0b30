import Lettermill.Html.Expansion
import Lettermill.Proofs.Text.Run
/-! Tags as they are spelled in a source, and what the scan for self-closing components finds at them.
Letters count in either case. A name is read up to the blank, slash or bracket behind it, and a value
between double quotes up to its closing quote, whatever it holds. -/
namespace Lettermill.Html
set_option autoImplicit false
open Text

/-! ## Names -/

theorem afterFolded?_eq_some_iff {piece cs rest : List Char} :
    afterFolded? piece cs = some rest ↔ ∃ word, word.map foldChar = piece ∧ cs = word ++ rest :=
  eq_some_iff_of_form (fun _ => rfl) (fun _ _ => rfl) fun _ _ _ _ => rfl

theorem afterFolded?_append {piece rest : List Char} (h : ∀ c ∈ rest.head?, foldChar c ∉ piece)
    (cs : List Char) : afterFolded? piece (cs ++ rest) = (afterFolded? piece cs).map (· ++ rest) :=
  append_of_form (fun _ => rfl) (fun _ _ => rfl) (fun _ _ _ _ => rfl) h cs

/-- A letter, and whatever else up to a blank, a slash or a bracket. -/
def IsTagName (name : List Char) : Prop :=
  (∃ c ∈ name.head?, isLetter c = true)
    ∧ ∀ c ∈ name, isBlank c = false ∧ c ≠ '/' ∧ c ≠ '>' ∧ c ≠ '<'

/-- The names that the expansion knows: `mjml`, and `mj-` with letters, digits and hyphens behind. -/
def IsComponentName (name : List Char) : Prop :=
  name.map foldChar = "mjml".toList
    ∨ ∃ front more, front.map foldChar = "mj-".toList ∧ more ≠ [] ∧ name = front ++ more
        ∧ ∀ c ∈ more, isComponentChar c = true

/-- Is a tag of this name taken for that of the raw element `raw`? Whatever is no character of a word
ends the name. -/
def OpensRaw (raw name : List Char) : Prop :=
  ∃ word more, word.map foldChar = raw ∧ name = word ++ more ∧ wordEnds more = true

instance : DecidablePred IsTagName := fun name =>
  decidable_of_iff (name.head?.any isLetter = true
      ∧ name.all (fun c => !isBlank c && c != '/' && c != '>' && c != '<') = true)
    (by rw [Option.any_eq_true, List.all_eq_true]; simp [IsTagName, and_assoc])

theorem opensRaw_iff {raw name : List Char} :
    OpensRaw raw name ↔ (afterFolded? raw name).any wordEnds = true := by
  rw [Option.any_eq_true]
  constructor
  · rintro ⟨word, more, hword, hname, hends⟩
    exact ⟨more, afterFolded?_eq_some_iff.mpr ⟨word, hword, hname⟩, hends⟩
  · rintro ⟨more, hafter, hends⟩
    obtain ⟨word, hword, hname⟩ := afterFolded?_eq_some_iff.mp hafter
    exact ⟨word, more, hword, hname, hends⟩

instance (raw name : List Char) : Decidable (OpensRaw raw name) := decidable_of_iff _ opensRaw_iff.symm

/-- The elements whose text the expansion leaves alone. -/
def rawNames : List (List Char) := ["script".toList, "style".toList]

/-- May `c` stand behind the name of a tag? -/
def endsName (c : Char) : Bool := isAsciiBlank c || c == '/' || c == '>'

/-- What stands behind the name of a tag. -/
def LeavesName (rest : List Char) : Prop := ∃ c cs, rest = c :: cs ∧ endsName c = true

theorem toNat_of_endsName {c : Char} (h : endsName c = true) : c.toNat < 128 := by
  simp only [endsName, isAsciiBlank, Bool.or_eq_true, beq_iff_eq] at h
  rcases h with (((((rfl | rfl) | rfl) | rfl) | rfl) | rfl) | rfl <;> decide

/-- Nothing that the scan looks for goes on with the first character, if there is one. -/
def EndsWord (rest : List Char) : Prop :=
  ∀ c ∈ rest.head?, foldChar c = c ∧ isComponentChar c = false ∧ isWordChar c = false

theorem endsName_spec {c : Char} (h : endsName c = true) :
    foldChar c = c ∧ isComponentChar c = false ∧ isWordChar c = false ∧ isNameChar c = false := by
  have hall := of_ascii
    (q := fun c => foldChar c == c && !isComponentChar c && !isWordChar c && !isNameChar c)
    (by decide +kernel) (toNat_of_endsName h) h
  simp only [Bool.and_eq_true, beq_iff_eq, Bool.not_eq_true'] at hall
  exact ⟨hall.1.1.1, hall.1.1.2, hall.1.2, hall.2⟩

theorem LeavesName.endsWord {rest : List Char} (h : LeavesName rest) : EndsWord rest := by
  obtain ⟨c, cs, rfl, hc⟩ := h
  rintro d hd
  obtain rfl : c = d := Option.some.inj hd
  exact ⟨(endsName_spec hc).1, (endsName_spec hc).2.1, (endsName_spec hc).2.2.1⟩

theorem LeavesName.stops {rest : List Char} (h : LeavesName rest) : Stops isNameChar rest := by
  obtain ⟨c, cs, rfl, hc⟩ := h
  exact (stops_cons ..).mpr (endsName_spec hc).2.2.2

section
variable {name rest : List Char}

theorem afterFolded?_name {piece : List Char} (hp : ∀ c ∈ piece, isComponentChar c = true)
    (hr : EndsWord rest) :
    afterFolded? piece (name ++ rest) = (afterFolded? piece name).map (· ++ rest) := by
  refine afterFolded?_append (fun c hc hmem => ?_) name
  obtain ⟨hfold, hchar, -⟩ := hr c hc
  rw [hfold] at hmem
  rw [hp c hmem] at hchar
  cases hchar

theorem wordEnds_name (hr : EndsWord rest) : wordEnds (name ++ rest) = wordEnds name := by
  cases name with
  | nil =>
    cases rest with
    | nil => rfl
    | cons c rest => simp [wordEnds, (hr c rfl).2.2]
  | cons d name => rfl

theorem isComponentChar_of_mem_rawNames {raw : List Char} (h : raw ∈ rawNames) :
    ∀ c ∈ raw, isComponentChar c = true := by
  have hall : ∀ raw ∈ rawNames, raw.all isComponentChar = true := by decide
  exact List.all_eq_true.mp (hall raw h)

theorem rawSpan?_name {raw : List Char} (hraw : raw ∈ rawNames) (h : ¬ OpensRaw raw name)
    (hr : EndsWord rest) : rawSpan? raw ('<' :: (name ++ rest)) = none := by
  have hopen : afterFolded? ('<' :: raw) ('<' :: (name ++ rest)) = afterFolded? raw (name ++ rest) :=
    rfl
  rw [opensRaw_iff] at h
  rw [rawSpan?, hopen, afterFolded?_name (isComponentChar_of_mem_rawNames hraw) hr]
  cases hafter : afterFolded? raw name with
  | none => rfl
  | some more =>
    rw [hafter, Option.any_some] at h
    simp [wordEnds_name hr, h]

theorem commentSpan?_name (hn : IsTagName name) : commentSpan? ('<' :: (name ++ rest)) = none := by
  obtain ⟨⟨c, hc, hletter⟩, -⟩ := hn
  obtain ⟨cs, rfl⟩ := List.head?_eq_some_iff.mp hc
  have hne : ¬ '!' = c := by
    rintro rfl
    exact absurd hletter (by decide)
  simp [commentSpan?, after?, hne]

theorem opaqueSpan?_name (hn : IsTagName name) (hraw : ∀ raw ∈ rawNames, ¬ OpensRaw raw name)
    (hr : EndsWord rest) : opaqueSpan? ('<' :: (name ++ rest)) = none := by
  have hscript := rawSpan?_name (by decide) (hraw "script".toList (by decide)) hr
  have hstyle := rawSpan?_name (by decide) (hraw "style".toList (by decide)) hr
  rw [opaqueSpan?, commentSpan?_name hn, hscript, hstyle]
  rfl

/-! ## Names of components -/

theorem componentName?_name (hr : EndsWord rest) :
    componentName? (name ++ rest)
      = (componentName? name).map fun (found, after) => (found, after ++ rest) := by
  have hmjml : ∀ c ∈ "mjml".toList, isComponentChar c = true := forall_of_all (by decide)
  have hmj : ∀ c ∈ "mj-".toList, isComponentChar c = true := forall_of_all (by decide)
  have hstops : Stops isComponentChar rest := fun c hc => (hr c hc).2.1
  rw [componentName?, componentName?, afterFolded?_name hmjml hr, afterFolded?_name hmj hr]
  cases hfirst : afterFolded? "mjml".toList name with
  | some after =>
    obtain ⟨word, hword, rfl⟩ := afterFolded?_eq_some_iff.mp hfirst
    have hlength : word.length = 4 := by simpa using congrArg List.length hword
    simp [hlength]
  | none =>
    cases hsecond : afterFolded? "mj-".toList name with
    | none => rfl
    | some after =>
      obtain ⟨word, hword, rfl⟩ := afterFolded?_eq_some_iff.mp hsecond
      have hlength : word.length = 3 := by simpa using congrArg List.length hword
      simp only [Option.map_some, takeWhile_append_of_stops hstops, dropWhile_append_of_stops hstops]
      cases after.takeWhile isComponentChar with
      | nil => rfl
      | cons c more => simp [hlength]

end

theorem componentName?_eq_some {cs found after : List Char}
    (h : componentName? cs = some (found, after)) : IsComponentName found ∧ cs = found ++ after := by
  rw [componentName?] at h
  split at h
  · next behind hfirst =>
    obtain ⟨word, hword, rfl⟩ := afterFolded?_eq_some_iff.mp hfirst
    have hlength : word.length = 4 := by simpa using congrArg List.length hword
    simp only [Option.some.injEq, Prod.mk.injEq, List.take_append, hlength, Nat.sub_self,
      List.take_zero, List.append_nil] at h
    obtain ⟨rfl, rfl⟩ := h
    rw [← hlength, List.take_length]
    exact ⟨.inl hword, rfl⟩
  · split at h
    · cases h
    · next behind hsecond =>
      obtain ⟨word, hword, rfl⟩ := afterFolded?_eq_some_iff.mp hsecond
      have hlength : word.length = 3 := by simpa using congrArg List.length hword
      split at h
      · cases h
      · next hmore =>
        have htake : (word ++ behind).take 3 = word := by rw [← hlength, List.take_left]
        simp only [Option.some.injEq, Prod.mk.injEq, htake] at h
        obtain ⟨rfl, rfl⟩ := h
        refine ⟨.inr ⟨word, _, hword, hmore, rfl, List.all_eq_true.mp List.all_takeWhile⟩, ?_⟩
        rw [List.append_assoc, List.takeWhile_append_dropWhile]

theorem componentName?_self {name : List Char} (h : IsComponentName name) :
    componentName? name = some (name, []) := by
  rcases h with hname | ⟨front, more, hfront, hne, rfl, hmore⟩
  · have hfirst : afterFolded? "mjml".toList name = some [] :=
      afterFolded?_eq_some_iff.mpr ⟨name, hname, (List.append_nil name).symm⟩
    have hlength : name.length = 4 := by simpa using congrArg List.length hname
    rw [componentName?, hfirst, ← hlength, List.take_length]
  · have hfirst : afterFolded? "mjml".toList (front ++ more) = none := by
      obtain ⟨a, b, c, rfl⟩ := List.length_eq_three.mp (by simpa using congrArg List.length hfront)
      have hc : foldChar c = '-' := (List.cons.inj (List.cons.inj (List.cons.inj hfront).2).2).1
      simp [afterFolded?, hc]
    have hsecond : afterFolded? "mj-".toList (front ++ more) = some more :=
      afterFolded?_eq_some_iff.mpr ⟨front, hfront, rfl⟩
    have hlength : front.length = 3 := by simpa using congrArg List.length hfront
    have htake : (front ++ more).take 3 = front := by rw [← hlength, List.take_left]
    have hall : more.takeWhile isComponentChar = more := by
      simpa using takeWhile_run hmore (stops_nil isComponentChar)
    have hrest : more.dropWhile isComponentChar = [] := by
      simpa using dropWhile_run hmore (stops_nil isComponentChar)
    rw [componentName?, hfirst, hsecond]
    simp only [hall, hrest, htake]

/-- No component tag begins with the name of another element, even if that begins like a component's. -/
theorem selfClosing?_name {name rest : List Char} (hn : IsTagName name)
    (h : ¬ IsComponentName name) (hr : EndsWord rest) :
    selfClosing? ('<' :: (name ++ rest)) = none := by
  rw [selfClosing?, componentName?_name hr]
  cases hfound : componentName? name with
  | none => rfl
  | some pair =>
    obtain ⟨found, after⟩ := pair
    obtain ⟨hcomponent, rfl⟩ := componentName?_eq_some hfound
    cases after with
    | nil => exact absurd ((List.append_nil found).symm ▸ hcomponent) h
    | cons c more =>
      obtain ⟨hblank, hslash, -, -⟩ := hn.2 c (by simp)
      have hgap : (c :: more ++ rest).takeWhile isBlank = [] := by
        rw [List.cons_append, List.takeWhile_cons, hblank]; rfl
      have hhere : (c :: more ++ rest).dropWhile isBlank = c :: more ++ rest := by
        rw [List.cons_append, List.dropWhile_cons, hblank]; rfl
      have hattrs : tagAttributes (c :: more ++ rest).length (c :: more ++ rest)
          = ⟨[], false, c :: more ++ rest⟩ := by
        rw [List.cons_append, List.length_cons, tagAttributes, tagAttribute?, ← List.cons_append, hgap]
        rfl
      have hend : slashEnd? (c :: more ++ rest) = none := by
        rw [slashEnd?, hhere]
        split
        · next heq => exact absurd (List.cons.inj heq).1 hslash
        · rfl
      simp only [Option.map_some, hattrs, hend]

/-! ## Attributes -/

/-- An equals sign with the blanks around it, and a value between double quotes. -/
structure Assignment where
  before : List Char
  behind : List Char
  value : List Char

/-- An attribute as it stands in a tag: the blanks in front of it, its name and, if it has one, its
value. -/
structure SpelledAttribute where
  gap : List Char
  name : List Char
  assigned : Option Assignment

namespace SpelledAttribute

def text (a : SpelledAttribute) : List Char :=
  match a.assigned with
  | none => a.gap ++ a.name
  | some v => a.gap ++ a.name ++ (v.before ++ '=' :: (v.behind ++ '"' :: (v.value ++ ['"'])))

def value? (a : SpelledAttribute) : Option (List Char) := a.assigned.map Assignment.value

structure IsSound (a : SpelledAttribute) : Prop where
  apart : a.gap ≠ []
  gap : ∀ c ∈ a.gap, isAsciiBlank c = true
  named : a.name ≠ []
  name : ∀ c ∈ a.name, isNameChar c = true ∧ c ≠ '<'
  around : ∀ v ∈ a.assigned, ∀ c ∈ v.before ++ v.behind, isAsciiBlank c = true
  quoted : ∀ v ∈ a.assigned, '"' ∉ v.value

instance : DecidablePred IsSound := fun a =>
  decidable_of_iff
    (a.gap ≠ [] ∧ a.gap.all isAsciiBlank = true ∧ a.name ≠ []
      ∧ a.name.all (fun c => isNameChar c && c != '<') = true
      ∧ a.assigned.all (fun v => (v.before ++ v.behind).all isAsciiBlank && !v.value.contains '"') = true)
    ⟨fun h => by
        simp only [List.all_eq_true, Option.all_eq_true, Bool.and_eq_true, bne_iff_ne] at h
        obtain ⟨hapart, hgap, hnamed, hname, hvalue⟩ := h
        exact ⟨hapart, hgap, hnamed, hname, fun v hv => (hvalue v hv).1,
          fun v hv => by simpa using (hvalue v hv).2⟩,
      fun h => by
        simp only [List.all_eq_true, Option.all_eq_true, Bool.and_eq_true, bne_iff_ne]
        exact ⟨h.apart, h.gap, h.named, h.name,
          fun v hv => ⟨h.around v hv, by simpa using h.quoted v hv⟩⟩⟩

end SpelledAttribute

theorem isBlank_of_isAsciiBlank {c : Char} (h : isAsciiBlank c = true) : isBlank c = true := by
  simp only [isAsciiBlank, Bool.or_eq_true, beq_iff_eq] at h
  rcases h with (((rfl | rfl) | rfl) | rfl) | rfl <;> decide

theorem endsName_of_isAsciiBlank {c : Char} (h : isAsciiBlank c = true) : endsName c = true := by
  rw [endsName, h]
  rfl

theorem isBlank_of_isNameChar {c : Char} (h : isNameChar c = true) : isBlank c = false := by
  simp only [isNameChar, Bool.not_eq_true', Bool.or_eq_false_iff] at h
  exact h.1.1.1.1.1

/-- What may stand behind an attribute in a tag: what ends a name, and no equals sign behind the
blanks. -/
def LeavesAttribute (rest : List Char) : Prop := LeavesName rest ∧ tagAssignment? rest = none

theorem tagAssignment?_spelled {v : Assignment}
    (hblank : ∀ c ∈ v.before ++ v.behind, isAsciiBlank c = true) (hv : '"' ∉ v.value)
    (rest : List Char) :
    tagAssignment? (v.before ++ '=' :: (v.behind ++ '"' :: (v.value ++ '"' :: rest)))
      = some ⟨v.before ++ '=' :: (v.behind ++ '"' :: (v.value ++ ['"'])), false, rest⟩ := by
  have hbefore : ∀ c ∈ v.before, isBlank c = true := fun c hc =>
    isBlank_of_isAsciiBlank (hblank c (List.mem_append_left _ hc))
  have hbehind : ∀ c ∈ v.behind, isBlank c = true := fun c hc =>
    isBlank_of_isAsciiBlank (hblank c (List.mem_append_right _ hc))
  have hsign : Stops isBlank ('=' :: (v.behind ++ '"' :: (v.value ++ '"' :: rest))) :=
    (stops_cons ..).mpr (by decide)
  have hquote : Stops isBlank ('"' :: (v.value ++ '"' :: rest)) := (stops_cons ..).mpr (by decide)
  rw [tagAssignment?, takeWhile_run hbefore hsign, dropWhile_run hbefore hsign]
  simp only [takeWhile_run hbehind hquote, dropWhile_run hbehind hquote, tagValue?, cutOnce?_front hv]
  simp

namespace SpelledAttribute
variable {a : SpelledAttribute}

theorem IsSound.tagAttribute?_append (h : a.IsSound) {rest : List Char} (hr : LeavesAttribute rest) :
    tagAttribute? (a.text ++ rest) = some ⟨a.text, false, rest⟩ := by
  obtain ⟨gap, name, assigned⟩ := a
  obtain ⟨hapart, hgap, hnamed, hname, haround, hquoted⟩ := h
  obtain ⟨c, cs, rfl⟩ := List.exists_cons_of_ne_nil hnamed
  have hblank : ∀ d ∈ gap, isBlank d = true := fun d hd => isBlank_of_isAsciiBlank (hgap d hd)
  have hchars : ∀ d ∈ c :: cs, isNameChar d = true := fun d hd => (hname d hd).1
  have hread : ∀ behind, Stops isNameChar behind →
      tagAttribute? (gap ++ (c :: cs ++ behind))
        = (tagAssignment? behind).elim (some ⟨gap ++ (c :: cs), false, behind⟩) fun value =>
          some { value with text := gap ++ (c :: cs) ++ value.text } := by
    intro behind hbehind
    have hfirst : Stops isBlank (c :: cs ++ behind) :=
      (stops_cons ..).mpr (isBlank_of_isNameChar (hchars c (List.mem_cons_self ..)))
    rw [tagAttribute?, takeWhile_run hblank hfirst, dropWhile_run hblank hfirst]
    simp only [takeWhile_run hchars hbehind, dropWhile_run hchars hbehind]
    refine (if_neg (by simpa using hapart)).trans ?_
    cases tagAssignment? behind <;> rfl
  cases assigned with
  | none =>
    have hleaves : Stops isNameChar rest := hr.1.stops
    rw [text, List.append_assoc, hread rest hleaves, hr.2, Option.elim_none]
  | some v =>
    have hleaves : Stops isNameChar (v.before ++ '=' :: (v.behind ++ '"' :: (v.value ++ '"' :: rest))) := by
      cases hbefore : v.before with
      | nil => exact (stops_cons ..).mpr (by decide)
      | cons d before =>
        have hd : isAsciiBlank d = true := haround v rfl d (by simp [hbefore])
        exact (stops_cons ..).mpr (endsName_spec (endsName_of_isAsciiBlank hd)).2.2.2
    have hassign := tagAssignment?_spelled (haround v rfl) (hquoted v rfl) rest
    have hread := hread _ hleaves
    rw [hassign, Option.elim_some] at hread
    simpa [text] using hread

theorem IsSound.leaves (h : a.IsSound) (rest : List Char) : LeavesAttribute (a.text ++ rest) := by
  obtain ⟨gap, name, assigned⟩ := a
  obtain ⟨hapart, hgap, hnamed, hname, -, -⟩ := h
  obtain ⟨b, gap, rfl⟩ := List.exists_cons_of_ne_nil hapart
  obtain ⟨c, cs, rfl⟩ := List.exists_cons_of_ne_nil hnamed
  obtain ⟨behind, hbehind⟩ : ∃ behind, text ⟨b :: gap, c :: cs, assigned⟩ ++ rest
      = (b :: gap) ++ c :: behind := by
    cases assigned with
    | none => exact ⟨cs ++ rest, by simp [text]⟩
    | some v =>
      exact ⟨cs ++ (v.before ++ '=' :: (v.behind ++ '"' :: (v.value ++ '"' :: rest))), by simp [text]⟩
  have hb := hgap b (List.mem_cons_self ..)
  have hblank : ∀ d ∈ b :: gap, isBlank d = true := fun d hd => isBlank_of_isAsciiBlank (hgap d hd)
  have hc := (hname c (List.mem_cons_self ..)).1
  have hstops : Stops isBlank (c :: behind) := (stops_cons ..).mpr (isBlank_of_isNameChar hc)
  rw [hbehind]
  refine ⟨⟨b, _, rfl, endsName_of_isAsciiBlank hb⟩, ?_⟩
  rw [tagAssignment?, dropWhile_run hblank hstops]
  split
  · next heq =>
    rw [(List.cons.inj heq).1] at hc
    exact absurd hc (by decide)
  · rfl

theorem text_ne_nil (h : a.IsSound) : a.text ≠ [] := by
  intro hnil
  obtain ⟨⟨c, cs, hc, -⟩, -⟩ := h.leaves []
  rw [hnil] at hc
  cases hc

end SpelledAttribute

/-- The attributes of a tag in a row. -/
def attributesText (attributes : List SpelledAttribute) : List Char :=
  attributes.flatMap SpelledAttribute.text

section
variable {attributes : List SpelledAttribute} {rest : List Char}

theorem leaves_attributesText (h : ∀ a ∈ attributes, a.IsSound) (hr : LeavesAttribute rest) :
    LeavesAttribute (attributesText attributes ++ rest) := by
  cases attributes with
  | nil => exact hr
  | cons a attributes =>
    rw [attributesText, List.flatMap_cons, List.append_assoc]
    exact (h a (List.mem_cons_self ..)).leaves _

theorem tagAttributes_spelled (h : ∀ a ∈ attributes, a.IsSound) (hr : LeavesAttribute rest)
    (hlast : tagAttribute? rest = none) {fuel : Nat} (hfuel : attributes.length ≤ fuel) :
    tagAttributes fuel (attributesText attributes ++ rest)
      = ⟨attributesText attributes, false, rest⟩ := by
  induction attributes generalizing fuel with
  | nil =>
    have hnil : attributesText [] ++ rest = rest := rfl
    cases fuel with
    | zero => rfl
    | succ fuel =>
      rw [hnil, tagAttributes, hlast]
      rfl
  | cons a attributes ih =>
    rw [List.forall_mem_cons] at h
    cases fuel with
    | zero => cases hfuel
    | succ fuel =>
      have hcons : attributesText (a :: attributes) = a.text ++ attributesText attributes := rfl
      have hfirst := h.1.tagAttribute?_append (leaves_attributesText h.2 hr)
      rw [hcons, List.append_assoc, tagAttributes, hfirst]
      simp only [ih h.2 (Nat.le_of_succ_le_succ hfuel)]
      split
      · next hempty =>
        rw [List.isEmpty_iff] at hempty
        rw [hempty, List.append_nil, List.nil_append]
      · rfl

theorem length_le_attributesText (h : ∀ a ∈ attributes, a.IsSound) :
    attributes.length ≤ (attributesText attributes).length := by
  induction attributes with
  | nil => exact Nat.le_refl 0
  | cons a attributes ih =>
    rw [List.forall_mem_cons] at h
    have hcons : attributesText (a :: attributes) = a.text ++ attributesText attributes := rfl
    have hpos : 0 < a.text.length := List.length_pos_iff.mpr (SpelledAttribute.text_ne_nil h.1)
    have htail := ih h.2
    rw [hcons, List.length_append, List.length_cons]
    omega

end

/-! ## Tags -/

/-- A start tag, or with `closed` a tag that closes itself. -/
structure SpelledTag where
  name : List Char
  attributes : List SpelledAttribute
  gap : List Char
  closed : Bool

namespace SpelledTag

/-- The way in which the tag ends. -/
def ending (t : SpelledTag) : List Char := t.gap ++ if t.closed then ['/', '>'] else ['>']

def text (t : SpelledTag) : List Char :=
  '<' :: (t.name ++ (attributesText t.attributes ++ t.ending))

def values (t : SpelledTag) : List (List Char) := t.attributes.filterMap SpelledAttribute.value?

/-- With an end tag in place of the slash. -/
def expanded (t : SpelledTag) : List Char := writtenOut t.name (attributesText t.attributes)

structure IsSound (t : SpelledTag) : Prop where
  name : IsTagName t.name
  attributes : ∀ a ∈ t.attributes, a.IsSound
  gap : ∀ c ∈ t.gap, isAsciiBlank c = true

instance : DecidablePred IsSound := fun t =>
  decidable_of_iff
    (IsTagName t.name ∧ (∀ a ∈ t.attributes, a.IsSound) ∧ t.gap.all isAsciiBlank = true)
    ⟨fun h => ⟨h.1, h.2.1, List.all_eq_true.mp h.2.2⟩,
      fun h => ⟨h.name, h.attributes, List.all_eq_true.mpr h.gap⟩⟩

variable {t : SpelledTag}

section
variable (h : t.IsSound) (rest : List Char)
include h

theorem IsSound.dropWhile_ending :
    (t.ending ++ rest).dropWhile isBlank = (if t.closed then ['/', '>'] else ['>']) ++ rest := by
  have hblank : ∀ c ∈ t.gap, isBlank c = true := fun c hc => isBlank_of_isAsciiBlank (h.gap c hc)
  rw [ending, List.append_assoc]
  refine dropWhile_run hblank ?_
  cases t.closed <;> exact (stops_cons ..).mpr (by decide)

theorem IsSound.leaves_ending : LeavesAttribute (t.ending ++ rest) := by
  constructor
  · rw [ending]
    cases hgap : t.gap with
    | nil => cases t.closed <;> exact ⟨_, _, rfl, by decide⟩
    | cons c gap => exact ⟨c, _, rfl, endsName_of_isAsciiBlank (h.gap c (by simp [hgap]))⟩
  · rw [tagAssignment?, h.dropWhile_ending]
    cases t.closed <;> rfl

theorem IsSound.tagAttribute?_ending : tagAttribute? (t.ending ++ rest) = none := by
  have hname : ((t.ending ++ rest).dropWhile isBlank).takeWhile isNameChar = [] := by
    rw [h.dropWhile_ending]
    cases t.closed <;> rfl
  rw [tagAttribute?]
  simp [hname]

theorem IsSound.slashEnd?_ending :
    slashEnd? (t.ending ++ rest) = if t.closed then some rest else none := by
  rw [slashEnd?, h.dropWhile_ending]
  cases t.closed <;> rfl

theorem IsSound.leaves_name : LeavesName (attributesText t.attributes ++ t.ending ++ rest) := by
  rw [List.append_assoc]
  exact (leaves_attributesText h.attributes (h.leaves_ending rest)).1

theorem IsSound.selfClosing?_component (hname : IsComponentName t.name) :
    selfClosing? (t.text ++ rest)
      = if t.closed then some (t.name, attributesText t.attributes, rest) else none := by
  have hwhole : t.text ++ rest
      = '<' :: (t.name ++ (attributesText t.attributes ++ t.ending ++ rest)) := by simp [text]
  have hfuel : t.attributes.length ≤ (attributesText t.attributes ++ t.ending ++ rest).length := by
    rw [List.append_assoc, List.length_append]
    exact Nat.le_add_right_of_le (length_le_attributesText h.attributes)
  have hattrs : tagAttributes (attributesText t.attributes ++ t.ending ++ rest).length
      (attributesText t.attributes ++ t.ending ++ rest)
        = ⟨attributesText t.attributes, false, t.ending ++ rest⟩ := by
    rw [List.append_assoc] at hfuel ⊢
    exact tagAttributes_spelled h.attributes (h.leaves_ending rest) (h.tagAttribute?_ending rest) hfuel
  rw [hwhole, selfClosing?, componentName?_name (h.leaves_name rest).endsWord, componentName?_self hname]
  simp only [Option.map_some, List.nil_append, hattrs, h.slashEnd?_ending]
  cases t.closed <;> rfl

/-- **What the scan finds at a tag.** It takes a component's tag that closes itself, and no other tag
but those of raw elements. -/
theorem IsSound.expandStep (hraw : ∀ raw ∈ rawNames, ¬ OpensRaw raw t.name) :
    (IsComponentName t.name → t.closed = true →
        Html.expandStep (t.text ++ rest) = some (t.expanded, rest))
      ∧ (¬ (IsComponentName t.name ∧ t.closed = true) → Html.expandStep (t.text ++ rest) = none) := by
  have hwhole : t.text ++ rest
      = '<' :: (t.name ++ (attributesText t.attributes ++ t.ending ++ rest)) := by simp [text]
  have hopaque : opaqueSpan? (t.text ++ rest) = none := by
    rw [hwhole]
    exact opaqueSpan?_name h.name hraw (h.leaves_name rest).endsWord
  rw [Html.expandStep, hopaque]
  by_cases hname : IsComponentName t.name
  · rw [h.selfClosing?_component rest hname]
    cases hclosed : t.closed with
    | false => exact ⟨fun _ hf => absurd hf (by decide), fun _ => rfl⟩
    | true => exact ⟨fun _ _ => rfl, fun hn => absurd ⟨hname, rfl⟩ hn⟩
  · have hnone : selfClosing? (t.text ++ rest) = none := by
      rw [hwhole]
      exact selfClosing?_name h.name hname (h.leaves_name rest).endsWord
    rw [hnone]
    exact ⟨fun hc => absurd hc hname, fun _ => rfl⟩

end

end SpelledTag

end Lettermill.Html
