import Lettermill.Proofs.Style.Layers
/-! What the style blocks of a document make of its classes: which classes they style, which
attributes a class has, with which values and in which order. A selector styles a class only when it
is a dot and a class name, so a name that starts with a digit is styled by no rule. -/
namespace Lettermill
set_option autoImplicit false

namespace Css
open Text

/-! ## Class names -/

/-- An optional hyphen, a letter or underscore, then letters, digits, underscores and hyphens. -/
def IsClassName (name : List Char) : Prop :=
  ∃ front first rest, (front = [] ∨ front = ['-']) ∧ startsClass first = true
    ∧ rest.all continuesClass = true ∧ name = front ++ first :: rest

theorem isClassName_iff (name : List Char) : isClassName name = true ↔ IsClassName name := by
  constructor
  · intro h
    unfold isClassName at h
    rw [Bool.and_eq_true] at h
    obtain ⟨hfirst, hall⟩ := h
    split at hfirst
    · next c rest =>
      simp only [List.all_cons, Bool.and_eq_true] at hall
      exact ⟨['-'], c, rest, .inr rfl, hfirst, hall.2.2, rfl⟩
    · next c rest _ =>
      simp only [List.all_cons, Bool.and_eq_true] at hall
      exact ⟨[], c, rest, .inl rfl, hfirst, hall.2, rfl⟩
    · cases hfirst
  · rintro ⟨front, first, rest, hfront, hfirst, hrest, rfl⟩
    have hgoes : continuesClass first = true := by
      rw [continuesClass, hfirst]
      rfl
    rcases hfront with rfl | rfl
    · have hne : first ≠ '-' := by
        rintro rfl
        exact absurd hfirst (by decide)
      unfold isClassName
      rw [List.nil_append, List.all_cons, hgoes, hrest]
      split
      · next h => exact absurd (List.cons.inj h).1 hne
      · next h => simp [← (List.cons.inj h).1, hfirst]
      · next h => cases h
    · have hhyphen : continuesClass '-' = true := by decide
      simp [isClassName, hfirst, hhyphen, hgoes, hrest]

theorem IsClassName.continues {name : List Char} (h : IsClassName name) {c : Char}
    (hc : c ∈ name) : continuesClass c = true := by
  have hall := (Bool.and_eq_true_iff.mp ((isClassName_iff name).mpr h)).2
  exact List.all_eq_true.mp hall c hc

theorem classOf?_eq_some_iff {selector name : List Char} :
    classOf? selector = some name ↔ trimChars selector = '.' :: name ∧ IsClassName name := by
  rw [classOf?, ← isClassName_iff]
  split
  case h_1 found hfound =>
    rw [hfound, List.cons.injEq]
    by_cases h : isClassName found = true
    · rw [if_pos h, Option.some.injEq]
      constructor
      · rintro rfl
        exact ⟨⟨rfl, rfl⟩, h⟩
      · exact fun hn => hn.1.2
    · rw [if_neg h]
      constructor
      · intro hn
        cases hn
      · rintro ⟨⟨-, rfl⟩, hn⟩
        exact absurd hn h
  case h_2 hne =>
    constructor
    · intro h
      cases h
    · rintro ⟨h, -⟩
      exact absurd h (hne name)

/-! ## Rules that name a class -/

/-- Is the class, with its dot, one of the pieces of the selectors? -/
def Rule.names (r : Rule) (cls : String) : Bool :=
  (cutAt ',' r.selectors).any fun piece => trimChars piece == '.' :: cls.toList

theorem Rule.mem_classes {r : Rule} {cls : String} :
    cls ∈ r.classes ↔ IsClassName cls.toList ∧ r.names cls = true := by
  rw [classes, List.mem_map, names, List.any_eq_true]
  constructor
  · rintro ⟨name, hname, rfl⟩
    obtain ⟨piece, hpiece, hclass⟩ := List.mem_filterMap.mp hname
    obtain ⟨htrim, hshape⟩ := classOf?_eq_some_iff.mp hclass
    rw [String.toList_ofList]
    exact ⟨hshape, piece, hpiece, beq_iff_eq.mpr htrim⟩
  · rintro ⟨hshape, piece, hpiece, htrim⟩
    have hclass := classOf?_eq_some_iff.mpr ⟨beq_iff_eq.mp htrim, hshape⟩
    exact ⟨cls.toList, List.mem_filterMap.mpr ⟨piece, hpiece, hclass⟩, String.ofList_toList⟩

/-- Does a rule declare, with a value, a property that stands for the attribute? -/
def Rule.Declares (r : Rule) (name : String) : Prop :=
  ∃ d ∈ r.written, Style.valueOf (plainText d.2) ≠ []
    ∧ Style.attributeFor? (String.ofList (lowerChars d.1)) = some name

theorem Rule.mem_settings {r : Rule} {name : String} :
    name ∈ r.settings.map Prod.fst ↔ r.Declares name := by
  rw [settings, List.mem_map]
  constructor
  · rintro ⟨⟨found, value⟩, hsetting, rfl⟩
    obtain ⟨⟨property, text⟩, hd, hset⟩ := List.mem_filterMap.mp hsetting
    obtain ⟨hvalue, hname, -⟩ := Style.setting?_eq_some_iff.mp hset
    exact ⟨(property, text), hd, hvalue, hname⟩
  · rintro ⟨⟨property, text⟩, hd, hvalue, hname⟩
    have hset := Style.setting?_eq_some_iff.mpr ⟨hvalue, hname, rfl⟩
    exact ⟨_, List.mem_filterMap.mpr ⟨(property, text), hd, hset⟩, rfl⟩

/-- What the rules set that name a class, one after the other. -/
def settingsFor (rules : List Rule) (cls : String) : List (String × String) :=
  (rules.filter (·.names cls)).flatMap Rule.settings

theorem given_eq_some_iff {rules : List Rule} {cls : String} {attributes : Attributes} :
    given rules cls = some attributes
      ↔ (IsClassName cls.toList ∧ ∃ r ∈ rules, r.names cls = true)
        ∧ attributes = Dict.ofList (settingsFor rules cls) := by
  by_cases hshape : IsClassName cls.toList
  · have hsame : rules.filter (fun r => r.classes.contains cls) = rules.filter (·.names cls) := by
      refine List.filter_congr fun r _ => Bool.eq_iff_iff.mpr ?_
      rw [List.contains_iff_mem, Rule.mem_classes, and_iff_right hshape]
    have hany : (∃ r ∈ rules, r.names cls = true) ↔ rules.filter (·.names cls) ≠ [] := by
      rw [Ne, List.filter_eq_nil_iff]
      push Not
      rfl
    rw [given, hsame, hany, and_iff_right hshape, settingsFor]
    cases rules.filter (·.names cls) with
    | nil => simp [resolved?]
    | cons r rs => simp [resolved?, eq_comm]
  · have hnone : rules.filter (fun r => r.classes.contains cls) = [] := by
      rw [List.filter_eq_nil_iff]
      intro r _ hr
      exact hshape (Rule.mem_classes.mp (List.contains_iff_mem.mp hr)).1
    rw [given, hnone, resolved?]
    constructor
    · intro h
      cases h
    · exact fun h => absurd h.1.1 hshape

end Css

/-! ## Styles of a document -/

/-- The styles of every class as the rules give them, the rules in their order. -/
structure ClassStyles.ResolvedFrom (styles : ClassStyles) (rules : List Css.Rule) : Prop where
  present (cls : String) : (styles.get? cls).isSome = true
    ↔ Css.IsClassName cls.toList ∧ ∃ r ∈ rules, r.names cls = true
  sets {cls : String} {attributes : Attributes} (h : styles.get? cls = some attributes)
    (name : String) : (attributes.get? name).isSome = true
      ↔ ∃ r ∈ rules, r.names cls = true ∧ r.Declares name
  last {cls : String} {attributes : Attributes} (h : styles.get? cls = some attributes)
    (name : String) : attributes.get? name = (Css.settingsFor rules cls).reverse.lookup name
  order {cls : String} {attributes : Attributes} (h : styles.get? cls = some attributes) :
    attributes.keys = ((Css.settingsFor rules cls).map Prod.fst).eraseDups

theorem ClassStyles.resolvedFrom_of_given {styles : ClassStyles} {rules : List Css.Rule}
    (h : ∀ cls, styles.get? cls = Css.given rules cls) : styles.ResolvedFrom rules where
  present cls := by
    rw [h, Option.isSome_iff_exists]
    constructor
    · rintro ⟨attributes, ha⟩
      exact (Css.given_eq_some_iff.mp ha).1
    · exact fun hs => ⟨_, Css.given_eq_some_iff.mpr ⟨hs, rfl⟩⟩
  sets {cls attributes} hg name := by
    rw [h] at hg
    rw [Dict.isSome_get?, (Css.given_eq_some_iff.mp hg).2, Dict.mem_keys_ofList, Css.settingsFor,
      List.map_flatMap, List.mem_flatMap]
    constructor
    · rintro ⟨r, hr, hname⟩
      obtain ⟨hr, hc⟩ := List.mem_filter.mp hr
      exact ⟨r, hr, hc, Css.Rule.mem_settings.mp hname⟩
    · rintro ⟨r, hr, hc, hname⟩
      exact ⟨r, List.mem_filter.mpr ⟨hr, hc⟩, Css.Rule.mem_settings.mpr hname⟩
  last {cls attributes} hg name := by
    rw [h] at hg
    rw [(Css.given_eq_some_iff.mp hg).2, Dict.get?_ofList]
  order {cls attributes} hg := by
    rw [h] at hg
    rw [(Css.given_eq_some_iff.mp hg).2, Dict.keys_ofList]

/-- The styles of a document are those of the rules in the blocks that can be read, and each other
block has one warning. Neither the order of the classes within a block nor grouping blocks before
they are merged changes what a class has. -/
theorem Document.collectStyles_resolves (d : Document) :
    d.collectStyles.1.ResolvedFrom (Css.acceptedRules d.styleBlocks)
    ∧ d.collectStyles.2 = d.styleBlocks.filterMap Css.refusal?
    ∧ (∀ styles, Collects ∅ d.styleBlocks styles →
        ∀ cls, styles.get? cls = d.collectStyles.1.get? cls)
    ∧ (∀ groups : List (List String), groups.flatten = d.styleBlocks → ∀ cls,
        (mergeGroups ∅ groups).get? cls = d.collectStyles.1.get? cls)
    ∧ ∀ x y z : ClassStyles, ∀ cls,
        ((x.merge y).merge z).get? cls = (x.merge (y.merge z)).get? cls := by
  have hgiven : ∀ styles, Collects ∅ d.styleBlocks styles →
      ∀ cls, styles.get? cls = Css.given (Css.acceptedRules d.styleBlocks) cls := by
    intro styles h cls
    rw [h.get?]
    exact Style.none_laid _
  have hown := hgiven d.collectStyles.1 (collects_collectBlocks ∅ d.styleBlocks)
  refine ⟨ClassStyles.resolvedFrom_of_given hown, collectBlocks_advice ∅ d.styleBlocks, ?_, ?_,
    ClassStyles.get?_merge_assoc⟩
  · intro styles h cls
    rw [hgiven styles h cls, hown cls]
  · intro groups hgroups cls
    rw [get?_mergeGroups, hgroups]
    rfl

/-- A rule may name a class whose name starts with a digit, and does not style it. -/
theorem collectStyles_digit_first :
    ¬ (((⟨[.element "style" ∅ [.text ".1a { color: red }"]]⟩ : Document).collectStyles.1.get?
          "1a").isSome = true
        ↔ ∃ r ∈ Css.acceptedRules
            (⟨[.element "style" ∅ [.text ".1a { color: red }"]]⟩ : Document).styleBlocks,
          r.names "1a" = true) := by
  decide +kernel

end Lettermill
