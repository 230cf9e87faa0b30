import Lettermill.Converter
import Lettermill.Proofs.Dict
import Lettermill.Proofs.Transform.Outline
/-! The names that styling brings into the attributes of an element. They all come from the closed
table of properties, or are `css-class`, so they are fit to be written whatever the style sheets
and the `style` attributes say. Main statement: only the transform of a mapping can bring in a name
that cannot be written. -/
namespace Lettermill
set_option autoImplicit false
open Markup

/-! ## Attributes -/

namespace Markup

theorem Named.insert {attrs : Attributes} {name value : String} (h : Named attrs)
    (hn : IsName name) : Named (attrs.insert name value) := by
  intro k hk
  rcases Dict.mem_keys_insert.mp hk with rfl | hk
  · exact hn
  · exact h k hk

theorem Named.overlay {lower upper : Attributes} (hl : Named lower) (hu : Named upper) :
    Named (lower.overlay upper) := by
  intro k hk
  rcases Dict.mem_keys_overlay.mp hk with hk | hk
  · exact hu k hk
  · exact hl k hk

end Markup

namespace Style

theorem isName_of_mem_table : ∀ name ∈ attributeNames, IsName name := by
  decide +kernel

theorem mem_attributeNames {property name : String} (h : attributeFor? property = some name) :
    name ∈ attributeNames := by
  obtain ⟨entry, hentry, rfl⟩ := Option.map_eq_some_iff.mp h
  exact List.mem_map_of_mem (List.mem_of_find?_eq_some hentry)

theorem named_resolveDeclarations (ds : List Declaration) : Named (resolveDeclarations ds) := by
  intro name hname
  obtain ⟨pair, hpair, rfl⟩ := List.mem_map.mp (Dict.mem_keys_ofList.mp hname)
  obtain ⟨d, -, hd⟩ := List.mem_filterMap.mp hpair
  obtain ⟨found, hfound, rfl⟩ := Option.map_eq_some_iff.mp hd
  exact isName_of_mem_table _ (mem_attributeNames hfound)

end Style

/-! ## Classes -/

namespace ClassStyles

def AllNamed (styles : ClassStyles) : Prop := ∀ e ∈ styles.classes.entries, Named e.2

theorem allNamed_empty : AllNamed ∅ := fun _ h => absurd h List.not_mem_nil

theorem AllNamed.get {styles : ClassStyles} {cls : String} {attrs : Attributes}
    (h : styles.AllNamed) (hg : styles.get? cls = some attrs) : Named attrs :=
  h _ (Dict.mem_of_get? hg)

theorem AllNamed.assign {styles : ClassStyles} {attrs : Attributes} (h : styles.AllNamed)
    (ha : Named attrs) (cls : String) : (styles.assign cls attrs).AllNamed := by
  intro e he
  rcases Dict.mem_insert he with rfl | he
  · refine Named.overlay ?_ ha
    cases hg : styles.get? cls with
    | none => exact named_empty
    | some before => exact h.get hg
  · exact h e he

theorem AllNamed.merge {styles later : ClassStyles} (h : styles.AllNamed) (hl : later.AllNamed) :
    (styles.merge later).AllNamed := by
  rw [ClassStyles.merge]
  unfold AllNamed at hl
  generalize later.classes.entries = es at hl ⊢
  induction es generalizing styles with
  | nil => exact h
  | cons e es ih =>
    rw [List.forall_mem_cons] at hl
    exact ih (h.assign hl.1 e.1) hl.2

theorem AllNamed.addRule {styles : ClassStyles} (h : styles.AllNamed) (r : Css.Rule) :
    (styles.addRule r).AllNamed := by
  rw [ClassStyles.addRule]
  induction r.classes generalizing styles with
  | nil => exact h
  | cons cls rest ih => exact ih (h.assign (Style.named_resolveDeclarations r.declarations) cls)

theorem allNamed_ofSheet {css : String} {styles : ClassStyles} (h : ofSheet css = .ok styles) :
    styles.AllNamed := by
  have folded : ∀ (rules : List Css.Rule) {before : ClassStyles}, before.AllNamed →
      (rules.foldl addRule before).AllNamed := by
    intro rules
    induction rules with
    | nil => exact fun hb => hb
    | cons r rest ih => exact fun hb => ih (hb.addRule r)
  rw [ofSheet] at h
  cases hr : Css.rules css with
  | error e =>
    rw [hr] at h
    cases h
  | ok rules =>
    rw [hr] at h
    cases h
    exact folded rules allNamed_empty

theorem AllNamed.apply {styles : ClassStyles} {base : Attributes} (h : styles.AllNamed)
    (hb : Named base) (names : String) : Named (styles.apply base names) := by
  rw [ClassStyles.apply]
  induction Text.words names generalizing base with
  | nil => exact hb
  | cons cls rest ih =>
    apply ih
    beta_reduce
    cases hg : styles.get? cls with
    | none => exact hb
    | some attrs => exact hb.overlay (h.get hg)

end ClassStyles

theorem allNamed_collectBlocks {styles : ClassStyles} (h : styles.AllNamed) (blocks : List String) :
    (collectBlocks styles blocks).1.AllNamed := by
  induction blocks generalizing styles with
  | nil => exact h
  | cons css rest ih =>
    rw [collectBlocks]
    split
    case h_1 block hblock => exact ih (h.merge (ClassStyles.allNamed_ofSheet hblock))
    case h_2 e he => exact ih h

/-! ## Elements -/

namespace Setting
variable {s : Setting}

theorem named_styled (h : s.styles.AllNamed) (source : Attributes) : Named (s.styled source) := by
  unfold styled
  extract_lets cls ruled inlined
  have hruled : Named ruled := by
    unfold ruled
    split
    · exact h.apply named_empty _
    · exact named_empty
  have hinlined : Named inlined := by
    unfold inlined
    split
    · exact hruled.overlay (Style.named_resolveDeclarations _)
    · exact hruled
  split
  · exact hinlined.insert (by decide)
  · exact hinlined

/-- With class styles from style sheets, an element has fit names when its own attributes do. -/
theorem named_attributesFor (h : s.styles.AllNamed) {name : String} {attributes : Attributes}
    (ho : Named (s.registry.ownAttributes name attributes)) :
    Named (s.attributesFor name attributes) := by
  rw [attributesFor]
  rw [Registry.ownAttributes] at ho
  split
  case isTrue hc => rwa [if_pos hc] at ho
  case isFalse hc =>
    rw [if_neg hc] at ho
    exact (named_styled h attributes).overlay ho

end Setting

end Lettermill
