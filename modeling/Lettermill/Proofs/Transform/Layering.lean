import Lettermill.Proofs.Style.Blocks
import Lettermill.Proofs.Style.Names
import Lettermill.Proofs.Transform.Emission
/-! The layers of an element's attributes. What class rules, the `style` attribute, the class itself
and the transform of the mapping set is put down pair by pair, one layer after the other, and the
attributes are what the pairs leave: the last pair of a name has the value, the first pair the place.
From this the value of a name is read layer by layer from the top, and the order of the names layer by
layer from the bottom. What styling consumes comes back only from class rules, and from none that were
read from a style block. Main statement: any element that is converted is written with such attributes,
whether its tag closes itself or not. -/
namespace Lettermill
set_option autoImplicit false
open Text

/-! ## Pairs -/

namespace Dict
variable {α : Type}

theorem insertAll_flatMap (d : Dict α) {β : Type} (xs : List β) (f : β → List (String × α)) :
    d.insertAll (xs.flatMap f) = xs.foldl (fun d x => d.insertAll (f x)) d := by
  induction xs generalizing d with
  | nil => rfl
  | cons x xs ih => rw [List.flatMap_cons, insertAll_append, ih, List.foldl_cons]

theorem lookup_entries_reverse (d : Dict α) (key : String) :
    d.entries.reverse.lookup key = d.get? key := by
  have hn : (d.entries.reverse.map Prod.fst).Nodup := by
    rw [List.map_reverse, List.nodup_reverse]
    exact d.nodup
  rw [lookup_of_perm (List.reverse_perm _) hn, ← get?_eq_lookup]

end Dict

/-! ## What each layer sets -/

/-- What the declarations of a `style` attribute set that have a value and a known property. -/
def Style.settings (style : String) : List (String × String) :=
  (Declaration.ofStyle style).filterMap Declaration.attribute?

theorem Style.mem_attributeNames_of_settings {style name : String}
    (h : name ∈ (settings style).map Prod.fst) : name ∈ attributeNames := by
  obtain ⟨pair, hpair, rfl⟩ := List.mem_map.mp h
  obtain ⟨d, -, hd⟩ := List.mem_filterMap.mp hpair
  obtain ⟨found, hfound, rfl⟩ := Option.map_eq_some_iff.mp hd
  exact mem_attributeNames hfound

/-- Rules that were read from style blocks set nothing but what the table knows. -/
theorem mem_attributeNames_of_collected {blocks : List String} {cls name : String}
    {attributes : Attributes} (hcls : (collectBlocks ∅ blocks).1.get? cls = some attributes)
    (hname : name ∈ attributes.keys) : name ∈ Style.attributeNames := by
  rw [get?_collectBlocks] at hcls
  have hgiven := (Css.given_eq_some_iff.mp ((Style.none_laid _).symm.trans hcls)).2
  rw [hgiven, Dict.mem_keys_ofList, Css.settingsFor, List.map_flatMap, List.mem_flatMap] at hname
  obtain ⟨r, -, hsets⟩ := hname
  obtain ⟨d, -, -, hknown⟩ := Css.Rule.mem_settings.mp hsets
  exact Style.mem_attributeNames hknown

namespace Setting
variable (s : Setting) (source : Attributes)

/-- The classes that an element lists, if styles are to be resolved. -/
def listed : List String :=
  if s.inlineStyles then ((source.get? "class").map words).getD [] else []

/-- What the rules of a class set. -/
def ruled (cls : String) : List (String × String) := ((s.styles.get? cls).map Dict.entries).getD []

/-- What an element sets in its own `style` attribute, if styles are to be resolved. -/
def inlined : List (String × String) :=
  if s.inlineStyles then ((source.get? "style").map Style.settings).getD [] else []

/-- The class of an element, if it is to be kept. -/
def kept : List (String × String) :=
  if s.preserveClassNames then ((source.get? "class").map fun cls => [("css-class", cls)]).getD []
  else []

/-- The names of all layers, from the rules of the first class to the outcome of the transform. -/
def introduced (outcome : Outcome) : List String :=
  ((s.listed source).flatMap fun cls => (s.ruled cls).map Prod.fst) ++ (s.inlined source).map Prod.fst
    ++ (s.kept source).map Prod.fst ++ outcome.attributes.keys.filter fun name => !consumed.contains name

/-- The attributes that the layers of an element leave. -/
structure Layered (outcome : Outcome) (attributes : Attributes) : Prop where
  once : attributes.keys.Nodup
  /-- Only the rules of a class bring back what styling consumes. -/
  consumed (name : String) (h : name ∈ Setting.consumed) : name ∈ attributes.keys
    ↔ ∃ cls ∈ s.listed source, name ∈ (s.ruled cls).map Prod.fst
  value (name : String) : attributes.get? name
    = (if name ∈ Setting.consumed then none else outcome.attributes.get? name).or
      (((s.kept source).lookup name).or
        (((s.inlined source).reverse.lookup name).or
          ((s.listed source).reverse.findSome? fun cls =>
            (s.styles.get? cls).bind fun rules => rules.get? name)))
  order : attributes.keys = (s.introduced source outcome).eraseDups

variable {s source}

/-! ## The layers put together -/

theorem apply_eq_insertAll (base : Attributes) (names : String) :
    s.styles.apply base names = base.insertAll ((words names).flatMap s.ruled) := by
  rw [ClassStyles.apply, Dict.insertAll_flatMap]
  congr 1
  funext attributes cls
  rw [ruled]
  cases s.styles.get? cls <;> rfl

theorem styled_eq_ofList : s.styled source
    = Dict.ofList ((s.listed source).flatMap s.ruled ++ s.inlined source ++ s.kept source) := by
  unfold styled
  extract_lets cls ruled inlined
  have hruled : ruled = Dict.ofList ((s.listed source).flatMap s.ruled) := by
    unfold ruled cls listed
    cases s.inlineStyles with
    | false => rfl
    | true =>
      cases source.get? "class" with
      | none => rfl
      | some names => exact apply_eq_insertAll ∅ names
  have hinlined : inlined
      = Dict.ofList ((s.listed source).flatMap s.ruled ++ s.inlined source) := by
    have hnone : ruled = Dict.ofList ((s.listed source).flatMap s.ruled ++ []) := by
      rw [List.append_nil, hruled]
    unfold inlined Setting.inlined
    cases s.inlineStyles with
    | false => exact hnone
    | true =>
      cases source.get? "style" with
      | none => exact hnone
      | some style =>
        have hlaid : ruled.overlay (Style.resolveInline style)
            = ruled.insertAll (Style.settings style) := Dict.overlay_ofList _ _
        rw [Dict.ofList, Dict.insertAll_append, ← Dict.ofList, ← hruled]
        exact hlaid
  have hnone : inlined
      = Dict.ofList ((s.listed source).flatMap s.ruled ++ s.inlined source ++ []) := by
    rw [List.append_nil, hinlined]
  unfold kept
  cases s.preserveClassNames with
  | false => exact hnone
  | true =>
    unfold cls
    cases source.get? "class" with
    | none => exact hnone
    | some names =>
      rw [Dict.ofList, Dict.insertAll_append, ← Dict.ofList, ← hinlined]
      rfl

theorem layered_eq_ofList (outcome : Outcome) : s.layered source outcome
    = Dict.ofList ((s.listed source).flatMap s.ruled ++ s.inlined source ++ s.kept source
      ++ (outcome.attributes.filterKeys fun name => !consumed.contains name).entries) := by
  rw [layered, styled_eq_ofList]
  exact (Dict.insertAll_append ..).symm

/-- Of several classes the one that is listed last has a say. -/
theorem lookup_ruled (classes : List String) (name : String) :
    (classes.flatMap s.ruled).reverse.lookup name
      = classes.reverse.findSome? fun cls =>
          (s.styles.get? cls).bind fun rules => rules.get? name := by
  induction classes with
  | nil => rfl
  | cons cls rest ih =>
    have hone : (s.ruled cls).reverse.lookup name
        = (s.styles.get? cls).bind fun rules => rules.get? name := by
      rw [ruled]
      cases s.styles.get? cls with
      | none => rfl
      | some rules => exact rules.lookup_entries_reverse name
    rw [List.flatMap_cons, List.reverse_append, List.lookup_append, ih, List.reverse_cons,
      List.findSome?_append, hone]
    congr 1
    rw [List.findSome?_singleton]

theorem lookup_kept_reverse (name : String) :
    (s.kept source).reverse.lookup name = (s.kept source).lookup name := by
  unfold kept
  cases s.preserveClassNames with
  | false => rfl
  | true => cases source.get? "class" <;> rfl

theorem mem_attributeNames_of_inlined {name : String}
    (h : name ∈ (s.inlined source).map Prod.fst) : name ∈ Style.attributeNames := by
  obtain ⟨⟨key, value⟩, hpair, rfl⟩ := List.mem_map.mp h
  unfold inlined at hpair
  split at hpair
  case isFalse => cases hpair
  case isTrue =>
    cases hstyle : source.get? "style" with
    | none => rw [hstyle] at hpair; cases hpair
    | some style =>
      rw [hstyle] at hpair
      exact Style.mem_attributeNames_of_settings (List.mem_map_of_mem hpair)

theorem mem_attributeNames_of_ruled {blocks : List String}
    (h : s.styles = (collectBlocks ∅ blocks).1) {cls name : String}
    (hname : name ∈ (s.ruled cls).map Prod.fst) : name ∈ Style.attributeNames := by
  rw [ruled] at hname
  cases hcls : s.styles.get? cls with
  | none => rw [hcls] at hname; cases hname
  | some attributes =>
    rw [hcls] at hname
    rw [h] at hcls
    exact mem_attributeNames_of_collected hcls hname

theorem eq_of_mem_kept {name : String} (h : name ∈ (s.kept source).map Prod.fst) :
    name = "css-class" := by
  unfold kept at h
  split at h
  case isFalse => cases h
  case isTrue =>
    cases hcls : source.get? "class" with
    | none => rw [hcls] at h; cases h
    | some cls => rw [hcls] at h; exact List.mem_singleton.mp h

theorem consumed_foreign {name : String} (h : name ∈ consumed) :
    name ∉ Style.attributeNames ∧ name ≠ "css-class" := by
  revert name
  decide

theorem layered_layered (outcome : Outcome) :
    s.Layered source outcome (s.layered source outcome) where
  once := (s.layered source outcome).nodup
  consumed name hconsumed := by
    obtain ⟨htable, hcopy⟩ := consumed_foreign hconsumed
    have hstyle : name ∉ (s.inlined source).map Prod.fst := fun h =>
      htable (mem_attributeNames_of_inlined h)
    have hclass : name ∉ (s.kept source).map Prod.fst := fun h => hcopy (eq_of_mem_kept h)
    have hout : name ∉ (outcome.attributes.filterKeys
        fun name => !Setting.consumed.contains name).entries.map Prod.fst := by
      intro h
      have hkeys : name ∈ (outcome.attributes.filterKeys
          fun name => !Setting.consumed.contains name).keys := h
      rw [Dict.keys_filterKeys, List.mem_filter] at hkeys
      simp [hconsumed] at hkeys
    rw [layered_eq_ofList, Dict.mem_keys_ofList, List.map_append, List.map_append, List.map_append,
      List.mem_append, List.mem_append, List.mem_append, or_iff_left hout, or_iff_left hclass,
      or_iff_left hstyle, List.map_flatMap, List.mem_flatMap]
  value name := by
    rw [layered_eq_ofList, Dict.get?_ofList]
    simp only [List.reverse_append, List.lookup_append]
    rw [Dict.lookup_entries_reverse, Dict.get?_filterKeys, lookup_kept_reverse, lookup_ruled]
    by_cases h : name ∈ Setting.consumed <;> simp [h]
  order := by
    rw [layered_eq_ofList, Dict.keys_ofList, introduced, ← Dict.keys_filterKeys, List.map_append,
      List.map_append, List.map_append, List.map_flatMap]
    rfl

/-! ## Written elements -/

theorem emitMapped_form (m : Mapping) (source target : String) (attrs : Attributes)
    (content : String) (parent : Option String) :
    emitMapped m source target attrs content parent = Markup.selfClosing target attrs
      ∨ ∃ held, emitMapped m source target attrs content parent = Markup.full target attrs held := by
  rw [emitMapped]
  split
  · rw [Listing.emit]
    split
    · exact .inr ⟨_, rfl⟩
    · exact .inr ⟨_, rfl⟩
  · extract_lets held
    split
    · exact .inl rfl
    · exact .inr ⟨held, rfl⟩

/-- **A converted element is written with the attributes that its layers leave**, in whichever form
its tag comes. With styles that were collected from blocks, what styling consumes never comes back. -/
theorem emit_layers (s : Setting) (parent : Option String) (name : String) (source : Attributes)
    (children : List Node) (hc : Component.isComponent name = false)
    (ho : (s.registry.lookup name).omitted = false) :
    ∃ tag attributes, (s.emit parent (.element name source children)).tag = some tag
      ∧ ((s.emit parent (.element name source children)).markup = Markup.selfClosing tag attributes
        ∨ ∃ content, (s.emit parent (.element name source children)).markup
            = Markup.full tag attributes content)
      ∧ s.Layered source ((s.registry.lookup name).apply source) attributes
      ∧ ∀ blocks, s.styles = (collectBlocks ∅ blocks).1 →
          ∀ key ∈ consumed, key ∉ attributes.keys := by
  have hleft : s.registry.leavesOut name = false := by rw [Registry.leavesOut, ho, Bool.and_false]
  obtain ⟨htag, hmarkup⟩ := @emit_mapped s parent name source children hc hleft
  have hattrs : s.attributesFor name source
      = s.layered source ((s.registry.lookup name).apply source) := by
    rw [attributesFor, hc]
    rfl
  refine ⟨_, _, htag, ?_, layered_layered _, fun blocks hstyles key hkey hwritten => ?_⟩
  · rw [hmarkup, ← hattrs]
    exact emitMapped_form ..
  · obtain ⟨cls, -, hruled⟩ := ((layered_layered _).consumed key hkey).mp hwritten
    exact (consumed_foreign hkey).1 (mem_attributeNames_of_ruled hstyles hruled)

/-- A heading with two classes to keep, a size of its own and the size that its mapping sets. -/
theorem emit_layers_heading :
    let s : Setting :=
      { styles := (collectBlocks ∅ [".a\x7bmargin:0;color:blue\x7d .b\x7bcolor:green\x7d"]).1
        preserveClassNames := true }
    let source : Attributes :=
      Dict.ofList [("id", "t"), ("class", "a b"), ("style", "font-size: 10px; width: 1px")]
    ∃ (tag : String) (attributes : Attributes),
      (s.emit none (.element "h1" source [.text "T"])).tag = some tag
      ∧ attributes.keys = ["margin", "color", "font-size", "width", "css-class", "id", "font-weight"]
      ∧ "style" ∉ attributes.keys ∧ attributes.get? "color" = some "green"
      ∧ attributes.get? "font-size" = some "28px" ∧ attributes.get? "css-class" = some "a b" := by
  intro s source
  obtain ⟨tag, attributes, htag, -, hlayers, hread⟩ :=
    emit_layers s none "h1" source [.text "T"] (by decide) (by decide)
  exact ⟨tag, attributes, htag, hlayers.order.trans (by decide +kernel),
    hread _ rfl "style" (by decide), (hlayers.value "color").trans (by decide +kernel),
    (hlayers.value "font-size").trans (by decide +kernel),
    (hlayers.value "css-class").trans (by decide +kernel)⟩

/-- A class whose attributes were assigned by hand brings back what styling consumes. -/
theorem emit_layers_assigned :
    let s : Setting :=
      { styles := (∅ : ClassStyles).assign "x" (Dict.ofList [("style", "v"), ("class", "w")]) }
    let source : Attributes := Dict.ofList [("class", "x")]
    let attributes := s.layered source ((s.registry.lookup "p").apply source)
    (s.emit none (.element "p" source [.text "T"])).markup = Markup.full "mj-text" attributes "T"
      ∧ Markup.full "mj-text" attributes "T" = "<mj-text style=\"v\" class=\"w\">T</mj-text>"
      ∧ attributes.keys = consumed := by
  decide +kernel

end Setting

end Lettermill
