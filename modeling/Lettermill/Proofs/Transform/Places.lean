import Lettermill.Proofs.Document.Order
import Lettermill.Proofs.Transform.Component
import Lettermill.Proofs.Transform.Outline
/-! Where elements are written, told from the tree. What is written for a node stands inside all that
is open around the node, and what is written for its children inside the element itself; and each
element that is no container is written for one of the source, under the tag of its mapping. Main
statement: with the built-in mappings a title comes from an element called `title`, and one below a
`head` stands inside a head. -/
namespace Lettermill
set_option autoImplicit false
open Text

/-- Is it a title that the conversion made? One that the source has as a component already is left
where it stands. -/
def Placement.IsTitle (place : Placement) : Prop :=
  place.tag = "mj-title" ∧ ∃ name ∈ place.source, Component.isComponent name = false

theorem Placement.IsTitle.mem_cons_iff {place : Placement} {source : Option String} {tag : String}
    {around : List String} {places : List Placement} (ht : place.IsTitle) (hne : tag ≠ "mj-title") :
    place ∈ ⟨source, tag, around⟩ :: places ↔ place ∈ places := by
  rw [List.mem_cons, or_iff_right]
  rintro rfl
  exact hne ht.1

namespace Builtin
variable {key : String} {m : Mapping}

/-- A built-in mapping writes its target, but for a `div` that is a column and a link that is text. -/
theorem tag_cases (h : mapping? key = some m) (attributes : Attributes) :
    (m.apply attributes).tag m.target ∈ [m.target, "mj-column", "mj-text"] := by
  have hdivision : (division attributes).tag "mj-section" ∈ ["mj-section", "mj-column", "mj-text"] := by
    rw [division]
    split <;> simp [Outcome.tag]
  have hlink : (link attributes).tag "mj-button" ∈ ["mj-button", "mj-column", "mj-text"] := by
    rw [link]
    split <;> simp [Outcome.tag]
  unfold mapping? at h
  split at h <;> cases h
  all_goals
    first
    | exact List.mem_cons_self ..
    | exact hdivision
    | exact hlink

theorem key_of_title {attributes : Attributes} (h : mapping? key = some m)
    (ht : (m.apply attributes).tag m.target = "mj-title") : key = "title" := by
  have hcases := tag_cases h attributes
  rw [ht, List.mem_cons, or_iff_left (by decide)] at hcases
  unfold mapping? at h
  split at h <;> cases h
  all_goals
    first
    | rfl
    | exact absurd hcases (by decide)

end Builtin

namespace Registry
variable {r : Registry} {around : List String} {place : Placement}

/-! ## Around a node -/

theorem mem_placesAll {nodes : List Node} :
    place ∈ r.placesAll around nodes ↔ ∃ node ∈ nodes, place ∈ r.places around node := by
  induction nodes with
  | nil => simp [placesAll]
  | cons node rest ih => simp [placesAll, ih]

theorem mem_places_element {name : String} {attributes : Attributes} {children : List Node}
    (h : place ∈ r.places around (.element name attributes children)) :
    place = ⟨some name, r.tagFor name attributes, around⟩ ∨
    (∃ tag, place = ⟨none, tag, r.tagFor name attributes :: around⟩) ∨
    ∃ container : Option String,
      place ∈ r.placesAll (container.toList ++ r.tagFor name attributes :: around) children := by
  rw [places] at h
  split at h
  case isTrue => exact absurd h List.not_mem_nil
  case isFalse =>
    rcases List.mem_cons.mp h with rfl | h
    · exact .inl rfl
    · split at h
      case isTrue => exact absurd h List.not_mem_nil
      case isFalse =>
        rcases List.mem_append.mp h with h | h
        · obtain ⟨tag, -, rfl⟩ := List.mem_map.mp h
          exact .inr (.inl ⟨tag, rfl⟩)
        · exact .inr (.inr ⟨_, h⟩)

mutual

theorem suffix_of_mem_places {around : List String} : ∀ {node : Node},
    place ∈ r.places around node → around <:+ place.around
  | .text _, h => absurd h List.not_mem_nil
  | .comment _, h => absurd h List.not_mem_nil
  | .element name attributes children, h => by
    rcases mem_places_element h with rfl | ⟨tag, rfl⟩ | ⟨container, h⟩
    · exact List.suffix_refl _
    · exact List.suffix_cons ..
    · -- the list grows at its front on the way down
      have hinside := suffix_of_mem_placesAll h
      exact (List.suffix_cons ..).trans ((List.suffix_append ..).trans hinside)

theorem suffix_of_mem_placesAll {around : List String} : ∀ {nodes : List Node},
    place ∈ r.placesAll around nodes → around <:+ place.around
  | [], h => absurd h List.not_mem_nil
  | node :: rest, h => by
    rw [placesAll] at h
    rcases List.mem_append.mp h with h | h
    · exact suffix_of_mem_places h
    · exact suffix_of_mem_placesAll h

end

/-! ## The source of an element -/

mutual

/-- What is no container is written for an element of the source. -/
theorem exists_placed {around : List String} {name : String} (hs : place.source = some name) :
    ∀ {node : Node}, place ∈ r.places around node →
      ∃ found ∈ node.placed, found.2.name = name ∧ r.tagFor name found.2.attributes = place.tag
  | .text _, h => absurd h List.not_mem_nil
  | .comment _, h => absurd h List.not_mem_nil
  | .element own attributes children, h => by
    rw [Node.placed]
    rcases mem_places_element h with rfl | ⟨tag, rfl⟩ | ⟨container, h⟩
    · cases hs
      exact ⟨_, List.mem_cons_self .., rfl, rfl⟩
    · cases hs
    · obtain ⟨found, hfound, hsame⟩ := exists_placedFrom hs 0 h
      exact ⟨found, List.mem_cons_of_mem _ hfound, hsame⟩

theorem exists_placedFrom {around : List String} {name : String} (hs : place.source = some name)
    (i : Nat) : ∀ {nodes : List Node}, place ∈ r.placesAll around nodes →
      ∃ found ∈ placedFrom i nodes,
        found.2.name = name ∧ r.tagFor name found.2.attributes = place.tag
  | [], h => absurd h List.not_mem_nil
  | node :: rest, h => by
    rw [placesAll] at h
    rw [placedFrom]
    rcases List.mem_append.mp h with h | h
    · obtain ⟨found, hfound, hsame⟩ := exists_placed hs h
      exact ⟨_, List.mem_append_left _ (List.mem_map_of_mem hfound), hsame⟩
    · obtain ⟨found, hfound, hsame⟩ := exists_placedFrom hs (i + 1) h
      exact ⟨found, List.mem_append_right _ hfound, hsame⟩

end

/-! ## Built-in mappings -/

/-- An element whose mapping does nothing but name a target is written under that name, around what
is written for its children. -/
theorem places_of_target (key : String) {name target : String} {attributes : Attributes}
    {children : List Node} (hname : sameLetters name key = true)
    (hkey : Component.isComponent (lower key) = false) (hm : r.lookup key = { target }) :
    r.places around (.element name attributes children)
      = ⟨some name, target, around⟩ :: r.placesAll (target :: around) children := by
  have hc : Component.isComponent name = false := Component.isComponent_of_sameLetters hname hkey
  have hlookup : r.lookup name = { target } := (lookup_of_sameLetters hname).trans hm
  have hout : r.leavesOut name = false := by simp [leavesOut, hlookup]
  have hoff : r.closesOff name = false := by simp [closesOff, hlookup]
  have htag : r.tagFor name attributes = target := by
    simp [tagFor, hc, hlookup, Mapping.apply, Outcome.tag]
  have hcontainer : r.containerFor name children = none := by simp [containerFor, hlookup]
  simp [places, hout, hoff, htag, hcontainer]

theorem sameLetters_title {name : String} {attributes : Attributes}
    (hc : Component.isComponent name = false)
    (h : Registry.new.tagFor name attributes = "mj-title") : sameLetters name "title" = true := by
  have hbuiltin : Registry.new.explicit? name = Builtin.mapping? (lower name) := rfl
  rw [tagFor, hc, if_neg Bool.false_ne_true, lookup, hbuiltin] at h
  cases hm : Builtin.mapping? (lower name) with
  | none =>
    rw [hm] at h
    have hfallback : "mj-text" = "mj-title" := h
    exact absurd hfallback (by decide)
  | some m =>
    rw [hm, Option.getD_some] at h
    have htitle : lower name = lower "title" := Builtin.key_of_title hm h
    exact beq_iff_eq.mpr htitle

/-! ## Titles -/

theorem places_head {name : String} {attributes : Attributes} {children : List Node}
    (h : sameLetters name "head" = true) :
    Registry.new.places around (.element name attributes children)
      = ⟨some name, "mj-head", around⟩ :: Registry.new.placesAll ("mj-head" :: around) children :=
  places_of_target "head" h (by decide +kernel) rfl

theorem places_title {name : String} {attributes : Attributes} {children : List Node}
    (h : sameLetters name "title" = true) :
    Registry.new.places around (.element name attributes children)
      = ⟨some name, "mj-title", around⟩ :: Registry.new.placesAll ("mj-title" :: around) children :=
  places_of_target "title" h (by decide +kernel) rfl

theorem is_title {e : Element} (ht : place.IsTitle) (hname : place.source = some e.name)
    (hfor : Registry.new.tagFor e.name e.attributes = place.tag) : e.is "title" = true := by
  obtain ⟨htag, name, hsource, hc⟩ := ht
  rw [hname, Option.mem_some_iff] at hsource
  rw [← hsource] at hc
  exact sameLetters_title hc (hfor.trans htag)

theorem exists_title {node : Node} (h : place ∈ Registry.new.places around node)
    (ht : place.IsTitle) : ∃ found ∈ node.placed, found.2.is "title" = true := by
  obtain ⟨name, hsource, -⟩ := ht.2
  obtain ⟨found, hfound, rfl, hfor⟩ := exists_placed hsource h
  exact ⟨found, hfound, is_title ht hsource hfor⟩

theorem exists_title_among {nodes : List Node} (h : place ∈ Registry.new.placesAll around nodes)
    (ht : place.IsTitle) : ∃ found ∈ placedFrom 0 nodes, found.2.is "title" = true := by
  obtain ⟨name, hsource, -⟩ := ht.2
  obtain ⟨found, hfound, rfl, hfor⟩ := exists_placedFrom hsource 0 h
  exact ⟨found, hfound, is_title ht hsource hfor⟩

theorem title_in_head {node : Node} (hnode : node.isNamed "head" = true)
    (h : place ∈ Registry.new.places around node) (ht : place.IsTitle) :
    "mj-head" ∈ place.around := by
  cases node with
  | text content => cases hnode
  | comment content => cases hnode
  | element name attributes children =>
    rw [places_head hnode, ht.mem_cons_iff (by decide)] at h
    exact (suffix_of_mem_placesAll h).subset (List.mem_cons_self ..)

theorem exists_title_at {node : Node} (hnode : node.isNamed "title" = true) (around : List String) :
    ∃ place ∈ Registry.new.places around node, place.IsTitle ∧ place.around = around := by
  cases node with
  | text content => cases hnode
  | comment content => cases hnode
  | element name attributes children =>
    have hkey : Component.isComponent (lower "title") = false := by decide +kernel
    have hc : Component.isComponent name = false := Component.isComponent_of_sameLetters hnode hkey
    rw [places_title hnode]
    exact ⟨_, List.mem_cons_self .., ⟨rfl, name, rfl, hc⟩, rfl⟩

end Registry

end Lettermill
