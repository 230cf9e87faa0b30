import Lettermill.Proofs.Transform.Outline
/-! The emitter against the tree, function by function: what a component, a mapped element and a row of
nodes hold. Content counts as blank in written markup exactly when nothing of the nodes can be seen, so
both decide alike. Main statement: the markup of a node that is fit to be written holds just the
elements that the tree tells, each inside those that the tree tells, and its shown text; and an element
is written as one. -/
namespace Lettermill
set_option autoImplicit false
open Text Markup
open Registry (leavesOut closesOff tagFor containerFor marker marker_component isVisible outline
  places placesAll shownText shownTextAll writtenNodes writtenNodesAll)

namespace Setting
variable {s : Setting}

/-! ## One element -/

theorem emit_leftOut {parent : Option String} {name : String} {attributes : Attributes}
    {children : List Node} (h : s.registry.leavesOut name = true) :
    s.emit parent (.element name attributes children)
      = { warnings := advice (s.registry.lookup name) name } := by
  rw [leavesOut, Bool.and_eq_true, Bool.not_eq_true'] at h
  simp only [emit, h.1, h.2, if_true, Bool.false_eq_true, if_false]

theorem emit_component {parent : Option String} {name : String} {attributes : Attributes}
    {children : List Node} (h : Component.isComponent name = true) :
    s.emit parent (.element name attributes children)
      = emitComponent name attributes (s.emitAll name children) := by
  simp only [emit, h, if_true]

theorem emit_mapped {parent : Option String} {name : String} {attributes : Attributes}
    {children : List Node} (hc : Component.isComponent name = false)
    (ho : s.registry.leavesOut name = false) :
    (s.emit parent (.element name attributes children)).tag
      = some (s.registry.tagFor name attributes) ∧
    (s.emit parent (.element name attributes children)).markup
      = emitMapped (s.registry.lookup name) name (s.registry.tagFor name attributes)
          (s.attributesFor name attributes) (s.emitAll name children).markup parent := by
  rw [leavesOut, hc, Bool.not_false, Bool.true_and] at ho
  simp [emit, hc, ho, tagFor, attributesFor]

theorem bracketed_emitComponent (name : String) (attrs : Attributes) (content : Emission) :
    Bracketed (emitComponent name attrs content).markup := by
  rw [emitComponent]
  split
  · exact bracketed_selfClosing name attrs
  · exact bracketed_full name attrs _

theorem bracketed_emitMapped (m : Mapping) (source target : String) (attrs : Attributes)
    (content : String) (parent : Option String) :
    Bracketed (emitMapped m source target attrs content parent) := by
  have around : ∀ held : String, Bracketed (if m.selfClosing || allBlank held then
      selfClosing target attrs else full target attrs held) := by
    intro held
    split
    · exact bracketed_selfClosing target attrs
    · exact bracketed_full target attrs held
  rw [emitMapped]
  split
  · rw [Listing.emit]
    split <;> exact bracketed_full target attrs _
  · exact around _

theorem emit_written {parent : Option String} {name : String} {attributes : Attributes}
    {children : List Node} (ho : s.registry.leavesOut name = false) :
    (s.emit parent (.element name attributes children)).tag
      = some (s.registry.tagFor name attributes) ∧
    Bracketed (s.emit parent (.element name attributes children)).markup := by
  cases hc : Component.isComponent name with
  | true =>
    rw [emit_component hc, tagFor, if_pos hc]
    exact ⟨rfl, bracketed_emitComponent ..⟩
  | false =>
    refine ⟨(emit_mapped hc ho).1, ?_⟩
    rw [(emit_mapped hc ho).2]
    exact bracketed_emitMapped ..

/-! ## Blank content -/

/-- The markup of a node is blank exactly when nothing of the node can be seen. -/
theorem allBlank_emit (parent : Option String) (node : Node) :
    allBlank (s.emit parent node).markup = !s.registry.isVisible node := by
  cases node with
  | text content => rw [isVisible, Bool.not_not, emit]; rfl
  | comment content =>
    refine Bracketed.not_blank ⟨"!-- ".toList ++ (content.toList ++ " --".toList), ?_⟩
    simp [emit, Emission.raw, String.toList_append]
  | element name attributes children =>
    rw [isVisible, Bool.not_not]
    cases ho : s.registry.leavesOut name with
    | true => rw [emit_leftOut ho]; rfl
    | false => exact (emit_written ho).2.not_blank

theorem allBlank_emitAll (parent : String) (nodes : List Node) :
    allBlank (s.emitAll parent nodes).markup = !nodes.any s.registry.isVisible := by
  induction nodes with
  | nil => rw [emitAll]; rfl
  | cons node rest ih =>
    have happ : allBlank ((s.emit (some parent) node).append (s.emitAll parent rest)).markup
        = (allBlank (s.emit (some parent) node).markup
          && allBlank (s.emitAll parent rest).markup) := by
      rw [Emission.append, allBlank, String.toList_append, List.all_append]
      rfl
    rw [emitAll, happ, allBlank_emit, ih, List.any_cons, Bool.not_or]

/-! ## What an element holds -/

theorem emitComponent_holds {name : String} {attrs : Attributes} {content : Emission}
    {sites : List String → List Site} {seen : List Char} (ht : IsTag name) (ha : Named attrs)
    (hc : Holds content.markup sites seen) :
    Holds (emitComponent name attrs content).markup
      (fun opened => (name, opened) :: sites (name :: opened)) seen := by
  rw [emitComponent]
  split
  case isTrue hb => exact hc.collapsed ht ha hb
  case isFalse => exact hc.full ht ha

theorem emitMapped_closed {m : Mapping} {source target content : String} {attrs : Attributes}
    {parent : Option String} (ht : IsTag target) (ha : Named attrs) (hs : m.special = false)
    (hc : m.selfClosing = true) :
    Holds (emitMapped m source target attrs content parent) (fun opened => [(target, opened)])
      [] := by
  simp only [emitMapped, hs, hc, Bool.false_eq_true, if_false, Bool.true_or, if_true]
  exact Holds.selfClosing ht ha

/-- A special mapping shows its content, behind the bullet when it is an item of a list. -/
theorem emitMapped_special {m : Mapping} {source target content : String} {attrs : Attributes}
    {parent : Option String} {sites : List String → List Site} {seen : List Char}
    (ht : IsTag target) (ha : Named attrs) (hs : m.special = true)
    (hc : Holds content sites seen) :
    Holds (emitMapped m source target attrs content parent)
      (fun opened => (target, opened) :: sites (target :: opened))
      ((if source = "li" ∧ parent = some "ul" then ['•'] else []) ++ seen) := by
  have bullet : Holds Listing.bullet (fun _ => []) ['•'] := Holds.text (by decide)
  rw [emitMapped, if_pos hs, Listing.emit]
  simp only [Bool.and_eq_true, decide_eq_true_eq, beq_iff_eq]
  split
  · exact (bullet.append hc).full ht ha
  · exact hc.full ht ha

/-- Any other mapping shows its content, inside the container when something can be seen. -/
theorem emitMapped_around {m : Mapping} {source target content : String} {attrs : Attributes}
    {parent : Option String} {sites : List String → List Site} {seen : List Char}
    {container : List String} (ht : IsTag target)
    (ha : Named attrs) (hs : m.special = false) (hm : m.selfClosing = false)
    (hc : Holds content sites seen)
    (hcontainer : container = (if allBlank content then none else m.container).toList)
    (hw : allBlank content = false → ∀ tag ∈ m.container, IsTag tag) :
    Holds (emitMapped m source target attrs content parent)
      (fun opened => (target, opened) ::
        (container.map (·, target :: opened) ++ sites (container ++ target :: opened))) seen := by
  have around : ∀ {held : String} {inner : List String → List Site}, Holds held inner seen →
      Holds (if m.selfClosing || allBlank held then selfClosing target attrs
        else full target attrs held) (fun opened => (target, opened) :: inner (target :: opened))
        seen := by
    intro held inner hh
    rw [hm, Bool.false_or]
    split
    case isTrue hb => exact hh.collapsed ht ha hb
    case isFalse => exact hh.full ht ha
  simp only [emitMapped, hs, Bool.false_eq_true, if_false]
  subst hcontainer
  cases hb : allBlank content with
  | true => cases m.container <;> simpa [hb] using around hc
  | false =>
    cases hcon : m.container with
    | none => exact around hc
    | some container => exact around (hc.wrap (hw hb container hcon))

/-- An element that is written holds the places and shows the text that the tree tells, provided its
content does. -/
theorem emit_element_holds {parent : Option String} {name : String} {attributes : Attributes}
    {children : List Node}
    (hw : s.registry.CanWrite s.attributesFor (.element name attributes children))
    (hin : s.registry.leavesOut name = false → s.registry.closesOff name = false →
      Holds (s.emitAll name children).markup
        (fun around => (s.registry.placesAll around children).map Placement.site)
        (unblank (s.registry.shownTextAll name children))) :
    Holds (s.emit parent (.element name attributes children)).markup
      (fun around => (s.registry.places around (.element name attributes children)).map Placement.site)
      (unblank (s.registry.shownText parent (.element name attributes children))) := by
  simp only [places, shownText]
  cases ho : s.registry.leavesOut name with
  | true =>
    rw [emit_leftOut ho]
    exact Holds.nil
  | false =>
    obtain ⟨ht, ha, hcon⟩ := hw ho
    specialize hin ho
    cases hc : Component.isComponent name with
    | true =>
      have hoff : s.registry.closesOff name = false := Registry.closesOff_component hc
      have htag : s.registry.tagFor name attributes = name := by rw [tagFor, if_pos hc]
      rw [htag] at ht
      rw [attributesFor, if_pos hc] at ha
      rw [emit_component hc, hoff, htag, Registry.containerFor_component hc, marker_component hc]
      exact emitComponent_holds ht ha (hin hoff)
    | false =>
      rw [(emit_mapped hc ho).2]
      cases hs : (s.registry.lookup name).special with
      | true =>
        have hoff : s.registry.closesOff name = false := Registry.closesOff_special hs
        rw [hoff, Registry.containerFor_special hs]
        simp only [Bool.or_false, Bool.false_eq_true, if_false]
        rw [Registry.unblank_marker, Registry.marker_special hs]
        exact emitMapped_special ht ha hs (hin hoff)
      | false =>
        cases hm : (s.registry.lookup name).selfClosing with
        | true =>
          have hoff : s.registry.closesOff name = true := by simp [closesOff, hc, hs, hm]
          rw [hoff]
          exact emitMapped_closed ht ha hs hm
        | false =>
          have hoff : s.registry.closesOff name = false := by simp [closesOff, hm]
          have hheld : s.registry.containerFor name children
              = if allBlank (s.emitAll name children).markup then none
                else (s.registry.lookup name).container := by
            simp [containerFor, hc, hs, allBlank_emitAll]
          rw [hoff, Registry.marker_plain hs]
          simp only [Bool.false_eq_true, if_false, List.map_cons, List.map_append, List.map_map]
          refine emitMapped_around ht ha hs hm (hin hoff) (congrArg _ hheld) fun hb tag htag =>
            hcon tag ?_ hoff
          rw [hheld, hb]
          exact htag

mutual

theorem emit_holds (parent : Option String) : ∀ node : Node,
    (∀ n ∈ s.registry.writtenNodes node, s.registry.CanWrite s.attributesFor n) →
    Holds (s.emit parent node).markup
      (fun around => (s.registry.places around node).map Placement.site)
      (unblank (s.registry.shownText parent node))
  | .text content, h => by
    simp only [emit, places, shownText]
    exact Holds.text (h _ (List.mem_singleton_self _))
  | .comment content, h => by
    simp only [emit, places, shownText]
    exact Holds.comment (h _ (List.mem_singleton_self _))
  | .element name attributes children, h => by
    rw [writtenNodes, List.forall_mem_cons] at h
    refine emit_element_holds h.1 fun ho hoff => emitAll_holds name children fun n hn => h.2 n ?_
    rw [ho, hoff]
    exact hn

theorem emitAll_holds (parent : String) : ∀ nodes : List Node,
    (∀ n ∈ s.registry.writtenNodesAll nodes, s.registry.CanWrite s.attributesFor n) →
    Holds (s.emitAll parent nodes).markup
      (fun around => (s.registry.placesAll around nodes).map Placement.site)
      (unblank (s.registry.shownTextAll parent nodes))
  | [], _ => by
    simp only [emitAll, placesAll, shownTextAll]
    exact Holds.nil
  | node :: rest, h => by
    rw [writtenNodesAll, List.forall_mem_append] at h
    simp only [emitAll, placesAll, shownTextAll, unblank_append, List.map_append]
    exact (emit_holds (some parent) node h.1).append (emitAll_holds parent rest h.2)

end

theorem emit_shows (parent : Option String) {node : Node}
    (h : ∀ n ∈ s.registry.writtenNodes node, s.registry.CanWrite s.attributesFor n) :
    Shows (s.emit parent node).markup (s.registry.outline node)
      (unblank (s.registry.shownText parent node)) := by
  have hshow := (emit_holds parent node h).shows
  rw [List.map_map] at hshow
  rw [← s.registry.map_tag_places [] node]
  exact hshow

/-! ## Markup of one element -/

theorem isElement_emitComponent {name : String} {attrs : Attributes} {content : Emission}
    {ps : List Piece} (ht : IsTag name) (ha : Named attrs) (hc : Reads content.markup ps) :
    IsElement name (emitComponent name attrs content).markup := by
  rw [emitComponent]
  split
  · exact IsElement.selfClosing ht ha
  · exact IsElement.full ht ha hc

theorem isElement_emitMapped {m : Mapping} {source target content : String} {attrs : Attributes}
    {parent : Option String} (ht : IsTag target) (ha : Named attrs)
    (hc : m.special = true ∨ m.selfClosing = false → ∃ ps, Reads content ps)
    (hw : m.special = false → m.selfClosing = false → allBlank content = false →
      ∀ tag ∈ m.container, IsTag tag) :
    IsElement target (emitMapped m source target attrs content parent) := by
  cases hs : m.special with
  | true =>
    obtain ⟨ps, hread⟩ := hc (.inl hs)
    have hbullet : Reads Listing.bullet [.text Listing.bullet] := Reads.text (by decide)
    rw [emitMapped, if_pos hs, Listing.emit]
    split
    · exact IsElement.full ht ha (hbullet.append hread)
    · exact IsElement.full ht ha hread
  | false =>
    cases hm : m.selfClosing with
    | true => simpa [emitMapped, hs, hm] using IsElement.selfClosing ht ha
    | false =>
      obtain ⟨ps, hread⟩ := hc (.inr hm)
      have around : ∀ {held : String} {qs : List Piece}, Reads held qs →
          IsElement target (if m.selfClosing || allBlank held then selfClosing target attrs
            else full target attrs held) := by
        intro held qs hqs
        rw [hm, Bool.false_or]
        split
        · exact IsElement.selfClosing ht ha
        · exact IsElement.full ht ha hqs
      simp only [emitMapped, hs, Bool.false_eq_true, if_false]
      cases hcon : m.container with
      | none => exact around hread
      | some container =>
        cases hb : allBlank content with
        | true => exact around hread
        | false => exact around (hread.wrap (hw hs hm hb container hcon))

theorem isElement_emit (parent : Option String) {name : String} {attributes : Attributes}
    {children : List Node} (ho : s.registry.leavesOut name = false)
    (hw : ∀ n ∈ s.registry.writtenNodes (.element name attributes children),
      s.registry.CanWrite s.attributesFor n) :
    IsElement (s.registry.tagFor name attributes)
      (s.emit parent (.element name attributes children)).markup := by
  rw [writtenNodes, List.forall_mem_cons, ho, Bool.false_or] at hw
  obtain ⟨hfit, hbelow⟩ := hw
  obtain ⟨ht, ha, hcon⟩ := hfit ho
  have hread : s.registry.closesOff name = false → ∃ ps, Reads (s.emitAll name children).markup ps := by
    intro hoff
    rw [hoff] at hbelow
    obtain ⟨ps, hps, -⟩ := emitAll_holds name children hbelow
    exact ⟨ps, hps⟩
  cases hc : Component.isComponent name with
  | true =>
    obtain ⟨ps, hps⟩ := hread (Registry.closesOff_component hc)
    rw [tagFor, if_pos hc] at ht ⊢
    rw [attributesFor, if_pos hc] at ha
    rw [emit_component hc]
    exact isElement_emitComponent ht ha hps
  | false =>
    have hoff : (s.registry.lookup name).special = true ∨ (s.registry.lookup name).selfClosing = false →
        s.registry.closesOff name = false := by
      rintro (h | h) <;> simp [closesOff, h]
    rw [(emit_mapped hc ho).2]
    refine isElement_emitMapped ht ha (fun h => hread (hoff h)) fun hs hm hb tag htag => ?_
    refine hcon tag ?_ (hoff (.inr hm))
    rw [allBlank_emitAll, Bool.not_eq_false'] at hb
    simpa [containerFor, hc, hs, hb] using htag

end Setting

end Lettermill
