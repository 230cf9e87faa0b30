import Lettermill.Proofs.Converter.Draft
import Lettermill.Proofs.Document.Root
import Lettermill.Proofs.Mapping.History
import Lettermill.Proofs.Transform.Component
import Lettermill.Proofs.Transform.Reliance
/-! What a conversion relies on. A mapping matters only for elements that bear its key, and the style
of a class only for elements that list it. Components are written without a mapping, so a mapping
under the name of a component matters for nothing; overrides for one conversion are registered behind
everything else, so they could have been registered before. -/
namespace Lettermill
set_option autoImplicit false
open Text

/-! ## Documents that write the names of components in lower case -/

namespace Document

/-- No element bears the name of a component in capitals. -/
def ComponentsInLowerCase (d : Document) : Prop :=
  ∀ e ∈ convertedAll d.nodes, Component.isComponent (lower e.name) = false

/-- The elements at or below a node that bear the name of a component in capitals. -/
def capitals (node : Node) : List Element :=
  node.converted.filter fun e => Component.isComponent (lower e.name)

theorem capitals_seesThrough : SeesThrough capitals := by
  intro own attributes children h
  have hlow : Component.isComponent (lower own) = false := Component.isComponent_lower_skeleton h
  have hown : Component.isComponent own = false := Component.isComponent_of_skeleton h
  rw [capitals, converted_element hown, List.filter_cons, hlow, if_neg Bool.false_ne_true,
    convertedAll_eq_flatMap, List.filter_flatMap]
  rfl

theorem componentsInLowerCase_iff {d : Document} :
    d.ComponentsInLowerCase ↔ d.nodes.flatMap capitals = [] := by
  have hall : d.nodes.flatMap capitals
      = (convertedAll d.nodes).filter fun e => Component.isComponent (lower e.name) := by
    rw [convertedAll_eq_flatMap, List.filter_flatMap]
    rfl
  rw [hall, List.filter_eq_nil_iff, ComponentsInLowerCase]
  simp only [Bool.not_eq_true]

theorem ComponentsInLowerCase.rooted {d : Document} (h : d.ComponentsInLowerCase)
    (options : Options) : (options.rooted d).ComponentsInLowerCase := by
  rw [Options.rooted]
  split
  · rw [componentsInLowerCase_iff] at h ⊢
    have hperm := normalized_flatMap capitals_seesThrough d
    rw [h] at hperm
    exact hperm.eq_nil
  · exact h

end Document

namespace Html

mutual

theorem lower_toNode? (tree : Tree) :
    ∀ e ∈ convertedAll tree.toNode?.toList, lower e.name = e.name := by
  match tree with
  | .element name attrs children =>
    have hbelow := lower_toNodes children
    rw [Tree.toNode?, Option.toList_some, convertedAll_cons]
    intro e he
    rw [List.mem_append] at he
    rcases he with he | he
    · cases hc : Component.isComponent (lower name) with
      | true =>
        rw [converted_component hc] at he
        exact hbelow e he
      | false =>
        rw [converted_element hc] at he
        rcases List.mem_cons.mp he with rfl | he
        · exact lower_lower name
        · exact hbelow e he
    · cases he
  | .text content => intro e he; cases he
  | .comment content => intro e he; cases he
  | .doctype d => intro e he; cases he
  | .instruction target data => intro e he; cases he

theorem lower_toNodes (trees : List Tree) :
    ∀ e ∈ convertedAll (Tree.toNodes trees), lower e.name = e.name := by
  match trees with
  | [] => intro e he; cases he
  | tree :: rest =>
    rw [Tree.toNodes, convertedAll_append, List.forall_mem_append]
    exact ⟨lower_toNode? tree, lower_toNodes rest⟩

end

theorem lower_dissolve (written : Written) (tree : Tree) :
    ∀ e ∈ convertedAll (tree.dissolve written), lower e.name = e.name := by
  rw [Tree.dissolve]
  split
  · exact lower_toNode? tree
  · intro e he
    rw [convertedAll_eq_flatMap, List.flatMap_assoc, List.mem_flatMap] at he
    obtain ⟨part, -, he⟩ := he
    rw [← convertedAll_eq_flatMap, Tree.dissolvePart] at he
    split at he
    · exact lower_toNodes _ e he
    · exact lower_toNode? part e he

theorem lower_toDocument (written : Written) (trees : List Tree) :
    ∀ e ∈ convertedAll (toDocument written trees).nodes, lower e.name = e.name := by
  intro e he
  rw [toDocument, convertedAll_eq_flatMap, List.flatMap_assoc, List.mem_flatMap] at he
  obtain ⟨tree, -, he⟩ := he
  rw [← convertedAll_eq_flatMap] at he
  exact lower_dissolve written tree e he

theorem componentsInLowerCase_read {limit : Nat} {html : String} {d : Document}
    (h : read limit html = .ok d) : d.ComponentsInLowerCase := by
  rw [read] at h
  split at h
  · cases h
  · have hd : toDocument _ _ = d := Except.ok.inj h
    rw [← hd]
    intro e he
    rw [lower_toDocument _ _ e he]
    exact not_component_of_mem he

end Html

/-! ## Conversions -/

theorem Registry.lookup_register {r registry : Registry} {tag name : String} {m : Mapping}
    (h : r.register tag m = .ok registry) (htag : Component.isComponent (keyOf tag) = true)
    (hname : Component.isComponent (lower name) = false) :
    registry.lookup name = r.lookup name := by
  have hkey : keyOf tag ≠ lower name := by
    intro heq
    rw [heq, hname] at htag
    cases htag
  rw [register_eq] at h
  split at h
  · cases h
  · have hlast : lastUnder [(tag, m)] (lower name) = none := by
      rw [← Option.not_isSome_iff_eq_none, isSome_lastUnder]
      rintro ⟨entry, hentry, heq⟩
      rw [List.mem_singleton.mp hentry] at heq
      exact hkey heq
    rw [← Except.ok.inj h, lookup_after, hlast, Option.getD_none]

namespace Converter
variable {c : Converter} {options : Options}

/-- The same converter with other mappings. -/
def withRegistry (c : Converter) (registry : Registry) : Converter := { c with registry }

theorem convertDetailed_congr {c' : Converter} {options' : Options} {html : String}
    (hparse : c'.parse html = c.parse html) (hfinish : c'.finish options' = c.finish options)
    (hdraft : ∀ d, c.parse html = .ok d → c'.draft options' d = c.draft options d) :
    c'.convertDetailed options' html = c.convertDetailed options html := by
  rw [convertDetailed, convertDetailed, draftText, draftText, hparse, hfinish]
  cases hread : c.parse html with
  | error e => rfl
  | ok d =>
    have hsame := hdraft d hread
    exact congrArg (fun drawn => (drawn.mapError ConvertError.invalidMapping).map (c.finish options))
      hsame

theorem emitDocument_settingFor (options : Options) (d : Document) {r q : Registry}
    {rooted : Document}
    (h : ∀ e ∈ convertedAll rooted.nodes, r.lookup e.name = q.lookup e.name) :
    ((options.settingFor r d).emitDocument rooted).markup
      = ((options.settingFor q d).emitDocument rooted).markup ∧
    ((options.settingFor r d).emitDocument rooted).warnings
      = ((options.settingFor q d).emitDocument rooted).warnings := by
  constructor
  · refine Setting.emitDocument_alike fun e he => ⟨rfl, rfl, ?_, fun _ _ => rfl⟩
    exact congrArg Mapping.silent (h e he)
  · exact Setting.emitDocument_advice h

/-- A draft relies on the mappings of the elements that are converted. -/
theorem draft_withRegistry {registry : Registry} {d : Document}
    (h : ∀ e ∈ convertedAll (options.rooted d).nodes,
      registry.lookup e.name = c.registry.lookup e.name) :
    (c.withRegistry registry).draft options d = c.draft options d := by
  cases hloc : (options.rooted d).locate? "mjml" with
  | some found => rw [draft_of_some hloc, draft_of_some hloc]
  | none =>
    have hother := Registry.withOverrides_eq registry options.customMappings
    have hown := Registry.withOverrides_eq c.registry options.customMappings
    cases hfind : options.customMappings.entries.find? Registry.isRefused with
    | some entry =>
      rw [hfind] at hother hown
      rw [draft_refused hloc hown]
      exact draft_refused hloc hother
    | none =>
      rw [hfind] at hother hown
      have hlookup : ∀ e ∈ convertedAll (options.rooted d).nodes,
          (registry.after options.customMappings.entries).lookup e.name
            = (c.registry.after options.customMappings.entries).lookup e.name := by
        intro e he
        rw [Registry.lookup_after, Registry.lookup_after, h e he]
      obtain ⟨hmarkup, hadvice⟩ := emitDocument_settingFor options d hlookup
      rw [draft_transformed hloc hown, ← hmarkup, ← hadvice]
      exact draft_transformed hloc hother

/-- Overrides might as well have been registered before. -/
theorem draft_registered {d : Document}
    (h : ∀ entry ∈ options.customMappings.entries, Registry.isRefused entry = false) :
    (c.withRegistry (c.registry.after options.customMappings.entries)).draft
      { options with customMappings := ∅ } d = c.draft options d := by
  have hover := Registry.withOverrides_of_valid c.registry h
  cases hloc : (options.rooted d).locate? "mjml" with
  | some found =>
    rw [draft_of_some hloc]
    exact draft_of_some hloc
  | none =>
    rw [draft_transformed hloc hover]
    exact draft_transformed hloc rfl

/-- **A conversion relies on what the document mentions.** Nodes are written the same, with the same
advice, under mappings that agree for their elements and styles that agree for the classes that these
list. A mapping under the name of a component changes no conversion, since reading puts names in
lower case. Overrides that are not refused act as if they had been registered before, in order. -/
theorem convertDetailed_relies_on_mentions :
    (∀ (s : Setting) (registry : Registry) (styles : ClassStyles) (nodes : List Node),
      (∀ e ∈ convertedAll nodes, registry.lookup e.name = s.registry.lookup e.name ∧
        ∀ cls ∈ e.classes, styles.get? cls = s.styles.get? cls) →
      { s with registry, styles }.emitFragment nodes = s.emitFragment nodes) ∧
    (∀ (c : Converter) (options : Options) (html tag : String) (m : Mapping) (registry : Registry),
      c.registry.register tag m = .ok registry →
      Component.isComponent tag = true ∨ Component.isComponent (Registry.keyOf tag) = true →
      (∀ d, c.parse html = .ok d → d.ComponentsInLowerCase) →
      (c.withRegistry registry).convertDetailed options html = c.convertDetailed options html) ∧
    (∀ (limit : Nat) (html : String) (d : Document),
      Html.read limit html = .ok d → d.ComponentsInLowerCase) ∧
    ∀ (c : Converter) (options : Options) (html : String),
      (∀ entry ∈ options.customMappings.entries, Registry.isRefused entry = false) →
      ∃ registry, c.registry.registerEach options.customMappings.entries = (registry, none) ∧
        (c.withRegistry registry).convertDetailed { options with customMappings := ∅ } html
          = c.convertDetailed options html := by
  refine ⟨?_, ?_, fun limit html d => Html.componentsInLowerCase_read, ?_⟩
  · intro s registry styles nodes h
    refine Setting.emitFragment_congr (fun e he => ⟨rfl, rfl, ?_, (h e he).2⟩) fun e he => (h e he).1
    exact congrArg Mapping.silent (h e he).1
  · intro c options html tag m registry hregister htag hread
    have hkey : Component.isComponent (Registry.keyOf tag) = true :=
      htag.elim Component.isComponent_keyOf id
    refine convertDetailed_congr rfl rfl fun d hd => draft_withRegistry fun e he => ?_
    exact Registry.lookup_register hregister hkey ((hread d hd).rooted options e he)
  · intro c options html hvalid
    refine ⟨_, Registry.registerEach_of_valid c.registry hvalid, ?_⟩
    exact convertDetailed_congr rfl rfl fun d _ => draft_registered hvalid

/-- Two registries and two collections of styles that differ beside the only paragraph, a component in
capitals, and an override for the paragraph. -/
theorem convertDetailed_relies_on_paragraph :
    let page : List Node :=
      [.element "p" (Dict.ofList [("class", "a b")]) [.element "mj-raw" ∅ [.text "x"]]]
    let red : Dict Attributes := Dict.ofList [("a", Dict.ofList [("color", "red")])]
    let s : Setting := { styles := ⟨red⟩ }
    let c : Converter := { parse := fun _ => .ok ⟨page⟩ }
    let button : Dict Mapping := Dict.ofList [("p", { target := "mj-button" })]
    { s with
      registry := ⟨Dict.ofList [("div", { target := "mj-hero" })]⟩
      styles := ⟨red.insert "z" ∅⟩ }.emitFragment page = s.emitFragment page ∧
    (c.withRegistry ⟨Dict.ofList [("mj-raw", { target := "mj-text" })]⟩).convertDetailed {} ""
      = c.convertDetailed {} "" ∧
    (∃ d, Html.read 8 "<MJ-Raw>" = .ok d ∧ d.ComponentsInLowerCase) ∧
    ∃ registry, Registry.new.registerEach button.entries = (registry, none) ∧
      (c.withRegistry registry).convertDetailed {} ""
        = c.convertDetailed { customMappings := button } "" := by
  intro page red s c button
  obtain ⟨hnodes, hcomponent, hread, hoverrides⟩ := convertDetailed_relies_on_mentions
  have hpage : convertedAll page = [⟨"p", Dict.ofList [("class", "a b")],
      [.element "mj-raw" ∅ [.text "x"]]⟩] := by
    rw [convertedAll_cons, converted_element (by decide +kernel), convertedAll_cons,
      converted_component (by decide +kernel)]
    rfl
  refine ⟨hnodes s _ _ page ?_, ?_, ?_, ?_⟩
  · rw [hpage, List.forall_mem_singleton]
    exact ⟨rfl, by decide +kernel⟩
  · refine hcomponent c {} "" " MJ-Raw " { target := "mj-text" } _ rfl (.inr (by decide +kernel)) ?_
    intro d hd e he
    rw [← Except.ok.inj hd, hpage, List.mem_singleton] at he
    rw [he]
    decide +kernel
  · have haccepted : Html.refusal? 8 "<MJ-Raw>" = none := by decide +kernel
    obtain ⟨d, hok⟩ : ∃ d, Html.read 8 "<MJ-Raw>" = .ok d := ⟨_, by rw [Html.read, haccepted]⟩
    exact ⟨d, hok, hread 8 _ _ hok⟩
  · exact hoverrides c { customMappings := button } "" (by decide +kernel)

end Converter

end Lettermill
