import Lettermill.Proofs.Converter.SingleMail
import Lettermill.Proofs.Document.Conservation
import Lettermill.Proofs.Transform.Reliance
/-! A document written with a root and without one. With a root its top-level nodes become the content
of a mail body, and without one each is written by itself inside the wrappers that it lacks. A node is
written the same in both places, since of the element around it only a list matters. Main statement:
the two drafts are put together from the same pieces of markup, one for each top-level node, and carry
the same warnings. -/
namespace Lettermill
set_option autoImplicit false
open Markup

/-- The markup of a piece that stands by itself: inside the wrappers of its tag, if it has one. -/
def Emission.wrapped (piece : Emission) : String :=
  piece.tag.elim piece.markup fun tag => Component.wrapRoot tag piece.markup

namespace Setting
variable {s : Setting}

/-! ## Pieces -/

theorem emit_congr_parent {p q : Option String} (h : (p == some "ul") = (q == some "ul"))
    (node : Node) : s.emit p node = s.emit q node := by
  cases node with
  | text content => rw [emit, emit]
  | comment content => rw [emit, emit]
  | element name attributes children =>
    have hmapped : ∀ m target attrs content,
        emitMapped m name target attrs content p = emitMapped m name target attrs content q := by
      intro m target attrs content
      rw [emitMapped, emitMapped, Listing.emit, Listing.emit, h]
    rw [emit, emit]
    simp only [hmapped]

theorem emitAll_markup {parent : String} (hp : parent ≠ "ul") (nodes : List Node) :
    (s.emitAll parent nodes).markup
      = String.join ((nodes.map (s.emit none)).map Emission.markup) := by
  induction nodes with
  | nil => rw [emitAll]; rfl
  | cons node rest ih =>
    have hnode : s.emit (some parent) node = s.emit none node :=
      emit_congr_parent (by simp [hp]) node
    rw [emitAll, Emission.append, hnode, ih, List.map_cons, List.map_cons, String.join_cons]

theorem emitFragment_markup (nodes : List Node) :
    (s.emitFragment nodes).markup
      = String.join ((nodes.map (s.emit none)).map Emission.wrapped) := by
  induction nodes with
  | nil => rfl
  | cons node rest ih =>
    have hnode : (s.emitRoot node).markup = (s.emit none node).wrapped := by
      rw [emitRoot, Emission.wrapped]
      cases (s.emit none node).tag <;> rfl
    rw [List.map_cons, List.map_cons, String.join_cons, ← hnode, ← ih]
    rfl

/-! ## The root and its body -/

theorem emit_renamed {parent : Option String} {name target : String} {children : List Node}
    (hc : Component.isComponent name = false) (hm : s.registry.lookup name = { target }) :
    s.emit parent (.element name ∅ children)
      = emitComponent target ∅ (s.emitAll name children) := by
  have hattributes : s.layered ∅ (.restyle ∅) = ∅ := by
    rw [layered, styled]
    cases s.inlineStyles <;> cases s.preserveClassNames <;> rfl
  rw [emit, hc, hm]
  simp [emitMapped, emitComponent, advice, Mapping.apply, Outcome.tag, hattributes]

section
variable (nodes : List Node) (hhtml : s.registry.explicit? "html" = Builtin.mapping? "html")
  (hbody : s.registry.explicit? "body" = Builtin.mapping? "body")
include hhtml hbody

/-- A root with a body is written as two components, one inside the other. -/
theorem emitRoot_around :
    s.emitRoot (.element "html" ∅ [.element "body" ∅ nodes])
      = emitComponent "mjml" ∅
          ((emitComponent "mj-body" ∅ (s.emitAll "body" nodes)).append {}) := by
  have hroot : s.registry.lookup "html" = { target := "mjml" } := by
    rw [Registry.lookup, hhtml]
    rfl
  have hinner : s.registry.lookup "body" = { target := "mj-body" } := by
    rw [Registry.lookup, hbody]
    rfl
  have hcontent : s.emitAll "html" [.element "body" ∅ nodes]
      = (emitComponent "mj-body" ∅ (s.emitAll "body" nodes)).append {} := by
    rw [emitAll, emitAll, emit_renamed (Component.isComponent_of_skeleton (by decide)) hinner]
  have hwrapper : ∀ m, Component.wrapRoot "mjml" m = m :=
    Component.wrapRoot_of_free (by decide) (by decide)
  rw [emitRoot, emit_renamed (Component.isComponent_of_skeleton (by decide)) hroot, hcontent]
  simp only [emitComponent, hwrapper]

theorem emitRoot_around_markup :
    (s.emitRoot (.element "html" ∅ [.element "body" ∅ nodes])).markup
      = if Text.allBlank (s.emitAll "body" nodes).markup then "<mjml><mj-body /></mjml>"
        else "<mjml><mj-body>" ++ (s.emitAll "body" nodes).markup ++ "</mj-body></mjml>" := by
  have hseen := (bracketed_emitComponent "mj-body" ∅ (s.emitAll "body" nodes)).not_blank
  have hmail : (s.emitRoot (.element "html" ∅ [.element "body" ∅ nodes])).markup
      = wrap "mjml" (emitComponent "mj-body" ∅ (s.emitAll "body" nodes)).markup := by
    rw [emitRoot_around nodes hhtml hbody, emitComponent, Emission.append, String.append_empty, hseen,
      wrap_eq_full]
    rfl
  rw [hmail, emitComponent]
  dsimp only
  split
  · decide +kernel
  · rw [← wrap_eq_full, wrap, wrap]
    apply String.toList_inj.mp
    simp [String.toList_append]

theorem emitRoot_around_warnings :
    (s.emitRoot (.element "html" ∅ [.element "body" ∅ nodes])).warnings
      = s.registry.adviceOn nodes := by
  rw [emitRoot_around nodes hhtml hbody, ← emitAll_warnings s "body"]
  exact List.append_nil _

end

end Setting

theorem Document.chosenNodes_of_content {d : Document}
    (h : ∀ node ∈ d.nodes, ∀ name ∈ skeleton ++ headOnly, node.isNamed name = false) :
    d.chosenNodes = d.nodes := by
  have htop : ∀ name ∈ skeleton ++ headOnly, d.topLevelNode? name = none := by
    intro name hname
    rw [topLevelNode?, List.find?_eq_none]
    intro node hnode
    rw [h node hnode name hname]
    exact Bool.false_ne_true
  rw [chosenNodes, htop "html" (by decide), htop "body" (by decide)]
  rfl

namespace Converter

/-- **A root changes nothing but what is around.** For a document without a mail document whose
top-level nodes are all content, with the mappings of `html` and `body` left as they are, a draft comes
about with a root and without one. Both are made of one piece for each top-level node: the first has
the pieces in a mail body, which closes itself when they are blank, and the second has each of them
inside the wrappers of its tag. The warnings are the same. -/
theorem draftText_wraps (c : Converter) (options : Options) (html : String) (d : Document)
    (registry : Registry) (hread : c.parse html = .ok d)
    (hr : c.registry.withOverrides options.customMappings = .ok registry)
    (hhtml : registry.explicit? "html" = Builtin.mapping? "html")
    (hbody : registry.explicit? "body" = Builtin.mapping? "body")
    (hmail : d.contains "mjml" = false)
    (hcontent : ∀ node ∈ d.nodes, ∀ name ∈ skeleton ++ headOnly, node.isNamed name = false) :
    ∃ rooted bare pieces,
      c.draftText { options with wrapContent := true } html = .ok rooted ∧
      c.draftText { options with wrapContent := false } html = .ok bare ∧
      pieces = d.nodes.map ((options.settingFor registry d).emit none) ∧
      rooted.markup = (if Text.allBlank (String.join (pieces.map Emission.markup))
        then "<mjml><mj-body /></mjml>"
        else "<mjml><mj-body>" ++ String.join (pieces.map Emission.markup)
          ++ "</mj-body></mjml>") ∧
      bare.markup = Text.trim (String.join (pieces.map Emission.wrapped)) ∧
      rooted.warnings = bare.warnings := by
  have hnone : d.locate? "mjml" = none := Document.contains_eq_false_iff.mp hmail
  have hdocument : Options.rooted { options with wrapContent := true } d
      = ⟨[.element "html" ∅ [.element "body" ∅ d.nodes]]⟩ := Document.normalized_of_content hcontent
  have hunder : (Options.rooted { options with wrapContent := true } d).locate? "mjml" = none :=
    Document.locate?_normalized (by decide) hnone
  have halone : (Options.rooted { options with wrapContent := false } d).locate? "mjml" = none :=
    hnone
  have hrooted := draft_transformed hunder hr
  have hbare := draft_transformed halone hr
  rw [hdocument] at hrooted
  refine ⟨_, _, _, draftText_of_read hread hrooted, draftText_of_read hread hbare, rfl, ?_, ?_, ?_⟩
  · have htrim := Setting.trim_emitRoot (s := options.settingFor registry d)
      ⟨"html", ∅, [.element "body" ∅ d.nodes]⟩
    have haround := Setting.emitRoot_around_markup (s := options.settingFor registry d) d.nodes
      hhtml hbody
    rw [Setting.emitAll_markup (by decide)] at haround
    exact htrim.trans haround
  · have hfragment := Setting.emitDocument_markup (s := options.settingFor registry d) d
    rw [Document.chosenNodes_of_content hcontent, Setting.emitFragment_markup] at hfragment
    exact congrArg Text.trim hfragment
  · have hadvice := Setting.emitDocument_warnings (s := options.settingFor registry d) d
    rw [Document.chosenNodes_of_content hcontent] at hadvice
    have haround := Setting.emitRoot_around_warnings (s := options.settingFor registry d) d.nodes
      hhtml hbody
    exact congrArg ((options.stylesOf d).2 ++ ·) (haround.trans hadvice.symm)

/-- An item of a list, a script that is left out with a warning, and an element that the caller maps to
a wrapper. -/
theorem draftText_wraps_item :
    let d : Document := ⟨[.text " ", .element "li" ∅ [.text "a"], .element "script" ∅ [.text "b"],
      .element "div" ∅ []]⟩
    ∃ rooted bare,
      Converter.draftText { parse := fun _ => .ok d }
        { customMappings := Dict.ofList [("div", { target := "mj-wrapper" })] } "" = .ok rooted ∧
      Converter.draftText { parse := fun _ => .ok d }
        { customMappings := Dict.ofList [("div", { target := "mj-wrapper" })], wrapContent := false }
        "" = .ok bare ∧
      rooted.markup = "<mjml><mj-body> <mj-text>a</mj-text><mj-wrapper /></mj-body></mjml>" ∧
      bare.markup = "<mj-section><mj-column><mj-text>a</mj-text></mj-column></mj-section>"
        ++ "<mj-wrapper />" ∧
      rooted.warnings = bare.warnings := by
  intro d
  obtain ⟨rooted, bare, pieces, hrooted, hbare, rfl, hmarkup, hwrapped, hwarnings⟩ :=
    draftText_wraps { parse := fun _ => .ok d }
      { customMappings := Dict.ofList [("div", { target := "mj-wrapper" })] } "" d
      ⟨Dict.ofList [("div", { target := "mj-wrapper" })]⟩ rfl rfl rfl rfl (by decide +kernel)
      (by decide +kernel)
  exact ⟨rooted, bare, hrooted, hbare, hmarkup.trans (by decide +kernel),
    hwrapped.trans (by decide +kernel), hwarnings⟩

end Converter

end Lettermill
