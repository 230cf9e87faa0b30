import Lettermill.Proofs.Converter.Draft
import Lettermill.Proofs.Document.Printer
import Lettermill.Proofs.Document.Root
import Lettermill.Proofs.Transform.Component
import Lettermill.Proofs.Transform.Fragment
/-! With a root there is one mail document. The root of a document becomes the mail element,
whatever the mappings of other tags are, and an embedded mail document is printed as one element.
Main statement: the markup of a document with its root is a single mail element, or else a mapping
was refused. -/
namespace Lettermill
set_option autoImplicit false
open Markup
open Registry (leavesOut tagFor outline)

/-! ## The root -/

theorem Component.isComponent_root {name : String} (h : Text.sameLetters name "html" = true) :
    isComponent name = false :=
  isComponent_of_skeleton (List.any_eq_true.mpr ⟨"html", by decide, h⟩)

namespace Setting
variable {s : Setting}

section
variable {root : Element} (hname : root.is "html" = true)
  (hkeep : s.registry.explicit? "html" = Builtin.mapping? "html")
include hname hkeep

theorem root_written : s.registry.leavesOut root.name = false ∧
    s.registry.tagFor root.name root.attributes = "mjml" := by
  have hc : Component.isComponent root.name = false := Component.isComponent_root hname
  have hm : s.registry.lookup root.name = { target := "mjml" } := by
    rw [Registry.lookup_of_sameLetters hname, Registry.lookup, hkeep]
    rfl
  constructor
  · simp [leavesOut, hm]
  · simp [tagFor, hc, hm, Mapping.apply, Outcome.tag]

theorem emitRoot_root : (s.emitRoot root.toNode).markup = (s.emit none root.toNode).markup := by
  obtain ⟨ho, htag⟩ := root_written hname hkeep
  rw [emitRoot_markup, Element.toNode, outline, ho, htag]
  exact Component.wrapRoot_of_free (by decide) (by decide) _

theorem isElement_emitRoot
    (hfit : ∀ n ∈ s.registry.writtenNodes root.toNode, s.registry.CanWrite s.attributesFor n) :
    IsElement "mjml" (s.emitRoot root.toNode).markup := by
  obtain ⟨ho, htag⟩ := root_written hname hkeep
  rw [emitRoot_root hname hkeep, ← htag]
  exact isElement_emit none ho hfit

end

end Setting

/-! ## The draft -/

namespace Converter

/-- **One mail document comes out.** For a document that gets its root, with a mapping of `html`
that is left as it is, the draft is one element named `mjml`, be it an embedded mail document or
what the document is turned into; only a mapping that is refused keeps the draft from coming
about. -/
theorem draftText_is_mail (c : Converter) (options : Options) (html : String) (d : Document)
    (hread : c.parse html = .ok d) (hwrap : options.wrapContent = true)
    (hkeep : ∀ registry, c.registry.withOverrides options.customMappings = .ok registry →
      registry.explicit? "html" = Builtin.mapping? "html")
    (hprint : ∀ root ∈ d.normalized.find? "mjml", ∀ n ∈ root.toNode.subtree, n.CanPrint)
    (hwrite : d.normalized.find? "mjml" = none → ∀ registry,
      c.registry.withOverrides options.customMappings = .ok registry →
      ∀ n ∈ registry.writtenNodesAll d.normalized.nodes,
        registry.CanWrite registry.ownAttributes n) :
    (∃ drawn tag, c.draftText options html = .ok drawn ∧ IsElement tag drawn.markup ∧
      Text.sameLetters tag "mjml" = true ∧
      ((∀ root ∈ d.normalized.find? "mjml", root.name = "mjml") → tag = "mjml")) ∨
    (d.normalized.find? "mjml" = none ∧
      ∃ cause, c.registry.withOverrides options.customMappings = .error cause ∧
        c.draftText options html = .error (.invalidMapping cause)) := by
  have hrooted : options.rooted d = d.normalized := by rw [Options.rooted, if_pos hwrap]
  cases hloc : d.normalized.locate? "mjml" with
  | some found =>
    obtain ⟨path, root⟩ := found
    have hfind : d.normalized.find? "mjml" = some root := by rw [Document.find?, hloc]; rfl
    have hname : root.is "mjml" = true := Document.is_of_find? hfind
    refine .inl ⟨_, root.name, draftText_of_read hread (draft_of_some (hrooted ▸ hloc)), ?_, hname,
      fun h => h root hfind⟩
    rw [root.bracketed_outerMarkup.trim]
    exact Element.isElement_outerMarkup (hprint root hfind)
  | none =>
    have hfind : d.normalized.find? "mjml" = none := by rw [Document.find?, hloc]; rfl
    cases hr : c.registry.withOverrides options.customMappings with
    | error cause =>
      have hdraft := draft_refused (hrooted ▸ hloc) hr
      exact .inr ⟨hfind, cause, rfl, draftText_of_refused hread hdraft⟩
    | ok registry =>
      obtain ⟨root, htop, hname, hin⟩ := d.exists_top
      have hdraft := draft_transformed (hrooted ▸ hloc) hr
      rw [hrooted, Setting.emitDocument, htop, Option.some_or] at hdraft
      simp only [Setting.trim_emitRoot] at hdraft
      refine .inl ⟨_, "mjml", draftText_of_read hread hdraft, ?_, rfl, fun _ => rfl⟩
      refine Setting.isElement_emitRoot hname (hkeep registry hr) fun n hn => ?_
      refine options.canWrite_settingFor d (hwrite hfind registry hr n ?_)
      rw [Registry.writtenNodesAll_eq_flatMap]
      exact List.mem_flatMap.mpr ⟨_, hin, hn⟩

/-- Nothing but a comment and a script, and a mail document deep inside with a mapping that would be
refused: a bracket in its text, an empty text beside another, and an end mark outside. -/
theorem draftText_is_mail_bare :
    (∃ drawn, Converter.draftText
        { parse := fun _ => .ok ⟨[.comment "c", .element "script" ∅ [.text "a < b"]]⟩ } {} ""
        = .ok drawn ∧ IsElement "mjml" drawn.markup) ∧
    ∃ drawn, Converter.draftText
        { parse := fun _ => .ok ⟨[.text "a < b", .comment "-->", .element "p" ∅ [.element "mjml" ∅
            [.text "1 < 2", .text "", .element "mj-raw" ∅ [], .comment " > "]]]⟩ }
        { customMappings := Dict.ofList [("", { target := "" })] } "" = .ok drawn ∧
      IsElement "mjml" drawn.markup := by
  constructor
  · obtain ⟨drawn, tag, hdraft, hone, -, htag⟩ | ⟨-, cause, hr, -⟩ := draftText_is_mail
      { parse := fun _ => .ok ⟨[.comment "c", .element "script" ∅ [.text "a < b"]]⟩ } {} "" _ rfl rfl
      (fun registry hr => by cases hr; rfl) (by decide +kernel)
      (fun _ registry hr => by cases hr; decide +kernel)
    · rw [htag (by decide +kernel)] at hone
      exact ⟨drawn, hdraft, hone⟩
    · cases hr
  · obtain ⟨drawn, tag, hdraft, hone, -, htag⟩ | ⟨hnone, -⟩ := draftText_is_mail
      { parse := fun _ => .ok ⟨[.text "a < b", .comment "-->", .element "p" ∅ [.element "mjml" ∅
          [.text "1 < 2", .text "", .element "mj-raw" ∅ [], .comment " > "]]]⟩ }
      { customMappings := Dict.ofList [("", { target := "" })] } "" _ rfl rfl
      (fun registry hr => by cases hr) (by decide +kernel) (fun _ registry hr => by cases hr)
    · rw [htag (by decide +kernel)] at hone
      exact ⟨drawn, hdraft, hone⟩
    · exact absurd (congrArg Option.isSome hnone) (by decide +kernel)

end Converter

end Lettermill
