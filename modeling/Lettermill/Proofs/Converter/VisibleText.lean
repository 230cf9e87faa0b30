import Lettermill.Proofs.Converter.Draft
import Lettermill.Proofs.Document.Root
import Lettermill.Proofs.Transform.Fragment
/-! The text of a document survives a conversion. Main statement: in the markup that a conversion
produces for a document without a mail document, the text outside tags and comments is the shown
text of the document with its root, blanks aside: nothing is lost, repeated or moved, and only the
bullets of list items are added. -/
namespace Lettermill
set_option autoImplicit false
open Markup
open Registry (shownText writtenNodes writtenNodesAll)

namespace Registry
variable {r : Registry}

theorem flatMap_shownText (parent : Option String) (nodes : List Node) :
    nodes.flatMap (r.shownText parent)
      = (nodes.filter fun n => !n.isComment).flatMap (r.shownText parent) := by
  induction nodes with
  | nil => rfl
  | cons node rest ih =>
    rw [List.flatMap_cons, ih]
    cases node with
    | comment content =>
      rw [shownText]
      rfl
    | text content => rfl
    | element name attributes children => rfl

end Registry

namespace Converter

/-- **No text is lost, repeated or moved.** For a document without a mail document whose written
root, if any, is its only top-level node beside comments, a draft comes about; outside tags and
comments its markup shows the text of the document with its root, blanks aside, with the bullets of
list items, and without what stands below elements that are left out or close themselves. -/
theorem draftText_shows_text (c : Converter) (options : Options) (html : String) (d : Document)
    (registry : Registry) (hread : c.parse html = .ok d)
    (hr : c.registry.withOverrides options.customMappings = .ok registry)
    (hwrap : options.wrapContent = true) (hmail : d.contains "mjml" = false)
    (hroot : d.hasRoot = true → ∃ root, d.nodes.filter (fun n => !n.isComment) = [root])
    (hwrite : ∀ n ∈ registry.writtenNodesAll d.normalized.nodes,
      registry.CanWrite registry.ownAttributes n) :
    ∃ drawn ps, c.draftText options html = .ok drawn ∧ Splits drawn.markup ps ∧
      (∀ qs, Splits drawn.markup qs → qs = ps) ∧
      unblank (shownOf ps)
        = unblank (d.normalized.nodes.flatMap (registry.shownText none)) := by
  have hrooted : options.rooted d = d.normalized := by rw [Options.rooted, if_pos hwrap]
  have hskeleton : skeleton.any (Text.sameLetters "mjml") = false := by decide
  have hnone : d.normalized.locate? "mjml" = none := by
    rw [Document.contains, Document.find?_eq_head?, Option.isSome_eq_false_iff,
      Option.isNone_iff_eq_none, List.head?_eq_none_iff] at hmail
    have hperm := Document.elementsNamed_normalized hskeleton d
    rw [hmail] at hperm
    exact Document.locate?_eq_none_iff.mpr hperm.eq_nil
  obtain ⟨root, htop, honly⟩ := Document.exists_root hroot
  obtain ⟨warnings, hdraft⟩ := draft_of_none (hrooted ▸ hnone) hr
  rw [hrooted, Setting.emitDocument, htop, Option.some_or] at hdraft
  simp only [Setting.trim_emitRoot] at hdraft
  have hfit : ∀ n ∈ registry.writtenNodes root.toNode,
      registry.CanWrite (options.settingFor registry d).attributesFor n := by
    intro n hn
    have hin : root.toNode ∈ d.normalized.nodes :=
      (List.mem_filter.mp (honly ▸ List.mem_singleton_self root.toNode)).1
    refine options.canWrite_settingFor d (hwrite n ?_)
    rw [Registry.writtenNodesAll_eq_flatMap]
    exact List.mem_flatMap.mpr ⟨_, hin, hn⟩
  obtain ⟨ps, hps, hone, -, -, hseen⟩ :=
    (Setting.emitRoot_shows (s := options.settingFor registry d) hfit).splits
  refine ⟨_, ps, draftText_of_read hread hdraft, hps, hone, hseen.trans ?_⟩
  rw [Registry.flatMap_shownText, honly, List.flatMap_singleton]
  rfl

/-- Loose head and body content: the items of a list are marked, and the text inside an image, whose
tag closes itself, is not shown. -/
theorem draftText_shows_list :
    ∃ drawn ps, Converter.draftText
        { parse := fun _ => .ok ⟨[.element "title" ∅ [.text "T"], .text " ", .comment "c",
            .element "ul" ∅ [.element "li" ∅ [.text "a b"], .element "li" ∅ []],
            .element "img" ∅ [.text "x"], .element "script" ∅ [.text "y"], .text "z"]⟩ }
        {} "" = .ok drawn ∧ Splits drawn.markup ps ∧
      unblank (shownOf ps) = "T•ab•z".toList := by
  obtain ⟨drawn, ps, hdraft, hps, -, hseen⟩ := draftText_shows_text
    { parse := fun _ => .ok ⟨[.element "title" ∅ [.text "T"], .text " ", .comment "c",
        .element "ul" ∅ [.element "li" ∅ [.text "a b"], .element "li" ∅ []],
        .element "img" ∅ [.text "x"], .element "script" ∅ [.text "y"], .text "z"]⟩ }
    {} "" _ .new rfl rfl rfl (by decide +kernel) (fun h => absurd h (by decide +kernel))
    (by decide +kernel)
  exact ⟨drawn, ps, hdraft, hps, hseen.trans (by decide +kernel)⟩

end Converter

end Lettermill
