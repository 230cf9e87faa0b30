import Lettermill.Proofs.Converter.Draft
import Lettermill.Proofs.Document.Outside
import Lettermill.Proofs.Document.Printer
import Lettermill.Proofs.Document.Root
/-! An embedded mail document passes through. The search for it and the judgement on what is left
behind come after the document got its root; both have the same outcome as before, wherever the mail
document stands. Main statement: a conversion of a document with a single mail document returns
that document as it is, and warns exactly when something around it is lost. -/
namespace Lettermill
set_option autoImplicit false
open Markup

theorem lost_seesThrough {name : String}
    (hn : skeleton.any (Text.sameLetters name) = false) : SeesThrough (Node.lost name) := by
  intro own attributes children h
  have hskeleton : (Node.element own attributes children).isSkeleton = true := h
  rw [Node.lost, not_sameLetters_of_skeleton h hn, hskeleton, lostAll_eq_flatMap]
  rfl

theorem Document.lost_normalized {name : String}
    (hn : skeleton.any (Text.sameLetters name) = false) (d : Document) :
    (lostAll name d.normalized.nodes).isEmpty = (lostAll name d.nodes).isEmpty := by
  rw [lostAll_eq_flatMap, lostAll_eq_flatMap]
  have hperm := Document.normalized_flatMap (lost_seesThrough hn) d
  rw [Bool.eq_iff_iff, List.isEmpty_iff, List.isEmpty_iff]
  exact ⟨fun h => (h ▸ hperm).nil_eq.symm, fun h => (h ▸ hperm).eq_nil⟩

namespace Options
variable {options : Options} {d : Document}

/-- The single element of a name that is no part of the skeleton is found in the document that is
written, and what it leaves behind is judged as in the document that was read. -/
theorem locate?_rooted {name : String} (hn : skeleton.any (Text.sameLetters name) = false)
    {path : Path} {e : Element} (hat : elementAt? d.nodes path = some e) (he : e.is name = true)
    (hone : (d.elementsNamed name).length = 1) :
    ∃ place, (options.rooted d).locate? name = some (place, e) ∧
      (options.rooted d).hasContentOutside place = d.hasContentOutside path := by
  have hlist : d.elementsNamed name = [e] := by
    obtain ⟨other, hother⟩ := List.length_eq_one_iff.mp hone
    cases path with
    | nil => cases hat
    | cons k q =>
      have hmem : e ∈ d.elementsNamed name := mem_elementsNamedAll he hat
      rw [hother, List.mem_singleton] at hmem
      rw [hother, hmem]
  have hrooted : (options.rooted d).elementsNamed name = [e] := by
    rw [rooted]
    split
    · exact List.perm_singleton.mp (hlist ▸ Document.elementsNamed_normalized hn d)
    · exact hlist
  have hlost : (lostAll name (options.rooted d).nodes).isEmpty
      = (lostAll name d.nodes).isEmpty := by
    rw [rooted]
    split
    · exact Document.lost_normalized hn d
    · rfl
  have hfind := Document.find?_eq_head? (options.rooted d) name
  rw [hrooted, List.head?_cons, Document.find?, Option.map_eq_some_iff] at hfind
  obtain ⟨⟨place, found⟩, hloc, rfl⟩ := hfind
  obtain ⟨k, q, rfl, hplace⟩ := Document.elementAt?_of_locate? hloc
  refine ⟨_, hloc, ?_⟩
  rw [Document.hasContentOutside_of_single he hplace (by rw [hrooted]; rfl), hlost,
    Document.hasContentOutside_of_single he hat hone]

end Options

namespace Converter

/-- **A single mail document passes through.** Whatever the registry, the compiler and the other
options are, a conversion that is not to compile it succeeds and returns its markup; the warning
about discarded content is given once when keeping it loses content of the document that was read,
and else not at all. -/
theorem convertDetailed_passes_mail (c : Converter) (options : Options) (html : String)
    (d : Document) (path : Path) (root : Element) (hread : c.parse html = .ok d)
    (hat : elementAt? d.nodes path = some root) (hname : root.is "mjml" = true)
    (hone : (d.elementsNamed "mjml").length = 1)
    (hoff : options.validateOutput = false ∨ options.validatePassthrough = false) :
    ∃ conversion, c.convertDetailed options html = .ok conversion ∧ conversion.kind = .mjml ∧
      conversion.output = root.outerMarkup ∧
      conversion.warnings.countP (fun w => w.message = discardedMessage)
        = if d.hasContentOutside path then 1 else 0 := by
  obtain ⟨place, hloc, hout⟩ : ∃ place, (options.rooted d).locate? "mjml" = some (place, root) ∧
      (options.rooted d).hasContentOutside place = d.hasContentOutside path :=
    Options.locate?_rooted (by decide) hat hname hone
  refine ⟨_, convertDetailed_of_kept hread (draft_of_some hloc) ?_, rfl, ?_, ?_⟩
  · rcases hoff with h | h <;> simp [Draft.isToCompile, h]
  · exact root.bracketed_outerMarkup.trim
  · have hadvice : (options.stylesOf d).2.countP (fun w => w.message = discardedMessage) = 0 := by
      rw [List.countP_eq_zero]
      intro w hw
      rw [decide_eq_true_eq]
      exact options.advice_message d w hw
    rw [List.countP_append, hadvice, Nat.zero_add, hout]
    cases d.hasContentOutside path <;> decide

/-- A mail document inside loose head and body content, with a mapping that is refused. -/
theorem convertDetailed_passes_mail_inside :
    ∃ conversion, Converter.convertDetailed
        { parse := fun _ => .ok ⟨[.element "title" ∅ [.text "T"], .text " ",
            .element "div" ∅ [.element "MJML" ∅ [.element "mj-body" ∅ []], .comment "c"]]⟩ }
        { validateOutput := false, customMappings := Dict.ofList [("", { target := "" })] } ""
        = .ok conversion ∧
      conversion.output = "<MJML><mj-body /></MJML>" ∧
      conversion.warnings.countP (fun w => w.message = discardedMessage) = 1 := by
  obtain ⟨conversion, hok, -, hout, hwarn⟩ := convertDetailed_passes_mail
    { parse := fun _ => .ok ⟨[.element "title" ∅ [.text "T"], .text " ",
        .element "div" ∅ [.element "MJML" ∅ [.element "mj-body" ∅ []], .comment "c"]]⟩ }
    { validateOutput := false, customMappings := Dict.ofList [("", { target := "" })] } "" _
    [2, 0] ⟨"MJML", ∅, [.element "mj-body" ∅ []]⟩ rfl rfl (by decide +kernel) (by decide +kernel)
    (.inl rfl)
  exact ⟨conversion, hok, hout.trans (by decide +kernel), hwarn.trans (by decide +kernel)⟩

end Converter

end Lettermill
