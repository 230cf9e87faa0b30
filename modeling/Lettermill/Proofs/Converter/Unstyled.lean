import Lettermill.Proofs.Converter.Draft
import Lettermill.Proofs.Document.Root
import Lettermill.Proofs.Transform.Unstyled
/-! Conversions with styles left alone. With the built-in mappings a draft comes about from the document
without its CSS, so the compiler is handed the same markup whatever the CSS says. Main statement: two
documents that are the same without their CSS are converted to the same output, of the same kind and
with the same warnings. -/
namespace Lettermill
set_option autoImplicit false

theorem Options.rooted_unstyled (options : Options) (d : Document) :
    options.rooted d.unstyled = (options.rooted d).unstyled := by
  rw [rooted, rooted]
  split
  · exact normalized_rewritten rewrites_unstyled d
  · rfl

namespace Converter

/-- With styles left alone one draft comes about from documents that are the same without their CSS. -/
theorem draft_ignores_css {c : Converter} {options : Options} {registry : Registry}
    (hr : c.registry.withOverrides options.customMappings = .ok registry)
    (hcss : registry.IgnoresCss) (hoff : options.inlineStyles = false) {d d' : Document}
    (hmail : d.contains "mjml" = false) (hmail' : d'.contains "mjml" = false)
    (hsame : d.unstyled = d'.unstyled) :
    ∃ drawn, c.draft options d = .ok drawn ∧ c.draft options d' = .ok drawn := by
  have hnone : ∀ {d : Document}, d.contains "mjml" = false →
      (options.rooted d).locate? "mjml" = none := by
    intro d h
    have hplain := Document.contains_eq_false_iff.mp h
    rw [Options.rooted]
    split
    · exact Document.locate?_normalized (by decide) hplain
    · exact hplain
  have hstyles : options.stylesOf d = options.stylesOf d' := by
    rw [Options.stylesOf, Options.stylesOf, hoff]
    rfl
  have hsetting : options.settingFor registry d = options.settingFor registry d' := by
    rw [Options.settingFor, Options.settingFor, hstyles]
  have hemission : (options.settingFor registry d').emitDocument (options.rooted d)
      = (options.settingFor registry d').emitDocument (options.rooted d') := by
    rw [← Setting.emitDocument_unstyled hcss hoff, ← options.rooted_unstyled, hsame,
      options.rooted_unstyled, Setting.emitDocument_unstyled hcss hoff]
  have hdraft := draft_transformed (hnone hmail) hr
  rw [hstyles, hsetting, hemission] at hdraft
  exact ⟨_, hdraft, draft_transformed (hnone hmail') hr⟩

/-- **With styles left alone CSS has no effect.** Two documents without a mail document that differ only
in the texts below style elements and in the `style` attributes of elements that are neither links nor
components, converted with the built-in mappings, give the same output, of the same kind and with the
same warnings. -/
theorem convertDetailed_ignores_css (c : Converter) (options : Options) (html html' : String)
    (d d' : Document) (registry : Registry) (hread : c.parse html = .ok d)
    (hread' : c.parse html' = .ok d')
    (hr : c.registry.withOverrides options.customMappings = .ok registry)
    (hbuiltin : ∀ tag, registry.lookup tag = Registry.new.lookup tag)
    (hoff : options.inlineStyles = false) (hmail : d.contains "mjml" = false)
    (hmail' : d'.contains "mjml" = false) (hsame : d.unstyled = d'.unstyled) :
    ∃ conversion, c.convertDetailed options html = .ok conversion ∧
      c.convertDetailed options html' = .ok conversion := by
  obtain ⟨drawn, hdraft, hother⟩ :=
    draft_ignores_css hr (Registry.ignoresCss_builtin hbuiltin) hoff hmail hmail' hsame
  exact ⟨_, convertDetailed_of_draft hread hdraft, convertDetailed_of_draft hread' hother⟩

/-- A sheet that cannot be read and a paragraph in red, against another sheet and a plain paragraph; a
link keeps its style. -/
theorem convertDetailed_ignores_css_paragraph :
    let page (css : String) (attributes : List (String × String)) : Document :=
      ⟨[.element "style" ∅ [.text css], .element "p" (Dict.ofList attributes) [.text "Hi"],
        .element "a" (Dict.ofList [("style", "padding: 0")]) [.text "x"]]⟩
    let read (html : String) : Document :=
      if html = "" then page "" [("lang", "de")]
      else page "p \x7b" [("style", "color: red"), ("lang", "de")]
    let c : Converter := { parse := fun html => .ok (read html) }
    let options : Options := { inlineStyles := false, validateOutput := false }
    ∃ conversion, c.convertDetailed options "red" = .ok conversion ∧
      c.convertDetailed options "" = .ok conversion := by
  intro page read c options
  exact convertDetailed_ignores_css c options "red" "" (read "red") (read "") .new rfl rfl rfl
    (fun _ => rfl) rfl (by decide +kernel) (by decide +kernel) rfl

end Converter

end Lettermill
