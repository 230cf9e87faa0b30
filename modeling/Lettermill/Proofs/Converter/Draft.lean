import Lettermill.Converter
import Lettermill.Proofs.Document.Search
import Lettermill.Proofs.Style.Layers
import Lettermill.Proofs.Style.Names
/-! How a conversion runs, one step at a time: the two ways in which a draft comes about, what a
draft is made with, and when it is returned as it is. Later statements about conversions start from
these and do not look into the steps again. -/
namespace Lettermill
set_option autoImplicit false

namespace Options

/-- The document that is searched and written. -/
def rooted (options : Options) (d : Document) : Document :=
  if options.wrapContent then d.normalized else d

/-- Does the compiler get the markup? A mail document that the input holds only on request. -/
def compiles (options : Options) (d : Document) : Bool :=
  options.validateOutput
    && (!(options.rooted d).contains "mjml" || options.validatePassthrough)

/-- The class styles of a document and the advice on them, unless styles are off. -/
def stylesOf (options : Options) (d : Document) : ClassStyles × List Warning :=
  if options.inlineStyles then d.collectStyles else (∅, [])

def settingFor (options : Options) (registry : Registry) (d : Document) : Setting :=
  { registry, styles := (options.stylesOf d).1, inlineStyles := options.inlineStyles
    preserveClassNames := options.preserveClassNames }

theorem allNamed_styles (options : Options) (d : Document) : (options.stylesOf d).1.AllNamed := by
  rw [stylesOf]
  split
  · exact allNamed_collectBlocks ClassStyles.allNamed_empty d.styleBlocks
  · exact ClassStyles.allNamed_empty

theorem canWrite_settingFor (options : Options) (d : Document) {registry : Registry} {node : Node}
    (h : registry.CanWrite registry.ownAttributes node) :
    registry.CanWrite (options.settingFor registry d).attributesFor node := by
  refine h.mono ?_
  intro name attributes ha
  have hstyles : (options.settingFor registry d).styles.AllNamed := allNamed_styles options d
  exact Setting.named_attributesFor hstyles ha

end Options

/-- Advice on a style block begins with another letter than the warning on discarded content. -/
theorem StyleError.warning_message (e : StyleError) : e.warning.message ≠ discardedMessage := by
  intro h
  have hword : "Failed to parse <style> block: ".toList.head? = some 'F' := by decide +kernel
  have hfirst : ("Failed to parse <style> block: " ++ e.message).toList.head? = some 'F' := by
    rw [String.toList_append, List.head?_append, hword, Option.some_or]
  have hother : discardedMessage.toList.head? = some 'C' := by decide +kernel
  have heq : "Failed to parse <style> block: " ++ e.message = discardedMessage := h
  rw [heq, hother] at hfirst
  exact absurd hfirst (by decide)

theorem collectBlocks_warnings (styles : ClassStyles) (blocks : List String) :
    ∀ w ∈ (collectBlocks styles blocks).2, w.message ≠ discardedMessage := by
  intro w hw
  rw [collectBlocks_advice] at hw
  obtain ⟨css, -, h⟩ := List.mem_filterMap.mp hw
  rw [Css.refusal?] at h
  split at h
  case h_1 => cases h
  case h_2 e _ => exact Option.some.inj h ▸ e.warning_message

theorem Options.advice_message (options : Options) (d : Document) :
    ∀ w ∈ (options.stylesOf d).2, w.message ≠ discardedMessage := by
  rw [stylesOf]
  split
  · exact collectBlocks_warnings ∅ d.styleBlocks
  · exact fun _ h => absurd h List.not_mem_nil

namespace Converter
variable {c : Converter} {options : Options} {d : Document}

theorem draft_of_some {path : Path} {root : Element}
    (h : (options.rooted d).locate? "mjml" = some (path, root)) :
    c.draft options d = .ok
      { markup := Text.trim root.outerMarkup
        passedThrough := true
        warnings := (options.stylesOf d).2
          ++ if (options.rooted d).hasContentOutside path then [{ message := discardedMessage }]
            else [] } := by
  rw [Options.rooted] at h
  rw [draft]
  simp only [h]
  rfl

theorem draft_transformed {registry : Registry}
    (h : (options.rooted d).locate? "mjml" = none)
    (hr : c.registry.withOverrides options.customMappings = .ok registry) :
    c.draft options d = .ok
      { markup := Text.trim
          ((options.settingFor registry d).emitDocument (options.rooted d)).markup
        passedThrough := false
        warnings := (options.stylesOf d).2
          ++ ((options.settingFor registry d).emitDocument (options.rooted d)).warnings } := by
  rw [Options.rooted] at h
  rw [draft]
  simp only [h, transform, hr]
  rfl

theorem draft_of_none {registry : Registry} (h : (options.rooted d).locate? "mjml" = none)
    (hr : c.registry.withOverrides options.customMappings = .ok registry) :
    ∃ warnings, c.draft options d = .ok
      { markup := Text.trim
          ((options.settingFor registry d).emitDocument (options.rooted d)).markup
        passedThrough := false
        warnings } := ⟨_, draft_transformed h hr⟩

theorem draft_refused {cause : MappingError} (h : (options.rooted d).locate? "mjml" = none)
    (hr : c.registry.withOverrides options.customMappings = .error cause) :
    c.draft options d = .error cause := by
  rw [Options.rooted] at h
  rw [draft]
  simp only [h, transform, hr]
  rfl

theorem draft_eq_ok {drawn : Draft} (h : c.draft options d = .ok drawn) :
    (∃ path root, (options.rooted d).locate? "mjml" = some (path, root) ∧
      drawn.markup = Text.trim root.outerMarkup ∧ drawn.passedThrough = true ∧
      drawn.warnings = (options.stylesOf d).2
        ++ if (options.rooted d).hasContentOutside path then [{ message := discardedMessage }]
          else []) ∨
    ((options.rooted d).locate? "mjml" = none ∧
      ∃ registry, c.registry.withOverrides options.customMappings = .ok registry ∧
        drawn.markup = Text.trim
          ((options.settingFor registry d).emitDocument (options.rooted d)).markup ∧
        drawn.passedThrough = false ∧
        drawn.warnings = (options.stylesOf d).2
          ++ ((options.settingFor registry d).emitDocument (options.rooted d)).warnings) := by
  cases hloc : (options.rooted d).locate? "mjml" with
  | some found =>
    obtain ⟨path, root⟩ := found
    rw [draft_of_some hloc, Except.ok.injEq] at h
    subst h
    exact .inl ⟨path, root, rfl, rfl, rfl, rfl⟩
  | none =>
    cases hr : c.registry.withOverrides options.customMappings with
    | ok registry =>
      rw [draft_transformed hloc hr, Except.ok.injEq] at h
      subst h
      exact .inr ⟨rfl, registry, rfl, rfl, rfl, rfl⟩
    | error cause =>
      rw [draft_refused hloc hr] at h
      cases h

theorem passedThrough_of_draft {drawn : Draft} (h : c.draft options d = .ok drawn) :
    drawn.passedThrough = (options.rooted d).contains "mjml" := by
  rw [Document.contains_eq_isSome]
  obtain ⟨path, root, hloc, -, hpass, -⟩ | ⟨hloc, registry, -, -, hpass, -⟩ := draft_eq_ok h
  · rw [hpass, hloc]
    rfl
  · rw [hpass, hloc]
    rfl

theorem isToCompile_of_draft {drawn : Draft} (h : c.draft options d = .ok drawn) :
    drawn.isToCompile options = options.compiles d := by
  rw [Draft.isToCompile, Options.compiles, passedThrough_of_draft h]

theorem draft_eq_error_iff {cause : MappingError} :
    c.draft options d = .error cause
      ↔ (options.rooted d).locate? "mjml" = none
        ∧ c.registry.withOverrides options.customMappings = .error cause := by
  constructor
  · intro h
    cases hloc : (options.rooted d).locate? "mjml" with
    | some found =>
      rw [draft_of_some hloc] at h
      cases h
    | none =>
      cases hr : c.registry.withOverrides options.customMappings with
      | ok registry =>
        rw [draft_transformed hloc hr] at h
        cases h
      | error other =>
        rw [draft_refused hloc hr, Except.error.injEq] at h
        exact ⟨rfl, congrArg _ h⟩
  · rintro ⟨hloc, hr⟩
    exact draft_refused hloc hr

theorem draftText_of_read {html : String} {drawn : Draft} (hread : c.parse html = .ok d)
    (hdraft : c.draft options d = .ok drawn) : c.draftText options html = .ok drawn := by
  rw [draftText, hread]
  exact congrArg (·.mapError ConvertError.invalidMapping) hdraft

theorem draftText_of_refused {html : String} {cause : MappingError}
    (hread : c.parse html = .ok d) (hdraft : c.draft options d = .error cause) :
    c.draftText options html = .error (.invalidMapping cause) := by
  rw [draftText, hread]
  exact congrArg (·.mapError ConvertError.invalidMapping) hdraft

theorem convertDetailed_of_draft {html : String} {drawn : Draft} (hread : c.parse html = .ok d)
    (hdraft : c.draft options d = .ok drawn) :
    c.convertDetailed options html = .ok (c.finish options drawn) := by
  rw [convertDetailed, draftText_of_read hread hdraft]
  rfl

theorem convertDetailed_of_kept {html : String} {drawn : Draft} (hread : c.parse html = .ok d)
    (hdraft : c.draft options d = .ok drawn) (hoff : drawn.isToCompile options = false) :
    c.convertDetailed options html
      = .ok { output := drawn.markup, kind := .mjml, warnings := drawn.warnings } := by
  rw [convertDetailed_of_draft hread hdraft, finish, hoff]
  rfl

theorem convertDetailed_eq_ok_iff {html : String} {conversion : Conversion} :
    c.convertDetailed options html = .ok conversion
      ↔ ∃ d drawn, c.parse html = .ok d ∧ c.draft options d = .ok drawn
        ∧ conversion = c.finish options drawn := by
  rw [convertDetailed]
  cases hread : c.parse html with
  | error e => simp [draftText, hread, Except.map, bind, Except.bind]
  | ok d =>
    cases hdraft : c.draft options d with
    | error cause => simp [draftText_of_refused hread hdraft, hdraft, Except.map]
    | ok drawn => simp [draftText_of_read hread hdraft, hdraft, Except.map, eq_comm]

theorem convertDetailed_eq_error_iff {html : String} {e : ConvertError} :
    c.convertDetailed options html = .error e
      ↔ c.parse html = .error e
        ∨ ∃ d cause, c.parse html = .ok d ∧ c.draft options d = .error cause
          ∧ e = .invalidMapping cause := by
  rw [convertDetailed]
  cases hread : c.parse html with
  | error cause => simp [draftText, hread, Except.map, bind, Except.bind]
  | ok d =>
    cases hdraft : c.draft options d with
    | error cause => simp [draftText_of_refused hread hdraft, hdraft, Except.map, eq_comm]
    | ok drawn => simp [draftText_of_read hread hdraft, hdraft, Except.map]

end Converter

end Lettermill
