import Lettermill.Proofs.Converter.Draft
import Lettermill.Proofs.Transform.Advice
/-! The warnings of a conversion, all of them and in their order: on style blocks, then on what is
discarded or on the elements that are converted, then of the compiler. -/
namespace Lettermill
set_option autoImplicit false

namespace Options

/-- The advice on the style elements of a document, unless styles are off. -/
def styleAdvice (options : Options) (d : Document) : List Warning :=
  if options.inlineStyles then
    (d.elementsNamed "style").filterMap fun e => Css.refusal? e.textContent
  else []

theorem stylesOf_advice (options : Options) (d : Document) :
    (options.stylesOf d).2 = options.styleAdvice d := by
  rw [stylesOf, styleAdvice]
  split
  · rw [Document.collectStyles, collectBlocks_advice, Document.styleBlocks, List.filterMap_map]
    rfl
  · rfl

end Options

/-- The warnings of the compiler on some markup: one word when there is no compiler or it fails, and
else one for each problem. -/
def compilerAdvice (compiler : Option Compiler) (markup : String) : List Warning :=
  match compiler with
  | none => [{ message := skippedMessage }]
  | some compile =>
    match compile markup .soft with
    | .error e => [{ message := "MJML processing error: " ++ e.message }]
    | .ok rendering => rendering.problems.map fun problem =>
        { message := "MJML validation error: " ++ problem.message, line := problem.line }

theorem compileOrKeep_warnings (compiler : Option Compiler) (markup : String) :
    (compileOrKeep compiler markup).warnings = compilerAdvice compiler markup := by
  unfold compileOrKeep compilerAdvice
  cases compiler with
  | none => rfl
  | some compile =>
    dsimp only
    cases compile markup .soft <;> rfl

namespace Converter
variable {c : Converter} {options : Options} {d : Document}

theorem finish_warnings (c : Converter) (options : Options) (drawn : Draft) :
    (c.finish options drawn).warnings
      = drawn.warnings
        ++ if drawn.isToCompile options then compilerAdvice c.compiler drawn.markup else [] := by
  rw [finish]
  split
  · rw [← compileOrKeep_warnings]
  · exact (List.append_nil _).symm

/-- **Which warnings a conversion gives.** First one for each style element that cannot be read,
when styles are resolved. Then, if the document holds a mail document, one when something around it
is lost; else those of the mappings of the visited elements. Last those of the compiler, if it
runs. -/
theorem convertDetailed_warnings (c : Converter) (options : Options) (html : String)
    (d : Document) (conversion : Conversion) (hread : c.parse html = .ok d)
    (hok : c.convertDetailed options html = .ok conversion) :
    ∃ drawn told, c.draftText options html = .ok drawn ∧
      conversion.warnings = options.styleAdvice d ++ told
        ++ (if options.compiles d then compilerAdvice c.compiler drawn.markup else []) ∧
      (∀ path root, (options.rooted d).locate? "mjml" = some (path, root) →
        told = if (options.rooted d).hasContentOutside path then [{ message := discardedMessage }]
          else []) ∧
      ((options.rooted d).contains "mjml" = false →
        ∃ registry, c.registry.withOverrides options.customMappings = .ok registry ∧
          told = registry.adviceOn (options.rooted d).chosenNodes) := by
  obtain ⟨found, drawn, hfound, hdraft, rfl⟩ := convertDetailed_eq_ok_iff.mp hok
  obtain rfl : d = found := Except.ok.inj (hread.symm.trans hfound)
  rw [finish_warnings, isToCompile_of_draft hdraft]
  obtain ⟨path, root, hloc, -, -, hwarn⟩ | ⟨hloc, registry, hr, -, -, hwarn⟩ := draft_eq_ok hdraft
  · refine ⟨drawn, if (options.rooted d).hasContentOutside path then
      [{ message := discardedMessage }] else [], draftText_of_read hread hdraft, ?_, ?_, ?_⟩
    · rw [hwarn, Options.stylesOf_advice]
    · intro place e h
      rw [hloc] at h
      cases h
      rfl
    · intro h
      rw [Document.contains_eq_false_iff, hloc] at h
      cases h
  · refine ⟨drawn, registry.adviceOn (options.rooted d).chosenNodes,
      draftText_of_read hread hdraft, ?_, ?_, ?_⟩
    · rw [hwarn, Options.stylesOf_advice, Setting.emitDocument_warnings]
      rfl
    · intro place e h
      rw [hloc] at h
      cases h
    · exact fun _ => ⟨registry, hr, rfl⟩

/-- A style block with an error, forms inside a component and inside an image, and one inside a
script, which is not visited; the compiler finds a problem. -/
theorem convertDetailed_warnings_form :
    ∃ conversion, Converter.convertDetailed
        { parse := fun _ => .ok ⟨[.element "style" ∅ [.text "p { color }"], .element "mj-text" ∅
            [.element "FORM" ∅ []], .element "img" ∅ [.element "form" ∅ []],
            .element "script" ∅ [.element "form" ∅ []]]⟩
          compiler := some fun _ _ => .ok ⟨"", [{ message := "m", line := some 3 }]⟩ } {} ""
        = .ok conversion ∧
      conversion.warnings.map (fun w => (w.element, w.line))
        = [(none, none), (some "FORM", none), (some "form", none), (some "script", none),
          (none, some 3)] := by
  obtain ⟨conversion, hok⟩ : ∃ conversion, Converter.convertDetailed
        { parse := fun _ => .ok ⟨[.element "style" ∅ [.text "p { color }"], .element "mj-text" ∅
            [.element "FORM" ∅ []], .element "img" ∅ [.element "form" ∅ []],
            .element "script" ∅ [.element "form" ∅ []]]⟩
          compiler := some fun _ _ => .ok ⟨"", [{ message := "m", line := some 3 }]⟩ } {} ""
        = .ok conversion :=
    ⟨_, convertDetailed_of_draft rfl (draft_transformed (by decide +kernel) rfl)⟩
  obtain ⟨drawn, told, -, hwarn, -, htold⟩ := convertDetailed_warnings _ _ _ _ _ rfl hok
  obtain ⟨registry, hr, rfl⟩ := htold (by decide +kernel)
  cases hr
  refine ⟨conversion, hok, ?_⟩
  rw [hwarn, if_pos (by decide +kernel), List.map_append]
  refine congrArg₂ (· ++ ·) (?_ : _ = [(none, none), (some "FORM", none), (some "form", none),
    (some "script", none)]) (?_ : _ = [(none, some 3)])
  · decide +kernel
  · rfl

end Converter

end Lettermill
