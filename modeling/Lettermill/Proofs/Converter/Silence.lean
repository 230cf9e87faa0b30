import Lettermill.Proofs.Converter.Draft
import Lettermill.Proofs.Mapping.History
import Lettermill.Proofs.Transform.Reliance
/-! Advice never changes the text that is returned. Two conversions that differ only in advice take
the same steps: the same mappings are refused, the same markup is drawn and the compiler renders the
same page or fails alike. Main statement: both fail with the same error, or both return the same
output of the same kind. -/
namespace Lettermill
set_option autoImplicit false
open Text

/-! ## Mappings that differ in advice -/

namespace Registry

/-- Two registries give every tag the same mapping but for its advice. -/
def SameButAdvice (r q : Registry) : Prop :=
  ∀ tag, (r.lookup tag).silent = (q.lookup tag).silent

/-- An entry without the advice of its mapping. -/
def silentEntry (entry : String × Mapping) : String × Mapping := (entry.1, entry.2.silent)

theorem lastUnder_silentEntry (log : List (String × Mapping)) (key : String) :
    lastUnder (log.map silentEntry) key = (lastUnder log key).map Mapping.silent := by
  have hkey : (fun entry : String × Mapping => decide (keyOf entry.1 = key)) ∘ silentEntry
      = fun entry : String × Mapping => decide (keyOf entry.1 = key) := by
    funext entry
    rw [Function.comp_apply, silentEntry]
  have hsnd : Prod.snd ∘ silentEntry = Mapping.silent ∘ Prod.snd := rfl
  rw [lastUnder, lastUnder, ← List.map_reverse, List.find?_map, hkey, Option.map_map,
    Option.map_map, hsnd]

theorem refusal_silentEntry (entries : List (String × Mapping)) :
    ((entries.map silentEntry).find? isRefused).map refusalOf
      = (entries.find? isRefused).map refusalOf := by
  have hrefused : isRefused ∘ silentEntry = isRefused := rfl
  have hrefusal : refusalOf ∘ silentEntry = refusalOf := rfl
  rw [List.find?_map, hrefused, Option.map_map, hrefusal]

theorem SameButAdvice.after {r q : Registry} (h : r.SameButAdvice q)
    {log other : List (String × Mapping)} (hlog : log.map silentEntry = other.map silentEntry) :
    (r.after log).SameButAdvice (q.after other) := by
  intro tag
  have hlast : (lastUnder log (lower tag)).map Mapping.silent
      = (lastUnder other (lower tag)).map Mapping.silent := by
    rw [← lastUnder_silentEntry, hlog, lastUnder_silentEntry]
  rw [lookup_after, lookup_after, ← Option.getD_map Mapping.silent,
    ← Option.getD_map Mapping.silent, hlast, h tag]

theorem SameButAdvice.withOverrides {r q : Registry} (h : r.SameButAdvice q) {ms ns : Dict Mapping}
    (hentries : ms.entries.map silentEntry = ns.entries.map silentEntry) :
    (∃ e, r.withOverrides ms = .error e ∧ q.withOverrides ns = .error e) ∨
    ∃ ours theirs, r.withOverrides ms = .ok ours ∧ q.withOverrides ns = .ok theirs ∧
      ours.SameButAdvice theirs := by
  have hrefusal : (ms.entries.find? isRefused).map refusalOf
      = (ns.entries.find? isRefused).map refusalOf := by
    rw [← refusal_silentEntry, hentries, refusal_silentEntry]
  rw [withOverrides_eq, withOverrides_eq]
  cases hm : ms.entries.find? isRefused with
  | none =>
    rw [hm, Option.map_none, eq_comm, Option.map_eq_none_iff] at hrefusal
    rw [hrefusal]
    exact .inr ⟨_, _, rfl, rfl, h.after hentries⟩
  | some entry =>
    rw [hm, Option.map_some, eq_comm, Option.map_eq_some_iff] at hrefusal
    obtain ⟨other, hn, heq⟩ := hrefusal
    rw [hn]
    exact .inl ⟨_, rfl, congrArg Except.error heq⟩

theorem sameButAdvice_silenced (r : Registry) {tag : String} (h : lower tag = keyOf tag) :
    r.SameButAdvice (r.after [(tag, (r.lookup tag).silent)]) := by
  intro name
  rw [lookup_after, lastUnder, List.reverse_singleton, List.find?_singleton]
  by_cases hname : keyOf tag = lower name
  · have hlookup : r.lookup name = r.lookup tag := by
      rw [lookup, lookup, explicit?, explicit?, h, hname]
    rw [if_pos (decide_eq_true hname), hlookup]
    rfl
  · rw [if_neg (by simpa using hname)]
    rfl

end Registry

/-! ## Compilers that differ in what they report -/

/-- What a compiler renders, without the problems that it reports. -/
def Compiler.page (compile : Compiler) (markup : String) (level : ValidationLevel) :
    Except CompilerError String := (compile markup level).map Rendering.html

/-- The text for a page, or for markup that gave none. -/
def textFor (markup : String) : Except CompilerError String → String × OutputKind
  | .ok html => (html, .html)
  | .error _ => (markup, .mjml)

theorem compileOrKeep_some (compile : Compiler) (markup : String) :
    ((compileOrKeep (some compile) markup).output, (compileOrKeep (some compile) markup).kind)
      = textFor markup (compile.page markup .soft) := by
  rw [compileOrKeep, Compiler.page]
  cases compile markup .soft <;> rfl

theorem compileOrKeep_page {compiler other : Option Compiler}
    (h : compiler.map Compiler.page = other.map Compiler.page) (markup : String) :
    (compileOrKeep compiler markup).output = (compileOrKeep other markup).output ∧
    (compileOrKeep compiler markup).kind = (compileOrKeep other markup).kind := by
  cases compiler with
  | none =>
    cases other with
    | none => exact ⟨rfl, rfl⟩
    | some compile => cases h
  | some compile =>
    cases other with
    | none => cases h
    | some compile' =>
      have hpage : compile.page = compile'.page := Option.some.inj h
      have htext := compileOrKeep_some compile markup
      rw [hpage, ← compileOrKeep_some compile'] at htext
      exact Prod.mk.inj htext

/-! ## Conversions -/

/-- Two runs of options differ in whether warnings are shown and in the advice of their mappings. -/
structure Options.SameButAdvice (options other : Options) : Prop where
  switches : other = { options with
    showWarnings := other.showWarnings, customMappings := other.customMappings }
  overrides : options.customMappings.entries.map Registry.silentEntry
    = other.customMappings.entries.map Registry.silentEntry

namespace Converter
variable {c c' : Converter} {options other : Options}

/-- Two converters read alike and differ in the advice of their mappings and in what their compilers
report of a page that they render. -/
structure SameButAdvice (c c' : Converter) : Prop where
  parse : c.parse = c'.parse
  mapping : c.registry.SameButAdvice c'.registry
  compiler : c.compiler.map Compiler.page = c'.compiler.map Compiler.page

theorem draft_silent (hc : c.SameButAdvice c') (ho : options.SameButAdvice other) (d : Document) :
    (∃ e, c.draft options d = .error e ∧ c'.draft other d = .error e) ∨
    ∃ drawn drawn', c.draft options d = .ok drawn ∧ c'.draft other d = .ok drawn' ∧
      drawn.markup = drawn'.markup ∧ drawn.passedThrough = drawn'.passedThrough := by
  obtain ⟨hswitches, hentries⟩ := ho
  have hrooted : other.rooted d = options.rooted d := by rw [hswitches]; rfl
  cases hloc : (options.rooted d).locate? "mjml" with
  | some found =>
    have hother : (other.rooted d).locate? "mjml" = some found := by rw [hrooted, hloc]
    exact .inr ⟨_, _, draft_of_some hloc, draft_of_some hother, rfl, rfl⟩
  | none =>
    have hother : (other.rooted d).locate? "mjml" = none := by rw [hrooted, hloc]
    obtain ⟨e, hm, hn⟩ | ⟨ours, theirs, hm, hn, hsame⟩ := hc.mapping.withOverrides hentries
    · exact .inl ⟨e, draft_refused hloc hm, draft_refused hother hn⟩
    · refine .inr ⟨_, _, draft_transformed hloc hm, draft_transformed hother hn, ?_, rfl⟩
      have hsetting : other.settingFor theirs d = options.settingFor theirs d := by
        rw [hswitches]; rfl
      have halike : ∀ e ∈ convertedAll (options.rooted d).nodes,
          (options.settingFor ours d).Alike (options.settingFor theirs d) e :=
        fun e _ => ⟨rfl, rfl, hsame e.name, fun _ _ => rfl⟩
      rw [hrooted, hsetting]
      exact congrArg trim (Setting.emitDocument_alike halike)

theorem finish_silent (hc : c.SameButAdvice c') (ho : options.SameButAdvice other)
    {drawn drawn' : Draft} (hmarkup : drawn.markup = drawn'.markup)
    (hpass : drawn.passedThrough = drawn'.passedThrough) :
    (c.finish options drawn).output = (c'.finish other drawn').output ∧
    (c.finish options drawn).kind = (c'.finish other drawn').kind := by
  have hcompile : drawn.isToCompile options = drawn'.isToCompile other := by
    rw [ho.switches, Draft.isToCompile, Draft.isToCompile, hpass]
  have hpage := compileOrKeep_page hc.compiler drawn.markup
  rw [finish, finish, ← hcompile, ← hmarkup]
  cases drawn.isToCompile options with
  | true => exact hpage
  | false => exact ⟨rfl, rfl⟩

/-- **Advice never changes the text.** Of two conversions of one document that differ only in the
advice of mappings, in what compilers report of a page and in whether warnings are shown, both fail
with the same error, or both return the same output of the same kind. -/
theorem convertDetailed_silent (c c' : Converter) (options other : Options) (html : String)
    (hc : c.SameButAdvice c') (ho : options.SameButAdvice other) :
    (∃ e, c.convertDetailed options html = .error e ∧ c'.convertDetailed other html = .error e) ∨
    ∃ v v', c.convertDetailed options html = .ok v ∧ c'.convertDetailed other html = .ok v' ∧
      v.output = v'.output ∧ v.kind = v'.kind := by
  cases hread : c.parse html with
  | error cause =>
    have hread' : c'.parse html = .error cause := by rw [← hc.parse, hread]
    exact .inl ⟨cause, convertDetailed_eq_error_iff.mpr (.inl hread),
      convertDetailed_eq_error_iff.mpr (.inl hread')⟩
  | ok d =>
    have hread' : c'.parse html = .ok d := by rw [← hc.parse, hread]
    obtain ⟨cause, hown, hother⟩ | ⟨drawn, drawn', hown, hother, hmarkup, hpass⟩ :=
      draft_silent hc ho d
    · exact .inl ⟨_, convertDetailed_eq_error_iff.mpr (.inr ⟨d, cause, hread, hown, rfl⟩),
        convertDetailed_eq_error_iff.mpr (.inr ⟨d, cause, hread', hother, rfl⟩)⟩
    · exact .inr ⟨_, _, convertDetailed_of_draft hread hown, convertDetailed_of_draft hread' hother,
        finish_silent hc ho hmarkup hpass⟩

/-- A form whose advice is silenced, an override with and without advice, and compilers of which one
reports a problem. -/
theorem convertDetailed_silent_form :
    let registry := Registry.new.after [("form", (Registry.new.lookup "form").silent)]
    let parse := fun _ : String => Except.ok (⟨[.element "form" ∅ [.text "x"]]⟩ : Document)
    let c : Converter := { parse, compiler := some fun markup _ => .ok ⟨markup, []⟩ }
    let c' : Converter :=
      { registry, parse, compiler := some fun markup _ => .ok ⟨markup, [{ message := "m" }]⟩ }
    let options : Options :=
      { customMappings := Dict.ofList [("p", { target := "mj-text", warning := some "w" })] }
    let other : Options :=
      { customMappings := Dict.ofList [("p", { target := "mj-text" })], showWarnings := false }
    (∃ e, c.convertDetailed options "" = .error e ∧ c'.convertDetailed other "" = .error e) ∨
    ∃ v v', c.convertDetailed options "" = .ok v ∧ c'.convertDetailed other "" = .ok v' ∧
      v.output = v'.output ∧ v.kind = v'.kind := by
  intro registry parse c c' options other
  have hmapping : Registry.new.SameButAdvice registry :=
    Registry.new.sameButAdvice_silenced (by decide +kernel)
  exact convertDetailed_silent c c' options other "" ⟨rfl, hmapping, rfl⟩ ⟨rfl, rfl⟩

end Converter

end Lettermill
