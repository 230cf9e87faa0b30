import Lettermill.Proofs.Converter.Warnings
import Lettermill.Proofs.Mapping.Registration
/-! How a conversion ends. It fails when the reader does or when it needs the mappings and one of them
is refused, and for no other reason; else it returns what the compiler makes of the markup, or the
markup itself. -/
namespace Lettermill
set_option autoImplicit false

/-! ## Input that is refused -/

namespace Html

theorem size_takeWhile_lt (p : Char → Bool) (source : String) :
    (String.ofList (source.toList.takeWhile p)).utf8ByteSize < source.utf8ByteSize
      ↔ ∃ c ∈ source.toList, p c = false := by
  have hsource : String.ofList (source.toList.takeWhile p)
      ++ String.ofList (source.toList.dropWhile p) = source := by
    rw [← String.ofList_append, List.takeWhile_append_dropWhile, String.ofList_toList]
  have hsize := String.utf8ByteSize_append (s := String.ofList (source.toList.takeWhile p))
    (t := String.ofList (source.toList.dropWhile p))
  rw [hsource] at hsize
  have hback : (String.ofList (source.toList.dropWhile p)).utf8ByteSize = 0
      ↔ ∀ c ∈ source.toList, p c = true := by
    rw [String.utf8ByteSize_eq_zero_iff, String.ofList_eq_empty_iff, List.dropWhile_eq_nil_iff]
  constructor
  · intro hlt
    by_contra hall
    push Not at hall
    have hzero := hback.mpr fun c hc => eq_true_of_ne_false (hall c hc)
    omega
  · rintro ⟨c, hc, hstop⟩
    have hsome : (String.ofList (source.toList.dropWhile p)).utf8ByteSize ≠ 0 := by
      intro hzero
      rw [hback.mp hzero c hc] at hstop
      cases hstop
    omega

theorem isSome_nulOffset? {source : String} :
    (nulOffset? source).isSome = true ↔ '\x00' ∈ source.toList := by
  have hstop := size_takeWhile_lt (· != '\x00') source
  simp only [bne_eq_false_iff_eq, exists_eq_right] at hstop
  unfold nulOffset?
  rw [← hstop]
  simp

theorem read_eq_error_iff {limit : Nat} {source : String} :
    (∃ cause, read limit source = .error cause)
      ↔ limit < source.utf8ByteSize ∨ '\x00' ∈ source.toList := by
  rw [← isSome_nulOffset?, read, refusal?]
  by_cases hlong : limit < source.utf8ByteSize
  · simp [hlong]
  · cases nulOffset? source with
    | none => simp [hlong]
    | some offset => simp [hlong]

theorem reader_eq_error_iff {limit : Nat} {source : String} {e : ConvertError} :
    reader limit source = .error e
      ↔ ∃ cause, read limit source = .error cause ∧ e = .malformedInput cause := by
  rw [reader]
  cases read limit source with
  | error cause => simp [Except.mapError, eq_comm]
  | ok d => simp [Except.mapError]

end Html

/-! ## The compiler -/

theorem compileOrKeep_cases (compiler : Option Compiler) (markup : String) :
    ((compileOrKeep compiler markup).kind = .html ∧
      ∃ compile rendering, compiler = some compile ∧ compile markup .soft = .ok rendering ∧
        (compileOrKeep compiler markup).output = rendering.html) ∨
    ((compileOrKeep compiler markup).kind = .mjml ∧
      (compileOrKeep compiler markup).output = markup ∧
      ∀ compile rendering, compiler = some compile → compile markup .soft ≠ .ok rendering) := by
  unfold compileOrKeep
  cases compiler with
  | none => exact .inr ⟨rfl, rfl, fun _ _ h => by cases h⟩
  | some compile =>
    dsimp only
    cases hrun : compile markup .soft with
    | ok rendering => exact .inl ⟨rfl, compile, rendering, rfl, hrun, rfl⟩
    | error e =>
      refine .inr ⟨rfl, rfl, ?_⟩
      intro other rendering hsame hok
      obtain rfl : compile = other := Option.some.inj hsame
      rw [hrun] at hok
      cases hok

namespace Converter
variable {c : Converter} {options : Options} {d : Document}

/-! ## The result -/

/-- The same converter with another compiler, or without one. -/
def withCompiler (c : Converter) (compiler : Option Compiler) : Converter := { c with compiler }

theorem finish_cases {drawn : Draft} (h : c.draft options d = .ok drawn) :
    (options.compiles d = true ∧ (c.finish options drawn).kind = .html ∧
      ∃ compile rendering, c.compiler = some compile ∧
        compile drawn.markup .soft = .ok rendering ∧
        (c.finish options drawn).output = rendering.html) ∨
    ((c.finish options drawn).kind = .mjml ∧ (c.finish options drawn).output = drawn.markup ∧
      (options.compiles d = true → ∀ compile rendering, c.compiler = some compile →
        compile drawn.markup .soft ≠ .ok rendering)) := by
  rw [finish, isToCompile_of_draft h]
  cases options.compiles d with
  | false => exact .inr ⟨rfl, rfl, fun h => by cases h⟩
  | true =>
    rcases compileOrKeep_cases c.compiler drawn.markup with ⟨hkind, hrun⟩ | ⟨hkind, hkept, hrun⟩
    · exact .inl ⟨rfl, hkind, hrun⟩
    · exact .inr ⟨hkind, hkept, fun _ => hrun⟩

/-- The compiler is consulted when another one could make a difference. -/
theorem finish_consults {drawn : Draft} (h : c.draft options d = .ok drawn) :
    options.compiles d = true
      ↔ ∃ other, (c.withCompiler other).finish options drawn ≠ c.finish options drawn := by
  constructor
  · intro hrun
    have hto : drawn.isToCompile options = true := by rw [isToCompile_of_draft h, hrun]
    cases hkind : (c.finish options drawn).kind with
    | html =>
      refine ⟨none, fun heq => ?_⟩
      rw [← heq, finish, hto] at hkind
      cases hkind
    | mjml =>
      refine ⟨some fun _ _ => .ok ⟨"", []⟩, fun heq => ?_⟩
      rw [← heq, finish, hto] at hkind
      cases hkind
  · rintro ⟨other, hne⟩
    by_contra hoff
    rw [Bool.not_eq_true] at hoff
    apply hne
    rw [finish, finish, isToCompile_of_draft h, hoff]
    rfl

/-- What is returned for a document that is converted, from the trimmed markup. -/
structure Delivers (c : Converter) (options : Options) (html : String) (d : Document)
    (markup : String) (conversion : Conversion) : Prop where
  passed (path : Path) (root : Element)
    (h : (options.rooted d).locate? "mjml" = some (path, root)) :
    markup = Text.trim root.outerMarkup
  written (h : (options.rooted d).contains "mjml" = false) :
    ∃ registry, c.registry.withOverrides options.customMappings = .ok registry ∧
      markup = Text.trim
        ((options.settingFor registry d).emitDocument (options.rooted d)).markup
  consults : options.compiles d = true
    ↔ ∃ other, (c.withCompiler other).convertDetailed options html ≠ .ok conversion
  rendered : conversion.kind = .html
    ↔ options.compiles d = true ∧ ∃ compile rendering, c.compiler = some compile ∧
      compile markup .soft = .ok rendering
  output_html (compile : Compiler) (rendering : Rendering) (hkind : conversion.kind = .html)
    (hc : c.compiler = some compile) (hrun : compile markup .soft = .ok rendering) :
    conversion.output = rendering.html
  output_mjml (hkind : conversion.kind = .mjml) : conversion.output = markup

theorem delivers_of_draft {html : String} {drawn : Draft} (hread : c.parse html = .ok d)
    (hdraft : c.draft options d = .ok drawn) :
    c.Delivers options html d drawn.markup (c.finish options drawn) where
  passed path root hloc := by
    rw [draft_of_some hloc, Except.ok.injEq] at hdraft
    rw [← hdraft]
  written hnone := by
    obtain ⟨path, root, hloc, -⟩ | ⟨-, registry, hr, hmarkup, -⟩ := draft_eq_ok hdraft
    · rw [Document.contains_eq_false_iff.mp hnone] at hloc
      cases hloc
    · exact ⟨registry, hr, hmarkup⟩
  consults := by
    have hother : ∀ other, (c.withCompiler other).convertDetailed options html
        = .ok ((c.withCompiler other).finish options drawn) := fun other =>
      convertDetailed_of_draft hread hdraft
    rw [finish_consults hdraft]
    simp only [hother, ne_eq, Except.ok.injEq]
  rendered := by
    obtain ⟨hrun, hkind, compile, rendering, hc, hok, -⟩ | ⟨hkind, -, hrun⟩ := finish_cases hdraft
    · exact iff_of_true hkind ⟨hrun, compile, rendering, hc, hok⟩
    · refine iff_of_false (by simp [hkind]) ?_
      rintro ⟨hto, compile, rendering, hc, hok⟩
      exact hrun hto compile rendering hc hok
  output_html compile rendering hkind hc hok := by
    obtain ⟨-, -, other, found, hother, hfound, hout⟩ | ⟨hkept, -⟩ := finish_cases hdraft
    · obtain rfl : compile = other := Option.some.inj (hc.symm.trans hother)
      obtain rfl : rendering = found := Except.ok.inj (hok.symm.trans hfound)
      exact hout
    · rw [hkind] at hkept
      cases hkept
  output_mjml hkind := by
    obtain ⟨-, hhtml, -⟩ | ⟨-, hout, -⟩ := finish_cases hdraft
    · rw [hkind] at hhtml
      cases hhtml
    · exact hout

/-- **How a conversion ends.** It fails with the error of the reader when that fails, and with the
first refused mapping when the document holds no mail document; in every other case it succeeds. The
reader of HTML refuses exactly a text that is too long or has a NUL in it, and never fails otherwise.
-/
theorem convertDetailed_outcome (c : Converter) (options : Options) (html : String) :
    ((∃ e, c.parse html = .error e ∧ c.convertDetailed options html = .error e) ∨
      ∃ d, c.parse html = .ok d ∧
        (((options.rooted d).contains "mjml" = false ∧
          ∃ entry, options.customMappings.entries.find? Registry.isRefused = some entry ∧
            c.convertDetailed options html = .error (.invalidMapping (Registry.refusalOf entry))) ∨
        (((options.rooted d).contains "mjml" = true ∨
            options.customMappings.entries.find? Registry.isRefused = none) ∧
          ∃ markup conversion, c.convertDetailed options html = .ok conversion ∧
            c.Delivers options html d markup conversion))) ∧
    ∀ limit, ((∃ cause, Html.read limit html = .error cause)
        ↔ limit < html.utf8ByteSize ∨ '\x00' ∈ html.toList) ∧
      ∀ e, Html.reader limit html = .error e
        ↔ ∃ cause, Html.read limit html = .error cause ∧ e = .malformedInput cause := by
  refine ⟨?_, fun limit => ⟨Html.read_eq_error_iff, fun e => Html.reader_eq_error_iff⟩⟩
  cases hread : c.parse html with
  | error e => exact .inl ⟨e, rfl, convertDetailed_eq_error_iff.mpr (.inl hread)⟩
  | ok d =>
    refine .inr ⟨d, rfl, ?_⟩
    cases hdraft : c.draft options d with
    | error cause =>
      obtain ⟨hloc, hr⟩ := draft_eq_error_iff.mp hdraft
      obtain ⟨entry, hentry, rfl⟩ := Registry.withOverrides_eq_error_iff.mp hr
      exact .inl ⟨Document.contains_eq_false_iff.mpr hloc, entry, hentry,
        convertDetailed_eq_error_iff.mpr (.inr ⟨d, _, hread, hdraft, rfl⟩)⟩
    | ok drawn =>
      refine .inr ⟨?_, drawn.markup, _, convertDetailed_of_draft hread hdraft,
        delivers_of_draft hread hdraft⟩
      obtain ⟨path, root, hloc, -⟩ | ⟨-, registry, hr, -⟩ := draft_eq_ok hdraft
      · left
        rw [Document.contains_eq_isSome, hloc]
        rfl
      · exact .inr (Registry.none_refused hr)

end Converter

end Lettermill
