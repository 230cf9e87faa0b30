import Lettermill.Proofs.Style.Blocks
import Lettermill.Proofs.Style.Comments
/-! Which selectors of a sheet style a class. A selector list is cut at its commas as plain text, after
a plain search for comments. By its tokens it is cut only at the commas outside brackets, strings and
escapes. The two agree up to the commas within a selector: an argument of a function that stands
between two commas is taken for a selector of its own. Main statement: the classes that a sheet styles
are those named by a selector, or by such an argument of one. -/
namespace Lettermill
set_option autoImplicit false

namespace Css
open Text

/-! ## Selectors by their tokens -/

/-- The open brackets behind a token, innermost first. A closing bracket that does not match the
innermost one is passed over. -/
def Kind.enclose : Kind → List Bracket → List Bracket
  | .opening b, opened => b :: opened
  | .closing b, inner :: outer => if b = inner then outer else inner :: outer
  | _, opened => opened

/-- Cuts tokens at the commas outside brackets; comments are left out. `front` is the text of the
selector so far. -/
def selectorsFrom : List Bracket → List Char → List (Kind × List Char) → List (List Char)
  | _, front, [] => [front]
  | opened, front, (k, text) :: ts =>
    if opened = [] ∧ text = [','] then front :: selectorsFrom [] [] ts
    else selectorsFrom (k.enclose opened) (front ++ if isComment text then [] else text) ts

/-- The selectors of a list, without comments. -/
def selectors (cs : List Char) : List (List Char) := selectorsFrom [] [] (tokens cs)

theorem selectorsFrom_ne_nil (opened : List Bracket) (front : List Char)
    (ts : List (Kind × List Char)) : selectorsFrom opened front ts ≠ [] := by
  induction ts generalizing opened front with
  | nil => exact List.cons_ne_nil _ _
  | cons t ts ih =>
    rw [selectorsFrom]
    split
    · exact List.cons_ne_nil _ _
    · exact ih _ _

/-- Selectors with the commas put back are the tokens without their comments. -/
theorem intercalate_selectorsFrom (opened : List Bracket) (front : List Char)
    (ts : List (Kind × List Char)) :
    [','].intercalate (selectorsFrom opened front ts) = front ++ uncommented ts := by
  induction ts generalizing opened front with
  | nil => rw [selectorsFrom, List.intercalate_singleton, uncommented]; simp
  | cons t ts ih =>
    obtain ⟨k, text⟩ := t
    rw [selectorsFrom]
    split
    · next hcomma =>
      obtain ⟨s, more, hmore⟩ := List.exists_cons_of_ne_nil (selectorsFrom_ne_nil [] [] ts)
      have hrest := ih [] []
      rw [hmore, List.nil_append] at hrest
      rw [hmore, List.intercalate_cons_cons, hrest, hcomma.2, List.append_assoc]
      rfl
    · rw [ih, List.append_assoc]
      cases h : isComment text with
      | true => simp [uncommented, h]
      | false => simp [uncommented, h]

theorem intercalate_selectors (cs : List Char) :
    [','].intercalate (selectors cs) = uncommented (tokens cs) := intercalate_selectorsFrom [] [] _

example : selectors ":is(p, .a) /* , */, [b=\".c, d\"], .e".toList
    = [":is(p, .a) ".toList, " [b=\".c, d\"]".toList, " .e".toList] := by
  decide +kernel

/-! ## Preludes -/

/-- The next rule of a sheet: the text in front of its block if it is a style rule, and what follows
the rule. A rule that starts with an at sign is skipped whole. -/
def nextRule? (cs : List Char) : Option (Option (List Char) × List Char) :=
  match skipMarks cs with
  | [] => none
  | start =>
    match token? start with
    | some (.atName _, rest) =>
      match (untilStop (fun c => c = ';' || c = '{') rest).2 with
      | [] => none
      | '{' :: inner => some (none, afterBlock .curly inner)
      | _ :: after => some (none, after)
    | _ =>
      match (untilStop (· = '{') start).2 with
      | [] => none
      | _ :: inner => some (some (untilStop (· = '{') start).1, afterBlock .curly inner)

/-- The texts in front of the blocks of the style rules of a sheet. -/
def preludesFrom : Nat → List Char → List (List Char)
  | 0, _ => []
  | fuel + 1, cs =>
    match nextRule? cs with
    | none => []
    | some (prelude, after) => prelude.toList ++ preludesFrom fuel after

/-- The texts in front of the blocks of the style rules of a sheet. -/
def preludes (css : String) : List (List Char) := preludesFrom (css.length + 1) css.toList

/-- What reading the rules of a sheet does with the next one. -/
theorem rulesFrom_next {source cs : List Char} {fuel : Nat} {rs : List Rule}
    (h : rulesFrom source (fuel + 1) cs = .ok rs) :
    nextRule? cs = none ∧ rs = []
      ∨ (∃ after, nextRule? cs = some (none, after) ∧ rulesFrom source fuel after = .ok rs)
      ∨ ∃ prelude after written more, nextRule? cs = some (some prelude, after)
        ∧ rulesFrom source fuel after = .ok more ∧ rs = ⟨plainText prelude, written⟩ :: more := by
  rw [rulesFrom] at h
  dsimp only at h
  split at h
  · next hstart =>
    cases h
    exact .inl ⟨by rw [nextRule?, hstart], rfl⟩
  · next hstart =>
    obtain ⟨c, start, hcons⟩ := List.exists_cons_of_ne_nil hstart
    rw [hcons] at h
    split at h
    · next hat =>
      split at h
      · next hend =>
        cases h
        exact .inl ⟨by simp only [nextRule?, hcons, hat, hend], rfl⟩
      · next hblock =>
        exact .inr (.inl ⟨_, by simp only [nextRule?, hcons, hat, hblock], h⟩)
      · next hother hsemicolon =>
        refine .inr (.inl ⟨_, ?_, h⟩)
        simp only [nextRule?, hcons, hat, hsemicolon]
    · next hstyle =>
      split at h
      · cases h
      · next inner hblock =>
        split at h
        · cases h
        · next written _ =>
          have hnext : nextRule? cs = some (some (untilStop (· = '{') (c :: start)).1,
              afterBlock .curly inner) := by
            simp only [nextRule?, hcons, hblock]
          cases hmore : rulesFrom source fuel (afterBlock .curly inner) with
          | error e =>
            rw [hmore] at h
            cases h
          | ok more =>
            rw [hmore] at h
            cases h
            exact .inr (.inr ⟨_, _, written, more, hnext, hmore, rfl⟩)

theorem map_selectors_rulesFrom {source cs : List Char} {fuel : Nat} {rs : List Rule}
    (h : rulesFrom source fuel cs = .ok rs) :
    rs.map Rule.selectors = (preludesFrom fuel cs).map plainText := by
  induction fuel generalizing cs rs with
  | zero =>
    cases h
    rfl
  | succ fuel ih =>
    rcases rulesFrom_next h with ⟨hnext, rfl⟩ | ⟨after, hnext, hrest⟩
      | ⟨prelude, after, written, more, hnext, hrest, rfl⟩
    · rw [preludesFrom, hnext]
      rfl
    · rw [preludesFrom, hnext, ih hrest]
      rfl
    · rw [preludesFrom, hnext, List.map_cons, ih hrest]
      rfl

/-! ## Classes and selectors -/

/-- A selector of the list is the class alone. -/
def Selects (cs : List Char) (cls : String) : Prop :=
  ∃ s ∈ selectors cs, trimChars s = '.' :: cls.toList

/-- The class stands alone between commas, or a comma and an end, within a selector of the list. -/
def Encloses (cs : List Char) (cls : String) : Prop :=
  ∃ s ∈ selectors cs, ',' ∈ s ∧ ∃ piece ∈ cutAt ',' s, trimChars piece = '.' :: cls.toList

instance (cs : List Char) (cls : String) : Decidable (Selects cs cls) :=
  inferInstanceAs (Decidable (∃ s ∈ _, _))

theorem comma_not_mem {cls : String} (h : IsClassName cls.toList) : ',' ∉ '.' :: cls.toList := by
  intro hc
  rcases List.mem_cons.mp hc with hc | hc
  · exact absurd hc (by decide)
  · exact absurd (h.continues hc) (by decide)

theorem mem_cutAt_selectors {cs : List Char} (hf : CommentsFound cs) (piece : List Char) :
    piece ∈ cutAt ',' (withoutComments cs.length cs) ↔ ∃ s ∈ selectors cs, piece ∈ cutAt ',' s := by
  have hne : selectors cs ≠ [] := selectorsFrom_ne_nil _ _ _
  rw [hf, ← intercalate_selectors, cutAt_intercalate ',' hne, List.mem_flatMap]

/-- The plain cut finds a class where a selector is the class, or holds it between commas. -/
theorem names_iff {cs : List Char} (hf : CommentsFound cs) {cls : String}
    (hc : IsClassName cls.toList) (written : List (List Char × List Char)) :
    (Rule.mk (plainText cs) written).names cls = true ↔ Selects cs cls ∨ Encloses cs cls := by
  have hpieces : (Rule.mk (plainText cs) written).names cls = true
      ↔ '.' :: cls.toList ∈ (cutAt ',' (withoutComments cs.length cs)).map trimChars := by
    rw [← map_trimChars_cutAt (by decide), List.mem_map, Rule.names, List.any_eq_true, plainText]
    simp only [beq_iff_eq]
  rw [hpieces, List.mem_map]
  constructor
  · rintro ⟨piece, hpiece, htrim⟩
    obtain ⟨s, hs, hcut⟩ := (mem_cutAt_selectors hf piece).mp hpiece
    by_cases hcomma : ',' ∈ s
    · exact .inr ⟨s, hs, hcomma, piece, hcut, htrim⟩
    · rw [cutAt_of_not_mem hcomma, List.mem_singleton] at hcut
      exact .inl ⟨s, hs, hcut ▸ htrim⟩
  · rintro (⟨s, hs, htrim⟩ | ⟨s, hs, -, piece, hcut, htrim⟩)
    · have hcomma : ',' ∉ s := fun h =>
        comma_not_mem hc (htrim ▸ mem_trimChars h (by decide))
      refine ⟨s, (mem_cutAt_selectors hf s).mpr ⟨s, hs, ?_⟩, htrim⟩
      rw [cutAt_of_not_mem hcomma]
      exact List.mem_singleton_self s
    · exact ⟨piece, (mem_cutAt_selectors hf piece).mpr ⟨s, hs, hcut⟩, htrim⟩

end Css

/-- The classes that a sheet styles are those that a selector of one of its style rules is, or that
stand between the commas within a selector. -/
theorem ClassStyles.isSome_get?_ofSheet {css : String} {styles : ClassStyles}
    (h : ClassStyles.ofSheet css = .ok styles)
    (hf : ∀ cs ∈ Css.preludes css, Css.CommentsFound cs) (cls : String) :
    (styles.get? cls).isSome = true
      ↔ Css.IsClassName cls.toList
        ∧ ∃ cs ∈ Css.preludes css, Css.Selects cs cls ∨ Css.Encloses cs cls := by
  obtain ⟨rs, hrs⟩ : ∃ rs, Css.rules css = .ok rs := by
    cases hr : Css.rules css with
    | error e =>
      rw [ofSheet, hr] at h
      cases h
    | ok rs => exact ⟨rs, rfl⟩
  have hfrom : styles.ResolvedFrom rs := by
    refine resolvedFrom_of_given fun cls => ?_
    rw [get?_ofSheet h, hrs]
    rfl
  have hlists : rs.map Css.Rule.selectors = (Css.preludes css).map Css.plainText :=
    Css.map_selectors_rulesFrom hrs
  rw [hfrom.present]
  refine and_congr_right fun hc => ?_
  constructor
  · rintro ⟨r, hr, hnames⟩
    obtain ⟨cs, hcs, hplain⟩ := List.mem_map.mp (hlists ▸ List.mem_map_of_mem hr)
    refine ⟨cs, hcs, (Css.names_iff (hf cs hcs) hc r.written).mp ?_⟩
    rwa [hplain]
  · rintro ⟨cs, hcs, hselects⟩
    obtain ⟨r, hr, hplain⟩ := List.mem_map.mp (hlists.symm ▸ List.mem_map_of_mem hcs)
    refine ⟨r, hr, ?_⟩
    have hnames := (Css.names_iff (hf cs hcs) hc r.written).mpr hselects
    rwa [← hplain] at hnames

theorem ClassStyles.isSome_get?_is :
    ∃ styles, ClassStyles.ofSheet ".b /* , */, :is(p, .a, b) \x7b color: red \x7d" = .ok styles
      ∧ (∀ cs ∈ Css.preludes ".b /* , */, :is(p, .a, b) \x7b color: red \x7d", Css.CommentsFound cs)
      ∧ ((styles.get? "a").isSome = true ↔ Css.IsClassName "a".toList
        ∧ ∃ cs ∈ Css.preludes ".b /* , */, :is(p, .a, b) \x7b color: red \x7d",
          Css.Selects cs "a" ∨ Css.Encloses cs "a") := by
  have hread : (ClassStyles.ofSheet
      ".b /* , */, :is(p, .a, b) \x7b color: red \x7d").toOption.isSome = true := by
    decide +kernel
  have hfair : ∀ cs ∈ Css.preludes ".b /* , */, :is(p, .a, b) \x7b color: red \x7d",
      ∀ t ∈ Css.tokens cs, Css.FairSlashes t.2 := by
    decide +kernel
  have hfound := fun cs hcs => Css.commentsFound_of_fair (hfair cs hcs)
  cases h : ClassStyles.ofSheet ".b /* , */, :is(p, .a, b) \x7b color: red \x7d" with
  | error e =>
    rw [h] at hread
    cases hread
  | ok styles => exact ⟨styles, rfl, hfound, ClassStyles.isSome_get?_ofSheet h hfound "a"⟩

/-- An argument of a function is styled, though no selector of the sheet is its class. -/
theorem ClassStyles.get?_argument :
    ((ClassStyles.ofSheet ":is(p, .a, b) \x7b color: red \x7d").toOption.bind
        (·.get? "a")).isSome = true
      ∧ ¬ ∃ cs ∈ Css.preludes ":is(p, .a, b) \x7b color: red \x7d", Css.Selects cs "a" := by
  decide +kernel

end Lettermill
