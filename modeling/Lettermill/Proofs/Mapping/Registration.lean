import Lettermill.Mapping.Registry
import Mathlib.Data.List.TakeWhile
/-! Which mappings can be registered. A tag or a target is refused when it is blank; the key under
which a mapping is kept does not matter for that, nor what was registered before. Main statement:
laying overrides over a registry fails at the first of them with a blank tag or a blank target. -/
namespace Lettermill
set_option autoImplicit false
open Text

namespace Text

theorem trimChars_eq_nil_iff {cs : List Char} : trimChars cs = [] ↔ cs.all isBlank = true := by
  rw [trimChars, trimRight, trimLeft, List.reverse_eq_nil_iff, List.dropWhile_eq_nil_iff,
    List.all_eq_true]
  constructor
  · intro h c hc
    rw [← List.takeWhile_append_dropWhile (p := isBlank) (l := cs), List.mem_append] at hc
    rcases hc with hc | hc
    · exact List.mem_takeWhile_imp hc
    · exact h c (List.mem_reverse.mpr hc)
  · intro h c hc
    exact h c ((List.dropWhile_suffix isBlank).subset (List.mem_reverse.mp hc))

end Text

namespace Registry

theorem keyOf_eq_empty_iff {tag : String} : keyOf tag = "" ↔ allBlank tag = true := by
  rw [keyOf, lower, String.ofList_eq_empty_iff, lowerChars, List.map_eq_nil_iff, trim,
    String.toList_ofList, trimChars_eq_nil_iff, allBlank]

/-- Is the tag or the target of an entry blank? -/
def isRefused (entry : String × Mapping) : Bool := allBlank entry.1 || allBlank entry.2.target

/-- What is said of an entry that is refused; a blank tag counts first. -/
def refusalOf (entry : String × Mapping) : MappingError :=
  if allBlank entry.1 then .emptyTag else .emptyTarget (keyOf entry.1)

theorem refusal?_eq (entry : String × Mapping) :
    refusal? entry.1 entry.2 = if isRefused entry then some (refusalOf entry) else none := by
  rw [refusal?, isRefused, refusalOf]
  by_cases ht : allBlank entry.1 = true
  · rw [if_pos (keyOf_eq_empty_iff.mpr ht), ht, Bool.true_or, if_pos rfl, if_pos rfl]
  · have hkey : keyOf entry.1 ≠ "" := fun h => ht (keyOf_eq_empty_iff.mp h)
    rw [if_neg hkey, if_neg ht]
    rw [Bool.not_eq_true] at ht
    rw [ht, Bool.false_or]

theorem registerEach_refusal (r : Registry) (entries : List (String × Mapping)) :
    (r.registerEach entries).2 = (entries.find? isRefused).map refusalOf := by
  induction entries generalizing r with
  | nil => rfl
  | cons entry rest ih =>
    obtain ⟨tag, m⟩ := entry
    have hstep := refusal?_eq (tag, m)
    rw [registerEach, register, List.find?_cons, hstep]
    cases isRefused (tag, m) with
    | true => rfl
    | false => exact ih _

theorem withOverrides_eq_error_iff {r : Registry} {overrides : Dict Mapping}
    {cause : MappingError} :
    r.withOverrides overrides = .error cause
      ↔ ∃ entry, overrides.entries.find? isRefused = some entry ∧ cause = refusalOf entry := by
  have hrefusal := registerEach_refusal r overrides.entries
  rw [withOverrides]
  split
  case h_1 next hreach =>
    rw [hreach] at hrefusal
    rw [eq_comm, Option.map_eq_none_iff] at hrefusal
    simp [hrefusal]
  case h_2 reached found hreach =>
    rw [hreach, eq_comm, Option.map_eq_some_iff] at hrefusal
    obtain ⟨entry, hentry, rfl⟩ := hrefusal
    simp [hentry, eq_comm]

theorem none_refused {r registry : Registry} {overrides : Dict Mapping}
    (h : r.withOverrides overrides = .ok registry) :
    overrides.entries.find? isRefused = none := by
  cases hfind : overrides.entries.find? isRefused with
  | none => rfl
  | some entry =>
    have herror : r.withOverrides overrides = .error (refusalOf entry) :=
      withOverrides_eq_error_iff.mpr ⟨entry, hfind, rfl⟩
    rw [h] at herror
    cases herror

end Registry

end Lettermill
