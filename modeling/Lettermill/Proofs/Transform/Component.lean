import Lettermill.Document.Outside
import Lettermill.Mapping.Registry
import Lettermill.Proofs.Text.Seam
import Lettermill.Transform.Repair
/-! Names of components. They are told by their front, which neither trimming nor lower case takes
away, so the key under which a mapping for a component is registered is a component again. No element
of the document skeleton is one. -/
namespace Lettermill
set_option autoImplicit false
open Text

namespace Text

theorem lowerChar_lowerChar (c : Char) : lowerChar (lowerChar c) = lowerChar c := by
  by_cases h : 'A' ≤ c ∧ c ≤ 'Z'
  · have hlow : 65 ≤ c.toNat := h.1
    have hhigh : c.toNat ≤ 90 := h.2
    have hvalid : (c.toNat + 32).isValidChar := Or.inl (by omega)
    have hvalue : (lowerChar c).toNat = c.toNat + 32 := by
      rw [lowerChar, if_pos h, Char.ofNat, dif_pos hvalid]
      rfl
    have hpast : ¬ ('A' ≤ lowerChar c ∧ lowerChar c ≤ 'Z') := by
      rintro ⟨-, hle⟩
      have hle : (lowerChar c).toNat ≤ 90 := hle
      omega
    rw [lowerChar, if_neg hpast]
  · have hsame : lowerChar c = c := by rw [lowerChar, if_neg h]
    rw [hsame, hsame]

theorem lower_lower (s : String) : lower (lower s) = lower s := by
  rw [lower, lower, String.toList_ofList, lowerChars, lowerChars, List.map_map]
  congr 1
  exact List.map_congr_left fun c _ => lowerChar_lowerChar c

end Text

namespace Component
variable {tag : String}

theorem isComponent_iff :
    isComponent tag = true ↔ tag = "mjml" ∨ ['m', 'j', '-'] <+: tag.toList := by
  have hfront : "mj-".toList = ['m', 'j', '-'] := by decide
  rw [isComponent, Bool.or_eq_true, decide_eq_true_eq, String.startsWith_string_iff, hfront]

theorem isComponent_lower (h : isComponent tag = true) : isComponent (lower tag) = true := by
  rw [isComponent_iff] at h ⊢
  rcases h with rfl | h
  · exact .inl (by decide)
  · have hlow : ['m', 'j', '-'].map lowerChar = ['m', 'j', '-'] := by decide
    rw [lower, String.toList_ofList, lowerChars, ← hlow]
    exact .inr (h.map lowerChar)

theorem isComponent_trim (h : isComponent tag = true) : isComponent (trim tag) = true := by
  rw [isComponent_iff] at h ⊢
  rcases h with rfl | h
  · exact .inl (by decide)
  · rw [trim, String.toList_ofList]
    have hfront : Stops isBlank ['m', 'j', '-'] := by rw [stops_cons]; decide
    have hback : Stops isBlank ['-', 'j', 'm'] := by rw [stops_cons]; decide
    exact .inr (prefix_trimChars (List.cons_ne_nil _ _) hfront hback h)

/-- What is no component in lower case is none in any letters. -/
theorem isComponent_of_sameLetters {name : String} (h : sameLetters tag name = true)
    (hn : isComponent (lower name) = false) : isComponent tag = false := by
  rw [← Bool.not_eq_true]
  intro hc
  have hlow := isComponent_lower hc
  rw [beq_iff_eq.mp h, hn] at hlow
  cases hlow

theorem isComponent_lower_of_skeleton : ∀ name ∈ skeleton, isComponent (lower name) = false := by
  decide +kernel

theorem isComponent_lower_skeleton (h : skeleton.any (sameLetters tag) = true) :
    isComponent (lower tag) = false := by
  obtain ⟨name, hname, hsame⟩ := List.any_eq_true.mp h
  rw [beq_iff_eq.mp hsame]
  exact isComponent_lower_of_skeleton name hname

theorem isComponent_of_skeleton (h : skeleton.any (sameLetters tag) = true) :
    isComponent tag = false := by
  obtain ⟨name, hname, hsame⟩ := List.any_eq_true.mp h
  exact isComponent_of_sameLetters hsame (isComponent_lower_of_skeleton name hname)

theorem isComponent_keyOf (h : isComponent tag = true) :
    isComponent (Registry.keyOf tag) = true := isComponent_lower (isComponent_trim h)

end Component

theorem Registry.lookup_of_sameLetters {r : Registry} {a b : String} (h : sameLetters a b = true) :
    r.lookup a = r.lookup b := by
  have hlower : lower a = lower b := beq_iff_eq.mp h
  rw [lookup, lookup, explicit?, explicit?, hlower]

end Lettermill
