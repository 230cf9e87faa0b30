import Lettermill.Proofs.Markup.Reading
/-! Escaping loses nothing. The written forms of two characters can be told apart at the front of a
text, so an escaped text has one source. Both escapings are instances: a form for each character,
none of which begins another. A text is its own escaped form just when it holds none of the
characters that have another. -/
namespace Lettermill.Markup
set_option autoImplicit false

/-- Forms that are not empty and can be told apart at the front of a text. -/
structure Separable (form : Char → List Char) : Prop where
  ne_nil : ∀ c, form c ≠ []
  seam : ∀ {c d : Char} {r s : List Char}, form c ++ r = form d ++ s → c = d ∧ r = s

theorem Separable.flatMap_inj {form : Char → List Char} (h : Separable form) {a b : List Char}
    (e : a.flatMap form = b.flatMap form) : a = b := by
  induction a generalizing b with
  | nil =>
    cases b with
    | nil => rfl
    | cons d b =>
      rw [List.flatMap_nil, List.flatMap_cons, eq_comm, List.append_eq_nil_iff] at e
      exact absurd e.1 (h.ne_nil d)
  | cons c a ih =>
    cases b with
    | nil =>
      rw [List.flatMap_nil, List.flatMap_cons, List.append_eq_nil_iff] at e
      exact absurd e.1 (h.ne_nil c)
    | cons d b =>
      rw [List.flatMap_cons, List.flatMap_cons] at e
      obtain ⟨rfl, hrest⟩ := h.seam e
      rw [ih hrest]

theorem separable_attributeForm : Separable attributeForm where
  ne_nil c := by
    unfold attributeForm
    split <;> simp
  seam {c d r s} e := by
    unfold attributeForm at e
    split at e <;> split at e <;> simp at e <;> grind

theorem separable_textForm : Separable textForm where
  ne_nil c := by
    unfold textForm
    split <;> simp
  seam {c d r s} e := by
    unfold textForm at e
    split at e <;> split at e <;> simp at e <;> grind

theorem escapeAttribute_inj {a b : String} (h : escapeAttribute a = escapeAttribute b) : a = b := by
  have hforms := congrArg String.toList h
  rw [toList_escapeAttribute, toList_escapeAttribute] at hforms
  exact String.toList_inj.mp (separable_attributeForm.flatMap_inj hforms)

theorem toList_escapeText (value : String) :
    (escapeText value).toList = value.toList.flatMap textForm := String.toList_ofList

theorem escapeText_inj {a b : String} (h : escapeText a = escapeText b) : a = b := by
  have hforms := congrArg String.toList h
  rw [toList_escapeText, toList_escapeText] at hforms
  exact String.toList_inj.mp (separable_textForm.flatMap_inj hforms)

theorem escapeText_ne_empty {value : String} (h : value ≠ "") : escapeText value ≠ "" :=
  fun e => h (escapeText_inj (e.trans rfl))

theorem bracket_not_mem_escapeText (value : String) : '<' ∉ (escapeText value).toList := by
  rw [toList_escapeText, List.mem_flatMap]
  rintro ⟨c, -, hc⟩
  unfold textForm at hc
  split at hc
  case h_4 c _ h _ => exact h (List.mem_singleton.mp hc).symm
  all_goals exact absurd hc (by decide)

theorem bracket_not_mem_escapeAttribute (value : String) :
    '<' ∉ (escapeAttribute value).toList := by
  rw [toList_escapeAttribute, List.mem_flatMap]
  rintro ⟨c, -, hc⟩
  unfold attributeForm at hc
  split at hc
  case h_6 c _ _ _ h _ => exact h (List.mem_singleton.mp hc).symm
  all_goals exact absurd hc (by decide)

theorem valuesOf_inj {a b : Attributes} (h : valuesOf a = valuesOf b) : a = b := by
  refine Dict.ext (List.map_injective_iff.mpr ?_ h)
  rintro ⟨name, value⟩ ⟨other, next⟩ hpair
  rw [Prod.mk.injEq] at hpair
  exact Prod.ext hpair.1 (escapeAttribute_inj hpair.2)

/-! ## Texts that are written as they stand -/

/-- Is the character written as it stands in running text? -/
def isPlain (c : Char) : Bool := c != '&' && c != '<' && c != '>'

theorem textForm_cases (c : Char) :
    textForm c = [c] ∧ isPlain c = true ∨ 1 < (textForm c).length ∧ isPlain c = false := by
  unfold textForm
  split
  case h_1 => exact .inr (by decide)
  case h_2 => exact .inr (by decide)
  case h_3 => exact .inr (by decide)
  case h_4 _ hamp hlt hgt =>
    refine .inl ⟨rfl, ?_⟩
    simp only [isPlain, Bool.and_eq_true, bne_iff_ne]
    exact ⟨⟨hamp, hlt⟩, hgt⟩

theorem length_le_flatMap_textForm (cs : List Char) :
    cs.length ≤ (cs.flatMap textForm).length := by
  induction cs with
  | nil => exact Nat.le_refl 0
  | cons c cs ih =>
    have hone : 1 ≤ (textForm c).length := by
      rcases textForm_cases c with ⟨hform, -⟩ | ⟨hlength, -⟩
      · rw [hform, List.length_singleton]
      · omega
    rw [List.flatMap_cons, List.length_append, List.length_cons]
    omega

theorem flatMap_textForm_eq_self_iff {cs : List Char} :
    cs.flatMap textForm = cs ↔ cs.all isPlain = true := by
  induction cs with
  | nil => exact ⟨fun _ => rfl, fun _ => rfl⟩
  | cons c cs ih =>
    rw [List.flatMap_cons, List.all_cons]
    rcases textForm_cases c with ⟨hform, hplain⟩ | ⟨hlength, hplain⟩
    · rw [hform, hplain, Bool.true_and, List.singleton_append, List.cons.injEq, ih]
      exact and_iff_right rfl
    · rw [hplain, Bool.false_and]
      refine iff_of_false ?_ Bool.false_ne_true
      intro h
      have hcount := congrArg List.length h
      have hrest := length_le_flatMap_textForm cs
      rw [List.length_append, List.length_cons] at hcount
      omega

theorem escapeText_eq_self_iff {s : String} :
    escapeText s = s ↔ s.toList.all isPlain = true := by
  rw [← String.toList_inj, toList_escapeText, flatMap_textForm_eq_self_iff]

end Lettermill.Markup
