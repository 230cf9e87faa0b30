import Lettermill.Text.Blank
import Mathlib.Data.List.Basic
/-! Where glued texts can be told apart again: a run of characters of one class followed by anything
that leaves the class, and a text that is closed by the mark of a comment. Both are stated as
cancellation: equal wholes have equal parts. Trimming has nothing to do on a text whose two ends
are not blank. -/
namespace Lettermill.Text
set_option autoImplicit false

/-! ## Runs of one class -/

/-- Nothing of the class `p` stands at the front of the text. -/
def Stops (p : Char → Bool) (cs : List Char) : Prop := ∀ c ∈ cs.head?, p c = false

@[simp] theorem stops_nil (p : Char → Bool) : Stops p [] := by simp [Stops]

@[simp] theorem stops_cons (p : Char → Bool) (c : Char) (cs : List Char) :
    Stops p (c :: cs) ↔ p c = false := by simp [Stops]

/-- A run of a class ends where the class ends, so equal texts have equal runs in front. -/
theorem run_seam {p : Char → Bool} {a b r s : List Char} (ha : ∀ c ∈ a, p c) (hb : ∀ c ∈ b, p c)
    (hr : Stops p r) (hs : Stops p s) (h : a ++ r = b ++ s) : a = b ∧ r = s := by
  have rest : ∀ {t u v : List Char}, (∀ c ∈ t, p c) → Stops p u → u = t ++ v → t = [] := by
    intro t u v ht hu e
    cases t with
    | nil => rfl
    | cons c t =>
      rw [e, List.cons_append, stops_cons] at hu
      rw [ht c (List.mem_cons_self ..)] at hu
      cases hu
  rcases List.append_eq_append_iff.mp h with ⟨t, rfl, hrt⟩ | ⟨t, rfl, hst⟩
  · have ht : t = [] := rest (fun c hc => hb c (List.mem_append_right _ hc)) hr hrt
    subst ht
    exact ⟨(List.append_nil a).symm, hrt⟩
  · have ht : t = [] := rest (fun c hc => ha c (List.mem_append_right _ hc)) hs hst
    subst ht
    exact ⟨List.append_nil b, hst.symm⟩

/-! ## The end of a comment -/

def commentEnd : List Char := ['-', '-', '>']

/-- The first end mark of `a` and what it closes lies behind `a`: a longer text in front of an end
mark would hold the mark. -/
theorem commentEnd_rest {t r s : List Char} (ht : ¬ commentEnd <:+: t)
    (h : commentEnd ++ r = t ++ (commentEnd ++ s)) : t = [] := by
  match t with
  | [] => rfl
  | [x] => simp [commentEnd] at h
  | [x, y] => simp [commentEnd] at h
  | x :: y :: z :: t =>
    simp only [commentEnd, List.cons_append, List.nil_append, List.cons.injEq] at h
    obtain ⟨rfl, rfl, rfl, -⟩ := h
    exact absurd ⟨[], t, rfl⟩ ht

theorem comment_seam {a b r s : List Char} (ha : ¬ commentEnd <:+: a) (hb : ¬ commentEnd <:+: b)
    (h : a ++ (commentEnd ++ r) = b ++ (commentEnd ++ s)) : a = b ∧ r = s := by
  rcases List.append_eq_append_iff.mp h with ⟨t, rfl, hrt⟩ | ⟨t, rfl, hst⟩
  · have ht : t = [] :=
      commentEnd_rest (fun hi => hb (hi.trans (List.suffix_append a t).isInfix)) hrt
    subst ht
    exact ⟨(List.append_nil a).symm, List.append_cancel_left hrt⟩
  · have ht : t = [] :=
      commentEnd_rest (fun hi => ha (hi.trans (List.suffix_append b t).isInfix)) hst
    subst ht
    exact ⟨List.append_nil b, (List.append_cancel_left hst).symm⟩

theorem commentEnd_padded {a : List Char} (ha : ¬ commentEnd <:+: a) :
    ¬ commentEnd <:+: ' ' :: (a ++ [' ']) := by
  rintro ⟨front, back, h⟩
  apply ha
  cases front with
  | nil => simp [commentEnd] at h
  | cons c front =>
    rw [List.append_assoc, List.cons_append, List.cons.injEq] at h
    rcases List.eq_nil_or_concat back with rfl | ⟨back, d, rfl⟩
    · have hlast := congrArg List.getLast? h.2
      simp [commentEnd] at hlast
    · have he : (front ++ commentEnd ++ back) ++ [d] = a ++ [' '] := by
        rw [← h.2, List.concat_eq_append]
        simp only [List.append_assoc]
      exact ⟨front, back, (List.append_inj' he rfl).1⟩

/-! ## Trimming -/

theorem dropWhile_of_stops {p : Char → Bool} {cs : List Char} (h : Stops p cs) :
    cs.dropWhile p = cs := by
  cases cs with
  | nil => rfl
  | cons c cs =>
    rw [stops_cons] at h
    rw [List.dropWhile_cons, h]
    rfl

theorem trimChars_of_stops {cs : List Char} (hf : Stops isBlank cs)
    (hb : Stops isBlank cs.reverse) : trimChars cs = cs := by
  rw [trimChars, trimLeft, dropWhile_of_stops hf, trimRight, dropWhile_of_stops hb,
    List.reverse_reverse]

theorem prefix_trimChars {front cs : List Char} (hne : front ≠ []) (hf : Stops isBlank front)
    (hb : Stops isBlank front.reverse) (h : front <+: cs) : front <+: trimChars cs := by
  obtain ⟨back, rfl⟩ := h
  have hleft : trimLeft (front ++ back) = front ++ back := by
    refine dropWhile_of_stops ?_
    rwa [Stops, List.head?_append_of_ne_nil front hne]
  rw [trimChars, hleft, trimRight, List.reverse_append, List.dropWhile_append]
  split
  · have hfront : (front.reverse.dropWhile isBlank).reverse = front := by
      rw [dropWhile_of_stops hb, List.reverse_reverse]
    exact ⟨[], by rw [List.append_nil, hfront]⟩
  · rw [List.reverse_append, List.reverse_reverse]
    exact List.prefix_append _ _

theorem trim_of_bracketed {s : String} {cs : List Char} (h : s.toList = '<' :: (cs ++ ['>'])) :
    trim s = s := by
  rw [trim, h, trimChars_of_stops (by rw [stops_cons]; decide), ← h, String.ofList_toList]
  rw [List.reverse_cons, List.reverse_append, List.reverse_singleton, List.cons_append,
    List.cons_append, stops_cons]
  decide

end Lettermill.Text
