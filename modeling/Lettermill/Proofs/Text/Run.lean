import Lettermill.Proofs.Text.Seam
import Lettermill.Text.Letters
/-! What cutting, spanning and trimming find in a text. A run of one class is taken whole when the
class ends behind it, and a text is cut at a mark where the mark first stands. Texts joined by a mark
are cut into the pieces of each. Facts about the characters of the ASCII range are decided over all
of them. -/
namespace Lettermill.Text
set_option autoImplicit false

/-! ## Characters -/

/-- What one class of characters says of another among the first 128 characters, it says of each of
them. -/
theorem of_ascii {p q : Char → Bool}
    (h : ∀ n < 128, p (Char.ofNat n) = true → q (Char.ofNat n) = true) {c : Char}
    (hc : c.toNat < 128) (hp : p c = true) : q c = true := by
  have hn := h c.toNat hc
  rw [Char.ofNat_toNat] at hn
  exact hn hp

theorem forall_of_all {p : Char → Prop} [DecidablePred p] {cs : List Char}
    (h : cs.all (fun c => p c) = true) : ∀ c ∈ cs, p c :=
  fun c hc => of_decide_eq_true (List.all_eq_true.mp h c hc)

theorem toNat_of_isLetter {c : Char} (h : isLetter c = true) : c.toNat < 128 := by
  rw [isLetter, Bool.or_eq_true, Bool.and_eq_true, Bool.and_eq_true, decide_eq_true_eq,
    decide_eq_true_eq, decide_eq_true_eq, decide_eq_true_eq] at h
  rcases h with ⟨-, h⟩ | ⟨-, h⟩
  · have hle : c.toNat ≤ 122 := h
    omega
  · have hle : c.toNat ≤ 90 := h
    omega

theorem toNat_of_isDigit {c : Char} (h : isDigit c = true) : c.toNat < 128 := by
  rw [isDigit, Bool.and_eq_true, decide_eq_true_eq, decide_eq_true_eq] at h
  have hle : c.toNat ≤ 57 := h.2
  omega

theorem lowerChar_capital {c : Char} (h : lowerChar c ≠ c) : c.toNat < 128 := by
  unfold lowerChar at h
  split at h
  case isTrue hc =>
    have hle : c.toNat ≤ 90 := hc.2
    omega
  case isFalse => exact absurd rfl h

theorem lowerChar_spec {α : Type} [DecidableEq α] (f : Char → α)
    (h : ∀ n < 128, f (lowerChar (Char.ofNat n)) = f (Char.ofNat n)) (c : Char) :
    f (lowerChar c) = f c := by
  by_cases hc : lowerChar c = c
  · rw [hc]
  · have hn := h c.toNat (lowerChar_capital hc)
    rwa [Char.ofNat_toNat] at hn

/-! ## Runs -/

section
variable {p : Char → Bool} {run rest : List Char}

theorem takeWhile_run (h : ∀ c ∈ run, p c = true) (hr : Stops p rest) :
    (run ++ rest).takeWhile p = run := by
  have hrest : rest.takeWhile p = [] := by
    cases rest with
    | nil => rfl
    | cons c cs => rw [List.takeWhile_cons, (stops_cons p c cs).mp hr]; rfl
  rw [List.takeWhile_append_of_pos h, hrest, List.append_nil]

theorem dropWhile_run (h : ∀ c ∈ run, p c = true) (hr : Stops p rest) :
    (run ++ rest).dropWhile p = rest := by
  rw [List.dropWhile_append_of_pos h, dropWhile_of_stops hr]

theorem takeWhile_append_of_stops (hr : Stops p rest) :
    (run ++ rest).takeWhile p = run.takeWhile p := by
  induction run with
  | nil => exact @takeWhile_run p [] rest (by simp) hr
  | cons c run ih => rw [List.cons_append, List.takeWhile_cons, List.takeWhile_cons, ih]

theorem dropWhile_append_of_stops (hr : Stops p rest) :
    (run ++ rest).dropWhile p = run.dropWhile p ++ rest := by
  induction run with
  | nil => exact dropWhile_of_stops hr
  | cons c run ih =>
    rw [List.cons_append, List.dropWhile_cons, List.dropWhile_cons, ih]
    split <;> rfl

end

/-! ## Marks -/

/-- A search for a piece at the front, given in one form of its characters, finds the words of that
form. -/
theorem eq_some_iff_of_form {f : Char → Char} {behind : List Char → List Char → Option (List Char)}
    (hnil : ∀ cs, behind [] cs = some cs) (hempty : ∀ p ps, behind (p :: ps) [] = none)
    (hcons : ∀ p ps c cs, behind (p :: ps) (c :: cs) = if p = f c then behind ps cs else none)
    {piece cs rest : List Char} :
    behind piece cs = some rest ↔ ∃ word, word.map f = piece ∧ cs = word ++ rest := by
  induction piece generalizing cs with
  | nil => simp [hnil, eq_comm]
  | cons p piece ih =>
    cases cs with
    | nil => simp [hempty]
    | cons c cs =>
      rw [hcons]
      by_cases h : p = f c
      · rw [if_pos h, ih, h]
        constructor
        · rintro ⟨word, rfl, rfl⟩
          exact ⟨c :: word, rfl, rfl⟩
        · rintro ⟨word, hword, hcs⟩
          obtain ⟨d, word, rfl⟩ := List.exists_cons_of_ne_nil
            (l := word) (by rintro rfl; cases hword)
          obtain ⟨-, rfl⟩ := List.cons.inj hcs
          exact ⟨word, (List.cons.inj hword).2, rfl⟩
      · rw [if_neg h]
        simp only [reduceCtorEq, false_iff, not_exists, not_and]
        intro word hword hcs
        cases word with
        | nil => cases hword
        | cons d word =>
          rw [(List.cons.inj hcs).1] at h
          exact h (List.cons.inj hword).1.symm

/-- What is found in front does not depend on what stands behind, if that cannot go on with it. -/
theorem append_of_form {f : Char → Char} {behind : List Char → List Char → Option (List Char)}
    (hnil : ∀ cs, behind [] cs = some cs) (hempty : ∀ p ps, behind (p :: ps) [] = none)
    (hcons : ∀ p ps c cs, behind (p :: ps) (c :: cs) = if p = f c then behind ps cs else none)
    {piece rest : List Char} (h : ∀ c ∈ rest.head?, f c ∉ piece) (cs : List Char) :
    behind piece (cs ++ rest) = (behind piece cs).map (· ++ rest) := by
  induction piece generalizing cs with
  | nil => rw [hnil, hnil]; rfl
  | cons p piece ih =>
    cases cs with
    | nil =>
      rw [hempty]
      cases rest with
      | nil => exact hempty p piece
      | cons c rest =>
        have hne : ¬ p = f c := fun e => h c rfl (by rw [e]; exact List.mem_cons_self ..)
        exact (hcons ..).trans (if_neg hne)
    | cons c cs =>
      rw [List.cons_append, hcons, hcons]
      split
      · exact ih (fun d hd hmem => h d hd (List.mem_cons_of_mem p hmem)) cs
      · rfl

theorem after?_append {piece rest : List Char} (h : ∀ c ∈ rest.head?, c ∉ piece) (cs : List Char) :
    after? piece (cs ++ rest) = (after? piece cs).map (· ++ rest) :=
  append_of_form (f := id) (fun _ => rfl) (fun _ _ => rfl) (fun _ _ _ _ => rfl) h cs

theorem after?_eq_some_iff {piece cs rest : List Char} :
    after? piece cs = some rest ↔ cs = piece ++ rest := by
  rw [eq_some_iff_of_form (f := id) (fun _ => rfl) (fun _ _ => rfl) (fun _ _ _ _ => rfl)]
  simp

theorem afterLetters?_eq_some_iff {piece cs rest : List Char} :
    afterLetters? piece cs = some rest ↔ ∃ word, lowerChars word = piece ∧ cs = word ++ rest :=
  eq_some_iff_of_form (fun _ => rfl) (fun _ _ => rfl) fun _ _ _ _ => rfl

theorem cutOnce?_front {mark : Char} {front : List Char} (h : mark ∉ front) (rest : List Char) :
    cutOnce? mark (front ++ mark :: rest) = some (front, rest) := by
  induction front with
  | nil => rw [List.nil_append, cutOnce?, if_pos rfl]
  | cons c front ih =>
    rw [List.mem_cons, not_or] at h
    have hne : c ≠ mark := fun e => h.1 e.symm
    rw [List.cons_append, cutOnce?, if_neg hne, ih h.2]
    rfl

theorem cutOnce?_eq_none {mark : Char} {cs : List Char} (h : mark ∉ cs) :
    cutOnce? mark cs = none := by
  induction cs with
  | nil => rfl
  | cons c cs ih =>
    rw [List.mem_cons, not_or] at h
    have hne : c ≠ mark := fun e => h.1 e.symm
    rw [cutOnce?, if_neg hne, ih h.2]
    rfl

theorem cutOnce?_eq_some_iff {mark : Char} {cs front back : List Char} :
    cutOnce? mark cs = some (front, back) ↔ mark ∉ front ∧ cs = front ++ mark :: back := by
  constructor
  · intro h
    have hmem : mark ∈ cs := by
      by_contra hout
      rw [cutOnce?_eq_none hout] at h
      cases h
    obtain ⟨first, rest, rfl, hfirst⟩ := List.eq_append_cons_of_mem hmem
    rw [cutOnce?_front hfirst] at h
    cases h
    exact ⟨hfirst, rfl⟩
  · rintro ⟨hfront, rfl⟩
    exact cutOnce?_front hfront back

theorem exists_cutAt (mark : Char) (cs : List Char) :
    ∃ piece pieces, cutAt mark cs = piece :: pieces := by
  cases cs with
  | nil => exact ⟨_, _, rfl⟩
  | cons c cs =>
    rw [cutAt]
    split
    · exact ⟨_, _, rfl⟩
    · split
      · exact ⟨_, _, rfl⟩
      · exact ⟨_, _, rfl⟩

theorem cutAt_eq_splitOn (mark : Char) (cs : List Char) : cutAt mark cs = cs.splitOn mark := by
  rw [List.splitOn]
  induction cs with
  | nil => rfl
  | cons c cs ih =>
    rw [List.splitOnP_cons_eq_if_modifyHead, ← ih, cutAt]
    obtain ⟨piece, pieces, h⟩ := exists_cutAt mark cs
    rw [h]
    simp

theorem cutAt_cons {mark c : Char} (hne : c ≠ mark) {cs piece : List Char}
    {pieces : List (List Char)} (h : cutAt mark cs = piece :: pieces) :
    cutAt mark (c :: cs) = (c :: piece) :: pieces := by
  rw [cutAt, if_neg hne, h]

theorem cutAt_append (mark : Char) (front back : List Char) :
    cutAt mark (front ++ mark :: back) = cutAt mark front ++ cutAt mark back := by
  induction front with
  | nil => simp [cutAt]
  | cons c front ih =>
    by_cases h : c = mark
    · rw [List.cons_append, cutAt, if_pos h, ih, cutAt, if_pos h, List.cons_append]
    · obtain ⟨piece, pieces, hfront⟩ := exists_cutAt mark front
      rw [hfront, List.cons_append] at ih
      rw [List.cons_append, cutAt_cons h ih, cutAt_cons h hfront, List.cons_append]

theorem cutAt_of_not_mem {mark : Char} {cs : List Char} (h : mark ∉ cs) : cutAt mark cs = [cs] := by
  induction cs with
  | nil => rfl
  | cons c cs ih =>
    rw [List.mem_cons, not_or] at h
    exact cutAt_cons (fun e => h.1 e.symm) (ih h.2)

theorem cutAt_front {mark : Char} {front : List Char} (h : mark ∉ front) (rest : List Char) :
    cutAt mark (front ++ mark :: rest) = front :: cutAt mark rest := by
  rw [cutAt_append, cutAt_of_not_mem h, List.singleton_append]

theorem cutAt_intercalate (mark : Char) {texts : List (List Char)} (hne : texts ≠ []) :
    cutAt mark ([mark].intercalate texts) = texts.flatMap (cutAt mark) := by
  induction texts with
  | nil => exact absurd rfl hne
  | cons text texts ih =>
    cases texts with
    | nil => rw [List.intercalate_singleton, List.flatMap_singleton]
    | cons next texts =>
      rw [List.intercalate_cons_cons, List.append_assoc, List.singleton_append, cutAt_append,
        ih (List.cons_ne_nil _ _)]
      exact List.flatMap_cons.symm

/-! ## Trimming -/

theorem stops_dropWhile (p : Char → Bool) (cs : List Char) : Stops p (cs.dropWhile p) := by
  induction cs with
  | nil => exact stops_nil p
  | cons c cs ih =>
    by_cases h : p c = true
    · rw [List.dropWhile_cons, if_pos h]
      exact ih
    · rw [List.dropWhile_cons, if_neg h, stops_cons]
      exact Bool.eq_false_iff.mpr h

theorem stops_trimChars (cs : List Char) : Stops isBlank (trimChars cs) := by
  have hprefix : trimChars cs <+: trimLeft cs := by
    rw [trimChars, trimRight, ← List.reverse_suffix, List.reverse_reverse]
    exact List.dropWhile_suffix _
  obtain ⟨back, hback⟩ := hprefix
  intro c hc
  refine stops_dropWhile isBlank cs c ?_
  rw [← trimLeft, ← hback, List.head?_append, Option.mem_def.mp hc]
  rfl

theorem stops_reverse_trimRight (cs : List Char) : Stops isBlank (trimRight cs).reverse := by
  rw [trimRight, List.reverse_reverse]
  exact stops_dropWhile isBlank _

theorem trimChars_trimChars (cs : List Char) : trimChars (trimChars cs) = trimChars cs :=
  trimChars_of_stops (stops_trimChars cs) (stops_reverse_trimRight (trimLeft cs))

theorem trimChars_between {front core back : List Char} (hf : ∀ c ∈ front, isBlank c = true)
    (hb : ∀ c ∈ back, isBlank c = true) (hc : ∀ c ∈ core, isBlank c = false) (hne : core ≠ []) :
    trimChars (front ++ (core ++ back)) = core := by
  have hstart : Stops isBlank (core ++ back) := by
    intro c h
    rw [List.head?_append_of_ne_nil core hne] at h
    exact hc c (List.mem_of_head? h)
  have hend : Stops isBlank core.reverse := by
    intro c h
    exact hc c (List.mem_reverse.mp (List.mem_of_head? h))
  have hback : ∀ c ∈ back.reverse, isBlank c = true := fun c h => hb c (List.mem_reverse.mp h)
  rw [trimChars, trimLeft, dropWhile_run hf hstart, trimRight, List.reverse_append,
    dropWhile_run hback hend, List.reverse_reverse]

theorem mem_trimChars {c : Char} {cs : List Char} (h : c ∈ cs) (hc : isBlank c = false) :
    c ∈ trimChars cs := by
  have hkept : ∀ cs : List Char, c ∈ cs → c ∈ cs.dropWhile isBlank := by
    intro cs h
    rw [← List.takeWhile_append_dropWhile (p := isBlank) (l := cs), List.mem_append] at h
    refine h.resolve_left fun hfront => ?_
    rw [List.all_eq_true.mp List.all_takeWhile c hfront] at hc
    cases hc
  rw [trimChars, trimRight, List.mem_reverse]
  exact hkept _ (List.mem_reverse.mpr (hkept cs h))

/-! ## Trimmed pieces -/

theorem trimChars_blank_cons {c : Char} (hc : isBlank c = true) (cs : List Char) :
    trimChars (c :: cs) = trimChars cs := by
  rw [trimChars, trimLeft, List.dropWhile_cons, if_pos hc]
  rfl

theorem trimChars_append_blank {c : Char} (hc : isBlank c = true) (cs : List Char) :
    trimChars (cs ++ [c]) = trimChars cs := by
  have hright : ∀ front, trimRight (front ++ [c]) = trimRight front := by
    intro front
    rw [trimRight, List.reverse_append, List.reverse_singleton, List.singleton_append,
      List.dropWhile_cons, if_pos hc]
    rfl
  rw [trimChars, trimLeft, List.dropWhile_append]
  split
  · next h =>
    rw [List.isEmpty_iff] at h
    rw [List.dropWhile_cons, if_pos hc, trimChars, trimLeft, h]
    rfl
  · exact hright _

theorem trimChars_blanks_append {front : List Char} (h : ∀ c ∈ front, isBlank c = true)
    (cs : List Char) : trimChars (front ++ cs) = trimChars cs := by
  induction front with
  | nil => rfl
  | cons c front ih =>
    rw [List.forall_mem_cons] at h
    rw [List.cons_append, trimChars_blank_cons h.1, ih h.2]

theorem trimChars_append_blanks {back : List Char} (h : ∀ c ∈ back, isBlank c = true)
    (cs : List Char) : trimChars (cs ++ back) = trimChars cs := by
  induction back generalizing cs with
  | nil => rw [List.append_nil]
  | cons c back ih =>
    rw [List.forall_mem_cons] at h
    rw [List.append_cons, ih h.2, trimChars_append_blank h.1]

theorem trimRight_append (cs : List Char) :
    ∃ back, cs = trimRight cs ++ back ∧ ∀ c ∈ back, isBlank c = true := by
  refine ⟨(cs.reverse.takeWhile isBlank).reverse, ?_, fun c hc => ?_⟩
  · rw [trimRight, ← List.reverse_append, List.takeWhile_append_dropWhile, List.reverse_reverse]
  · exact List.all_eq_true.mp List.all_takeWhile c (List.mem_reverse.mp hc)

theorem trimChars_trimRight (cs : List Char) : trimChars (trimRight cs) = trimChars cs := by
  obtain ⟨back, hcs, hback⟩ := trimRight_append cs
  have h := trimChars_append_blanks hback (trimRight cs)
  rw [← hcs] at h
  exact h.symm

theorem exists_cutAt_append {mark c : Char} (hne : c ≠ mark) (cs : List Char) :
    ∃ pieces last, cutAt mark cs = pieces ++ [last]
      ∧ cutAt mark (cs ++ [c]) = pieces ++ [last ++ [c]] := by
  induction cs with
  | nil => exact ⟨[], [], rfl, by rw [List.nil_append, cutAt, if_neg hne]; rfl⟩
  | cons d cs ih =>
    obtain ⟨pieces, last, hbefore, hafter⟩ := ih
    by_cases hd : d = mark
    · refine ⟨[] :: pieces, last, ?_, ?_⟩
      · rw [cutAt, if_pos hd, hbefore, List.cons_append]
      · rw [List.cons_append, cutAt, if_pos hd, hafter, List.cons_append]
    · cases pieces with
      | nil =>
        exact ⟨[], d :: last, cutAt_cons hd hbefore, cutAt_cons hd hafter⟩
      | cons piece pieces =>
        exact ⟨(d :: piece) :: pieces, last, cutAt_cons hd hbefore, cutAt_cons hd hafter⟩

theorem map_trimChars_cutAt {mark : Char} (hmark : isBlank mark = false) (cs : List Char) :
    (cutAt mark (trimChars cs)).map trimChars = (cutAt mark cs).map trimChars := by
  have hne : ∀ c, isBlank c = true → c ≠ mark := by
    rintro c hc rfl
    rw [hmark] at hc
    cases hc
  have hleft : ∀ cs, (cutAt mark (trimLeft cs)).map trimChars = (cutAt mark cs).map trimChars := by
    intro cs
    induction cs with
    | nil => rfl
    | cons c cs ih =>
      rw [trimLeft, List.dropWhile_cons]
      split
      · next hc =>
        obtain ⟨piece, pieces, hcs⟩ := exists_cutAt mark cs
        rw [← trimLeft, ih, hcs, cutAt_cons (hne c hc) hcs, List.map_cons, List.map_cons,
          trimChars_blank_cons hc]
      · rfl
  have hright : ∀ cs, (cutAt mark (trimRight cs)).map trimChars
      = (cutAt mark cs).map trimChars := by
    intro cs
    generalize hr : cs.reverse = rev
    induction rev generalizing cs with
    | nil => rw [List.reverse_eq_nil_iff.mp hr]; rfl
    | cons c rev ih =>
      have hcs : cs = rev.reverse ++ [c] := by
        rw [← List.reverse_cons, ← hr, List.reverse_reverse]
      rw [trimRight, hr, List.dropWhile_cons]
      split
      · next hc =>
        have hmore := ih rev.reverse (List.reverse_reverse rev)
        rw [trimRight, List.reverse_reverse] at hmore
        obtain ⟨pieces, last, hbefore, hafter⟩ := exists_cutAt_append (hne c hc) rev.reverse
        rw [hmore, hcs, hbefore, hafter, List.map_append, List.map_append, List.map_singleton,
          List.map_singleton, trimChars_append_blank hc]
      · rw [List.reverse_cons, ← hcs]
  rw [trimChars, hright, hleft]

end Lettermill.Text
