import Lettermill.Proofs.Html.Spelling
/-! What the scan finds in a source, and what it leaves as it is. Whatever it takes stands in the source
as it was taken, with the rest behind it. A source stays as it is just when every component tag in it
that closes itself is covered by a comment, a script or a style. -/
namespace Lettermill.Html
set_option autoImplicit false
open Text

/-! ## The parts that the scan finds -/

theorem foldChar_eq_bracket {c : Char} (h : foldChar c = '<') : c = '<' := by
  rw [foldChar] at h
  split at h
  · cases h
  · split at h
    · cases h
    · have hsame := lowerChar_spec (fun c => decide (c = '<')) (by decide +kernel) c
      simpa [h] using hsame

theorem through_of_none {close? : List Char → Option (List Char × List Char)} {front rest : List Char}
    (h : ∀ s, s ≠ [] → s <:+ front → close? (s ++ rest) = none) :
    through close? (front ++ rest)
      = (front ++ (through close? rest).1, (through close? rest).2) := by
  induction front with
  | nil => rfl
  | cons c front ih =>
    have hnone := h (c :: front) (List.cons_ne_nil c front) (List.suffix_refl _)
    rw [List.cons_append] at hnone
    rw [List.cons_append, through, hnone,
      ih fun s hs hsuffix => h s hs (hsuffix.trans (List.suffix_cons c front))]
    rfl

section
variable {close? : List Char → Option (List Char × List Char)}

theorem through_append_eq (h : ∀ {cs front rest}, close? cs = some (front, rest) → cs = front ++ rest)
    (cs : List Char) : cs = (through close? cs).1 ++ (through close? cs).2 := by
  induction cs with
  | nil => rfl
  | cons c cs ih =>
    rw [through]
    split
    · next found hfound => exact h hfound
    · exact congrArg (c :: ·) ih

theorem commentEnd?_eq (cs : List Char) :
    commentEnd? cs = (after? commentEnd cs).map fun rest => (commentEnd, rest) := by
  cases h : after? commentEnd cs with
  | some rest =>
    obtain rfl := after?_eq_some_iff.mp h
    rfl
  | none =>
    rw [commentEnd?.eq_def]
    split
    · cases h
    · rfl

theorem commentEnd?_eq_some {cs front rest : List Char} (h : commentEnd? cs = some (front, rest)) :
    cs = front ++ rest := by
  rw [commentEnd?_eq] at h
  obtain ⟨rest, hafter, hsame⟩ := Option.map_eq_some_iff.mp h
  obtain ⟨rfl, rfl⟩ := Prod.mk.inj hsame
  exact after?_eq_some_iff.mp hafter

theorem take_of_afterFolded? {piece cs rest : List Char} (h : afterFolded? piece cs = some rest) :
    cs = cs.take piece.length ++ rest := by
  obtain ⟨word, hword, rfl⟩ := afterFolded?_eq_some_iff.mp h
  rw [← hword, List.length_map, List.take_left]

theorem rawEnd?_eq_some {raw cs front rest : List Char} (h : rawEnd? raw cs = some (front, rest)) :
    cs = front ++ rest := by
  rw [rawEnd?] at h
  split at h
  · cases h
  · next behind hbehind =>
    split at h
    · next after hafter =>
      obtain ⟨rfl, rfl⟩ := Prod.mk.inj (Option.some.inj h)
      have hcs := take_of_afterFolded? hbehind
      rw [List.append_assoc, List.append_assoc, List.singleton_append, ← hafter,
        List.takeWhile_append_dropWhile]
      exact hcs
    · cases h

end

theorem commentSpan?_eq_some {cs span rest : List Char} (h : commentSpan? cs = some (span, rest)) :
    ∃ inner, span = '<' :: inner ∧ cs = span ++ rest := by
  rw [commentSpan?] at h
  split at h
  · cases h
  · next behind hbehind =>
    obtain ⟨rfl, rfl⟩ := Prod.mk.inj (Option.some.inj h)
    refine ⟨_, rfl, ?_⟩
    rw [List.append_assoc, ← through_append_eq commentEnd?_eq_some]
    exact after?_eq_some_iff.mp hbehind

/-- A raw element that opens at the front: the first closing bracket ends its start tag, and all up to
its end tag is taken. -/
theorem rawSpan?_front {raw word : List Char} (hword : word.map foldChar = '<' :: raw)
    (behind : List Char) :
    rawSpan? raw (word ++ behind)
      = if wordEnds behind then
          (cutOnce? '>' behind).map fun cut =>
            (word ++ (cut.1 ++ '>' :: (through (rawEnd? raw) cut.2).1),
              (through (rawEnd? raw) cut.2).2)
        else none := by
  have hlength : word.length = raw.length + 1 := by simpa using congrArg List.length hword
  have hopen : afterFolded? ('<' :: raw) (word ++ behind) = some behind :=
    afterFolded?_eq_some_iff.mpr ⟨word, hword, rfl⟩
  rw [rawSpan?, hopen, ← hlength, List.take_left]
  dsimp only
  cases cutOnce? '>' behind <;> simp

theorem rawSpan?_eq_some {raw cs span rest : List Char} (h : rawSpan? raw cs = some (span, rest)) :
    ∃ inner, span = '<' :: inner ∧ cs = span ++ rest := by
  cases hopen : afterFolded? ('<' :: raw) cs with
  | none =>
    rw [rawSpan?, hopen] at h
    cases h
  | some behind =>
    obtain ⟨word, hword, rfl⟩ := afterFolded?_eq_some_iff.mp hopen
    rw [rawSpan?_front hword] at h
    split at h
    · obtain ⟨⟨inTag, body⟩, hcut, hfound⟩ := Option.map_eq_some_iff.mp h
      obtain ⟨rfl, rfl⟩ := Prod.mk.inj hfound
      obtain ⟨-, rfl⟩ := cutOnce?_eq_some_iff.mp hcut
      obtain ⟨c, word, rfl⟩ := List.exists_cons_of_ne_nil (l := word) (by rintro rfl; cases hword)
      obtain rfl : c = '<' := foldChar_eq_bracket (List.cons.inj hword).1
      refine ⟨_, rfl, ?_⟩
      rw [List.append_assoc, List.append_assoc, List.cons_append (a := '>'),
        ← through_append_eq rawEnd?_eq_some]
    · cases h

theorem opaqueSpan?_eq_some {cs span rest : List Char} (h : opaqueSpan? cs = some (span, rest)) :
    ∃ inner, span = '<' :: inner ∧ cs = span ++ rest := by
  rw [opaqueSpan?, Option.or_eq_some_iff, Option.or_eq_some_iff] at h
  rcases h with h | ⟨-, h | ⟨-, h⟩⟩
  · exact commentSpan?_eq_some h
  · exact rawSpan?_eq_some h
  · exact rawSpan?_eq_some h

theorem opaqueSpan?_of_other {c : Char} (hc : c ≠ '<') (cs : List Char) :
    opaqueSpan? (c :: cs) = none := by
  rw [Option.eq_none_iff_forall_ne_some]
  rintro ⟨span, rest⟩ hfound
  obtain ⟨inner, rfl, hwhole⟩ := opaqueSpan?_eq_some hfound
  exact hc (List.cons.inj hwhole).1

/-! ## Component tags -/

/-- A piece of a tag stands in front of what is left, and what it could do without is a slash. -/
structure TagPiece.Reads (piece : TagPiece) (cs : List Char) : Prop where
  text : cs = piece.text ++ piece.rest
  spare : piece.spare = true → piece.text.getLast? = some '/'

theorem TagPiece.Reads.behind {piece : TagPiece} {cs front rest : List Char} (h : piece.Reads rest)
    (hcs : cs = front ++ rest) : TagPiece.Reads { piece with text := front ++ piece.text } cs where
  text := by rw [hcs, h.text, List.append_assoc]
  spare hspare := by
    have hlast := h.spare hspare
    rw [List.getLast?_append, hlast]
    rfl

theorem tagValue?_reads {cs : List Char} {piece : TagPiece} (h : tagValue? cs = some piece) :
    piece.Reads cs := by
  rw [tagValue?.eq_def] at h
  split at h
  · next more =>
    obtain ⟨⟨inner, rest⟩, hcut, rfl⟩ := Option.map_eq_some_iff.mp h
    obtain ⟨-, rfl⟩ := cutOnce?_eq_some_iff.mp hcut
    exact ⟨by simp, by simp⟩
  · next more =>
    obtain ⟨⟨inner, rest⟩, hcut, rfl⟩ := Option.map_eq_some_iff.mp h
    obtain ⟨-, rfl⟩ := cutOnce?_eq_some_iff.mp hcut
    exact ⟨by simp, by simp⟩
  · split at h
    · cases h
    · next bare hbare =>
      obtain rfl := Option.some.inj h
      refine ⟨List.takeWhile_append_dropWhile.symm, fun hspare => ?_⟩
      simp only [Bool.and_eq_true, beq_iff_eq] at hspare
      exact hspare.2

theorem tagAssignment?_reads {cs : List Char} {piece : TagPiece} (h : tagAssignment? cs = some piece) :
    piece.Reads cs := by
  rw [tagAssignment?] at h
  split at h
  · next more hmore =>
    obtain ⟨value, hvalue, rfl⟩ := Option.map_eq_some_iff.mp h
    refine (tagValue?_reads hvalue).behind ?_
    rw [List.append_assoc, List.cons_append, List.takeWhile_append_dropWhile, ← hmore,
      List.takeWhile_append_dropWhile]
  · cases h

theorem tagAttribute?_reads {cs : List Char} {piece : TagPiece} (h : tagAttribute? cs = some piece) :
    piece.Reads cs := by
  have hcs : cs = cs.takeWhile isBlank ++ (cs.dropWhile isBlank).takeWhile isNameChar
      ++ (cs.dropWhile isBlank).dropWhile isNameChar := by
    rw [List.append_assoc, List.takeWhile_append_dropWhile, List.takeWhile_append_dropWhile]
  rw [tagAttribute?] at h
  split at h
  · cases h
  · dsimp only at h
    split at h
    · next value hvalue =>
      obtain rfl := Option.some.inj h
      exact (tagAssignment?_reads hvalue).behind hcs
    · obtain rfl := Option.some.inj h
      exact ⟨hcs, fun hspare => by cases hspare⟩

theorem tagAttributes_reads (fuel : Nat) (cs : List Char) : (tagAttributes fuel cs).Reads cs := by
  induction fuel generalizing cs with
  | zero => exact ⟨rfl, fun hspare => by cases hspare⟩
  | succ fuel ih =>
    rw [tagAttributes]
    split
    · exact ⟨rfl, fun hspare => by cases hspare⟩
    · next first hfirst =>
      have hreads := tagAttribute?_reads hfirst
      dsimp only
      split
      · exact hreads
      · exact (ih first.rest).behind hreads.text

theorem slashEnd?_eq_some {cs rest : List Char} (h : slashEnd? cs = some rest) :
    ∃ gap, (∀ c ∈ gap, isBlank c = true) ∧ cs = gap ++ '/' :: '>' :: rest := by
  rw [slashEnd?] at h
  split at h
  · next after hafter =>
    obtain rfl := Option.some.inj h
    refine ⟨cs.takeWhile isBlank, List.all_eq_true.mp List.all_takeWhile, ?_⟩
    rw [← hafter, List.takeWhile_append_dropWhile]
  · cases h

theorem selfClosing?_eq_some {cs name attrs rest : List Char}
    (h : selfClosing? cs = some (name, attrs, rest)) :
    ∃ gap, (∀ c ∈ gap, isBlank c = true)
      ∧ cs = '<' :: (name ++ (attrs ++ (gap ++ '/' :: '>' :: rest))) := by
  rw [selfClosing?.eq_def] at h
  split at h
  · next inner =>
    split at h
    · cases h
    · next found behind hname =>
      obtain ⟨-, rfl⟩ := componentName?_eq_some hname
      obtain ⟨htext, hspare⟩ := tagAttributes_reads behind.length behind
      dsimp only at h
      split at h
      · next after hend =>
        obtain ⟨gap, hgap, hrest⟩ := slashEnd?_eq_some hend
        simp only [Option.some.injEq, Prod.mk.injEq] at h
        obtain ⟨rfl, rfl, rfl⟩ := h
        exact ⟨gap, hgap, by rw [← hrest, ← htext]⟩
      · next after _ hcan hrest =>
        obtain ⟨front, hfront⟩ := List.getLast?_eq_some_iff.mp (hspare hcan)
        simp only [Option.some.injEq, Prod.mk.injEq] at h
        obtain ⟨rfl, rfl, rfl⟩ := h
        have hbehind : behind = front ++ '/' :: '>' :: after := by
          rw [hfront, hrest, List.append_assoc] at htext
          exact htext
        refine ⟨[], by simp, ?_⟩
        rw [hfront, List.dropLast_concat, List.nil_append, ← hbehind]
      · cases h
  · cases h

theorem selfClosing?_of_other {c : Char} (hc : c ≠ '<') (cs : List Char) :
    selfClosing? (c :: cs) = none := by
  rw [Option.eq_none_iff_forall_ne_some]
  rintro ⟨name, attrs, rest⟩ hfound
  obtain ⟨gap, -, hwhole⟩ := selfClosing?_eq_some hfound
  exact hc (List.cons.inj hwhole).1

theorem expandStep_suffix {c : Char} {cs out rest : List Char}
    (h : expandStep (c :: cs) = some (out, rest)) : rest <:+ cs := by
  rw [expandStep] at h
  split at h
  · next found hspan =>
    rw [h] at hspan
    obtain ⟨inner, rfl, hwhole⟩ := opaqueSpan?_eq_some hspan
    exact ⟨inner, (List.cons.inj hwhole).2.symm⟩
  · split at h
    · next name attrs after htag =>
      obtain ⟨gap, -, hwhole⟩ := selfClosing?_eq_some htag
      cases h
      exact ⟨name ++ (attrs ++ (gap ++ ['/', '>'])), by simp [(List.cons.inj hwhole).2]⟩
    · cases h

/-! ## What a source keeps -/

/-- `back` is the source from a place on that no comment, script or style in it covers. -/
inductive Uncovered : List Char → List Char → Prop where
  | here {c : Char} {cs : List Char} : opaqueSpan? (c :: cs) = none → Uncovered (c :: cs) (c :: cs)
  | past {c : Char} {cs back : List Char} : opaqueSpan? (c :: cs) = none → Uncovered cs back →
      Uncovered (c :: cs) back
  | across {cs span rest back : List Char} : opaqueSpan? cs = some (span, rest) →
      Uncovered rest back → Uncovered cs back

/-- Does a component tag that closes itself stand in the source, uncovered? -/
def HoldsComponent (cs : List Char) : Prop := ∃ back, Uncovered cs back ∧ (selfClosing? back).isSome

theorem holdsComponent_nil : ¬ HoldsComponent [] := by
  rintro ⟨back, huncovered, -⟩
  cases huncovered with
  | across hspan => cases hspan

theorem holdsComponent_over {cs span rest : List Char} (h : opaqueSpan? cs = some (span, rest)) :
    HoldsComponent cs ↔ HoldsComponent rest := by
  constructor
  · rintro ⟨back, huncovered, htag⟩
    cases huncovered with
    | here hnone => rw [h] at hnone; cases hnone
    | past hnone => rw [h] at hnone; cases hnone
    | across hspan huncovered =>
      rw [h] at hspan
      cases hspan
      exact ⟨back, huncovered, htag⟩
  · rintro ⟨back, huncovered, htag⟩
    exact ⟨back, .across h huncovered, htag⟩

theorem holdsComponent_cons {c : Char} {cs : List Char} (h : opaqueSpan? (c :: cs) = none) :
    HoldsComponent (c :: cs) ↔ (selfClosing? (c :: cs)).isSome ∨ HoldsComponent cs := by
  constructor
  · rintro ⟨back, huncovered, htag⟩
    cases huncovered with
    | here => exact .inl htag
    | past _ huncovered => exact .inr ⟨back, huncovered, htag⟩
    | across hspan => rw [h] at hspan; cases hspan
  · rintro (htag | ⟨back, huncovered, htag⟩)
    · exact ⟨_, .here h, htag⟩
    · exact ⟨back, .past h huncovered, htag⟩

theorem writtenOut_ne {cs name attrs rest : List Char} (h : selfClosing? cs = some (name, attrs, rest))
    (back : List Char) : writtenOut name attrs ++ back ≠ cs := by
  obtain ⟨gap, hgap, rfl⟩ := selfClosing?_eq_some h
  intro hsame
  have hbehind : '>' :: ('<' :: '/' :: (name ++ '>' :: back)) = gap ++ '/' :: '>' :: rest := by
    simpa [writtenOut] using hsame
  cases gap with
  | nil => cases hbehind
  | cons c gap =>
    have hc := hgap c (List.mem_cons_self ..)
    rw [← (List.cons.inj hbehind).1] at hc
    cases hc

/-- **A source stays as it is** just when no component tag in it that closes itself is uncovered. -/
theorem expandWith_eq_self_iff {fuel : Nat} {cs : List Char} (hfuel : cs.length ≤ fuel) :
    expandWith fuel cs = cs ↔ ¬ HoldsComponent cs := by
  induction fuel generalizing cs with
  | zero =>
    obtain rfl := List.length_eq_zero_iff.mp (Nat.le_zero.mp hfuel)
    exact iff_of_true rfl holdsComponent_nil
  | succ fuel ih =>
    cases cs with
    | nil => exact iff_of_true rfl holdsComponent_nil
    | cons c cs =>
      have hcs : cs.length ≤ fuel := Nat.le_of_succ_le_succ hfuel
      rw [expandWith]
      by_cases hc : c = '<'
      · rw [if_pos hc]
        cases hopaque : opaqueSpan? (c :: cs) with
        | some found =>
          obtain ⟨span, rest⟩ := found
          have hstep : expandStep (c :: cs) = some (span, rest) := by rw [expandStep, hopaque]
          have hrest : rest.length ≤ fuel := Nat.le_trans (expandStep_suffix hstep).length_le hcs
          obtain ⟨inner, -, hwhole⟩ := opaqueSpan?_eq_some hopaque
          rw [hstep, holdsComponent_over hopaque, ← ih hrest]
          simp only
          rw [hwhole, List.append_cancel_left_eq]
        | none =>
          rw [expandStep, hopaque, holdsComponent_cons hopaque]
          cases hclosing : selfClosing? (c :: cs) with
          | some found =>
            obtain ⟨name, attrs, rest⟩ := found
            exact iff_of_false (writtenOut_ne hclosing _) (by simp)
          | none =>
            simp only [Option.isSome_none, Bool.false_eq_true, false_or, ← ih hcs]
            rw [List.cons.injEq, and_iff_right rfl]
      · rw [if_neg hc, holdsComponent_cons (opaqueSpan?_of_other hc cs), selfClosing?_of_other hc,
          List.cons.injEq, and_iff_right rfl, ih hcs]
        simp

end Lettermill.Html
