import Lettermill.Proofs.Html.Uncovered
/-! What the scan makes of a value at the end of a tag. No quote stands in the value, so whatever begins
in it ends in it, unless it is a comment or a raw element that nothing closes. The value is expanded
like a source of its own. -/
namespace Lettermill.Html
set_option autoImplicit false
open Text

/-! ## A value at the end of a tag -/

/-- The closing quote of a value, and the bracket of its tag. -/
def closing : List Char := ['"', '>']

theorem forall_head_closing {p : Char → Prop} (h : p '"') : ∀ c ∈ closing.head?, p c :=
  fun _ hc => Option.some.inj hc ▸ h

theorem endsWord_closing : EndsWord closing := forall_head_closing (by decide +kernel)

/-- What a search finds in front of `cs`, and in front of `cs` with the end of its tag behind it: the
same; all up to the end, where nothing closes it; nothing; or all, although `cs` has no bracket that
could close a tag. -/
inductive Ends (cs : List Char) :
    Option (List Char × List Char) → Option (List Char × List Char) → Prop where
  | within {span rest : List Char} : Ends cs (some (span, rest)) (some (span, rest ++ closing))
  | beyond : Ends cs (some (cs, [])) (some (cs ++ closing, []))
  | nowhere : Ends cs none none
  | swallowed {found : Option (List Char × List Char)} : '>' ∉ cs →
      Ends cs found (some (cs ++ closing, []))

theorem Ends.or {cs : List Char} {a a' b b' : Option (List Char × List Char)} (h : Ends cs a a')
    (k : Ends cs b b') : Ends cs (a.or b) (a'.or b') := by
  cases h with
  | within => exact .within
  | beyond => exact .beyond
  | nowhere => exact k
  | swallowed hbracket => exact .swallowed hbracket

section
variable {close? : List Char → Option (List Char × List Char)}
  (hclose : ∀ cs, '"' ∉ cs →
    close? (cs ++ closing) = (close? cs).map fun (front, rest) => (front, rest ++ closing))
  (hnone : ∀ cs, cs <:+ closing → close? cs = none)
include hclose hnone

theorem through_closing {cs : List Char} (hcs : '"' ∉ cs) :
    through close? (cs ++ closing) = ((through close? cs).1, (through close? cs).2 ++ closing)
      ∨ through close? cs = (cs, []) ∧ through close? (cs ++ closing) = (cs ++ closing, []) := by
  induction cs with
  | nil =>
    refine .inr ⟨rfl, ?_⟩
    have hthrough : through close? (closing ++ []) = (closing ++ [], []) :=
      through_of_none fun s _ hsuffix => by rw [List.append_nil]; exact hnone s hsuffix
    rwa [List.append_nil] at hthrough
  | cons c cs ih =>
    have hstep := hclose (c :: cs) hcs
    rw [List.cons_append] at hstep
    rw [List.cons_append, through, through, hstep]
    cases close? (c :: cs) with
    | some found => exact .inl rfl
    | none =>
      rcases ih fun h => hcs (List.mem_cons_of_mem c h) with hboth | ⟨hvalue, hbehind⟩
      · exact .inl (by simp [hboth])
      · exact .inr (by simp [hvalue, hbehind])

end

theorem commentEnd?_closing (cs : List Char) :
    commentEnd? (cs ++ closing) = (commentEnd? cs).map fun (front, rest) => (front, rest ++ closing) := by
  have hstop : ∀ c ∈ closing.head?, c ∉ commentEnd := forall_head_closing (by decide)
  rw [commentEnd?_eq, commentEnd?_eq, after?_append hstop]
  cases after? commentEnd cs <;> rfl

theorem commentEnd?_of_suffix {cs : List Char} (h : cs <:+ closing) : commentEnd? cs = none := by
  rw [Option.eq_none_iff_forall_ne_some]
  rintro ⟨front, rest⟩ hfound
  rw [commentEnd?_eq] at hfound
  obtain ⟨after, hafter, -⟩ := Option.map_eq_some_iff.mp hfound
  obtain rfl := after?_eq_some_iff.mp hafter
  have hlength := h.length_le
  simp [commentEnd, closing] at hlength

theorem commentSpan?_ends {cs : List Char} (hcs : '"' ∉ cs) :
    Ends cs (commentSpan? cs) (commentSpan? (cs ++ closing)) := by
  have hstop : ∀ c ∈ closing.head?, c ∉ "<!--".toList := forall_head_closing (by decide)
  rw [commentSpan?, commentSpan?, after?_append hstop]
  cases hafter : after? "<!--".toList cs with
  | none => exact .nowhere
  | some behind =>
    obtain rfl := after?_eq_some_iff.mp hafter
    have hbehind : '"' ∉ behind := fun h => hcs (List.mem_append_right _ h)
    simp only [Option.map_some]
    rcases through_closing (fun cs _ => commentEnd?_closing cs) (fun _ => commentEnd?_of_suffix) hbehind
      with hboth | ⟨hvalue, htag⟩
    · rw [hboth]
      exact .within
    · rw [hvalue, htag, ← List.append_assoc]
      exact .beyond

section
variable {raw : List Char} (hraw : raw ∈ rawNames)
include hraw

theorem not_mem_rawEnd : '"' ∉ '<' :: '/' :: raw ∧ '>' ∉ '<' :: raw := by
  have hall : ∀ raw ∈ rawNames, '"' ∉ '<' :: '/' :: raw ∧ '>' ∉ '<' :: raw := by decide
  exact hall raw hraw

theorem rawEnd?_closing (cs : List Char) :
    rawEnd? raw (cs ++ closing) = (rawEnd? raw cs).map fun (front, rest) => (front, rest ++ closing) := by
  have hstop : ∀ c ∈ closing.head?, foldChar c ∉ '<' :: '/' :: raw :=
    forall_head_closing (not_mem_rawEnd hraw).1
  have hblank : Stops isBlank closing := (stops_cons ..).mpr (by decide)
  rw [rawEnd?, rawEnd?, afterFolded?_append hstop]
  cases hopen : afterFolded? ('<' :: '/' :: raw) cs with
  | none => rfl
  | some behind =>
    obtain ⟨word, hword, rfl⟩ := afterFolded?_eq_some_iff.mp hopen
    have hlength : word.length = raw.length + 2 := by simpa using congrArg List.length hword
    simp only [Option.map_some, dropWhile_append_of_stops hblank, takeWhile_append_of_stops hblank]
    cases behind.dropWhile isBlank with
    | nil => rfl
    | cons c after =>
      rw [List.cons_append]
      by_cases hc : c = '>'
      · subst hc
        simp [← hlength]
      · simp [hc]

omit hraw in
theorem rawEnd?_of_suffix {cs : List Char} (h : cs <:+ closing) : rawEnd? raw cs = none := by
  have hnone : afterFolded? ('<' :: '/' :: raw) cs = none := by
    rw [Option.eq_none_iff_forall_ne_some]
    intro behind hbehind
    obtain ⟨word, hword, rfl⟩ := afterFolded?_eq_some_iff.mp hbehind
    obtain ⟨c, word, rfl⟩ := List.exists_cons_of_ne_nil (l := word) (by rintro rfl; cases hword)
    obtain rfl : c = '<' := foldChar_eq_bracket (List.cons.inj hword).1
    have hmem : '<' ∈ closing := h.subset (by simp)
    exact absurd hmem (by decide)
  rw [rawEnd?, hnone]

theorem rawSpan?_ends {cs : List Char} (hcs : '"' ∉ cs) :
    Ends cs (rawSpan? raw cs) (rawSpan? raw (cs ++ closing)) := by
  have hstop : ∀ c ∈ closing.head?, foldChar c ∉ '<' :: raw := by
    refine forall_head_closing fun hmem => ?_
    rcases List.mem_cons.mp hmem with hsame | hmem
    · cases hsame
    · exact (not_mem_rawEnd hraw).1 (List.mem_cons_of_mem _ (List.mem_cons_of_mem _ hmem))
  cases hopen : afterFolded? ('<' :: raw) cs with
  | none =>
    rw [rawSpan?, rawSpan?, afterFolded?_append hstop, hopen]
    exact .nowhere
  | some behind =>
    obtain ⟨word, hword, rfl⟩ := afterFolded?_eq_some_iff.mp hopen
    rw [List.append_assoc, rawSpan?_front hword, rawSpan?_front hword, wordEnds_name endsWord_closing]
    split
    · by_cases hbracket : '>' ∈ behind
      · obtain ⟨inTag, body, rfl, hinTag⟩ := List.eq_append_cons_of_mem hbracket
        have hbody : '"' ∉ body := fun h => hcs (by simp [h])
        rw [List.append_assoc, List.cons_append, cutOnce?_front hinTag, cutOnce?_front hinTag]
        simp only [Option.map_some]
        rcases through_closing (fun cs _ => rawEnd?_closing hraw cs) (fun _ => rawEnd?_of_suffix)
          hbody with hboth | ⟨hvalue, htag⟩
        · rw [hboth]
          exact .within
        · rw [hvalue, htag]
          have hbeyond := @Ends.beyond (word ++ (inTag ++ '>' :: body))
          rw [List.append_assoc, List.append_assoc] at hbeyond
          exact hbeyond
      · -- no bracket closes the tag in the value, so the tag's own does
        have hquoted : '>' ∉ behind ++ ['"'] := by simp [hbracket]
        have hcut : cutOnce? '>' (behind ++ closing) = some (behind ++ ['"'], []) := by
          have hfront := cutOnce?_front hquoted []
          rwa [List.append_assoc] at hfront
        have hword : '>' ∉ word := by
          intro hmem
          have hfold : foldChar '>' ∈ word.map foldChar := List.mem_map_of_mem hmem
          rw [hword] at hfold
          exact (not_mem_rawEnd hraw).2 hfold
        have houtside : '>' ∉ word ++ behind := by simp [hword, hbracket]
        have hswallowed := @Ends.swallowed _ none houtside
        rw [cutOnce?_eq_none hbracket, hcut]
        simpa [through, closing] using hswallowed
    · exact .nowhere

end

theorem opaqueSpan?_ends {cs : List Char} (hcs : '"' ∉ cs) :
    Ends cs (opaqueSpan? cs) (opaqueSpan? (cs ++ closing)) :=
  (commentSpan?_ends hcs).or ((rawSpan?_ends (by decide) hcs).or (rawSpan?_ends (by decide) hcs))

/-- The end of the tag behind what a piece leaves. -/
def TagPiece.closed (piece : TagPiece) : TagPiece := { piece with rest := piece.rest ++ closing }

theorem stops_closing {p : Char → Bool} (h : p '"' = false) : Stops p closing := (stops_cons ..).mpr h

theorem tagValue?_closing {cs : List Char} (hcs : '"' ∉ cs) :
    tagValue? (cs ++ closing) = (tagValue? cs).map TagPiece.closed := by
  have hbare : Stops isBareChar closing := stops_closing (by decide)
  cases cs with
  | nil => rfl
  | cons c cs =>
    have hc : ¬ c = '"' := fun e => hcs (by simp [e])
    by_cases hsingle : c = '\''
    · subst hsingle
      have hcut : cutOnce? '\'' (cs ++ closing)
          = (cutOnce? '\'' cs).map fun (inner, rest) => (inner, rest ++ closing) := by
        by_cases hmem : '\'' ∈ cs
        · obtain ⟨inner, rest, rfl, hinner⟩ := List.eq_append_cons_of_mem hmem
          rw [List.append_assoc, List.cons_append, cutOnce?_front hinner, cutOnce?_front hinner]
          rfl
        · have hnone : '\'' ∉ cs ++ closing := by simp [hmem, closing]
          rw [cutOnce?_eq_none hmem, cutOnce?_eq_none hnone]
          rfl
      rw [List.cons_append, tagValue?, tagValue?, hcut]
      cases cutOnce? '\'' cs <;> rfl
    · have hplain : ∀ cs, tagValue? (c :: cs)
          = if ((c :: cs).takeWhile isBareChar).isEmpty then none
            else some ⟨(c :: cs).takeWhile isBareChar,
              1 < ((c :: cs).takeWhile isBareChar).length
                && ((c :: cs).takeWhile isBareChar).getLast? == some '/',
              (c :: cs).dropWhile isBareChar⟩ := by
        intro cs
        rw [tagValue?.eq_def]
        split
        · next heq => exact absurd (List.cons.inj heq).1 hc
        · next heq => exact absurd (List.cons.inj heq).1 hsingle
        · cases (c :: cs).takeWhile isBareChar <;> rfl
      rw [List.cons_append, hplain, hplain, ← List.cons_append, takeWhile_append_of_stops hbare,
        dropWhile_append_of_stops hbare]
      cases (c :: cs).takeWhile isBareChar <;> rfl

theorem not_mem_dropWhile {c : Char} {cs : List Char} (p : Char → Bool) (h : c ∉ cs) :
    c ∉ cs.dropWhile p := fun hmem => h ((List.dropWhile_suffix p).subset hmem)

theorem tagAssignment?_closing {cs : List Char} (hcs : '"' ∉ cs) :
    tagAssignment? (cs ++ closing) = (tagAssignment? cs).map TagPiece.closed := by
  have hblank : Stops isBlank closing := stops_closing (by decide)
  have hdropped := not_mem_dropWhile isBlank hcs
  rw [tagAssignment?, tagAssignment?, dropWhile_append_of_stops hblank,
    takeWhile_append_of_stops hblank]
  cases hbehind : cs.dropWhile isBlank with
  | nil => rfl
  | cons c more =>
    rw [List.cons_append]
    by_cases hc : c = '='
    · subst hc
      have hmore : '"' ∉ more.dropWhile isBlank :=
        not_mem_dropWhile isBlank fun h => hdropped (by rw [hbehind]; exact List.mem_cons_of_mem _ h)
      simp only [dropWhile_append_of_stops hblank, takeWhile_append_of_stops hblank,
        tagValue?_closing hmore]
      cases tagValue? (more.dropWhile isBlank) <;> rfl
    · simp [hc]

theorem tagAttribute?_closing {cs : List Char} (hcs : '"' ∉ cs) :
    tagAttribute? (cs ++ closing) = (tagAttribute? cs).map TagPiece.closed := by
  have hblank : Stops isBlank closing := stops_closing (by decide)
  have hname : Stops isNameChar closing := stops_closing (by decide)
  have hrest := not_mem_dropWhile isNameChar (not_mem_dropWhile isBlank hcs)
  rw [tagAttribute?, tagAttribute?]
  simp only [dropWhile_append_of_stops hblank, takeWhile_append_of_stops hblank,
    dropWhile_append_of_stops hname, takeWhile_append_of_stops hname, tagAssignment?_closing hrest]
  split
  · rfl
  · cases tagAssignment? ((cs.dropWhile isBlank).dropWhile isNameChar) <;> rfl

theorem length_rest_tagAttribute? {cs : List Char} {piece : TagPiece}
    (h : tagAttribute? cs = some piece) : piece.rest.length < cs.length := by
  have hreads := tagAttribute?_reads h
  have hne : piece.text ≠ [] := by
    rw [tagAttribute?] at h
    split at h
    · cases h
    · next hgap =>
      simp only [Bool.or_eq_true, List.isEmpty_iff, not_or] at hgap
      dsimp only at h
      split at h <;> obtain rfl := Option.some.inj h <;> simp [hgap.1]
  have hlength := congrArg List.length hreads.text
  have hpos := List.length_pos_iff.mpr hne
  rw [List.length_append] at hlength
  omega

theorem tagAttributes_closing {fuel left : Nat} {cs : List Char} (hcs : '"' ∉ cs)
    (hfuel : cs.length ≤ fuel) (hleft : cs.length ≤ left) :
    tagAttributes fuel (cs ++ closing) = (tagAttributes left cs).closed := by
  induction fuel generalizing cs left with
  | zero =>
    obtain rfl := List.length_eq_zero_iff.mp (Nat.le_zero.mp hfuel)
    cases left <;> rfl
  | succ fuel ih =>
    rw [tagAttributes, tagAttribute?_closing hcs]
    cases left with
    | zero =>
      obtain rfl := List.length_eq_zero_iff.mp (Nat.le_zero.mp hleft)
      rfl
    | succ left =>
      rw [tagAttributes]
      cases hfirst : tagAttribute? cs with
      | none => rfl
      | some first =>
        have hlength := length_rest_tagAttribute? hfirst
        have hrest : '"' ∉ first.rest := fun h => hcs (by
          rw [(tagAttribute?_reads hfirst).text]
          exact List.mem_append_right _ h)
        have hmore := ih hrest (by omega) (Nat.le_of_lt_succ (Nat.lt_of_lt_of_le hlength hleft))
        simp only [Option.map_some, TagPiece.closed] at hmore ⊢
        rw [hmore]
        split <;> rfl

theorem slashEnd?_closing (cs : List Char) :
    slashEnd? (cs ++ closing) = (slashEnd? cs).map (· ++ closing) := by
  have hblank : Stops isBlank closing := stops_closing (by decide)
  rw [slashEnd?, slashEnd?, dropWhile_append_of_stops hblank]
  cases cs.dropWhile isBlank with
  | nil => rfl
  | cons c rest =>
    by_cases hc : c = '/'
    · subst hc
      cases rest with
      | nil => rfl
      | cons d rest =>
        by_cases hd : d = '>'
        · subst hd
          rfl
        · simp [hd]
    · simp [hc]

theorem selfClosing?_closing {cs : List Char} (hcs : '"' ∉ cs) :
    selfClosing? (cs ++ closing)
      = (selfClosing? cs).map fun (name, attrs, rest) => (name, attrs, rest ++ closing) := by
  cases cs with
  | nil => rfl
  | cons c cs =>
    by_cases hc : c = '<'
    · subst hc
      rw [List.cons_append, selfClosing?, selfClosing?, componentName?_name endsWord_closing]
      cases hname : componentName? cs with
      | none => rfl
      | some found =>
        obtain ⟨name, rest⟩ := found
        obtain ⟨-, rfl⟩ := componentName?_eq_some hname
        have hrest : '"' ∉ rest := fun h => hcs (by simp [h])
        have hfuel : rest.length ≤ (rest ++ closing).length := by simp
        simp only [Option.map_some, tagAttributes_closing hrest hfuel (Nat.le_refl _), TagPiece.closed,
          slashEnd?_closing]
        cases slashEnd? (tagAttributes rest.length rest).rest with
        | some after => rfl
        | none =>
          cases (tagAttributes rest.length rest).spare with
          | false => rfl
          | true =>
            cases (tagAttributes rest.length rest).rest with
            | nil => rfl
            | cons d more =>
              by_cases hd : d = '>'
              · subst hd
                rfl
              · simp [hd]
    · rw [List.cons_append, selfClosing?_of_other hc, selfClosing?_of_other hc]
      rfl

theorem Uncovered.suffix {cs back : List Char} (h : Uncovered cs back) : back <:+ cs := by
  induction h with
  | here => exact List.suffix_refl _
  | past _ _ ih => exact ih.trans (List.suffix_cons ..)
  | across hspan _ ih =>
    obtain ⟨inner, -, rfl⟩ := opaqueSpan?_eq_some hspan
    exact ih.trans (List.suffix_append ..)

theorem expandWith_of_no_bracket {fuel : Nat} {cs : List Char} (hcs : '>' ∉ cs)
    (hfuel : cs.length ≤ fuel) : expandWith fuel cs = cs := by
  rw [expandWith_eq_self_iff hfuel]
  rintro ⟨back, huncovered, htag⟩
  obtain ⟨⟨name, attrs, rest⟩, hfound⟩ := Option.isSome_iff_exists.mp htag
  obtain ⟨gap, -, rfl⟩ := selfClosing?_eq_some hfound
  exact hcs (huncovered.suffix.subset (by simp))

theorem expandWith_nil (fuel : Nat) : expandWith fuel [] = [] := by cases fuel <;> rfl

/-- **A value that closes its tag is expanded like a source of its own.** -/
theorem expandWith_value {fuel left : Nat} {cs : List Char} (hcs : '"' ∉ cs)
    (hfuel : (cs ++ closing).length ≤ fuel) (hleft : cs.length ≤ left) :
    expandWith fuel (cs ++ closing) = expandWith left cs ++ closing := by
  induction fuel generalizing cs left with
  | zero => simp [closing] at hfuel
  | succ fuel ih =>
    cases cs with
    | nil =>
      rw [expandWith_nil, List.nil_append]
      obtain ⟨fuel, rfl⟩ := Nat.exists_eq_add_one_of_ne_zero (Nat.ne_zero_of_lt (Nat.le_of_succ_le_succ hfuel))
      simp [closing, expandWith, expandWith_nil]
    | cons c cs =>
      obtain ⟨left, rfl⟩ := Nat.exists_eq_add_one_of_ne_zero (Nat.ne_zero_of_lt hleft)
      have hgo : ∀ rest, rest <:+ cs →
          expandWith fuel (rest ++ closing) = expandWith left rest ++ closing := by
        intro rest hsuffix
        have hshort := hsuffix.length_le
        have hquote : '"' ∉ rest := fun h => hcs (List.mem_cons_of_mem c (hsuffix.subset h))
        refine ih hquote ?_ (Nat.le_trans hshort (Nat.le_of_succ_le_succ hleft))
        simp only [List.length_append, List.length_cons] at hfuel ⊢
        omega
      by_cases hc : c = '<'
      · have hends := opaqueSpan?_ends hcs
        have hclosing := selfClosing?_closing hcs
        rw [List.cons_append] at hends hclosing ⊢
        rw [expandWith, if_pos hc, expandStep]
        generalize hbehind : opaqueSpan? (c :: (cs ++ closing)) = behind at hends ⊢
        generalize hvalue : opaqueSpan? (c :: cs) = value at hends
        cases hends with
        | @within span rest =>
          have hstep : expandStep (c :: cs) = some (span, rest) := by rw [expandStep, hvalue]
          rw [expandWith, if_pos hc, hstep]
          simp only
          rw [hgo rest (expandStep_suffix hstep), List.append_assoc]
        | beyond =>
          have hstep : expandStep (c :: cs) = some (c :: cs, []) := by rw [expandStep, hvalue]
          rw [expandWith, if_pos hc, hstep]
          simp [expandWith_nil]
        | nowhere =>
          rw [hclosing, expandWith, if_pos hc]
          cases htag : selfClosing? (c :: cs) with
          | none =>
            have hstep : expandStep (c :: cs) = none := by simp only [expandStep, hvalue, htag]
            rw [hstep]
            simp only [Option.map_none]
            rw [hgo cs (List.suffix_refl cs), List.cons_append]
          | some found =>
            obtain ⟨name, attrs, rest⟩ := found
            have hstep : expandStep (c :: cs) = some (writtenOut name attrs, rest) := by
              simp only [expandStep, hvalue, htag]
            rw [hstep]
            simp only [Option.map_some]
            rw [hgo rest (expandStep_suffix hstep), List.append_assoc]
        | swallowed hbracket =>
          rw [expandWith_of_no_bracket hbracket hleft]
          simp [expandWith_nil]
      · rw [List.cons_append, expandWith, if_neg hc, expandWith, if_neg hc,
          hgo cs (List.suffix_refl cs), List.cons_append]

end Lettermill.Html
