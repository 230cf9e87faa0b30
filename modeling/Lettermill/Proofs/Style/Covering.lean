import Lettermill.Proofs.Text.Run
import Lettermill.Style.Css
/-! Tokens stand at the front of their text. Each function of the tokenizer leaves an end of what it is
given, and a token takes at least the first character, so a text is cut into tokens one after the
other, each with a text of its own. -/
namespace Lettermill.Css
set_option autoImplicit false
open Text

section
variable {c : Char} {cs rest : List Char}

theorem suffix_of_eq_cons (h : cs = c :: rest) : rest <:+ cs := h ▸ List.suffix_cons c rest

theorem suffix_ite {p : Prop} [Decidable p] {a b : List Char} (ha : p → a <:+ cs) (hb : b <:+ cs) :
    (if p then a else b) <:+ cs := by
  split
  · next h => exact ha h
  · exact hb

theorem suffix_cons_of (h : rest <:+ cs) : rest <:+ c :: cs := h.trans (List.suffix_cons c cs)

theorem after?_suffix {piece : List Char} (h : after? piece cs = some rest) : rest <:+ cs := by
  rw [after?_eq_some_iff.mp h]
  exact List.suffix_append piece rest

/-! ## Escapes and names -/

theorem dropNewline_suffix (cs : List Char) : dropNewline cs <:+ cs := by
  unfold dropNewline
  split
  · exact (List.suffix_cons _ _).trans (List.suffix_cons _ _)
  · split
    · exact List.suffix_cons _ _
    · exact List.suffix_refl _
  · exact List.suffix_refl _

theorem unescape_suffix (cs : List Char) : (unescape cs).2 <:+ cs := by
  unfold unescape
  split
  · split
    · exact List.suffix_refl _
    · exact List.suffix_cons _ _
  · dsimp only
    split
    · next h => exact (suffix_of_eq_cons h).trans (List.drop_suffix _ _)
    · next h => exact (suffix_of_eq_cons h).trans (List.drop_suffix _ _)
    · exact (dropNewline_suffix _).trans (List.drop_suffix _ _)

theorem nameFrom_suffix (fuel : Nat) (cs : List Char) : (nameFrom fuel cs).2 <:+ cs := by
  fun_induction nameFrom fuel cs with
  | case1 cs => exact List.suffix_refl cs
  | case2 => exact List.suffix_refl []
  | case3 fuel cs _ e rest hescape more after hname ih =>
    have hrest : rest <:+ cs := by
      have h := unescape_suffix cs
      rwa [hescape] at h
    rw [hname] at ih
    exact (ih.trans hrest).trans (List.suffix_cons _ _)
  | case4 => exact List.suffix_refl _
  | case5 fuel c cs _ _ more after hname ih =>
    rw [hname] at ih
    exact ih.trans (List.suffix_cons c cs)
  | case6 => exact List.suffix_refl _

theorem name_suffix (cs : List Char) : (name cs).2 <:+ cs := nameFrom_suffix _ cs

theorem name_cons_suffix (hc : if c = '\\' then escapes cs = true else isNameChar c = true) :
    (name (c :: cs)).2 <:+ cs := by
  rw [name, List.length_cons, nameFrom]
  by_cases h : c = '\\'
  · rw [if_pos h] at hc ⊢
    rw [if_pos hc]
    exact (nameFrom_suffix _ _).trans (unescape_suffix cs)
  · rw [if_neg h] at hc ⊢
    rw [if_pos hc]
    exact nameFrom_suffix _ cs

/-! ## Comments, strings, numbers, addresses -/

theorem afterComment_suffix (cs : List Char) : afterComment cs <:+ cs := by
  fun_induction afterComment cs with
  | case1 => exact List.suffix_refl []
  | case2 rest => exact (List.suffix_cons _ _).trans (List.suffix_cons _ _)
  | case3 c rest _ ih => exact ih.trans (List.suffix_cons c rest)

theorem afterString_suffix (quote : Char) (fuel : Nat) (cs : List Char) :
    afterString quote fuel cs <:+ cs := by
  fun_induction afterString quote fuel cs with
  | case1 cs => exact List.suffix_refl cs
  | case2 => exact List.suffix_refl []
  | case3 fuel cs => exact List.suffix_cons _ cs
  | case4 fuel c cs => exact List.suffix_refl _
  | case5 => exact List.nil_suffix
  | case6 fuel _ _ d _ _ ih => exact suffix_cons_of (ih.trans (dropNewline_suffix _))
  | case7 fuel _ _ d _ _ ih => exact suffix_cons_of (ih.trans (unescape_suffix _))
  | case8 fuel c cs _ _ _ ih => exact suffix_cons_of ih

/-- What a sign in front of a text leaves. -/
def afterSign (cs : List Char) : List Char :=
  match cs with
  | '+' :: more => more
  | '-' :: more => more
  | _ => cs

/-- What a point and the digits behind it leave. -/
def afterFraction (cs : List Char) : List Char :=
  match cs with
  | '.' :: more => if digitNext more then more.dropWhile isDigit else cs
  | _ => cs

/-- What the percent sign or the unit of a number leaves. -/
def afterUnit (cs : List Char) : List Char :=
  match cs with
  | '%' :: more => more
  | cs => if startsName cs then (name cs).2 else cs

theorem afterExponent_cons (c : Char) (cs : List Char) : afterExponent (c :: cs)
    = if c = 'e' || c = 'E' then
        if digitNext (afterSign cs) then (afterSign cs).dropWhile isDigit else c :: cs
      else c :: cs := rfl

theorem afterNumber_eq (cs : List Char) :
    afterNumber cs = afterUnit (afterExponent (afterFraction (cs.dropWhile isDigit))) := rfl

theorem afterNumber_digit {c : Char} (hc : isDigit c = true) (cs : List Char) :
    afterNumber (c :: cs) = afterNumber cs := by
  rw [afterNumber_eq, afterNumber_eq, List.dropWhile_cons, if_pos hc]

theorem afterNumber_point {cs : List Char} (h : digitNext cs = true) :
    afterNumber ('.' :: cs) = afterUnit (afterExponent (cs.dropWhile isDigit)) := by
  rw [afterNumber_eq, List.dropWhile_cons, if_neg (by decide), afterFraction, if_pos h]

theorem afterSign_suffix (cs : List Char) : afterSign cs <:+ cs := by
  unfold afterSign
  split
  · exact List.suffix_cons _ _
  · exact List.suffix_cons _ _
  · exact List.suffix_refl _

theorem afterFraction_suffix (cs : List Char) : afterFraction cs <:+ cs := by
  unfold afterFraction
  split
  · split
    · exact suffix_cons_of (List.dropWhile_suffix _)
    · exact List.suffix_refl _
  · exact List.suffix_refl _

theorem afterExponent_suffix (cs : List Char) : afterExponent cs <:+ cs := by
  cases cs with
  | nil => exact List.suffix_refl []
  | cons c cs =>
    rw [afterExponent_cons]
    split
    · split
      · exact suffix_cons_of ((List.dropWhile_suffix _).trans (afterSign_suffix cs))
      · exact List.suffix_refl _
    · exact List.suffix_refl _

theorem afterUnit_suffix (cs : List Char) : afterUnit cs <:+ cs := by
  unfold afterUnit
  split
  · exact List.suffix_cons _ _
  · split
    · exact name_suffix _
    · exact List.suffix_refl _

theorem afterNumber_suffix (cs : List Char) : afterNumber cs <:+ cs := by
  rw [afterNumber_eq]
  have hfraction := (afterFraction_suffix _).trans (List.dropWhile_suffix (l := cs) isDigit)
  exact (afterUnit_suffix _).trans ((afterExponent_suffix _).trans hfraction)

theorem afterBadUrl_suffix (cs : List Char) : afterBadUrl cs <:+ cs := by
  fun_induction afterBadUrl cs with
  | case1 => exact List.suffix_refl []
  | case2 rest => exact List.suffix_cons _ rest
  | case3 rest ih => exact suffix_cons_of (suffix_cons_of ih)
  | case4 rest ih => exact suffix_cons_of (suffix_cons_of ih)
  | case5 c rest _ _ _ ih => exact suffix_cons_of ih

theorem afterUrl_suffix (fuel : Nat) (cs : List Char) : afterUrl fuel cs <:+ cs := by
  fun_induction afterUrl fuel cs with
  | case1 cs => exact List.suffix_refl cs
  | case2 => exact List.suffix_refl []
  | case3 fuel cs => exact List.suffix_cons _ cs
  | case4 => exact List.nil_suffix
  | case5 fuel c cs _ _ rest h =>
    exact suffix_cons_of ((suffix_of_eq_cons h).trans (List.dropWhile_suffix _))
  | case6 fuel c cs _ _ d rest _ h =>
    have hrest := (suffix_of_eq_cons h).trans (List.dropWhile_suffix _)
    exact suffix_cons_of ((afterBadUrl_suffix rest).trans hrest)
  | case7 fuel c cs => exact suffix_cons_of (afterBadUrl_suffix cs)
  | case8 fuel d rest => exact suffix_cons_of (afterBadUrl_suffix _)
  | case9 fuel d rest _ _ _ _ ih => exact suffix_cons_of (ih.trans (unescape_suffix _))
  | case10 => exact List.nil_suffix
  | case11 fuel c cs _ _ _ _ ih => exact suffix_cons_of ih

/-! ## Tokens -/

/-- What a name leaves, a function or an address leaves, too. -/
theorem nameLike_suffix {start : List Char} (h : (name start).2 <:+ cs) :
    (nameLike start).2 <:+ cs := by
  unfold nameLike
  generalize name start = named at h ⊢
  obtain ⟨text, after⟩ := named
  dsimp only at h ⊢
  split
  · next inner =>
    have hinner : inner <:+ cs := (List.suffix_cons _ inner).trans h
    split
    · split
      · exact hinner
      · exact hinner
      · exact ((afterUrl_suffix _ _).trans (List.dropWhile_suffix _)).trans hinner
    · exact hinner
  · exact h

theorem token?_suffix {k : Kind} (h : token? (c :: cs) = some (k, rest)) : rest <:+ cs := by
  have hself : cs <:+ cs := List.suffix_refl cs
  have hnumber : afterNumber cs <:+ cs := afterNumber_suffix cs
  have hlike (hc : if c = '\\' then escapes cs = true else isNameChar c = true) :
      (nameLike (c :: cs)).2 <:+ cs := nameLike_suffix (name_cons_suffix hc)
  have hleft : ∀ t, token? (c :: cs) = some t → t.2 <:+ cs := by
    intro t ht
    rw [← Option.some.inj ht]
    split
    · exact List.dropWhile_suffix _
    · split
      case h_1 => exact afterString_suffix _ _ _
      case h_2 => exact afterString_suffix _ _ _
      case h_3 => exact suffix_ite (fun _ => name_suffix cs) hself
      case h_12 => exact suffix_ite (fun _ => hnumber) hself
      case h_13 =>
        split
        · exact hnumber
        · split
          · next hmark => exact after?_suffix hmark
          · split
            · refine hlike ?_
              rw [if_neg (by decide)]
              decide
            · exact hself
      case h_14 =>
        refine suffix_ite (fun hdigit => ?_) hself
        rw [afterNumber_point hdigit]
        exact ((afterUnit_suffix _).trans (afterExponent_suffix _)).trans (List.dropWhile_suffix _)
      case h_15 =>
        split
        · next after => exact suffix_cons_of (afterComment_suffix after)
        · exact hself
      case h_16 =>
        cases hmark : after? "!--".toList cs with
        | none => exact hself
        | some after => exact after?_suffix hmark
      case h_17 =>
        split
        · exact name_suffix cs
        · exact hself
      case h_18 =>
        split
        · next hescape => exact hlike hescape
        · exact hself
      case h_19 hne =>
        split
        · next hdigit =>
          rw [afterNumber_digit hdigit]
          exact hnumber
        · split
          · next hstart =>
            refine hlike ?_
            rw [if_neg hne, isNameChar, hstart]
            rfl
          · exact hself
      all_goals exact hself
  exact hleft _ h

end

/-! ## Texts of tokens -/

/-- The tokens of a text, each with its own text; `fuel` bounds their number. -/
def tokensWith : Nat → List Char → List (Kind × List Char)
  | 0, _ => []
  | fuel + 1, cs =>
    match token? cs with
    | none => []
    | some (k, rest) => (k, cs.take (cs.length - rest.length)) :: tokensWith fuel rest

/-- The tokens of a text, each with its own text. -/
def tokens (cs : List Char) : List (Kind × List Char) := tokensWith cs.length cs

theorem take_append_of_suffix {cs rest : List Char} (h : rest <:+ cs) :
    cs.take (cs.length - rest.length) ++ rest = cs := by
  obtain ⟨front, rfl⟩ := h
  rw [List.length_append, Nat.add_sub_cancel, List.take_left]

end Lettermill.Css
