import Lettermill.Proofs.Style.Covering
import Lettermill.Style.Sheet
/-! Comments of a text, by its tokens and by a plain search for their marks. The search does not know
of strings, addresses and escapes, so it may find marks that are none. Main statement: it finds the
comments and nothing else where slashes stand only in comments and by themselves. -/
namespace Lettermill.Css
set_option autoImplicit false
open Text

/-! ## Comments by their tokens -/

/-- Is the text of a token a comment? -/
def isComment (text : List Char) : Bool := (after? "/*".toList text).isSome

theorem isComment_iff {text : List Char} :
    isComment text = true ↔ ∃ body, text = '/' :: '*' :: body := by
  rw [isComment, Option.isSome_iff_exists]
  exact exists_congr fun body => after?_eq_some_iff

/-- The texts of tokens that are no comments. -/
def uncommented (ts : List (Kind × List Char)) : List Char :=
  (ts.filter fun t => !isComment t.2).flatMap Prod.snd

/-- Searching for comment marks finds the comments of the text, and nothing else. -/
def CommentsFound (cs : List Char) : Prop :=
  withoutComments cs.length cs = uncommented (tokens cs)

/-! ## Searching for marks -/

/-- A text without slashes, a slash that is a token of its own, or a comment that ends. -/
def FairSlashes (text : List Char) : Prop :=
  '/' ∉ text ∨ text = ['/']
    ∨ isComment text = true ∧ (before? "*/".toList (text.drop 2)).isSome = true

instance (text : List Char) : Decidable (FairSlashes text) :=
  inferInstanceAs (Decidable (_ ∨ _ ∨ _ ∧ _))

theorem afterComment_eq (cs : List Char) : afterComment cs
    = match before? "*/".toList cs with
      | some (_, ending) => ending.drop 2
      | none => [] := by
  fun_induction afterComment cs with
  | case1 => rfl
  | case2 rest => rfl
  | case3 c rest hne ih =>
    have hmark : (after? "*/".toList (c :: rest)).isSome = false := by
      rw [Option.isSome_eq_false_iff, Option.isNone_iff_eq_none, Option.eq_none_iff_forall_ne_some]
      intro more h
      have hfront := after?_eq_some_iff.mp h
      exact hne more (List.cons.inj hfront).1 (List.cons.inj hfront).2
    rw [before?, hmark, ih]
    cases before? "*/".toList rest <;> rfl

theorem withoutComments_append {front : List Char} (h : '/' ∉ front) (fuel : Nat)
    (rest : List Char) :
    withoutComments (front.length + fuel) (front ++ rest) = front ++ withoutComments fuel rest := by
  induction front with
  | nil => rw [List.length_nil, Nat.zero_add, List.nil_append, List.nil_append]
  | cons c front ih =>
    rw [List.mem_cons, not_or] at h
    rw [List.length_cons, Nat.add_right_comm, List.cons_append, List.cons_append]
    conv_lhs => unfold withoutComments
    split
    · exact absurd rfl h.1
    · rw [ih h.2]

theorem withoutComments_nil (fuel : Nat) : withoutComments fuel [] = [] := by
  cases fuel <;> rfl

/-- A token whose slashes are fair is kept, or removed if it is a comment. -/
theorem withoutComments_token {c : Char} {cs rest : List Char} {k : Kind}
    (ht : token? (c :: cs) = some (k, rest)) {text : List Char} (hcs : c :: cs = text ++ rest)
    (hfair : FairSlashes text) {fuel : Nat} (hfuel : text.length + rest.length ≤ fuel) :
    ∃ more, rest.length ≤ more ∧ withoutComments fuel (c :: cs)
      = (if isComment text then [] else text) ++ withoutComments more rest := by
  rcases hfair with hno | rfl | ⟨hcomment, hends⟩
  · have hplain : isComment text = false := by
      rw [Bool.eq_false_iff]
      intro hcomment
      obtain ⟨body, rfl⟩ := isComment_iff.mp hcomment
      exact hno List.mem_cons_self
    obtain ⟨more, rfl⟩ := Nat.exists_eq_add_of_le (Nat.le_trans (Nat.le_add_right _ _) hfuel)
    refine ⟨more, Nat.le_of_add_le_add_left hfuel, ?_⟩
    rw [hcs, withoutComments_append hno, hplain]
    rfl
  · obtain ⟨rfl, rfl⟩ := List.cons.inj hcs
    obtain ⟨more, rfl⟩ : ∃ more, fuel = more + 1 := ⟨fuel - 1, by simp at hfuel; omega⟩
    refine ⟨more, by simp at hfuel; omega, ?_⟩
    conv_lhs => unfold withoutComments
    split
    · next after _ =>
      have hrest : afterComment after = '*' :: after := (Prod.mk.inj (Option.some.inj ht)).2
      have hlen := (afterComment_suffix after).length_le
      rw [hrest, List.length_cons] at hlen
      omega
    · rfl
  · obtain ⟨body, rfl⟩ := isComment_iff.mp hcomment
    rw [List.cons_append, List.cons_append] at hcs
    obtain ⟨rfl, rfl⟩ := List.cons.inj hcs
    have hrest : afterComment (body ++ rest) = rest := (Prod.mk.inj (Option.some.inj ht)).2
    rw [afterComment_eq] at hrest
    obtain ⟨more, rfl⟩ : ∃ more, fuel = more + 1 := ⟨fuel - 1, by simp at hfuel; omega⟩
    refine ⟨more, by simp at hfuel; omega, ?_⟩
    rw [hcomment, if_pos rfl, List.nil_append]
    cases hsearch : before? "*/".toList (body ++ rest) with
    | none =>
      rw [hsearch] at hrest
      have hend : before? "*/".toList body = none := by rwa [← hrest, List.append_nil] at hsearch
      rw [List.drop_succ_cons, List.drop_succ_cons, List.drop_zero, hend] at hends
      cases hends
    | some found =>
      rw [hsearch] at hrest
      simp only [withoutComments, hsearch, hrest]

/-- Searching finds the comments of a text whose tokens have fair slashes only. -/
theorem commentsFound_of_fair {cs : List Char} (h : ∀ t ∈ tokens cs, FairSlashes t.2) :
    CommentsFound cs := by
  have hwith : ∀ n cs, cs.length ≤ n → (∀ t ∈ tokensWith n cs, FairSlashes t.2) →
      ∀ fuel, cs.length ≤ fuel → withoutComments fuel cs = uncommented (tokensWith n cs) := by
    intro n
    induction n with
    | zero =>
      intro cs hn _ fuel _
      rw [List.eq_nil_of_length_eq_zero (Nat.le_zero.mp hn), withoutComments_nil]
      rfl
    | succ n ih =>
      intro cs hn hfair fuel hfuel
      cases cs with
      | nil => rw [withoutComments_nil]; rfl
      | cons c cs =>
        obtain ⟨⟨k, rest⟩, htoken⟩ : ∃ t, token? (c :: cs) = some t := ⟨_, rfl⟩
        have hrest := token?_suffix htoken
        have hsplit := take_append_of_suffix (suffix_cons_of (c := c) hrest)
        rw [tokensWith, htoken] at hfair ⊢
        dsimp only at hfair ⊢
        generalize (c :: cs).take ((c :: cs).length - rest.length) = text at hfair hsplit ⊢
        rw [List.forall_mem_cons] at hfair
        have hlen := congrArg List.length hsplit
        rw [List.length_append] at hlen
        obtain ⟨more, hmore, hstep⟩ :=
          withoutComments_token htoken hsplit.symm hfair.1 (by omega : text.length + rest.length ≤ fuel)
        rw [hstep, ih rest (by have := hrest.length_le; simp at hn; omega) hfair.2 more hmore]
        cases hcomment : isComment text with
        | true => simp [uncommented, hcomment]
        | false => simp [uncommented, hcomment]
  exact hwith _ cs (Nat.le_refl _) h _ (Nat.le_refl _)

end Lettermill.Css
