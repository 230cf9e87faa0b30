import Lettermill.Proofs.Style.Covering
import Lettermill.Proofs.Text.Run
/-! Tokens of text that opens nothing: no brackets, no quotes, no escapes and no comments. A token of
such a text never reaches past its end, so what is left behind each token is an end of the text with
all that follows it. Main statements: reading up to a mark stops at the first one, and a block of
such text ends at its bracket. -/
namespace Lettermill.Css
set_option autoImplicit false
open Text

/-! ## Characters -/

/-- Letters, digits and the marks that mean nothing to the bounds of a token. -/
def isMild (c : Char) : Bool := isAlphanumeric c || " #%.,-_+!:/;".toList.contains c

theorem ascii_of_isMild {c : Char} (h : isMild c = true) : c.toNat < 128 := by
  rw [isMild, isAlphanumeric, Bool.or_eq_true, Bool.or_eq_true] at h
  rcases h with (h | h) | h
  · exact toNat_of_isLetter h
  · exact toNat_of_isDigit h
  · have hall : ∀ c ∈ " #%.,-_+!:/;".toList, c.toNat < 128 := forall_of_all (by decide)
    exact hall c (List.contains_iff_mem.mp h)

/-- The characters that open, close or escape something. -/
def special : List Char :=
  ['"', '\'', '(', ')', '[', ']', '{', '}', '\\', '<', '>', '@', '*', '\x00']

theorem not_mem_special {c : Char} (h : isMild c = true) : c ∉ special := by
  have hall := of_ascii (q := fun c => !special.contains c) (by decide +kernel)
    (ascii_of_isMild h) h
  simpa using hall

/-- A text that ends what stands before it: a semicolon or a curly bracket. -/
def Closes (rest : List Char) : Prop := ∃ c cs, rest = c :: cs ∧ (c = ';' ∨ c = '{' ∨ c = '}')

theorem Closes.stops {rest : List Char} (h : Closes rest) {p : Char → Bool}
    (hp : p ';' = false ∧ p '{' = false ∧ p '}' = false) : Stops p rest := by
  obtain ⟨c, cs, rfl, rfl | rfl | rfl⟩ := h
  · exact (stops_cons ..).mpr hp.1
  · exact (stops_cons ..).mpr hp.2.1
  · exact (stops_cons ..).mpr hp.2.2

/-! ## What is left of a text -/

/-- An end of `v`, and all that follows `v`. -/
def Behind (v rest cs : List Char) : Prop := ∃ w, w <:+ v ∧ cs = w ++ rest

section
variable {v rest cs : List Char}

theorem Behind.self (v rest : List Char) : Behind v rest (v ++ rest) := ⟨v, List.suffix_refl v, rfl⟩

theorem Behind.cons {c : Char} (h : Behind v rest cs) : Behind (c :: v) rest cs := by
  obtain ⟨w, hw, rfl⟩ := h
  exact ⟨w, hw.trans (List.suffix_cons c v), rfl⟩

theorem Behind.mono {w : List Char} (h : Behind w rest cs) (hw : w <:+ v) : Behind v rest cs := by
  obtain ⟨u, hu, rfl⟩ := h
  exact ⟨u, hu.trans hw, rfl⟩

theorem Behind.then {f : List Char → List Char} (h : Behind v rest cs)
    (hf : ∀ w, w <:+ v → Behind w rest (f (w ++ rest))) : Behind v rest (f cs) := by
  obtain ⟨w, hw, rfl⟩ := h
  exact (hf w hw).mono hw

theorem Behind.ite {p : Prop} [Decidable p] {a b : List Char} (ha : p → Behind v rest a)
    (hb : Behind v rest b) : Behind v rest (if p then a else b) := by
  split
  · next h => exact ha h
  · exact hb

theorem Behind.tail {c : Char} {more : List Char} (hr : Closes rest) (h : v ++ rest = c :: more)
    (hc : ¬ (c = ';' ∨ c = '{' ∨ c = '}')) : Behind v rest more := by
  cases v with
  | nil =>
    obtain ⟨d, cs, rfl, hd⟩ := hr
    exact absurd ((List.cons.inj h).1 ▸ hd) hc
  | cons d v =>
    rw [← (List.cons.inj h).2]
    exact (Behind.self v rest).cons

theorem not_special_front (hv : ∀ c ∈ v, isMild c = true) (hr : Closes rest) {c : Char}
    {more : List Char} (h : v ++ rest = c :: more) (hc : c ∈ special.removeAll ['{', '}']) :
    False := by
  cases v with
  | nil =>
    obtain ⟨d, cs, rfl, hd⟩ := hr
    obtain ⟨rfl, -⟩ := List.cons.inj h
    rcases hd with rfl | rfl | rfl <;> exact absurd hc (by decide)
  | cons d v =>
    obtain ⟨rfl, -⟩ := List.cons.inj h
    exact not_mem_special (hv d List.mem_cons_self) (List.mem_of_mem_filter hc)

theorem behind_dropWhile {p : Char → Bool} (hr : Stops p rest) :
    Behind v rest ((v ++ rest).dropWhile p) := by
  induction v with
  | nil => exact ⟨[], List.suffix_refl _, dropWhile_of_stops hr⟩
  | cons c v ih =>
    rw [List.cons_append, List.dropWhile_cons]
    split
    · exact ih.cons
    · exact Behind.self (c :: v) rest

/-! ## Names -/

theorem behind_nameFrom (hv : ∀ c ∈ v, isMild c = true) (hr : Closes rest) (fuel : Nat) :
    Behind v rest (nameFrom fuel (v ++ rest)).2 := by
  induction fuel generalizing v with
  | zero => exact Behind.self v rest
  | succ fuel ih =>
    cases v with
    | nil => obtain ⟨c, cs, rfl, rfl | rfl | rfl⟩ := hr <;> exact Behind.self [] _
    | cons c v =>
      rw [List.forall_mem_cons] at hv
      have hescape : ¬ c = '\\' := fun e => not_mem_special hv.1 (by rw [e]; decide)
      rw [List.cons_append, nameFrom, if_neg hescape]
      split
      · exact (ih hv.2).cons
      · exact Behind.self (c :: v) rest

theorem behind_name (hv : ∀ c ∈ v, isMild c = true) (hr : Closes rest) :
    Behind v rest (name (v ++ rest)).2 := behind_nameFrom hv hr _

theorem behind_name_cons {c : Char} (hc : isNameChar c = true) (he : c ≠ '\\')
    (hv : ∀ c ∈ v, isMild c = true) (hr : Closes rest) :
    Behind v rest (name (c :: (v ++ rest))).2 := by
  rw [name, List.length_cons, nameFrom, if_neg he, if_pos hc]
  exact behind_nameFrom hv hr _

/-- A name of plain characters is read whole, up to a character that cannot stand in a name. -/
theorem name_run {text : List Char} (ht : ∀ c ∈ text, isNameChar c = true ∧ c ≠ '\\' ∧ c ≠ '\x00')
    (hr : Stops isNameChar rest) (hb : rest.head? ≠ some '\\') : name (text ++ rest) = (text, rest) := by
  have hfrom : ∀ fuel, text.length ≤ fuel → nameFrom fuel (text ++ rest) = (text, rest) := by
    intro fuel
    induction fuel generalizing text with
    | zero =>
      intro hfuel
      rw [List.eq_nil_of_length_eq_zero (Nat.le_zero.mp hfuel)]
      rfl
    | succ fuel ih =>
      intro hfuel
      cases text with
      | nil =>
        cases rest with
        | nil => rfl
        | cons c cs =>
          rw [List.head?_cons, Ne, Option.some.injEq] at hb
          rw [List.nil_append, nameFrom, if_neg hb, (stops_cons ..).mp hr]
          rfl
      | cons c text =>
        rw [List.forall_mem_cons] at ht
        have hmore := ih ht.2 (Nat.le_of_succ_le_succ hfuel)
        rw [List.cons_append, nameFrom, if_neg ht.1.2.1, if_pos ht.1.1, hmore, if_neg ht.1.2.2]
  exact hfrom _ (by rw [List.length_append]; omega)

/-! ## Numbers -/

theorem behind_afterSign (hr : Closes rest) : Behind v rest (afterSign (v ++ rest)) := by
  unfold afterSign
  split
  · next h => exact Behind.tail hr h (by decide)
  · next h => exact Behind.tail hr h (by decide)
  · exact Behind.self v rest

theorem behind_afterFraction (hr : Closes rest) : Behind v rest (afterFraction (v ++ rest)) := by
  have hdigits : Stops isDigit rest := hr.stops (by decide)
  unfold afterFraction
  split
  · next h =>
    have htail := (Behind.tail hr h (by decide)).then fun w _ => behind_dropWhile hdigits
    exact Behind.ite (fun _ => htail) (Behind.self v rest)
  · exact Behind.self v rest

theorem behind_afterExponent (hr : Closes rest) : Behind v rest (afterExponent (v ++ rest)) := by
  have hdigits : Stops isDigit rest := hr.stops (by decide)
  cases v with
  | nil => obtain ⟨c, cs, rfl, rfl | rfl | rfl⟩ := hr <;> exact Behind.self [] _
  | cons c v =>
    have hself := Behind.self (c :: v) rest
    have hafter := (behind_afterSign (v := v) hr).then fun w _ => behind_dropWhile hdigits
    rw [List.cons_append, afterExponent_cons]
    exact Behind.ite (fun _ => Behind.ite (fun _ => hafter.cons) hself) hself

theorem behind_afterUnit (hv : ∀ c ∈ v, isMild c = true) (hr : Closes rest) :
    Behind v rest (afterUnit (v ++ rest)) := by
  unfold afterUnit
  split
  · next h => exact Behind.tail hr h (by decide)
  · exact Behind.ite (fun _ => behind_name hv hr) (Behind.self v rest)

theorem Behind.number (h : Behind v rest cs) (hv : ∀ c ∈ v, isMild c = true) (hr : Closes rest) :
    Behind v rest (afterUnit (afterExponent cs)) := by
  have hexponent := h.then fun w _ => behind_afterExponent hr
  exact hexponent.then fun w hw => behind_afterUnit (fun c hc => hv c (hw.subset hc)) hr

theorem behind_afterNumber (hv : ∀ c ∈ v, isMild c = true) (hr : Closes rest) :
    Behind v rest (afterNumber (v ++ rest)) := by
  have hwhole : Behind v rest ((v ++ rest).dropWhile isDigit) :=
    behind_dropWhile (hr.stops (by decide))
  have hfraction := hwhole.then fun w _ => behind_afterFraction hr
  exact hfraction.number hv hr

end

/-! ## Tokens -/

/-- Does a token open or close a bracket? -/
def Kind.encloses : Kind → Bool
  | .opening _ => true
  | .closing _ => true
  | _ => false

section
variable {v rest : List Char}

theorem nameLike_of_name {text after cs : List Char} (h : name cs = (text, after))
    (ha : after.head? ≠ some '(') : nameLike cs = (.name text, after) := by
  rw [nameLike, h]
  dsimp only
  split
  · exact absurd rfl ha
  · rfl

theorem behind_nameLike (hv : ∀ c ∈ v, isMild c = true) (hr : Closes rest) {cs : List Char}
    (h : Behind v rest (name cs).2) :
    (nameLike cs).1.encloses = false ∧ Behind v rest (nameLike cs).2 := by
  have hround : (name cs).2.head? ≠ some '(' := by
    intro hhead
    obtain ⟨more, hmore⟩ := List.head?_eq_some_iff.mp hhead
    obtain ⟨w, hw, hleft⟩ := h
    rw [hleft] at hmore
    exact not_special_front (fun c hc => hv c (hw.subset hc)) hr hmore (by decide)
  rw [nameLike_of_name rfl hround]
  exact ⟨rfl, h⟩

theorem after?_mark (hv : ∀ c ∈ v, isMild c = true) (hr : Closes rest) :
    after? "->".toList (v ++ rest) = none := by
  rw [Option.eq_none_iff_forall_ne_some]
  intro more h
  have hfront : v ++ rest = '-' :: '>' :: more := after?_eq_some_iff.mp h
  obtain ⟨w, hw, htail⟩ := Behind.tail hr hfront (by decide)
  exact not_special_front (fun c hc => hv c (hw.subset hc)) hr htail.symm (by decide)

/-- Takes a token off a mild text: no bracket, and it ends within the text. -/
theorem token?_mild {c : Char} (hc : isMild c = true) (hv : ∀ c ∈ v, isMild c = true)
    (hr : Closes rest) : ∃ t, token? (c :: (v ++ rest)) = some t ∧ t.1.encloses = false
      ∧ Behind v rest t.2 := by
  have hout : c ∉ special := not_mem_special hc
  have hself : Behind v rest (v ++ rest) := Behind.self v rest
  have hnumber : Behind v rest (afterNumber (v ++ rest)) := behind_afterNumber hv hr
  refine ⟨_, rfl, ?_⟩
  split
  · exact ⟨rfl, behind_dropWhile (hr.stops (by decide))⟩
  · split
    all_goals try exact absurd (by decide) hout
    case h_3 => exact ⟨rfl, Behind.ite (fun _ => behind_name hv hr) hself⟩
    case h_10 => exact ⟨rfl, hself⟩
    case h_11 => exact ⟨rfl, hself⟩
    case h_12 => exact ⟨rfl, Behind.ite (fun _ => hnumber) hself⟩
    case h_13 =>
      rw [after?_mark hv hr]
      split
      · exact ⟨rfl, hnumber⟩
      · dsimp only
        split
        · exact behind_nameLike hv hr (behind_name_cons (by decide) (by decide) hv hr)
        · exact ⟨rfl, hself⟩
    case h_14 =>
      refine ⟨rfl, Behind.ite (fun h => ?_) hself⟩
      rw [afterNumber_point h]
      exact (behind_dropWhile (hr.stops (by decide))).number hv hr
    case h_15 =>
      split
      · next h => exact (not_special_front hv hr h (by decide)).elim
      · exact ⟨rfl, hself⟩
    case h_19 hescape =>
      split
      · next h =>
        rw [afterNumber_digit h]
        exact ⟨rfl, hnumber⟩
      · split
        · next h =>
          have hname : isNameChar c = true := by rw [isNameChar, h, Bool.true_or, Bool.true_or]
          exact behind_nameLike hv hr (behind_name_cons hname hescape hv hr)
        · exact ⟨rfl, hself⟩

/-! ## Reading up to a mark -/

theorem behind_skipGaps (hv : ∀ c ∈ v, isMild c = true) (hr : Closes rest) :
    Behind v rest (skipGaps (v ++ rest)) := by
  have hfrom : ∀ fuel, Behind v rest (skipGapsWith fuel (v ++ rest)) := by
    intro fuel
    induction fuel generalizing v with
    | zero => exact Behind.self v rest
    | succ fuel ih =>
      cases v with
      | nil => obtain ⟨c, cs, rfl, rfl | rfl | rfl⟩ := hr <;> exact Behind.self [] _
      | cons c v =>
        unfold skipGapsWith
        split
        · next h =>
          obtain ⟨w, hw, htail⟩ := Behind.tail hr h (by decide)
          exact (not_special_front (fun c hc => hv c (hw.subset hc)) hr htail.symm
            (by decide)).elim
        · next h =>
          obtain ⟨rfl, rfl⟩ := List.cons.inj h
          exact Behind.ite (fun _ => (ih (List.forall_mem_cons.mp hv).2).cons) (Behind.self _ rest)
        · next h => cases h
  exact hfrom _

/-- Reading runs through a mild text that does not stop it. -/
theorem runTo_mild {stops : Char → Bool} (hv : ∀ c ∈ v, isMild c = true ∧ stops c = false)
    (hr : Closes rest) (hs : ∀ c ∈ rest.head?, stops c = true) {fuel : Nat}
    (hfuel : v.length < fuel) : runTo stops fuel (v ++ rest) = rest := by
  induction fuel generalizing v with
  | zero => exact absurd hfuel (Nat.not_lt_zero _)
  | succ fuel ih =>
    obtain ⟨w, hw, hskip⟩ := behind_skipGaps (fun c hc => (hv c hc).1) hr
    have hlen := hw.length_le
    have hwv := fun c hc => hv c (hw.subset hc)
    rw [runTo, hskip]
    cases w with
    | nil =>
      obtain ⟨c, cs, rfl, -⟩ := hr
      rw [List.nil_append]
      dsimp only
      rw [if_pos (hs c rfl)]
    | cons c w =>
      rw [List.forall_mem_cons] at hwv
      obtain ⟨⟨k, left⟩, htoken, hopen, u, hu, hleft⟩ :=
        token?_mild hwv.1.1 (fun c hc => (hwv.2 c hc).1) hr
      have hshort : u.length < fuel := by
        have hule := hu.length_le
        rw [List.length_cons] at hlen
        omega
      have hmore := ih (fun c hc => hwv.2 c (hu.subset hc)) hshort
      rw [List.cons_append]
      dsimp only at hleft ⊢
      rw [hwv.1.2, htoken, hleft]
      cases k with
      | opening b => cases hopen
      | _ => exact hmore

theorem untilStop_mild {stops : Char → Bool} (hv : ∀ c ∈ v, isMild c = true ∧ stops c = false)
    (hr : Closes rest) (hs : ∀ c ∈ rest.head?, stops c = true) :
    untilStop stops (v ++ rest) = (v, rest) := by
  have hrun : runTo stops ((v ++ rest).length + 1) (v ++ rest) = rest :=
    runTo_mild hv hr hs (by rw [List.length_append]; omega)
  rw [untilStop, hrun, List.length_append, Nat.add_sub_cancel, List.take_left]

theorem afterBlock_mild (hv : ∀ c ∈ v, isMild c = true) (after : List Char) :
    afterBlock .curly (v ++ '}' :: after) = after := by
  have hclose : Closes ('}' :: after) := ⟨_, _, rfl, .inr (.inr rfl)⟩
  have hfrom : ∀ fuel, v.length < fuel →
      afterBlocks fuel [.curly] (v ++ '}' :: after) = after := by
    intro fuel
    induction fuel generalizing v with
    | zero => exact fun h => absurd h (Nat.not_lt_zero _)
    | succ fuel ih =>
      intro hfuel
      cases v with
      | nil => cases fuel <;> rfl
      | cons c v =>
        rw [List.forall_mem_cons] at hv
        obtain ⟨⟨k, left⟩, htoken, hopen, u, hu, hleft⟩ := token?_mild hv.1 hv.2 hclose
        have hshort : u.length < fuel := by
          have hule := hu.length_le
          rw [List.length_cons] at hfuel
          omega
        have hmore := ih (fun c hc => hv.2 c (hu.subset hc)) hshort
        dsimp only at hleft
        rw [List.cons_append, afterBlocks, htoken, hleft]
        cases k with
        | opening b => cases hopen
        | closing b => cases hopen
        | _ => exact hmore
  exact hfrom _ (by rw [List.length_append, List.length_cons]; omega)

/-! ## Blanks -/

theorem skipGaps_spaces (n : Nat) {c : Char} (hc : isGap c = false ∧ c ≠ '/') (cs : List Char) :
    skipGaps (List.replicate n ' ' ++ c :: cs) = c :: cs := by
  induction n with
  | zero =>
    rw [List.replicate_zero, List.nil_append, skipGaps, List.length_cons]
    unfold skipGapsWith
    split
    · next h => exact absurd (List.cons.inj h).1 hc.2
    · next h => rw [← (List.cons.inj h).1, if_neg (by rw [hc.1]; decide)]
    · next h => cases h
  | succ n ih =>
    rw [List.replicate_succ, List.cons_append]
    exact ih

end

end Lettermill.Css
