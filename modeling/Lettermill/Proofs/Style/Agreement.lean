import Lettermill.Proofs.Style.Blocks
import Lettermill.Proofs.Style.Tokens
/-! Style attributes and style blocks read plain declarations alike. A plain declaration has a
property of letters and hyphens and a value without brackets, quotes, escapes and comments; a list of
them is cut by its semicolons and colons whether it is read as plain text or token by token. Main
statement: a class whose rule holds such a list gets what an element gets that has the list in its
`style` attribute. -/
namespace Lettermill
set_option autoImplicit false

namespace Css

theorem withoutComments_of_not_mem {cs : List Char} (h : '*' ∉ cs) (fuel : Nat) :
    withoutComments fuel cs = cs := by
  induction fuel generalizing cs with
  | zero => rfl
  | succ fuel ih =>
    cases cs with
    | nil => rfl
    | cons c cs =>
      rw [List.mem_cons, not_or] at h
      unfold withoutComments
      split
      · next rest => exact absurd List.mem_cons_self h.2
      · rw [ih h.2]

end Css

namespace Style
open Text

/-! ## Plain declarations -/

/-- The characters of a plain value. -/
def isPlain (c : Char) : Bool := isAlphanumeric c || " #%.,-_+!:/".toList.contains c

/-- A declaration as it is written: spaces, a property, spaces, a colon and a value. Spaces around the
value belong to it. -/
structure PlainDeclaration where
  front : Nat
  property : List Char
  back : Nat
  value : List Char
  named : ∃ first rest, property = first :: rest ∧ isLetter first = true
    ∧ ∀ c ∈ rest, isLetter c = true ∨ c = '-'
  plain : ∀ c ∈ value, isPlain c = true

theorem forall_mem_spaces {p : Char → Prop} (h : p ' ') {n : Nat} :
    ∀ c ∈ List.replicate n ' ', p c := by
  intro c hc
  rwa [List.eq_of_mem_replicate hc]

theorem not_mem_spaces {c : Char} (h : c ≠ ' ') {n : Nat} : c ∉ List.replicate n ' ' :=
  fun hc => h (List.eq_of_mem_replicate hc)

namespace PlainDeclaration

/-- What follows the property. -/
def tail (d : PlainDeclaration) : List Char := List.replicate d.back ' ' ++ ':' :: d.value

def text (d : PlainDeclaration) : List Char := List.replicate d.front ' ' ++ (d.property ++ d.tail)

/-- The property and the text behind the colon. -/
def written (d : PlainDeclaration) : List Char × List Char := (d.property, d.value)

end PlainDeclaration

/-- What ends a list of declarations: nothing, or a semicolon and spaces. -/
def listEnd : Option Nat → List Char
  | none => []
  | some n => ';' :: List.replicate n ' '

/-- Declarations with a semicolon between any two. -/
def listText (ds : List PlainDeclaration) (last : Option Nat) : List Char :=
  [';'].intercalate (ds.map PlainDeclaration.text) ++ listEnd last

theorem listText_nil (last : Option Nat) : listText [] last = listEnd last := rfl

theorem listText_singleton (d : PlainDeclaration) (last : Option Nat) :
    listText [d] last = d.text ++ listEnd last := by
  rw [listText, List.map_singleton, List.intercalate_singleton]

theorem listText_cons_cons (d e : PlainDeclaration) (ds : List PlainDeclaration)
    (last : Option Nat) : listText (d :: e :: ds) last = d.text ++ ';' :: listText (e :: ds) last := by
  rw [listText, List.map_cons, List.map_cons, List.intercalate_cons_cons, listText, List.map_cons]
  simp only [List.append_assoc, List.cons_append, List.nil_append]

/-! ## Characters -/

theorem isMild_of_isPlain {c : Char} (h : isPlain c = true) : Css.isMild c = true ∧ c ≠ ';' := by
  rw [isPlain, Bool.or_eq_true] at h
  constructor
  · rw [Css.isMild, Bool.or_eq_true]
    refine h.imp_right fun hc => ?_
    have hall : ∀ c ∈ " #%.,-_+!:/".toList, (" #%.,-_+!:/;".toList.contains c) = true :=
      forall_of_all (by decide)
    exact hall c (List.contains_iff_mem.mp hc)
  · rintro rfl
    exact absurd h (by decide)

namespace PlainDeclaration

theorem property_chars (d : PlainDeclaration) {c : Char} (hc : c ∈ d.property) :
    Css.isMild c = true ∧ isBlank c = false ∧ Css.isNameChar c = true
      ∧ c ∉ [';', ':', '\\', '\x00'] := by
  obtain ⟨first, rest, hproperty, hfirst, hrest⟩ := d.named
  rw [hproperty] at hc
  have hkind : isLetter c = true ∨ c = '-' := by
    rcases List.mem_cons.mp hc with rfl | hc
    · exact .inl hfirst
    · exact hrest c hc
  rcases hkind with h | rfl
  · have hall := of_ascii (q := fun c => Css.isMild c && !isBlank c && Css.isNameChar c
      && !(List.contains [';', ':', '\\', '\x00'] c)) (by decide +kernel) (toNat_of_isLetter h) h
    simpa [and_assoc] using hall
  · decide

theorem property_ne_nil (d : PlainDeclaration) : d.property ≠ [] := by
  obtain ⟨first, rest, hproperty, -⟩ := d.named
  rw [hproperty]
  exact List.cons_ne_nil _ _

theorem mild_text (d : PlainDeclaration) : ∀ c ∈ d.text, Css.isMild c = true ∧ c ≠ ';' := by
  intro c hc
  rw [text, tail, List.mem_append, List.mem_append, List.mem_append, List.mem_cons] at hc
  have hspace : Css.isMild ' ' = true ∧ ' ' ≠ ';' := by decide
  rcases hc with hc | hc | hc | rfl | hc
  · exact List.eq_of_mem_replicate hc ▸ hspace
  · obtain ⟨hmild, -, -, hout⟩ := d.property_chars hc
    exact ⟨hmild, fun e => hout (by rw [e]; decide)⟩
  · exact List.eq_of_mem_replicate hc ▸ hspace
  · decide
  · exact isMild_of_isPlain (d.plain c hc)

end PlainDeclaration

theorem mild_listText (ds : List PlainDeclaration) (last : Option Nat) :
    ∀ c ∈ listText ds last, Css.isMild c = true := by
  have hlast : ∀ c ∈ listEnd last, Css.isMild c = true := by
    cases last with
    | none => exact fun c hc => absurd hc List.not_mem_nil
    | some n => exact List.forall_mem_cons.mpr ⟨by decide, forall_mem_spaces (by decide)⟩
  match ds with
  | [] => exact hlast
  | [d] =>
    intro c hc
    rw [listText_singleton, List.mem_append] at hc
    exact hc.elim (fun h => (d.mild_text c h).1) (hlast c)
  | d :: e :: ds =>
    intro c hc
    rw [listText_cons_cons, List.mem_append, List.mem_cons] at hc
    rcases hc with hc | rfl | hc
    · exact (d.mild_text c hc).1
    · decide
    · exact mild_listText (e :: ds) last c hc

/-! ## As plain text -/

theorem valueOf_trimChars (cs : List Char) : valueOf (trimChars cs) = valueOf cs := by
  rw [valueOf, valueOf, trimChars_trimChars]

theorem ofPiece?_text (d : PlainDeclaration) :
    Declaration.ofPiece? d.text = Css.declaration? d.property d.value := by
  have hcolon : ':' ∉ List.replicate d.front ' ' ++ (d.property ++ List.replicate d.back ' ') := by
    rw [List.mem_append, List.mem_append]
    rintro (h | h | h)
    · exact not_mem_spaces (by decide) h
    · exact (d.property_chars h).2.2.2 (by decide)
    · exact not_mem_spaces (by decide) h
  have hcut : cutOnce? ':' d.text
      = some (List.replicate d.front ' ' ++ (d.property ++ List.replicate d.back ' '), d.value) := by
    rw [← cutOnce?_front hcolon d.value, PlainDeclaration.text, PlainDeclaration.tail]
    simp only [List.append_assoc]
  have hname : trimChars (List.replicate d.front ' ' ++ (d.property ++ List.replicate d.back ' '))
      = d.property :=
    trimChars_between (forall_mem_spaces (by decide)) (forall_mem_spaces (by decide))
      (fun c h => (d.property_chars h).2.1) d.property_ne_nil
  have hstar : '*' ∉ d.value := fun h =>
    Css.not_mem_special (isMild_of_isPlain (d.plain _ h)).1 (by decide)
  have hproperty : (lowerChars d.property).isEmpty = false := by
    rw [lowerChars, List.isEmpty_map, List.isEmpty_eq_false_iff]
    exact d.property_ne_nil
  rw [Declaration.ofPiece?, hcut, Css.declaration?, Css.plainText,
    Css.withoutComments_of_not_mem hstar, valueOf_trimChars]
  dsimp only
  rw [hname, hproperty, Bool.false_or]
  cases valueOf d.value with
  | nil => rfl
  | cons c cs => rfl

theorem ofPiece?_spaces (n : Nat) : Declaration.ofPiece? (List.replicate n ' ') = none := by
  rw [Declaration.ofPiece?, cutOnce?_eq_none (not_mem_spaces (by decide))]

theorem pieces_listText (ds : List PlainDeclaration) (last : Option Nat) :
    (cutAt ';' (listText ds last)).filterMap Declaration.ofPiece?
      = ds.filterMap fun d => Css.declaration? d.property d.value := by
  have htext : ∀ d : PlainDeclaration, ';' ∉ d.text := fun d h => (d.mild_text _ h).2 rfl
  have hspaces : ∀ n, ';' ∉ List.replicate n ' ' := fun n => not_mem_spaces (by decide)
  match ds with
  | [] =>
    cases last with
    | none => rfl
    | some n =>
      rw [listText_nil, listEnd, cutAt, if_pos rfl, cutAt_of_not_mem (hspaces n),
        List.filterMap_cons, List.filterMap_cons, ofPiece?_spaces]
      rfl
  | [d] =>
    cases last with
    | none =>
      rw [listText_singleton, listEnd, List.append_nil, cutAt_of_not_mem (htext d),
        List.filterMap_cons, ofPiece?_text, List.filterMap_cons]
      rfl
    | some n =>
      rw [listText_singleton, listEnd, cutAt_front (htext d), cutAt_of_not_mem (hspaces n),
        List.filterMap_cons, ofPiece?_text, List.filterMap_cons, ofPiece?_spaces,
        List.filterMap_cons]
      rfl
  | d :: e :: ds =>
    rw [listText_cons_cons, cutAt_front (htext d), List.filterMap_cons, ofPiece?_text,
      pieces_listText (e :: ds) last]
    rfl

end Style

open Style Text

namespace Css

/-! ## Token by token -/

theorem token?_letter {c : Char} (hc : isLetter c = true) (cs : List Char) :
    token? (c :: cs) = some (nameLike (c :: cs)) := by
  have hall := of_ascii (q := fun c => !isGap c && !isDigit c && startsNameChar c)
    (by decide +kernel) (toNat_of_isLetter hc) hc
  have hkind : (isGap c = false ∧ isDigit c = false) ∧ startsNameChar c = true := by
    simpa using hall
  refine congrArg some ?_
  rw [hkind.1.1, if_neg (by decide)]
  split
  all_goals try exact absurd hc (by decide)
  rw [hkind.1.2, if_neg (by decide), if_pos hkind.2]

theorem blockFrom_semicolon (fuel : Nat) (cs : List Char) :
    blockFrom (fuel + 1) (';' :: cs) = blockFrom fuel cs := rfl

theorem blockFrom_spaces (n fuel : Nat) (cs : List Char) :
    blockFrom fuel (List.replicate n ' ' ++ '}' :: cs) = .ok [] := by
  cases fuel with
  | zero => rfl
  | succ fuel =>
    rw [blockFrom, skipGaps_spaces n (by decide)]
    rfl

theorem token?_property (d : PlainDeclaration) (rest : List Char) :
    token? (d.property ++ (d.tail ++ rest)) = some (.name d.property, d.tail ++ rest) := by
  have hhead : ∃ c ∈ [' ', ':'], (d.tail ++ rest).head? = some c := by
    rw [PlainDeclaration.tail]
    cases d.back with
    | zero => exact ⟨':', by decide, rfl⟩
    | succ n => exact ⟨' ', by decide, rfl⟩
  obtain ⟨c, hc, hhead⟩ := hhead
  have hends : Stops isNameChar (d.tail ++ rest) ∧ c ≠ '\\' ∧ c ≠ '(' := by
    have hall : ∀ c ∈ [' ', ':'], isNameChar c = false ∧ c ≠ '\\' ∧ c ≠ '(' :=
      forall_of_all (by decide)
    refine ⟨fun x hx => ?_, (hall c hc).2⟩
    rw [hhead, Option.mem_some] at hx
    rw [← hx]
    exact (hall c hc).1
  have hname : name (d.property ++ (d.tail ++ rest)) = (d.property, d.tail ++ rest) := by
    refine name_run (fun c hc => ?_) hends.1 (by rw [hhead, Ne, Option.some.injEq]; exact hends.2.1)
    obtain ⟨-, -, hchar, hout⟩ := d.property_chars hc
    exact ⟨hchar, fun e => hout (by rw [e]; decide), fun e => hout (by rw [e]; decide)⟩
  have hround : (d.tail ++ rest).head? ≠ some '(' := by
    rw [hhead, Ne, Option.some.injEq]
    exact hends.2.2
  obtain ⟨first, more, hproperty, hfirst, -⟩ := d.named
  rw [← nameLike_of_name hname hround, hproperty, List.cons_append, token?_letter hfirst]

theorem blockFrom_text (d : PlainDeclaration) {rest : List Char}
    (hr : ∃ c cs, rest = c :: cs ∧ (c = ';' ∨ c = '}')) (fuel : Nat) :
    blockFrom (fuel + 1) (d.text ++ rest) = (blockFrom fuel rest).map (d.written :: ·) := by
  obtain ⟨first, more, hproperty, hfirst, -⟩ := d.named
  have hfront : isGap first = false ∧ first ≠ '/' ∧ first ≠ '}' := by
    have hall := of_ascii (q := fun c => !isGap c && c != '/' && c != '}')
      (by decide +kernel) (toNat_of_isLetter hfirst) hfirst
    simpa [and_assoc] using hall
  have hhere : skipGaps (d.text ++ rest) = d.property ++ (d.tail ++ rest) := by
    rw [PlainDeclaration.text, hproperty, List.append_assoc, List.append_assoc, List.cons_append,
      skipGaps_spaces d.front ⟨hfront.1, hfront.2.1⟩]
  have hcolon : skipGaps (d.tail ++ rest) = ':' :: (d.value ++ rest) := by
    rw [PlainDeclaration.tail, List.append_assoc, List.cons_append,
      skipGaps_spaces d.back (by decide)]
  have hvalue : untilStop (fun c => c = ';' || c = '}') (d.value ++ rest) = (d.value, rest) := by
    obtain ⟨c, cs, rfl, hc⟩ := hr
    refine untilStop_mild (fun x hx => ?_) ⟨c, cs, rfl, hc.imp_right .inr⟩ ?_
    · obtain ⟨hmild, hne⟩ := isMild_of_isPlain (d.plain x hx)
      have hcurly : x ≠ '}' := fun e => not_mem_special hmild (by rw [e]; decide)
      exact ⟨hmild, by simp [hne, hcurly]⟩
    · rcases hc with rfl | rfl <;> simp
  rw [blockFrom, hhere]
  split
  · next h => exact absurd (List.append_eq_nil_iff.mp h).1 d.property_ne_nil
  · next h =>
    rw [hproperty] at h
    exact absurd (List.cons.inj h).1 hfront.2.2
  · simp only [token?_property, hcolon, hvalue, PlainDeclaration.written]

theorem blockFrom_listText (ds : List PlainDeclaration) (last : Option Nat) {fuel : Nat}
    (hfuel : 2 * ds.length + 2 ≤ fuel) (after : List Char) :
    blockFrom fuel (listText ds last ++ '}' :: after)
      = .ok (ds.map PlainDeclaration.written) := by
  induction ds generalizing fuel with
  | nil =>
    obtain ⟨fuel, rfl⟩ : ∃ m, fuel = m + 1 := ⟨fuel - 1, by omega⟩
    cases last with
    | none => rfl
    | some n =>
      rw [listText_nil, listEnd, List.cons_append, blockFrom_semicolon, blockFrom_spaces]
      rfl
  | cons d ds ih =>
    rw [List.length_cons] at hfuel
    obtain ⟨fuel, rfl⟩ : ∃ m, fuel = m + 1 + 1 := ⟨fuel - 2, by omega⟩
    cases ds with
    | nil =>
      have hrest : ∃ c cs, listEnd last ++ '}' :: after = c :: cs ∧ (c = ';' ∨ c = '}') := by
        cases last with
        | none => exact ⟨_, _, rfl, .inr rfl⟩
        | some n => exact ⟨_, _, rfl, .inl rfl⟩
      rw [listText_singleton, List.append_assoc, blockFrom_text d hrest, ← listText_nil,
        ih (by omega)]
      rfl
    | cons e ds =>
      rw [listText_cons_cons, List.append_assoc, List.cons_append,
        blockFrom_text d ⟨_, _, rfl, .inl rfl⟩, blockFrom_semicolon, ih (by omega)]
      rfl

theorem length_listText (ds : List PlainDeclaration) (last : Option Nat) :
    2 * ds.length ≤ (listText ds last).length := by
  have htext : ∀ d : PlainDeclaration, 2 ≤ d.text.length := by
    intro d
    have hproperty := List.length_pos_iff.mpr d.property_ne_nil
    simp only [PlainDeclaration.text, PlainDeclaration.tail, List.length_append, List.length_cons]
    omega
  match ds with
  | [] => exact Nat.zero_le _
  | [d] =>
    have hd := htext d
    rw [listText_singleton, List.length_append, List.length_singleton]
    omega
  | d :: e :: ds =>
    have hd := htext d
    have hmore := length_listText (e :: ds) last
    rw [listText_cons_cons, List.length_append]
    simp only [List.length_cons] at hmore ⊢
    omega

/-! ## A rule for one class -/

theorem class_chars {name : List Char} (h : IsClassName name) :
    ∀ c ∈ '.' :: name, isMild c = true ∧ isBlank c = false ∧ c ≠ ',' := by
  intro c hc
  rcases List.mem_cons.mp hc with rfl | hc
  · decide
  · have hgoes := h.continues hc
    have hascii : c.toNat < 128 := by
      have hkind := hgoes
      simp only [continuesClass, startsClass, Bool.or_eq_true, beq_iff_eq] at hkind
      rcases hkind with ((h | rfl) | h) | rfl
      · exact toNat_of_isLetter h
      · decide
      · exact toNat_of_isDigit h
      · decide
    have hall := of_ascii (q := fun c => isMild c && !isBlank c && c != ',') (by decide +kernel)
      hascii hgoes
    simpa [and_assoc] using hall

theorem trim_class {name : List Char} (h : IsClassName name) :
    trimChars ('.' :: name) = '.' :: name := by
  have hblank : ∀ c ∈ ([] : List Char), isBlank c = true := fun _ hc => absurd hc List.not_mem_nil
  have hkept := trimChars_between hblank hblank (fun c hc => (class_chars h c hc).2.1)
    (List.cons_ne_nil '.' name)
  rwa [List.nil_append, List.append_nil] at hkept

theorem plainText_class {name : List Char} (h : IsClassName name) :
    plainText ('.' :: name) = '.' :: name := by
  have hstar : '*' ∉ '.' :: name := fun hc => not_mem_special (class_chars h _ hc).1 (by decide)
  rw [plainText, withoutComments_of_not_mem hstar, trim_class h]

theorem contains_classes {x : String} (hx : IsClassName x.toList)
    (written : List (List Char × List Char)) :
    (Rule.mk ('.' :: x.toList) written).classes.contains x = true := by
  have hcomma : ',' ∉ '.' :: x.toList := fun hc => (class_chars hx _ hc).2.2 rfl
  rw [List.contains_iff_mem, Rule.mem_classes]
  refine ⟨hx, ?_⟩
  rw [Rule.names, cutAt_of_not_mem hcomma, List.any_cons, trim_class hx, beq_self_eq_true]
  rfl

theorem rulesFrom_class (source : List Char) {name : List Char} (h : IsClassName name)
    (ds : List PlainDeclaration) (last : Option Nat) (fuel : Nat) :
    rulesFrom source (fuel + 1) ('.' :: (name ++ '{' :: (listText ds last ++ ['}'])))
      = .ok [⟨'.' :: name, ds.map PlainDeclaration.written⟩] := by
  have hselector : untilStop (· = '{') ('.' :: name ++ '{' :: (listText ds last ++ ['}']))
      = ('.' :: name, '{' :: (listText ds last ++ ['}'])) := by
    refine untilStop_mild (fun c hc => ?_) ⟨_, _, rfl, .inr (.inl rfl)⟩ (by simp)
    have hmild := (class_chars h c hc).1
    exact ⟨hmild, decide_eq_false fun e => not_mem_special hmild (by rw [e]; decide)⟩
  have hending : afterBlock .curly (listText ds last ++ ['}']) = [] :=
    afterBlock_mild (mild_listText ds last) []
  have hblock : blockFrom ((listText ds last ++ ['}']).length + 1) (listText ds last ++ ['}'])
      = .ok (ds.map PlainDeclaration.written) := by
    refine blockFrom_listText ds last ?_ []
    have hlen := length_listText ds last
    rw [List.length_append, List.length_singleton]
    omega
  have hend : rulesFrom source fuel [] = .ok [] := by
    cases fuel <;> rfl
  obtain ⟨left, htoken⟩ : ∃ left, token? ('.' :: (name ++ '{' :: (listText ds last ++ ['}'])))
      = some (.other, left) := ⟨_, rfl⟩
  have hstart : skipMarks ('.' :: (name ++ '{' :: (listText ds last ++ ['}'])))
      = '.' :: (name ++ '{' :: (listText ds last ++ ['}'])) := rfl
  rw [List.cons_append] at hselector
  rw [rulesFrom, hstart]
  simp only [htoken, hselector, hending, hblock, hend, plainText_class h]
  rfl

end Css

/-- A class whose rule holds plain declarations gets what an element gets that has them in its
`style` attribute, in the same order. -/
theorem ClassStyles.ofSheet_class {x : String} (hx : Css.IsClassName x.toList)
    (ds : List PlainDeclaration) (last : Option Nat) :
    ∃ styles, ClassStyles.ofSheet
        ("." ++ x ++ "\x7b" ++ String.ofList (listText ds last) ++ "\x7d") = .ok styles
      ∧ styles.get? x = some (resolveInline (String.ofList (listText ds last))) := by
  have hrules : Css.rules ("." ++ x ++ "\x7b" ++ String.ofList (listText ds last) ++ "\x7d")
      = .ok [⟨'.' :: x.toList, ds.map PlainDeclaration.written⟩] := by
    have htext : ("." ++ x ++ "\x7b" ++ String.ofList (listText ds last) ++ "\x7d").toList
        = '.' :: (x.toList ++ '{' :: (listText ds last ++ ['}'])) := by
      simp
    rw [Css.rules, htext, Css.rulesFrom_class _ hx]
  have hread : ClassStyles.ofSheet ("." ++ x ++ "\x7b" ++ String.ofList (listText ds last) ++ "\x7d")
      = .ok (List.foldl addRule ∅ [⟨'.' :: x.toList, ds.map PlainDeclaration.written⟩]) := by
    rw [ofSheet, hrules]
    rfl
  have hsame : Css.Rule.declarations ⟨'.' :: x.toList, ds.map PlainDeclaration.written⟩
      = Declaration.ofStyle (String.ofList (listText ds last)) := by
    rw [Declaration.ofStyle, String.toList_ofList, pieces_listText, Css.Rule.declarations,
      List.filterMap_map]
    rfl
  refine ⟨_, hread, ?_⟩
  rw [get?_ofSheet hread, hrules, Except.toOption, Option.getD_some, Css.given_singleton,
    if_pos (Css.contains_classes hx _), hsame, resolveInline]

theorem ClassStyles.ofSheet_class_title :
    Css.IsClassName "title".toList
    ∧ ∃ styles, ClassStyles.ofSheet
        ("." ++ "title" ++ "\x7b" ++ "color : #333 !important; align:;" ++ "\x7d") = .ok styles
      ∧ styles.get? "title" = some (resolveInline "color : #333 !important; align:;") := by
  have hname : Css.IsClassName "title".toList := (Css.isClassName_iff _).mp (by decide)
  have htext : String.ofList (listText
      [⟨0, "color".toList, 1, " #333 !important".toList,
          ⟨'c', "olor".toList, by decide, by decide, forall_of_all (by decide)⟩,
          forall_of_all (by decide)⟩,
        ⟨1, "align".toList, 0, [],
          ⟨'a', "lign".toList, by decide, by decide, forall_of_all (by decide)⟩,
          forall_of_all (by decide)⟩] (some 0))
      = "color : #333 !important; align:;" := by
    decide +kernel
  rw [← htext]
  exact ⟨hname, ClassStyles.ofSheet_class hname _ _⟩

end Lettermill
