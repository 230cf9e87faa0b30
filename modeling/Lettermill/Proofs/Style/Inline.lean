import Lettermill.Proofs.Dict
import Lettermill.Proofs.Text.Run
import Lettermill.Style.Declaration
/-! What the text of a `style` attribute resolves to, whatever the text is. The rule is stated apart
from the way in which it is carried out: the pieces between semicolons, what a piece sets if it sets
anything, and the list of all settings. A value is cut in front of its exclamation mark at an offset
in bytes that is reckoned in a copy in lower case; the offset never falls inside a character. Main
statement: every attribute has the value of the last piece that sets it, at the place of the first,
and two texts joined by a semicolon resolve as one after the other. -/
namespace Lettermill
set_option autoImplicit false
open Text

/-! ## Lower case -/

namespace Text

theorem isBlank_lowerChar (c : Char) : isBlank (lowerChar c) = isBlank c :=
  lowerChar_spec isBlank (by decide +kernel) c

theorem utf8Size_lowerChar (c : Char) : (lowerChar c).utf8Size = c.utf8Size :=
  lowerChar_spec Char.utf8Size (by decide +kernel) c

theorem lowerChar_eq_mark_iff (c : Char) : lowerChar c = '!' ↔ c = '!' := by
  have h := lowerChar_spec (fun c => decide (c = '!')) (by decide +kernel) c
  simpa using h

theorem lowerChars_append (cs ds : List Char) :
    lowerChars (cs ++ ds) = lowerChars cs ++ lowerChars ds := List.map_append

theorem lowerChars_reverse (cs : List Char) : lowerChars cs.reverse = (lowerChars cs).reverse :=
  List.map_reverse

theorem dropWhile_lowerChars (cs : List Char) :
    (lowerChars cs).dropWhile isBlank = lowerChars (cs.dropWhile isBlank) := by
  induction cs with
  | nil => rfl
  | cons c cs ih =>
    rw [lowerChars, List.map_cons, List.dropWhile_cons, List.dropWhile_cons, isBlank_lowerChar,
      ← lowerChars, ih]
    split <;> rfl

theorem after?_lowerChars (piece cs : List Char) :
    after? piece (lowerChars cs) = (afterLetters? piece cs).map lowerChars := by
  induction piece generalizing cs with
  | nil => rfl
  | cons p piece ih =>
    cases cs with
    | nil => rfl
    | cons c cs =>
      rw [lowerChars, List.map_cons, after?, afterLetters?, ← lowerChars, ih]
      split <;> rfl

theorem size_lowerChars (cs : List Char) :
    (String.ofList (lowerChars cs)).utf8ByteSize = (String.ofList cs).utf8ByteSize := by
  induction cs with
  | nil => rfl
  | cons c cs ih =>
    have hsplit : ∀ d ds, (String.ofList (d :: ds)).utf8ByteSize
        = d.utf8Size + (String.ofList ds).utf8ByteSize := by
      intro d ds
      rw [← List.singleton_append, String.ofList_append, String.utf8ByteSize_append,
        ← String.singleton_eq_ofList, String.utf8ByteSize_singleton]
    rw [lowerChars, List.map_cons, hsplit, hsplit, utf8Size_lowerChar, ← lowerChars, ih]

/-- The text in front of an offset in bytes; there is none when the offset falls inside a character
or beyond the end. -/
def sliceTo? (s : String) (offset : Nat) : Option String :=
  if h : (String.Pos.Raw.mk offset).IsValid s then some (s.sliceTo ⟨⟨offset⟩, h⟩).copy else none

theorem sliceTo?_append (front back : String) :
    sliceTo? (front ++ back) front.utf8ByteSize = some front := by
  have hvalid : (String.Pos.Raw.mk front.utf8ByteSize).IsValid (front ++ back) :=
    String.Pos.Raw.isValid_iff_exists_append.mpr ⟨front, back, rfl, rfl⟩
  rw [sliceTo?, dif_pos hvalid]
  exact congrArg some (String.Pos.Splits.mk rfl rfl).copy_sliceTo_eq

end Text

namespace Style

/-! ## The mark at the end of a value -/

/-- The value is `front` with a mark behind it: an exclamation mark, blanks, and the word in any
case. -/
def EndsImportant (front value : List Char) : Prop :=
  ∃ blanks word, (∀ c ∈ blanks, isBlank c = true) ∧ lowerChars word = "important".toList
    ∧ value = front ++ '!' :: (blanks ++ word)

/-- What stands in front of the mark, if there is one. -/
def unmarked? (value : List Char) : Option (List Char) :=
  match afterLetters? "tnatropmi".toList value.reverse with
  | none => none
  | some behind =>
    match behind.dropWhile isBlank with
    | '!' :: before => some before.reverse
    | _ => none

theorem dropImportant_eq (value : List Char) :
    dropImportant value = ((unmarked? value).map trimRight).getD value := by
  unfold dropImportant unmarked?
  cases afterLetters? "tnatropmi".toList value.reverse with
  | none => rfl
  | some behind =>
    dsimp only
    cases behind.dropWhile isBlank with
    | nil => rfl
    | cons c before =>
      by_cases hc : c = '!'
      · subst hc
        simp [trimRight]
      · simp [hc]

theorem unmarked?_eq_some_iff {front value : List Char} :
    unmarked? value = some front ↔ EndsImportant front value := by
  constructor
  · intro h
    unfold unmarked? at h
    split at h
    case h_1 => cases h
    case h_2 behind hbehind =>
      split at h
      case h_2 => cases h
      case h_1 before hbefore =>
        obtain ⟨word, hword, hvalue⟩ := afterLetters?_eq_some_iff.mp hbehind
        have hrun := List.takeWhile_append_dropWhile (p := isBlank) (l := behind)
        rw [hbefore] at hrun
        refine ⟨(behind.takeWhile isBlank).reverse, word.reverse, fun c hc => ?_, ?_, ?_⟩
        · exact List.all_eq_true.mp List.all_takeWhile c (List.mem_reverse.mp hc)
        · rw [lowerChars_reverse, hword]
          rfl
        · have hwhole : value
              = (word ++ (behind.takeWhile isBlank ++ '!' :: before)).reverse := by
            rw [hrun, ← hvalue, List.reverse_reverse]
          rw [hwhole, ← Option.some.inj h]
          simp
  · rintro ⟨blanks, word, hblanks, hword, rfl⟩
    have hreverse : (front ++ '!' :: (blanks ++ word)).reverse
        = word.reverse ++ (blanks.reverse ++ '!' :: front.reverse) := by simp
    have hbehind : afterLetters? "tnatropmi".toList (front ++ '!' :: (blanks ++ word)).reverse
        = some (blanks.reverse ++ '!' :: front.reverse) := by
      refine afterLetters?_eq_some_iff.mpr ⟨word.reverse, ?_, hreverse⟩
      rw [lowerChars_reverse, hword]
      rfl
    have hrun : (blanks.reverse ++ '!' :: front.reverse).dropWhile isBlank
        = '!' :: front.reverse :=
      dropWhile_run (fun c hc => hblanks c (List.mem_reverse.mp hc))
        ((stops_cons isBlank '!' _).mpr (by decide))
    rw [unmarked?, hbehind]
    simp only [hrun, List.reverse_reverse]

/-- A value without the mark at its end. Only one mark is dropped. -/
inductive Unmarked : List Char → List Char → Prop where
  | marked {front value : List Char} (h : EndsImportant front value) :
      Unmarked value (trimChars front)
  | plain {value : List Char} (h : ∀ front, ¬ EndsImportant front value) : Unmarked value value

theorem unmarked_iff {source value : List Char} :
    Unmarked (trimChars source) value ↔ value = valueOf source := by
  have hfront : ∀ front, EndsImportant front (trimChars source) →
      trimChars front = valueOf source := by
    intro front h
    have hstart : Stops isBlank front := by
      obtain ⟨blanks, word, -, -, hvalue⟩ := h
      have hstops := stops_trimChars source
      rw [hvalue] at hstops
      cases front with
      | nil => exact stops_nil isBlank
      | cons c front => exact (stops_cons ..).mpr ((stops_cons ..).mp hstops)
    rw [valueOf, dropImportant_eq, unmarked?_eq_some_iff.mpr h, trimChars, trimLeft,
      dropWhile_of_stops hstart]
    rfl
  have hplain : (∀ front, ¬ EndsImportant front (trimChars source)) →
      trimChars source = valueOf source := by
    intro h
    have hnone : unmarked? (trimChars source) = none := by
      cases hcut : unmarked? (trimChars source) with
      | none => rfl
      | some front => exact absurd (unmarked?_eq_some_iff.mp hcut) (h front)
    rw [valueOf, dropImportant_eq, hnone]
    rfl
  constructor
  · rintro (h | h)
    · exact hfront _ h
    · exact hplain h
  · rintro rfl
    by_cases h : ∃ front, EndsImportant front (trimChars source)
    · obtain ⟨front, h⟩ := h
      rw [← hfront front h]
      exact .marked h
    · have hnone := not_exists.mp h
      have hsame := Unmarked.plain hnone
      rwa [hplain hnone] at hsame ⊢

/-! ## Offsets -/

/-- The offset in bytes of the exclamation mark, reckoned in the copy in lower case. -/
def markOffset? (value : List Char) : Option Nat :=
  match after? "tnatropmi".toList (lowerChars value).reverse with
  | none => none
  | some behind =>
    let front := trimRight behind.reverse
    if front.getLast? = some '!' then some ((String.ofList front).utf8ByteSize - 1) else none

theorem markOffset?_eq (value : List Char) :
    markOffset? value = (unmarked? value).map fun front => (String.ofList front).utf8ByteSize := by
  rw [markOffset?, unmarked?, ← lowerChars_reverse, after?_lowerChars]
  cases afterLetters? "tnatropmi".toList value.reverse with
  | none => rfl
  | some behind =>
    have hfront : trimRight (lowerChars behind).reverse
        = lowerChars (behind.dropWhile isBlank).reverse := by
      rw [trimRight, List.reverse_reverse, dropWhile_lowerChars, lowerChars_reverse]
    simp only [Option.map_some, hfront]
    cases hrun : behind.dropWhile isBlank with
    | nil => rfl
    | cons c before =>
      have hlast : (lowerChars (c :: before).reverse).getLast? = some (lowerChar c) := by
        rw [List.reverse_cons, lowerChars_append]
        exact List.getLast?_concat
      simp only [hlast, Option.some.injEq, lowerChar_eq_mark_iff]
      by_cases hc : c = '!'
      · subst hc
        rw [if_pos rfl, size_lowerChars, List.reverse_cons, String.ofList_append,
          String.utf8ByteSize_append]
        rfl
      · rw [if_neg hc]
        split
        case h_1 heq => exact absurd (List.cons.inj heq).1 hc
        case h_2 => rfl

/-- The value of a declaration, cut in front of the offset of its mark. -/
def valueByOffset? (source : List Char) : Option (List Char) :=
  let value := trimChars source
  match markOffset? value with
  | none => some value
  | some offset => (sliceTo? (String.ofList value) offset).map fun front => trimRight front.toList

/-- The offset of the mark falls between two characters, and the text in front of it is the value. -/
theorem valueByOffset?_eq (source : List Char) : valueByOffset? source = some (valueOf source) := by
  rw [valueByOffset?, markOffset?_eq, valueOf, dropImportant_eq]
  cases hcut : unmarked? (trimChars source) with
  | none => rfl
  | some front =>
    obtain ⟨blanks, word, -, -, hvalue⟩ := unmarked?_eq_some_iff.mp hcut
    have hslice := sliceTo?_append (String.ofList front) (String.ofList ('!' :: (blanks ++ word)))
    rw [← String.ofList_append, ← hvalue] at hslice
    simp only [Option.map_some, hslice, String.toList_ofList, Option.getD_some]

/-- The declaration in a piece, if there is one; none at all when its value cannot be cut. -/
def pieceByOffset? (piece : List Char) : Option (Option Declaration) :=
  match cutOnce? ':' piece with
  | none => some none
  | some (name, rest) => (valueByOffset? rest).map fun value =>
    let property := lowerChars (trimChars name)
    if property.isEmpty || value.isEmpty then none
    else some ⟨String.ofList property, String.ofList value⟩

/-- What the text of a `style` attribute sets when values are cut by offsets. -/
def resolveByOffset? (style : String) : Option Attributes :=
  ((cutAt ';' style.toList).mapM pieceByOffset?).map fun ds => resolveDeclarations (ds.filterMap id)

theorem pieceByOffset?_eq (piece : List Char) :
    pieceByOffset? piece = some (Declaration.ofPiece? piece) := by
  rw [pieceByOffset?, Declaration.ofPiece?]
  cases cutOnce? ':' piece with
  | none => rfl
  | some cut =>
    obtain ⟨name, rest⟩ := cut
    simp only [valueByOffset?_eq, Option.map_some]

theorem resolveByOffset?_eq (style : String) :
    resolveByOffset? style = some (resolveInline style) := by
  have hpieces : pieceByOffset? = fun piece => some (Declaration.ofPiece? piece) :=
    funext pieceByOffset?_eq
  have hall : (cutAt ';' style.toList).mapM pieceByOffset?
      = some ((cutAt ';' style.toList).map Declaration.ofPiece?) := by
    rw [hpieces]
    exact List.mapM_pure
  rw [resolveByOffset?, hall, Option.map_some, List.filterMap_map, Function.id_comp]
  rfl

/-! ## Settings -/

/-- The piece sets the attribute `name` to `value`: its property, in front of the first colon, is one
that the table knows, and its value is not empty. -/
def Sets (piece : List Char) (name value : String) : Prop :=
  ∃ before after, ':' ∉ before ∧ piece = before ++ ':' :: after
    ∧ attributeFor? (String.ofList (lowerChars (trimChars before))) = some name
    ∧ Unmarked (trimChars after) value.toList ∧ value ≠ ""

/-- What pieces set, one after the other; a piece that sets nothing is passed over. -/
inductive SetInTurn : List (List Char) → List (String × String) → Prop where
  | nil : SetInTurn [] []
  | effective {piece : List Char} {pieces : List (List Char)} {name value : String}
      {settings : List (String × String)} (h : Sets piece name value)
      (hrest : SetInTurn pieces settings) : SetInTurn (piece :: pieces) ((name, value) :: settings)
  | idle {piece : List Char} {pieces : List (List Char)} {settings : List (String × String)}
      (h : ∀ name value, ¬ Sets piece name value) (hrest : SetInTurn pieces settings) :
      SetInTurn (piece :: pieces) settings

theorem sets_iff {piece : List Char} {name value : String} :
    Sets piece name value
      ↔ (Declaration.ofPiece? piece).bind Declaration.attribute? = some (name, value) := by
  rw [Declaration.ofPiece?]
  constructor
  · rintro ⟨before, after, hbefore, rfl, hknown, hvalue, hne⟩
    rw [unmarked_iff] at hvalue
    have hproperty : lowerChars (trimChars before) ≠ [] := by
      have hunknown : attributeFor? (String.ofList []) = none := by decide
      intro hnil
      rw [hnil, hunknown] at hknown
      cases hknown
    rw [cutOnce?_front hbefore]
    simp [hproperty, hne, Declaration.attribute?, hknown, ← hvalue]
  · intro h
    cases hcut : cutOnce? ':' piece with
    | none =>
      rw [hcut] at h
      cases h
    | some cut =>
      obtain ⟨before, after⟩ := cut
      obtain ⟨hbefore, hpiece⟩ := cutOnce?_eq_some_iff.mp hcut
      rw [hcut] at h
      dsimp only at h
      split at h
      case isTrue => cases h
      case isFalse hfilled =>
        obtain ⟨found, hknown, hpair⟩ := Option.map_eq_some_iff.mp h
        obtain ⟨rfl, rfl⟩ := Prod.mk.inj hpair
        refine ⟨before, after, hbefore, hpiece, hknown, ?_, ?_⟩
        · rw [unmarked_iff, String.toList_ofList]
        · intro hnil
          rw [String.ofList_eq_empty_iff] at hnil
          simp [hnil] at hfilled

theorem setInTurn_iff {pieces : List (List Char)} {settings : List (String × String)} :
    SetInTurn pieces settings ↔ settings
      = pieces.filterMap fun piece =>
          (Declaration.ofPiece? piece).bind Declaration.attribute? := by
  constructor
  · intro h
    induction h with
    | nil => rfl
    | effective h _ ih => rw [List.filterMap_cons, sets_iff.mp h, ih]
    | @idle piece pieces settings h _ ih =>
      have hnone : (Declaration.ofPiece? piece).bind Declaration.attribute? = none := by
        cases hset : (Declaration.ofPiece? piece).bind Declaration.attribute? with
        | none => rfl
        | some pair => exact absurd (sets_iff.mpr hset) (h pair.1 pair.2)
      rw [List.filterMap_cons, hnone, ih]
  · rintro rfl
    induction pieces with
    | nil => exact .nil
    | cons piece pieces ih =>
      rw [List.filterMap_cons]
      cases hset : (Declaration.ofPiece? piece).bind Declaration.attribute? with
      | none =>
        refine .idle (fun name value hsets => ?_) ih
        rw [sets_iff.mp hsets] at hset
        cases hset
      | some pair => exact .effective (sets_iff.mpr hset) ih

theorem resolveInline_eq (style : String) :
    resolveInline style = Dict.ofList ((style.toList.splitOn ';').filterMap fun piece =>
      (Declaration.ofPiece? piece).bind Declaration.attribute?) := by
  rw [resolveInline, resolveDeclarations, Declaration.ofStyle, List.filterMap_filterMap,
    cutAt_eq_splitOn]

theorem resolveInline_append (style other : String) :
    resolveInline (style ++ ";" ++ other)
      = (resolveInline style).overlay (resolveInline other) := by
  have hcut : Declaration.ofStyle (style ++ ";" ++ other)
      = Declaration.ofStyle style ++ Declaration.ofStyle other := by
    have hjoined : (style ++ ";" ++ other).toList = style.toList ++ ';' :: other.toList := by
      simp [String.toList_append]
    rw [Declaration.ofStyle, hjoined, cutAt_append, List.filterMap_append]
    rfl
  rw [resolveInline, hcut, resolveDeclarations, List.filterMap_append, Dict.ofList,
    Dict.insertAll_append, ← Dict.overlay_ofList]
  rfl

/-- **What a `style` attribute resolves to.** For every text no cut falls inside a character; the
pieces between its semicolons set certain attributes in turn, in one way only, of which each has its
last value at the place of its first; and a text, a semicolon and another text resolve to what the
one resolves to, with what the other resolves to over it. -/
theorem resolveInline_resolves (style other : String) :
    resolveByOffset? style = some (resolveInline style) ∧
    (∃ settings, (∀ es, SetInTurn (style.toList.splitOn ';') es ↔ es = settings) ∧
      (resolveInline style).keys = (settings.map Prod.fst).eraseDups ∧
      ∀ name, (resolveInline style).get? name = settings.reverse.lookup name) ∧
    resolveInline (style ++ ";" ++ other)
      = (resolveInline style).overlay (resolveInline other) := by
  refine ⟨resolveByOffset?_eq style, ⟨_, fun es => setInTurn_iff, ?_, fun name => ?_⟩,
    resolveInline_append style other⟩
  · rw [resolveInline_eq, Dict.keys_ofList]
  · rw [resolveInline_eq, Dict.get?_ofList]

example : (resolveInline "COLOR: é !important ! IMPORTANT;: 1;color:;height:2!important.").entries
    = [("color", "é !important"), ("height", "2!important.")] := by decide +kernel

end Style

end Lettermill
