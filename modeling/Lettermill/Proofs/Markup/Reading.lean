import Lettermill.Proofs.Markup.Nesting
/-! Written markup and its pieces. `Reads m ps` says that `m` consists of proper pieces that nest;
every way in which markup is put together has a rule here. `Holds m sites seen` keeps of the pieces
where the elements stand and the characters that can be seen, and `Shows m tags seen` of the elements
only the tags. Main statement: markup that shows something has one splitting into pieces, which nest
and show just that. -/
namespace Lettermill.Markup
set_option autoImplicit false
open Text

/-! ## Attributes -/

/-- Attributes with the values as they are written. -/
def valuesOf (attrs : Attributes) : List (String × String) :=
  attrs.entries.map fun e => (e.1, escapeAttribute e.2)

/-- Are the names of all attributes fit to be written? -/
def Named (attrs : Attributes) : Prop := ∀ name ∈ attrs.keys, IsName name

instance (attrs : Attributes) : Decidable (Named attrs) :=
  inferInstanceAs (Decidable (∀ name ∈ attrs.keys, IsName name))

theorem toList_escapeAttribute (value : String) :
    (escapeAttribute value).toList = value.toList.flatMap attributeForm := String.toList_ofList

theorem toList_attributes (attrs : Attributes) :
    (attributes attrs).toList = writtenValues (valuesOf attrs) := by
  rw [attributes, valuesOf]
  induction attrs.entries with
  | nil => rfl
  | cons e es ih =>
    rw [List.map_cons, List.map_cons, String.join_cons, String.toList_append, ih, writtenValues,
      writtenValues, List.flatMap_cons]
    congr 1
    simp [attributePair, writtenValue, String.toList_append]

theorem quote_not_mem_escape (value : String) : '"' ∉ (escapeAttribute value).toList := by
  rw [toList_escapeAttribute, List.mem_flatMap]
  rintro ⟨c, -, hc⟩
  unfold attributeForm at hc
  split at hc
  case h_6 c h _ _ _ => exact h (List.mem_singleton.mp hc).symm
  all_goals exact absurd hc (by decide)

theorem Named.proper {attrs : Attributes} (h : Named attrs) :
    Piece.ProperValues (valuesOf attrs) := by
  intro v hv
  obtain ⟨e, he, rfl⟩ := List.mem_map.mp hv
  exact ⟨h e.1 (List.mem_map_of_mem he), quote_not_mem_escape e.2⟩

theorem named_empty : Named ∅ := fun _ h => absurd h List.not_mem_nil

/-! ## Reading -/

/-- The pieces make up the markup, are proper, and close what they open. -/
structure Reads (m : String) (ps : List Piece) : Prop where
  whole : written ps = m.toList
  proper : ∀ p ∈ ps, p.Proper
  balanced : Balanced ps

theorem Reads.nil : Reads "" [] := ⟨rfl, fun _ h => absurd h List.not_mem_nil, balanced_nil⟩

theorem Reads.append {m n : String} {ps qs : List Piece} (hm : Reads m ps) (hn : Reads n qs) :
    Reads (m ++ n) (ps ++ qs) := by
  refine ⟨?_, ?_, hm.balanced.append hn.balanced⟩
  · rw [written_append, hm.whole, hn.whole, String.toList_append]
  · intro p hp
    rcases List.mem_append.mp hp with h | h
    · exact hm.proper p h
    · exact hn.proper p h

theorem Reads.text {content : String} (h : '<' ∉ content.toList) :
    Reads content [.text content] := by
  refine ⟨?_, List.forall_mem_singleton.mpr h, balanced_text content⟩
  rw [written_cons, written_nil, List.append_nil]
  rfl

theorem Reads.comment {content : String} (h : ¬ commentEnd <:+: content.toList) :
    Reads ("<!--" ++ content ++ "-->") [.comment content] := by
  refine ⟨?_, List.forall_mem_singleton.mpr h, balanced_comment _⟩
  simp [Piece.written, String.toList_append, commentEnd]

/-- A comment may be written with a blank at either end. -/
theorem Reads.padded {content : String} (h : ¬ commentEnd <:+: content.toList) :
    Reads ("<!-- " ++ content ++ " -->") [.comment (" " ++ content ++ " ")] := by
  have hpad : "<!-- " ++ content ++ " -->" = "<!--" ++ (" " ++ content ++ " ") ++ "-->" := by
    apply String.toList_inj.mp
    simp [String.toList_append]
  rw [hpad]
  apply Reads.comment
  simpa [String.toList_append] using commentEnd_padded h

theorem Reads.selfClosing {tag : String} {attrs : Attributes} (ht : IsTag tag) (ha : Named attrs) :
    Reads (selfClosing tag attrs) [.closed tag (valuesOf attrs)] := by
  refine ⟨?_, List.forall_mem_singleton.mpr ⟨ht, ha.proper⟩, balanced_closed tag _⟩
  simp [Piece.written, Markup.selfClosing, String.toList_append, toList_attributes]

theorem written_bracket {tag m : String} {attrs : Attributes} {ps : List Piece}
    (h : written ps = m.toList) :
    written (bracket tag (valuesOf attrs) ps) = (full tag attrs m).toList := by
  simp [bracket, h, Piece.written, Markup.full, String.toList_append, toList_attributes]

theorem proper_bracket {tag : String} {attrs : Attributes} {ps : List Piece} (ht : IsTag tag)
    (ha : Named attrs) (h : ∀ p ∈ ps, p.Proper) :
    ∀ p ∈ bracket tag (valuesOf attrs) ps, p.Proper := by
  intro p hp
  rcases List.mem_cons.mp hp with rfl | hp
  · exact ⟨ht, ha.proper⟩
  · rcases List.mem_append.mp hp with hp | hp
    · exact h p hp
    · rw [List.mem_singleton.mp hp]
      exact ht

theorem Reads.full {tag m : String} {attrs : Attributes} {ps : List Piece} (ht : IsTag tag)
    (ha : Named attrs) (hm : Reads m ps) :
    Reads (full tag attrs m) (bracket tag (valuesOf attrs) ps) :=
  ⟨written_bracket hm.whole, proper_bracket ht ha hm.proper, hm.balanced.bracket tag _⟩

theorem wrap_eq_full (tag content : String) : wrap tag content = full tag ∅ content := by
  apply String.toList_inj.mp
  have h : (attributes ∅).toList = [] := rfl
  simp [wrap, full, String.toList_append, h]

theorem Reads.wrap {tag m : String} {ps : List Piece} (ht : IsTag tag) (hm : Reads m ps) :
    Reads (wrap tag m) (bracket tag [] ps) := by
  rw [wrap_eq_full]
  exact hm.full ht named_empty

theorem Reads.allBlank {m : String} {ps : List Piece} (h : Reads m ps) :
    allBlank m = ps.all Piece.isBlank := by
  rw [Text.allBlank, ← h.whole, all_written]

/-- The splitting that belongs to a reading: texts in a row are joined. -/
theorem Reads.splits {m : String} {ps : List Piece} (h : Reads m ps) : Splits m (glue ps) where
  whole := (written_glue ps).trans h.whole
  proper := proper_glue h.proper
  filled := (apart_glue ps).2
  apart := (apart_glue ps).1

theorem Reads.nests {m : String} {ps : List Piece} (h : Reads m ps) : nests [] (glue ps) = true :=
  (congrFun (nests_glue ps) []).trans h.balanced.nests

/-! ## What markup shows -/

/-- The characters that can be seen. -/
def unblank (cs : List Char) : List Char := cs.filter fun c => !isBlank c

theorem unblank_append (cs ds : List Char) : unblank (cs ++ ds) = unblank cs ++ unblank ds :=
  List.filter_append ..

theorem unblank_of_blank {cs : List Char} (h : ∀ c ∈ cs, isBlank c = true) : unblank cs = [] := by
  rw [unblank, List.filter_eq_nil_iff]
  intro c hc
  simp [h c hc]

/-- The markup reads as pieces whose elements stand at `sites`, for the tags that are open around the
markup, and outside which the characters `seen` can be seen. -/
def Holds (m : String) (sites : List String → List Site) (seen : List Char) : Prop :=
  ∃ ps, Reads m ps ∧ (∀ opened, sitesOf opened ps = sites opened) ∧ unblank (shownOf ps) = seen

section
variable {tag m n : String} {attrs : Attributes} {sites more : List String → List Site}
  {seen next : List Char}

theorem Holds.nil : Holds "" (fun _ => []) [] := ⟨[], Reads.nil, fun _ => rfl, rfl⟩

theorem Holds.text (h : '<' ∉ m.toList) : Holds m (fun _ => []) (unblank m.toList) :=
  ⟨[.text m], Reads.text h, fun _ => rfl, congrArg unblank (List.append_nil m.toList)⟩

theorem Holds.comment (h : ¬ commentEnd <:+: m.toList) :
    Holds ("<!-- " ++ m ++ " -->") (fun _ => []) [] := ⟨_, Reads.padded h, fun _ => rfl, rfl⟩

theorem Holds.append (hm : Holds m sites seen) (hn : Holds n more next) :
    Holds (m ++ n) (fun opened => sites opened ++ more opened) (seen ++ next) := by
  obtain ⟨ps, hps, hsites, rfl⟩ := hm
  obtain ⟨qs, hqs, hmore, rfl⟩ := hn
  refine ⟨ps ++ qs, hps.append hqs, fun opened => ?_, by rw [shownOf_append, unblank_append]⟩
  have hboth : sitesOf opened (ps ++ qs) = sitesOf opened ps ++ sitesOf opened qs :=
    @sitesOf_append [] opened ps hps.balanced.nests qs
  rw [hboth, hsites, hmore]

theorem Holds.full (ht : IsTag tag) (ha : Named attrs) (hm : Holds m sites seen) :
    Holds (full tag attrs m) (fun opened => (tag, opened) :: sites (tag :: opened)) seen := by
  obtain ⟨ps, hps, hsites, rfl⟩ := hm
  refine ⟨_, hps.full ht ha, fun opened => ?_, by rw [shownOf_bracket]⟩
  rw [sitesOf_bracket hps.balanced.nests, hsites]

theorem Holds.wrap (ht : IsTag tag) (hm : Holds m sites seen) :
    Holds (wrap tag m) (fun opened => (tag, opened) :: sites (tag :: opened)) seen := by
  rw [wrap_eq_full]
  exact hm.full ht named_empty

theorem Holds.selfClosing (ht : IsTag tag) (ha : Named attrs) :
    Holds (selfClosing tag attrs) (fun opened => [(tag, opened)]) [] :=
  ⟨_, Reads.selfClosing ht ha, fun _ => rfl, rfl⟩

theorem Holds.eq_nil (h : Holds m sites seen) (hb : allBlank m = true) :
    (∀ opened, sites opened = []) ∧ seen = [] := by
  obtain ⟨ps, hps, hsites, rfl⟩ := h
  rw [hps.allBlank] at hb
  exact ⟨fun opened => (hsites opened).symm.trans (sitesOf_of_blank hb opened),
    unblank_of_blank (shownOf_of_blank hb)⟩

/-- An element whose blank content is given up holds as much as with it. -/
theorem Holds.collapsed (ht : IsTag tag) (ha : Named attrs) (hm : Holds m sites seen)
    (hb : allBlank m = true) :
    Holds (Markup.selfClosing tag attrs) (fun opened => (tag, opened) :: sites (tag :: opened))
      seen := by
  obtain ⟨hsites, rfl⟩ := hm.eq_nil hb
  simp only [hsites]
  exact Holds.selfClosing ht ha

theorem Holds.splits (h : Holds m sites seen) :
    ∃ ps, Splits m ps ∧ (∀ qs, Splits m qs → qs = ps) ∧ nests [] ps = true ∧
      sitesOf [] ps = sites [] := by
  obtain ⟨ps, hps, hsites, -⟩ := h
  refine ⟨glue ps, hps.splits, fun _ hqs => hps.splits.unique hqs, hps.nests, ?_⟩
  exact (congrFun (sitesOf_glue ps) []).trans (hsites [])

end

/-- The markup reads as pieces whose elements have the tags `tags`, and outside which the
characters `seen` can be seen. -/
def Shows (m : String) (tags : List String) (seen : List Char) : Prop :=
  ∃ ps, Reads m ps ∧ tagsOf ps = tags ∧ unblank (shownOf ps) = seen

theorem Holds.shows {m : String} {sites : List String → List Site} {seen : List Char}
    (h : Holds m sites seen) : Shows m ((sites []).map Prod.fst) seen := by
  obtain ⟨ps, hps, hsites, hseen⟩ := h
  exact ⟨ps, hps, by rw [← hsites, map_fst_sitesOf], hseen⟩

theorem Shows.nil : Shows "" [] [] := ⟨[], Reads.nil, rfl, rfl⟩

theorem Shows.append {m n : String} {tags more : List String} {seen next : List Char}
    (hm : Shows m tags seen) (hn : Shows n more next) :
    Shows (m ++ n) (tags ++ more) (seen ++ next) := by
  obtain ⟨ps, hps, rfl, rfl⟩ := hm
  obtain ⟨qs, hqs, rfl, rfl⟩ := hn
  exact ⟨ps ++ qs, hps.append hqs, tagsOf_append ps qs, by rw [shownOf_append, unblank_append]⟩

theorem Shows.wrap {tag m : String} {tags : List String} {seen : List Char} (ht : IsTag tag)
    (hm : Shows m tags seen) : Shows (wrap tag m) (tag :: tags) seen := by
  obtain ⟨ps, hps, rfl, rfl⟩ := hm
  exact ⟨_, hps.wrap ht, tagsOf_bracket tag _ ps, by rw [shownOf_bracket]⟩

theorem Shows.splits {m : String} {tags : List String} {seen : List Char} (h : Shows m tags seen) :
    ∃ ps, Splits m ps ∧ (∀ qs, Splits m qs → qs = ps) ∧ nests [] ps = true ∧ tagsOf ps = tags ∧
      unblank (shownOf ps) = seen := by
  obtain ⟨ps, hps, rfl, rfl⟩ := h
  exact ⟨glue ps, hps.splits, fun _ hqs => hps.splits.unique hqs, hps.nests, tagsOf_glue ps,
    by rw [shownOf_glue]⟩

/-! ## Markup of one tag -/

/-- Markup from the opening bracket of a tag to the closing bracket of one. -/
def Bracketed (m : String) : Prop := ∃ cs, m.toList = '<' :: (cs ++ ['>'])

theorem Bracketed.not_blank {m : String} (h : Bracketed m) : Text.allBlank m = false := by
  obtain ⟨cs, hcs⟩ := h
  rw [Text.allBlank, hcs, List.all_cons, show Text.isBlank '<' = false by decide]
  rfl

theorem Bracketed.trim {m : String} (h : Bracketed m) : Text.trim m = m := by
  obtain ⟨cs, hcs⟩ := h
  exact trim_of_bracketed hcs

theorem bracketed_selfClosing (tag : String) (attrs : Attributes) :
    Bracketed (selfClosing tag attrs) :=
  ⟨tag.toList ++ ((attributes attrs).toList ++ [' ', '/']), by
    simp [selfClosing, String.toList_append]⟩

theorem bracketed_full (tag : String) (attrs : Attributes) (content : String) :
    Bracketed (full tag attrs content) :=
  ⟨tag.toList ++ ((attributes attrs).toList ++ '>' :: (content.toList ++ '<' :: '/' :: tag.toList)),
    by simp [full, String.toList_append]⟩

theorem bracketed_wrap (tag content : String) : Bracketed (wrap tag content) := by
  rw [wrap_eq_full]
  exact bracketed_full tag ∅ content

/-! ## Markup of one element -/

/-- The pieces of one element: a tag that closes itself, or a start tag and its end tag around
pieces that nest. -/
def Single (tag : String) (ps : List Piece) : Prop :=
  ∃ vs, ps = [.closed tag vs] ∨ ∃ inner, ps = bracket tag vs inner ∧ nests [] inner = true

/-- The markup is one element and nothing besides, in the one way in which it can be read. -/
def IsElement (tag m : String) : Prop :=
  ∃ ps, Splits m ps ∧ (∀ qs, Splits m qs → qs = ps) ∧ Single tag ps

theorem Splits.isElement {tag m : String} {ps : List Piece} (h : Splits m ps)
    (hs : Single tag ps) : IsElement tag m := ⟨ps, h, fun _ hqs => h.unique hqs, hs⟩

theorem IsElement.selfClosing {tag : String} {attrs : Attributes} (ht : IsTag tag)
    (ha : Named attrs) : IsElement tag (selfClosing tag attrs) :=
  (Reads.selfClosing ht ha).splits.isElement ⟨_, .inl rfl⟩

theorem Apart.bracket {ps : List Piece} (h : Apart ps) (tag : String)
    (vs : List (String × String)) : Apart (bracket tag vs ps) := by
  refine List.isChain_cons.mpr ⟨fun q _ => by simp [Piece.isText], ?_⟩
  refine List.isChain_append.mpr ⟨h, List.isChain_singleton _, ?_⟩
  intro p _ q hq
  rw [List.head?_cons, Option.mem_some_iff] at hq
  simp [← hq, Piece.isText]

theorem Splits.full {tag m : String} {attrs : Attributes} {ps : List Piece} (ht : IsTag tag)
    (ha : Named attrs) (h : Splits m ps) :
    Splits (full tag attrs m) (bracket tag (valuesOf attrs) ps) where
  whole := written_bracket h.whole
  proper := proper_bracket ht ha h.proper
  filled := by simp [Markup.bracket, h.filled]
  apart := h.apart.bracket tag _

theorem IsElement.full {tag m : String} {attrs : Attributes} {ps : List Piece} (ht : IsTag tag)
    (ha : Named attrs) (hm : Reads m ps) : IsElement tag (full tag attrs m) :=
  (hm.splits.full ht ha).isElement ⟨_, .inr ⟨_, rfl, hm.nests⟩⟩

end Lettermill.Markup
