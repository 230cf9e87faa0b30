import Lettermill.Proofs.Markup.Piece
/-! Pieces that nest, what they show, and their normal form. A list of pieces nests when every end
tag closes the start tag that was opened last and nothing stays open; it is balanced when it can
stand anywhere in such a list. `sitesOf` tells of every element which others it stands in. `glue` joins
the texts that stand in a row and drops empty ones, which changes neither the text, nor the elements,
nor the nesting. -/
namespace Lettermill.Markup
set_option autoImplicit false
open Text

/-! ## Nesting -/

/-- Does every end tag close the start tag opened last, with nothing left open at the end? The tags
in `opened` are those open so far, the innermost first. -/
def nests (opened : List String) : List Piece → Bool
  | [] => opened.isEmpty
  | .start tag _ :: rest => nests (tag :: opened) rest
  | .stop tag :: rest =>
    match opened with
    | [] => false
    | top :: below => top == tag && nests below rest
  | .text _ :: rest => nests opened rest
  | .comment _ :: rest => nests opened rest
  | .closed _ _ :: rest => nests opened rest

/-- Pieces that may stand anywhere: what they open they close. -/
def Balanced (ps : List Piece) : Prop :=
  ∀ (opened : List String) (rest : List Piece), nests opened (ps ++ rest) = nests opened rest

theorem Balanced.nests {ps : List Piece} (h : Balanced ps) : nests [] ps = true := by
  have hn := h [] []
  rw [List.append_nil] at hn
  rw [hn]
  rfl

theorem balanced_nil : Balanced [] := fun _ _ => rfl

theorem Balanced.append {ps qs : List Piece} (hp : Balanced ps) (hq : Balanced qs) :
    Balanced (ps ++ qs) := by
  intro opened rest
  rw [List.append_assoc, hp, hq]

theorem balanced_text (content : String) : Balanced [.text content] := fun _ _ => rfl

theorem balanced_comment (content : String) : Balanced [.comment content] := fun _ _ => rfl

theorem balanced_closed (tag : String) (vs : List (String × String)) :
    Balanced [.closed tag vs] := fun _ _ => rfl

/-- An element around other pieces, with a start and an end tag. -/
def bracket (tag : String) (vs : List (String × String)) (ps : List Piece) : List Piece :=
  .start tag vs :: (ps ++ [.stop tag])

theorem Balanced.bracket {ps : List Piece} (h : Balanced ps) (tag : String)
    (vs : List (String × String)) : Balanced (bracket tag vs ps) := by
  intro opened rest
  rw [Markup.bracket, List.cons_append, List.append_assoc, Markup.nests, h]
  simp [Markup.nests]

theorem nests_append {opened below : List String} {ps rest : List Piece}
    (h : nests opened ps = true) : nests (opened ++ below) (ps ++ rest) = nests below rest := by
  induction ps generalizing opened with
  | nil =>
    have hnone : opened = [] := List.isEmpty_iff.mp h
    rw [hnone, List.nil_append, List.nil_append]
  | cons p ps ih =>
    cases p with
    | stop tag =>
      cases opened with
      | nil => cases h
      | cons top opened =>
        rw [nests, Bool.and_eq_true] at h
        rw [List.cons_append, List.cons_append, nests, ih h.2, h.1, Bool.true_and]
    | start tag vs =>
      have hinner : nests (tag :: opened) ps = true := h
      exact ih hinner
    | _ =>
      have hinner : nests opened ps = true := h
      exact ih hinner

theorem balanced_of_nests {ps : List Piece} (h : nests [] ps = true) : Balanced ps :=
  fun _ _ => nests_append h

/-! ## What pieces show -/

def Piece.tag? : Piece → Option String
  | closed tag _ => some tag
  | start tag _ => some tag
  | _ => none

/-- The tags of the elements in pieces, outer ones before inner ones. -/
def tagsOf (ps : List Piece) : List String := ps.filterMap Piece.tag?

def Piece.shown : Piece → List Char
  | text content => content.toList
  | _ => []

/-- The text that stands outside tags and comments. -/
def shownOf (ps : List Piece) : List Char := ps.flatMap Piece.shown

@[simp] theorem tagsOf_append (ps qs : List Piece) : tagsOf (ps ++ qs) = tagsOf ps ++ tagsOf qs :=
  List.filterMap_append

@[simp] theorem shownOf_append (ps qs : List Piece) :
    shownOf (ps ++ qs) = shownOf ps ++ shownOf qs := List.flatMap_append

theorem tagsOf_bracket (tag : String) (vs : List (String × String)) (ps : List Piece) :
    tagsOf (bracket tag vs ps) = tag :: tagsOf ps := by
  rw [bracket, ← List.singleton_append, tagsOf_append, tagsOf_append]
  exact congrArg (List.cons tag) (List.append_nil _)

theorem shownOf_bracket (tag : String) (vs : List (String × String)) (ps : List Piece) :
    shownOf (bracket tag vs ps) = shownOf ps := by
  rw [bracket, ← List.singleton_append, shownOf_append, shownOf_append]
  exact List.append_nil _

def Piece.isBlank : Piece → Bool
  | text content => allBlank content
  | _ => false

theorem all_written (ps : List Piece) : (written ps).all Text.isBlank = ps.all Piece.isBlank := by
  induction ps with
  | nil => rfl
  | cons p ps ih =>
    rw [written_cons, List.all_append, ih, List.all_cons]
    have hopen : Text.isBlank '<' = false := by decide
    cases p <;> simp [Piece.written, Piece.isBlank, allBlank, hopen]

theorem tagsOf_of_blank {ps : List Piece} (h : ps.all Piece.isBlank = true) : tagsOf ps = [] := by
  rw [tagsOf, List.filterMap_eq_nil_iff]
  intro p hp
  have hb := List.all_eq_true.mp h p hp
  cases p <;> first | rfl | cases hb

theorem shownOf_of_blank {ps : List Piece} (h : ps.all Piece.isBlank = true) :
    ∀ c ∈ shownOf ps, Text.isBlank c = true := by
  intro c hc
  obtain ⟨p, hp, hcp⟩ := List.mem_flatMap.mp hc
  have hb := List.all_eq_true.mp h p hp
  cases p with
  | text content => exact List.all_eq_true.mp hb c hcp
  | _ => cases hb

/-! ## Where elements stand -/

/-- The tag of an element and the tags of the elements around it, the innermost first. -/
abbrev Site := String × List String

/-- The elements in pieces, in order, when the tags in `opened` are open around them. -/
def sitesOf (opened : List String) : List Piece → List Site
  | [] => []
  | .start tag _ :: rest => (tag, opened) :: sitesOf (tag :: opened) rest
  | .closed tag _ :: rest => (tag, opened) :: sitesOf opened rest
  | .stop _ :: rest => sitesOf opened.tail rest
  | _ :: rest => sitesOf opened rest

theorem sitesOf_append {inner opened : List String} {ps : List Piece} (h : nests inner ps = true)
    (rest : List Piece) :
    sitesOf (inner ++ opened) (ps ++ rest)
      = sitesOf (inner ++ opened) ps ++ sitesOf opened rest := by
  induction ps generalizing inner with
  | nil =>
    have hnone : inner = [] := List.isEmpty_iff.mp h
    rw [hnone]
    rfl
  | cons p ps ih =>
    cases p with
    | stop tag =>
      cases inner with
      | nil => cases h
      | cons top inner =>
        rw [nests, Bool.and_eq_true] at h
        exact ih h.2
    | start tag vs =>
      have hinner : nests (tag :: inner) ps = true := h
      exact congrArg (List.cons _) (ih hinner)
    | closed tag vs =>
      have hinner : nests inner ps = true := h
      exact congrArg (List.cons _) (ih hinner)
    | _ =>
      have hinner : nests inner ps = true := h
      exact ih hinner

theorem sitesOf_bracket {ps : List Piece} (h : nests [] ps = true) (opened : List String)
    (tag : String) (vs : List (String × String)) :
    sitesOf opened (bracket tag vs ps) = (tag, opened) :: sitesOf (tag :: opened) ps := by
  have hinner : sitesOf (tag :: opened) (ps ++ [.stop tag])
      = sitesOf (tag :: opened) ps ++ sitesOf (tag :: opened) [.stop tag] :=
    @sitesOf_append [] (tag :: opened) ps h _
  rw [bracket, sitesOf, hinner]
  exact congrArg (List.cons _) (List.append_nil _)

theorem map_fst_sitesOf (opened : List String) (ps : List Piece) :
    (sitesOf opened ps).map Prod.fst = tagsOf ps := by
  induction ps generalizing opened with
  | nil => rfl
  | cons p ps ih =>
    cases p with
    | start tag vs => exact congrArg (List.cons tag) (ih _)
    | closed tag vs => exact congrArg (List.cons tag) (ih _)
    | _ => exact ih _

theorem sitesOf_of_blank {ps : List Piece} (h : ps.all Piece.isBlank = true)
    (opened : List String) : sitesOf opened ps = [] := by
  rw [← List.map_eq_nil_iff (f := Prod.fst), map_fst_sitesOf]
  exact tagsOf_of_blank h

/-! ## Texts in a row -/

/-- Puts a text in front of pieces, joined to the text that they begin with, if any. -/
def pushText (s : String) : List Piece → List Piece
  | .text t :: rest => .text (s ++ t) :: rest
  | ps => if s = "" then ps else .text s :: ps

/-- The pieces with texts in a row joined and empty texts left out. -/
def glue : List Piece → List Piece
  | [] => []
  | .text s :: rest => pushText s (glue rest)
  | p :: rest => p :: glue rest

theorem glue_cons {p : Piece} (h : p.isText = false) (ps : List Piece) :
    glue (p :: ps) = p :: glue ps := by
  cases p with
  | text s => cases h
  | _ => rfl

theorem pushText_cases (s : String) (ps : List Piece) :
    (∃ t rest, ps = .text t :: rest ∧ pushText s ps = .text (s ++ t) :: rest) ∨
    (s = "" ∧ pushText s ps = ps) ∨
    (s ≠ "" ∧ (∀ p ∈ ps.head?, p.isText = false) ∧ pushText s ps = .text s :: ps) := by
  match ps with
  | .text t :: rest => exact .inl ⟨t, rest, rfl, rfl⟩
  | [] | .comment _ :: _ | .closed _ _ :: _ | .start _ _ :: _ | .stop _ :: _ =>
    by_cases hs : s = ""
    · exact .inr (.inl ⟨hs, by simp [pushText, hs]⟩)
    · exact .inr (.inr ⟨hs, by simp [Piece.isText], by simp [pushText, hs]⟩)

theorem view_glue {α : Type} (view : List Piece → α)
    (join : ∀ s t rest, view (.text s :: .text t :: rest) = view (.text (s ++ t) :: rest))
    (drop : ∀ rest, view (.text "" :: rest) = view rest)
    (step : ∀ p {ps qs}, view ps = view qs → view (p :: ps) = view (p :: qs)) (ps : List Piece) :
    view (glue ps) = view ps := by
  have push : ∀ s ps, view (pushText s ps) = view (.text s :: ps) := by
    intro s ps
    rcases pushText_cases s ps with ⟨t, rest, rfl, h⟩ | ⟨rfl, h⟩ | ⟨-, -, h⟩
    · rw [h, join]
    · rw [h, drop]
    · rw [h]
  induction ps with
  | nil => rfl
  | cons p ps ih =>
    cases p with
    | text s => rw [glue, push, step _ ih]
    | _ => exact step _ ih

@[simp] theorem written_glue (ps : List Piece) : written (glue ps) = written ps :=
  view_glue written (by simp [Piece.written]) (by simp [Piece.written]) (by simp_all) ps

@[simp] theorem tagsOf_glue (ps : List Piece) : tagsOf (glue ps) = tagsOf ps :=
  view_glue tagsOf (fun _ _ _ => rfl) (fun _ => rfl)
    (fun p _ _ h => by simp only [tagsOf, List.filterMap_cons] at h ⊢; rw [h]) ps

@[simp] theorem shownOf_glue (ps : List Piece) : shownOf (glue ps) = shownOf ps :=
  view_glue shownOf (by simp [shownOf, Piece.shown]) (by simp [shownOf, Piece.shown])
    (fun p _ _ h => by simp only [shownOf, List.flatMap_cons] at h ⊢; rw [h]) ps

theorem nests_glue (ps : List Piece) : (nests · (glue ps)) = (nests · ps) := by
  refine view_glue (fun ps => (nests · ps)) (fun _ _ _ => rfl) (fun _ => rfl) ?_ ps
  intro p ps qs h
  funext opened
  cases p with
  | stop tag =>
    cases opened with
    | nil => rfl
    | cons top below => exact congrArg (top == tag && ·) (congrFun h below)
  | start tag vs => exact congrFun h (tag :: opened)
  | _ => exact congrFun h opened

theorem sitesOf_glue (ps : List Piece) : (sitesOf · (glue ps)) = (sitesOf · ps) := by
  refine view_glue (fun ps => (sitesOf · ps)) (fun _ _ _ => rfl) (fun _ => rfl) ?_ ps
  intro p ps qs h
  funext opened
  cases p with
  | start tag vs => exact congrArg (List.cons _) (congrFun h (tag :: opened))
  | closed tag vs => exact congrArg (List.cons _) (congrFun h opened)
  | stop tag => exact congrFun h opened.tail
  | _ => exact congrFun h opened

theorem proper_glue {ps : List Piece} (h : ∀ p ∈ ps, p.Proper) : ∀ p ∈ glue ps, p.Proper := by
  induction ps with
  | nil => exact h
  | cons p ps ih =>
    rw [List.forall_mem_cons] at h
    have hrest := ih h.2
    cases p with
    | text s =>
      rw [glue]
      rcases pushText_cases s (glue ps) with ⟨t, rest, hg, e⟩ | ⟨-, e⟩ | ⟨-, -, e⟩
      · rw [e]
        rw [hg, List.forall_mem_cons] at hrest
        refine List.forall_mem_cons.mpr ⟨?_, hrest.2⟩
        rw [Piece.Proper, String.toList_append, List.mem_append, not_or]
        exact ⟨h.1, hrest.1⟩
      · rw [e]; exact hrest
      · rw [e]; exact List.forall_mem_cons.mpr ⟨h.1, hrest⟩
    | _ => exact List.forall_mem_cons.mpr ⟨h.1, hrest⟩

theorem apart_glue (ps : List Piece) : Apart (glue ps) ∧ .text "" ∉ glue ps := by
  induction ps with
  | nil => exact ⟨List.isChain_nil, List.not_mem_nil⟩
  | cons p ps ih =>
    obtain ⟨hapart, hfilled⟩ := ih
    cases p with
    | text s =>
      rw [glue]
      rcases pushText_cases s (glue ps) with ⟨t, rest, hg, e⟩ | ⟨-, e⟩ | ⟨hs, hhead, e⟩
      · rw [hg] at hapart hfilled
        rw [List.mem_cons, not_or] at hfilled
        have ht : t ≠ "" := fun h => hfilled.1 (h ▸ rfl)
        rw [e]
        refine ⟨?_, ?_⟩
        · exact List.isChain_cons.mpr ⟨(List.isChain_cons.mp hapart).1, hapart.tail⟩
        · rw [List.mem_cons, not_or]
          refine ⟨?_, hfilled.2⟩
          intro h
          rw [Piece.text.injEq, eq_comm, String.append_eq_empty_iff] at h
          exact ht h.2
      · rw [e]; exact ⟨hapart, hfilled⟩
      · rw [e]
        refine ⟨List.isChain_cons.mpr ⟨fun q hq => ?_, hapart⟩, ?_⟩
        · rw [hhead q hq]
          simp
        · rw [List.mem_cons, not_or]
          exact ⟨fun h => hs (Piece.text.inj h).symm, hfilled⟩
    | _ =>
      refine ⟨List.isChain_cons.mpr ⟨fun q _ => ?_, hapart⟩, ?_⟩
      · simp [Piece.isText]
      · rw [glue, List.mem_cons, not_or]
        · exact ⟨nofun, hfilled⟩
        · nofun

end Lettermill.Markup
