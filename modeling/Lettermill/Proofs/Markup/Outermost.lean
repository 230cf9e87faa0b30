import Lettermill.Proofs.Markup.Reading
/-! The outermost elements of markup, read back from its pieces by counting the elements that are open.
Nothing in pieces that nest can close an element around them, so markup put together from several
parts has the outermost elements of each, one part after the other. Main statement: what is known of
the outermost elements of markup in the making holds of its one splitting into pieces. -/
namespace Lettermill.Markup
set_option autoImplicit false
open Text

/-- How many elements are open behind a piece, if `depth` are open in front of it. -/
def Piece.depthBehind (depth : Nat) : Piece → Nat
  | start _ _ => depth + 1
  | stop _ => depth - 1
  | _ => depth

/-- Reads pieces with `depth` elements open: the pieces up to the end of the outermost one that is open,
and the outermost elements behind it. -/
def outermostFrom : Nat → List Piece → List Piece × List (List Piece)
  | _, [] => ([], [])
  | depth, p :: ps =>
    let (inner, others) := outermostFrom (p.depthBehind depth) ps
    if depth ≠ 0 then (p :: inner, others)
    else if p.tag?.isSome then ([], (p :: inner) :: others) else ([], others)

/-- The outermost elements, each with all its pieces. -/
def outermost (ps : List Piece) : List (List Piece) := (outermostFrom 0 ps).2

theorem outermostFrom_cons_succ (depth : Nat) (p : Piece) (ps : List Piece) :
    outermostFrom (depth + 1) (p :: ps)
      = (p :: (outermostFrom (p.depthBehind (depth + 1)) ps).1,
          (outermostFrom (p.depthBehind (depth + 1)) ps).2) := by
  simp [outermostFrom]

theorem outermostFrom_cons_zero (p : Piece) (ps : List Piece) :
    outermostFrom 0 (p :: ps)
      = ([], if p.tag?.isSome then
          (p :: (outermostFrom (p.depthBehind 0) ps).1) :: (outermostFrom (p.depthBehind 0) ps).2
        else (outermostFrom (p.depthBehind 0) ps).2) := by
  cases h : p.tag?.isSome <;> simp [outermostFrom, h]

theorem outermostFrom_zero (ps : List Piece) : outermostFrom 0 ps = ([], outermost ps) := by
  cases ps with
  | nil => rfl
  | cons p ps => rw [outermost, outermostFrom_cons_zero]

/-! ## Parts -/

theorem nests_cons {opened : List String} {p : Piece} {ps : List Piece}
    (h : nests opened (p :: ps) = true) :
    ∃ below, nests below ps = true ∧
      ∀ depth, p.depthBehind (opened.length + depth) = below.length + depth := by
  cases p with
  | start tag vs =>
    refine ⟨tag :: opened, h, fun depth => ?_⟩
    rw [Piece.depthBehind, List.length_cons]
    omega
  | stop tag =>
    cases opened with
    | nil => cases h
    | cons top below =>
      rw [nests, Bool.and_eq_true] at h
      refine ⟨below, h.2, fun depth => ?_⟩
      rw [Piece.depthBehind, List.length_cons]
      omega
  | _ => exact ⟨opened, h, fun _ => rfl⟩

theorem outermostFrom_inside {opened : List String} {ps : List Piece}
    (h : nests opened ps = true) (depth : Nat) (rest : List Piece) :
    outermostFrom (opened.length + (depth + 1)) (ps ++ rest)
      = (ps ++ (outermostFrom (depth + 1) rest).1, (outermostFrom (depth + 1) rest).2) := by
  induction ps generalizing opened with
  | nil =>
    have hnone : opened = [] := List.isEmpty_iff.mp h
    subst hnone
    simp
  | cons p ps ih =>
    obtain ⟨below, hbelow, hdepth⟩ := nests_cons h
    have hnext : p.depthBehind (opened.length + depth + 1) = below.length + (depth + 1) := by
      rw [Nat.add_assoc, hdepth]
    rw [List.cons_append, ← Nat.add_assoc, outermostFrom_cons_succ, hnext, ih hbelow,
      List.cons_append]

theorem outermostFrom_append {opened : List String} {ps : List Piece}
    (h : nests opened ps = true) (qs : List Piece) :
    outermostFrom opened.length (ps ++ qs)
      = ((outermostFrom opened.length ps).1,
          (outermostFrom opened.length ps).2 ++ outermost qs) := by
  induction ps generalizing opened with
  | nil =>
    have hnone : opened = [] := List.isEmpty_iff.mp h
    subst hnone
    exact outermostFrom_zero qs
  | cons p ps ih =>
    obtain ⟨below, hbelow, hdepth⟩ := nests_cons h
    have hnext : p.depthBehind opened.length = below.length := hdepth 0
    rw [List.cons_append, outermostFrom, outermostFrom, hnext, ih hbelow]
    dsimp only
    split
    · rfl
    · split <;> rfl

theorem outermost_append {ps : List Piece} (h : nests [] ps = true) (qs : List Piece) :
    outermost (ps ++ qs) = outermost ps ++ outermost qs := congrArg Prod.snd (outermostFrom_append h qs)

theorem Single.nests {tag : String} {ps : List Piece} (h : Single tag ps) : nests [] ps = true := by
  obtain ⟨vs, rfl | ⟨inner, rfl, hinner⟩⟩ := h
  · rfl
  · exact ((balanced_of_nests hinner).bracket tag vs).nests

theorem outermost_single {tag : String} {ps : List Piece} (h : Single tag ps) :
    outermost ps = [ps] := by
  obtain ⟨vs, rfl | ⟨inner, rfl, hinner⟩⟩ := h
  · rfl
  · have hin := outermostFrom_inside hinner 0 [.stop tag]
    have hdepth : (Piece.start tag vs).depthBehind 0 = 1 := rfl
    rw [List.length_nil, Nat.zero_add, Nat.zero_add] at hin
    rw [outermost, bracket, outermostFrom_cons_zero, hdepth, hin]
    rfl

/-! ## Texts in a row -/

theorem outermost_pushText (s : String) (ps : List Piece) :
    outermostFrom 0 (pushText s ps) = outermostFrom 0 ps ∧ ∀ depth,
      outermostFrom (depth + 1) (pushText s ps)
        = (pushText s (outermostFrom (depth + 1) ps).1, (outermostFrom (depth + 1) ps).2) := by
  have hzero : ∀ t rest, outermostFrom 0 (.text t :: rest) = outermostFrom 0 rest := by
    intro t rest
    rw [outermostFrom_cons_zero, outermostFrom_zero rest]
    rfl
  have htext : ∀ depth t rest, outermostFrom (depth + 1) (.text t :: rest)
      = (.text t :: (outermostFrom (depth + 1) rest).1, (outermostFrom (depth + 1) rest).2) :=
    fun depth t rest => outermostFrom_cons_succ depth _ rest
  match ps with
  | .text t :: rest => exact ⟨by rw [pushText, hzero, hzero], fun depth => by
      rw [pushText, htext, htext, pushText]⟩
  | [] | .comment _ :: _ | .closed _ _ :: _ | .start _ _ :: _ | .stop _ :: _ =>
    by_cases hs : s = ""
    · simp [pushText, hs, outermostFrom]
    · simp [pushText, hs, hzero, htext, outermostFrom]

theorem outermostFrom_glue (depth : Nat) (ps : List Piece) :
    outermostFrom depth (glue ps)
      = (glue (outermostFrom depth ps).1, (outermostFrom depth ps).2.map glue) := by
  induction ps generalizing depth with
  | nil => rfl
  | cons p ps ih =>
    cases p with
    | text s =>
      cases depth with
      | zero =>
        rw [glue, (outermost_pushText s (glue ps)).1, ih, outermostFrom_cons_zero,
          outermostFrom_zero ps]
        rfl
      | succ depth =>
        rw [glue, (outermost_pushText s (glue ps)).2, ih, outermostFrom_cons_succ]
        rfl
    | _ =>
      cases depth with
      | zero =>
        rw [glue_cons rfl, outermostFrom_cons_zero, outermostFrom_cons_zero, ih]
        rfl
      | succ depth =>
        rw [glue_cons rfl, outermostFrom_cons_succ, outermostFrom_cons_succ, ih, glue_cons rfl]

theorem outermost_glue (ps : List Piece) : outermost (glue ps) = (outermost ps).map glue :=
  congrArg Prod.snd (outermostFrom_glue 0 ps)

/-! ## Markup -/

/-- The markup reads as pieces with the outermost elements `es`. -/
def Tops (m : String) (es : List (List Piece)) : Prop :=
  ∃ ps, Reads m ps ∧ outermost (glue ps) = es

theorem Tops.nil : Tops "" [] := ⟨[], Reads.nil, rfl⟩

theorem Tops.text {content : String} (h : '<' ∉ content.toList) : Tops content [] :=
  ⟨_, Reads.text h, by rw [outermost_glue]; rfl⟩

theorem Tops.comment {content : String} (h : ¬ commentEnd <:+: content.toList) :
    Tops ("<!-- " ++ content ++ " -->") [] := ⟨_, Reads.padded h, by rw [outermost_glue]; rfl⟩

theorem Tops.append {m n : String} {es fs : List (List Piece)} (hm : Tops m es) (hn : Tops n fs) :
    Tops (m ++ n) (es ++ fs) := by
  obtain ⟨ps, hps, rfl⟩ := hm
  obtain ⟨qs, hqs, rfl⟩ := hn
  refine ⟨ps ++ qs, hps.append hqs, ?_⟩
  rw [outermost_glue, outermost_append hps.balanced.nests, List.map_append, outermost_glue,
    outermost_glue]

theorem Tops.single {tag m : String} {ps : List Piece} (h : Splits m ps) (hs : Single tag ps) :
    Tops m [ps] := by
  have hread : Reads m ps := ⟨h.whole, h.proper, balanced_of_nests hs.nests⟩
  have hglue : glue ps = ps := h.unique hread.splits
  exact ⟨ps, hread, by rw [hglue, outermost_single hs]⟩

/-- The outermost elements are those of the one splitting of the markup. -/
theorem Tops.splits {m : String} {es : List (List Piece)} (h : Tops m es) :
    ∃ ps, Splits m ps ∧ (∀ qs, Splits m qs → qs = ps) ∧ nests [] ps = true ∧ outermost ps = es := by
  obtain ⟨ps, hps, htops⟩ := h
  exact ⟨glue ps, hps.splits, fun _ hqs => hps.splits.unique hqs, hps.nests, htops⟩

end Lettermill.Markup
