import Lettermill.Markup
import Lettermill.Proofs.Text.Seam
import Lettermill.Text.Letters
import Mathlib.Data.List.Chain
/-! Markup read in pieces: texts, comments, tags that close themselves, start tags and end tags. A
splitting of a text into pieces leaves nothing out, holds no empty text and no two texts in a row.
Main statement: a text has at most one splitting, whatever its attribute values contain.

The class of pieces is wider than what is ever written: a value may hold anything but the double
quote, and a text anything but the opening bracket of a tag. -/
namespace Lettermill.Markup
set_option autoImplicit false
open Text

/-! ## Names -/

def isTagChar (c : Char) : Bool := isAlphanumeric c || c == '-'

/-- A name for a tag: a word of ASCII letters, digits and hyphens. -/
def IsTag (name : String) : Prop := name ≠ "" ∧ ∀ c ∈ name.toList, isTagChar c = true

def isNameChar (c : Char) : Bool :=
  !isAsciiBlank c && !(['"', '\'', '<', '>', '/', '='].contains c)

/-- A name for an attribute: a word without blanks, quotes, brackets, slashes and equals signs. -/
def IsName (name : String) : Prop := name ≠ "" ∧ ∀ c ∈ name.toList, isNameChar c = true

instance (name : String) : Decidable (IsTag name) :=
  @instDecidableAnd _ _ _ (List.decidableBAll _ _)

instance (name : String) : Decidable (IsName name) :=
  @instDecidableAnd _ _ _ (List.decidableBAll _ _)

theorem exists_cons_of_word {name : String} {p : Char → Bool}
    (h : name ≠ "" ∧ ∀ c ∈ name.toList, p c = true) :
    ∃ c cs, name.toList = c :: cs ∧ p c = true := by
  match hn : name.toList with
  | [] => exact absurd (String.toList_eq_nil_iff.mp hn) h.1
  | c :: cs => exact ⟨c, cs, rfl, h.2 c (by rw [hn]; exact List.mem_cons_self ..)⟩

/-! ## Pieces -/

/-- A piece of markup. The values of attributes are kept as they stand between the quotes. -/
inductive Piece where
  | text (content : String)
  | comment (content : String)
  | closed (tag : String) (values : List (String × String))
  | start (tag : String) (values : List (String × String))
  | stop (tag : String)
  deriving DecidableEq

/-- An attribute as it is written, with the blank in front. -/
def writtenValue (v : String × String) : List Char :=
  ' ' :: (v.1.toList ++ '=' :: '"' :: (v.2.toList ++ ['"']))

def writtenValues (vs : List (String × String)) : List Char := vs.flatMap writtenValue

namespace Piece

def written : Piece → List Char
  | text content => content.toList
  | comment content => '<' :: '!' :: '-' :: '-' :: (content.toList ++ commentEnd)
  | closed tag vs => '<' :: (tag.toList ++ (writtenValues vs ++ [' ', '/', '>']))
  | start tag vs => '<' :: (tag.toList ++ (writtenValues vs ++ ['>']))
  | stop tag => '<' :: '/' :: (tag.toList ++ ['>'])

/-- Attributes with names that can be read, and values that end at their closing quote. -/
def ProperValues (vs : List (String × String)) : Prop :=
  ∀ v ∈ vs, IsName v.1 ∧ '"' ∉ v.2.toList

/-- A piece that keeps to its kind: no tag in a text, no end mark in a comment, proper names. -/
def Proper : Piece → Prop
  | text content => '<' ∉ content.toList
  | comment content => ¬ commentEnd <:+: content.toList
  | closed tag vs => IsTag tag ∧ ProperValues vs
  | start tag vs => IsTag tag ∧ ProperValues vs
  | stop tag => IsTag tag

def isText : Piece → Bool
  | text _ => true
  | _ => false

end Piece

/-- Pieces as they are written, one behind the other. -/
def written (ps : List Piece) : List Char := ps.flatMap Piece.written

@[simp] theorem written_nil : written [] = [] := rfl

@[simp] theorem written_cons (p : Piece) (ps : List Piece) :
    written (p :: ps) = p.written ++ written ps := rfl

@[simp] theorem written_append (ps qs : List Piece) :
    written (ps ++ qs) = written ps ++ written qs := List.flatMap_append

/-- No two texts in a row: each text reaches as far as it can. -/
def Apart (ps : List Piece) : Prop := ps.IsChain fun p q => ¬ (p.isText ∧ q.isText)

/-- A splitting of a text into pieces. -/
structure Splits (text : String) (ps : List Piece) : Prop where
  whole : written ps = text.toList
  proper : ∀ p ∈ ps, p.Proper
  filled : .text "" ∉ ps
  apart : Apart ps

/-! ## What the front of a text tells -/

/-- The kinds of pieces that two characters tell apart. -/
inductive Lead where
  | text
  | comment
  | stop
  | tag
  deriving DecidableEq

/-- The kind of the piece at the front of a text. -/
def lead : List Char → Lead
  | '<' :: '!' :: _ => .comment
  | '<' :: '/' :: _ => .stop
  | '<' :: _ => .tag
  | _ => .text

/-- The kind of a piece; start tags and tags that close themselves begin alike. -/
def Piece.lead : Piece → Lead
  | text _ => .text
  | comment _ => .comment
  | closed _ _ => .tag
  | start _ _ => .tag
  | stop _ => .stop

theorem lead_tag {tag : String} (ht : IsTag tag) (r : List Char) :
    lead ('<' :: (tag.toList ++ r)) = .tag := by
  obtain ⟨c, cs, hcs, hc⟩ := exists_cons_of_word ht
  rw [hcs, List.cons_append]
  have h1 : c ≠ '!' := by rintro rfl; exact absurd hc (by decide)
  have h2 : c ≠ '/' := by rintro rfl; exact absurd hc (by decide)
  simp [lead, h1, h2]

theorem lead_written {p : Piece} (hp : p.Proper) (hf : p ≠ .text "") (r : List Char) :
    lead (p.written ++ r) = p.lead := by
  cases p with
  | text content =>
    have hne : content ≠ "" := fun h => hf (h ▸ rfl)
    match hc : content.toList with
    | [] => exact absurd (String.toList_eq_nil_iff.mp hc) hne
    | c :: cs =>
      have hlt : c ≠ '<' := by
        rintro rfl
        exact hp (by rw [hc]; exact List.mem_cons_self ..)
      simp [Piece.written, Piece.lead, hc, lead, hlt]
  | comment content => rfl
  | closed tag vs =>
    rw [Piece.written, List.cons_append, List.append_assoc]
    exact lead_tag hp.1 _
  | start tag vs =>
    rw [Piece.written, List.cons_append, List.append_assoc]
    exact lead_tag hp.1 _
  | stop tag => rfl

theorem written_ne_nil {p : Piece} (hf : p ≠ .text "") : p.written ≠ [] := by
  cases p with
  | text content =>
    intro h
    exact hf (congrArg Piece.text (String.toList_eq_nil_iff.mp h))
  | _ => simp [Piece.written]

/-! ## Attributes -/

/-- The two ways in which a tag ends behind its attributes. -/
def EndsTag (cs : List Char) : Prop := (∃ r, cs = '>' :: r) ∨ ∃ r, cs = ' ' :: '/' :: r

theorem EndsTag.ne_value {cs : List Char} (h : EndsTag cs) {v : String × String} (hv : IsName v.1)
    (r : List Char) : cs ≠ writtenValue v ++ r := by
  obtain ⟨c, name, hname, hc⟩ := exists_cons_of_word hv
  intro e
  rw [writtenValue, hname] at e
  rcases h with ⟨t, rfl⟩ | ⟨t, rfl⟩
  · simp at e
  · simp only [List.cons_append, List.cons.injEq] at e
    obtain ⟨-, rfl, -⟩ := e
    exact absurd hc (by decide)

theorem value_seam {v w : String × String} (hv : IsName v.1 ∧ '"' ∉ v.2.toList)
    (hw : IsName w.1 ∧ '"' ∉ w.2.toList) {r s : List Char}
    (h : writtenValue v ++ r = writtenValue w ++ s) : v = w ∧ r = s := by
  simp only [writtenValue, List.cons_append, List.append_assoc, List.cons.injEq, true_and,
    List.nil_append] at h
  obtain ⟨hn, hrest⟩ := run_seam (p := isNameChar) hv.1.2 hw.1.2 (by rw [stops_cons]; decide)
    (by rw [stops_cons]; decide) h
  simp only [List.cons.injEq, true_and] at hrest
  have inside : ∀ {s : String}, '"' ∉ s.toList → ∀ c ∈ s.toList, (c != '"') = true := by
    intro s hs c hc
    rw [bne_iff_ne]
    rintro rfl
    exact hs hc
  obtain ⟨hval, hbehind⟩ := run_seam (p := (· != '"')) (inside hv.2) (inside hw.2) (by simp)
    (by simp) hrest
  rw [List.cons.injEq] at hbehind
  exact ⟨Prod.ext (String.toList_inj.mp hn) (String.toList_inj.mp hval), hbehind.2⟩

theorem values_seam {vs ws : List (String × String)} (hv : Piece.ProperValues vs)
    (hw : Piece.ProperValues ws) {r s : List Char} (hr : EndsTag r) (hs : EndsTag s)
    (h : writtenValues vs ++ r = writtenValues ws ++ s) : vs = ws ∧ r = s := by
  induction vs generalizing ws with
  | nil =>
    cases ws with
    | nil => exact ⟨rfl, h⟩
    | cons w ws =>
      rw [writtenValues, writtenValues, List.flatMap_cons, List.append_assoc] at h
      exact absurd h (hr.ne_value (hw w (List.mem_cons_self ..)).1 _)
  | cons v vs ih =>
    cases ws with
    | nil =>
      rw [writtenValues, writtenValues, List.flatMap_cons, List.append_assoc] at h
      exact absurd h.symm (hs.ne_value (hv v (List.mem_cons_self ..)).1 _)
    | cons w ws =>
      rw [writtenValues, writtenValues, List.flatMap_cons, List.flatMap_cons, List.append_assoc,
        List.append_assoc] at h
      obtain ⟨rfl, hrest⟩ :=
        value_seam (hv v (List.mem_cons_self ..)) (hw w (List.mem_cons_self ..)) h
      obtain ⟨rfl, hend⟩ := ih (fun u hu => hv u (List.mem_cons_of_mem _ hu))
        (fun u hu => hw u (List.mem_cons_of_mem _ hu)) hrest
      exact ⟨rfl, hend⟩

theorem tag_seam {t u : String} {vs ws : List (String × String)} (ht : IsTag t) (hu : IsTag u)
    (hv : Piece.ProperValues vs) (hw : Piece.ProperValues ws) {r s : List Char} (hr : EndsTag r)
    (hs : EndsTag s)
    (h : t.toList ++ (writtenValues vs ++ r) = u.toList ++ (writtenValues ws ++ s)) :
    t = u ∧ vs = ws ∧ r = s := by
  have stops : ∀ {xs : List (String × String)} {e : List Char}, EndsTag e →
      Stops isTagChar (writtenValues xs ++ e) := by
    intro xs e he
    cases xs with
    | nil => rcases he with ⟨_, rfl⟩ | ⟨_, rfl⟩ <;> exact (stops_cons ..).mpr (by decide)
    | cons x xs => exact (stops_cons ..).mpr (by decide)
  obtain ⟨hn, hrest⟩ := run_seam ht.2 hu.2 (stops hr) (stops hs) h
  obtain ⟨rfl, hend⟩ := values_seam hv hw hr hs hrest
  exact ⟨String.toList_inj.mp hn, rfl, hend⟩

/-! ## One splitting -/

/-- What may stand behind a piece: behind a text, only the start of something else. -/
def Follows (p : Piece) (r : List Char) : Prop := p.isText → Stops (· != '<') r

theorem piece_seam {p q : Piece} (hp : p.Proper) (hq : q.Proper) (hpf : p ≠ .text "")
    (hqf : q ≠ .text "") {r s : List Char} (hr : Follows p r) (hs : Follows q s)
    (h : p.written ++ r = q.written ++ s) : p = q ∧ r = s := by
  have hlead : p.lead = q.lead := by
    rw [← lead_written hp hpf r, h, lead_written hq hqf s]
  have outside : ∀ {s : String}, '<' ∉ s.toList → ∀ c ∈ s.toList, (c != '<') = true := by
    intro s hs c hc
    rw [bne_iff_ne]
    rintro rfl
    exact hs hc
  have opened : ∀ t : List Char, EndsTag ('>' :: t) := fun t => Or.inl ⟨t, rfl⟩
  have shut : ∀ t : List Char, EndsTag (' ' :: '/' :: t) := fun t => Or.inr ⟨t, rfl⟩
  cases p <;> cases q <;> (try cases hlead) <;>
    simp only [Piece.written, List.cons_append, List.append_assoc, List.nil_append,
      List.cons.injEq, true_and] at h
  case text.text a b =>
    obtain ⟨hab, hrs⟩ := run_seam (outside hp) (outside hq) (hr rfl) (hs rfl) h
    exact ⟨congrArg Piece.text (String.toList_inj.mp hab), hrs⟩
  case comment.comment a b =>
    obtain ⟨hab, hrs⟩ := comment_seam hp hq h
    exact ⟨congrArg Piece.comment (String.toList_inj.mp hab), hrs⟩
  case closed.closed t vs u ws =>
    obtain ⟨rfl, rfl, hrs⟩ := tag_seam hp.1 hq.1 hp.2 hq.2 (shut _) (shut _) h
    exact ⟨rfl, by simpa using hrs⟩
  case closed.start t vs u ws =>
    obtain ⟨-, -, hrs⟩ := tag_seam hp.1 hq.1 hp.2 hq.2 (shut _) (opened _) h
    cases hrs
  case start.closed t vs u ws =>
    obtain ⟨-, -, hrs⟩ := tag_seam hp.1 hq.1 hp.2 hq.2 (opened _) (shut _) h
    cases hrs
  case start.start t vs u ws =>
    obtain ⟨rfl, rfl, hrs⟩ := tag_seam hp.1 hq.1 hp.2 hq.2 (opened _) (opened _) h
    exact ⟨rfl, by simpa using hrs⟩
  case stop.stop t u =>
    obtain ⟨htu, hrs⟩ := run_seam hp.2 hq.2 (by rw [stops_cons]; decide)
      (by rw [stops_cons]; decide) h
    exact ⟨congrArg Piece.stop (String.toList_inj.mp htu), by simpa using hrs⟩

theorem follows_of_apart {p : Piece} {ps : List Piece} (h : Apart (p :: ps)) :
    Follows p (written ps) := by
  intro hp
  cases ps with
  | nil => exact stops_nil _
  | cons q qs =>
    have hq : ¬ (p.isText ∧ q.isText) := (List.isChain_cons_cons.mp h).1
    cases q with
    | text content => exact absurd ⟨hp, rfl⟩ hq
    | _ => simp [Piece.written]

theorem Splits.unique {text : String} {ps qs : List Piece} (hp : Splits text ps)
    (hq : Splits text qs) : qs = ps := by
  have h : written qs = written ps := hq.whole.trans hp.whole.symm
  obtain ⟨-, hpp, hpf, hpa⟩ := hp
  obtain ⟨-, hqp, hqf, hqa⟩ := hq
  induction ps generalizing qs with
  | nil =>
    cases qs with
    | nil => rfl
    | cons q qs =>
      rw [written_cons, written_nil, List.append_eq_nil_iff] at h
      exact absurd h.1 (written_ne_nil fun e => hqf (e ▸ List.mem_cons_self ..))
  | cons p ps ih =>
    cases qs with
    | nil =>
      rw [written_cons, written_nil, eq_comm, List.append_eq_nil_iff] at h
      exact absurd h.1 (written_ne_nil fun e => hpf (e ▸ List.mem_cons_self ..))
    | cons q qs =>
      rw [List.forall_mem_cons] at hpp hqp
      rw [List.mem_cons, not_or] at hpf hqf
      obtain ⟨rfl, hrest⟩ := piece_seam hqp.1 hpp.1 (Ne.symm hqf.1) (Ne.symm hpf.1)
        (follows_of_apart hqa) (follows_of_apart hpa) h
      rw [ih hrest hpp.2 hpf.2 hpa.tail hqp.2 hqf.2 hqa.tail]

end Lettermill.Markup
