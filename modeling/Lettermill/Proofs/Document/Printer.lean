import Lettermill.Document.Printer
import Lettermill.Proofs.Markup.Escape
/-! A printed element can be read back. The markup of a node splits into the pieces of the node, and
the pieces tell the node: no list of pieces is the front of another in two ways. Main statement:
printable elements with the same markup are the same element. -/
namespace Lettermill
set_option autoImplicit false
open Text Markup

/-! ## Pieces of a node -/

mutual

/-- The pieces in which the markup of a node is read. -/
def Node.pieces : Node → List Piece
  | .element name attributes children =>
    match children with
    | [] => [.closed name (valuesOf attributes)]
    | child :: rest => bracket name (valuesOf attributes) (child.pieces ++ piecesAll rest)
  | .text content => [.text (escapeText content)]
  | .comment content => [.comment content]

def piecesAll : List Node → List Piece
  | [] => []
  | node :: rest => node.pieces ++ piecesAll rest

end

theorem Node.pieces_element (name : String) (attributes : Attributes) (children : List Node) :
    (Node.element name attributes children).pieces =
      if children = [] then [.closed name (valuesOf attributes)]
      else bracket name (valuesOf attributes) (piecesAll children) := by
  cases children with
  | nil => rw [if_pos rfl, Node.pieces]
  | cons child rest => rw [if_neg (List.cons_ne_nil child rest), Node.pieces, piecesAll]

theorem Node.markup_element (name : String) (attributes : Attributes) (children : List Node) :
    (Node.element name attributes children).markup =
      if children = [] then selfClosing name attributes
      else full name attributes (markupAll children) := by
  cases children with
  | nil => rw [if_pos rfl, Node.markup]
  | cons child rest => rw [if_neg (List.cons_ne_nil child rest), Node.markup, markupAll]

theorem Node.pieces_ne_stop (n : Node) (r s : List Piece) (tag : String) :
    n.pieces ++ r ≠ .stop tag :: s := by
  cases n with
  | element name attributes children =>
    rw [Node.pieces_element]
    split <;> simp [bracket]
  | _ => simp [Node.pieces]

theorem Node.pieces_element_ne (name : String) (attributes : Attributes) (children : List Node)
    {n : Node} (hn : n.asElement? = none) (r s : List Piece) :
    (Node.element name attributes children).pieces ++ r ≠ n.pieces ++ s := by
  rw [Node.pieces_element]
  cases n with
  | element tag values nodes => cases hn
  | text content => split <;> simp [Node.pieces, bracket]
  | comment content => split <;> simp [Node.pieces, bracket]

theorem Node.element_seam {name tag : String} {attributes values : Attributes}
    {children nodes : List Node} {r s : List Piece}
    (inner : ∀ rest next, piecesAll children ++ .stop name :: rest
      = piecesAll nodes ++ .stop tag :: next → children = nodes ∧ name = tag ∧ rest = next)
    (h : (Node.element name attributes children).pieces ++ r
      = (Node.element tag values nodes).pieces ++ s) :
    Node.element name attributes children = Node.element tag values nodes ∧ r = s := by
  rw [Node.pieces_element, Node.pieces_element] at h
  split at h <;> split at h <;>
    simp only [bracket, List.cons_append, List.append_assoc, List.nil_append, List.cons.injEq,
      reduceCtorEq, Piece.closed.injEq, Piece.start.injEq, false_and] at h
  case isTrue.isTrue hc hn =>
    obtain ⟨⟨rfl, hv⟩, rfl⟩ := h
    rw [valuesOf_inj hv, hc, hn]
    exact ⟨rfl, rfl⟩
  case isFalse.isFalse =>
    obtain ⟨⟨rfl, hv⟩, hrest⟩ := h
    obtain ⟨rfl, -, rfl⟩ := inner _ _ hrest
    rw [valuesOf_inj hv]
    exact ⟨rfl, rfl⟩

mutual

theorem Node.pieces_seam (m n : Node) (r s : List Piece) (h : m.pieces ++ r = n.pieces ++ s) :
    m = n ∧ r = s := by
  cases m with
  | element name attributes children =>
    have inner := piecesAll_seam children
    cases n with
    | element tag values nodes => exact Node.element_seam (inner nodes name tag) h
    | text other => exact absurd h (Node.pieces_element_ne _ _ _ rfl _ _)
    | comment other => exact absurd h (Node.pieces_element_ne _ _ _ rfl _ _)
  | text content =>
    cases n with
    | element tag values nodes => exact absurd h.symm (Node.pieces_element_ne _ _ _ rfl _ _)
    | text other =>
      simp only [Node.pieces, List.cons_append, List.nil_append, List.cons.injEq,
        Piece.text.injEq] at h
      exact ⟨congrArg Node.text (escapeText_inj h.1), h.2⟩
    | comment other => simp [Node.pieces] at h
  | comment content =>
    cases n with
    | element tag values nodes => exact absurd h.symm (Node.pieces_element_ne _ _ _ rfl _ _)
    | text other => simp [Node.pieces] at h
    | comment other =>
      simp only [Node.pieces, List.cons_append, List.nil_append, List.cons.injEq,
        Piece.comment.injEq] at h
      exact ⟨congrArg Node.comment h.1, h.2⟩

theorem piecesAll_seam (ms ns : List Node) (tag other : String) (r s : List Piece)
    (h : piecesAll ms ++ .stop tag :: r = piecesAll ns ++ .stop other :: s) :
    ms = ns ∧ tag = other ∧ r = s := by
  cases ms with
  | nil =>
    cases ns with
    | nil =>
      simp only [piecesAll, List.nil_append, List.cons.injEq, Piece.stop.injEq] at h
      exact ⟨rfl, h⟩
    | cons n ns =>
      rw [piecesAll, piecesAll, List.append_assoc, List.nil_append] at h
      exact absurd h.symm (n.pieces_ne_stop _ _ _)
  | cons m ms =>
    cases ns with
    | nil =>
      rw [piecesAll, piecesAll, List.append_assoc, List.nil_append] at h
      exact absurd h (m.pieces_ne_stop _ _ _)
    | cons n ns =>
      rw [piecesAll, piecesAll, List.append_assoc, List.append_assoc] at h
      obtain ⟨rfl, hrest⟩ := m.pieces_seam n _ _ h
      obtain ⟨rfl, hend⟩ := piecesAll_seam ms ns tag other r s hrest
      exact ⟨rfl, hend⟩

end

/-! ## Printable nodes -/

def Node.isText : Node → Bool
  | .text _ => true
  | _ => false

mutual

/-- A node whose markup can be read back: names that can be written, no end mark in a comment, no
empty text and no two texts side by side. Values and texts may hold anything else. -/
def Node.Printable : Node → Prop
  | .element name attributes children =>
    IsTag name ∧ Named attributes ∧ children.IsChain (fun a b => ¬ (a.isText ∧ b.isText)) ∧
      PrintableAll children
  | .text content => content ≠ ""
  | .comment content => ¬ commentEnd <:+: content.toList

def PrintableAll : List Node → Prop
  | [] => True
  | node :: rest => node.Printable ∧ PrintableAll rest

end

mutual

def Node.decidePrintable : (n : Node) → Decidable n.Printable
  | .element _ _ children =>
    have := decidePrintableAll children
    inferInstanceAs (Decidable (_ ∧ _ ∧ _ ∧ _))
  | .text content => inferInstanceAs (Decidable (content ≠ ""))
  | .comment content => inferInstanceAs (Decidable (¬ commentEnd <:+: content.toList))

def decidePrintableAll : (ns : List Node) → Decidable (PrintableAll ns)
  | [] => inferInstanceAs (Decidable True)
  | node :: rest =>
    have := node.decidePrintable
    have := decidePrintableAll rest
    inferInstanceAs (Decidable (_ ∧ _))

end

instance (n : Node) : Decidable n.Printable := n.decidePrintable

mutual

/-- The node and all nodes below it, in document order. -/
def Node.subtree : Node → List Node
  | .element name attributes children =>
    .element name attributes children :: subtreeAll children
  | .text content => [.text content]
  | .comment content => [.comment content]

def subtreeAll : List Node → List Node
  | [] => []
  | node :: rest => node.subtree ++ subtreeAll rest

end

theorem Node.mem_subtree (node : Node) : node ∈ node.subtree := by
  cases node <;> exact List.mem_cons_self ..

theorem subtreeAll_eq_flatMap (nodes : List Node) :
    subtreeAll nodes = nodes.flatMap Node.subtree := by
  induction nodes with
  | nil => rfl
  | cons node rest ih => rw [subtreeAll, List.flatMap_cons, ih]

theorem mem_subtreeAll {node : Node} {nodes : List Node} (h : node ∈ nodes) :
    node ∈ subtreeAll nodes := by
  rw [subtreeAll_eq_flatMap]
  exact List.mem_flatMap_of_mem h node.mem_subtree

/-- Does the markup of the node itself fall into proper pieces? A text may hold anything and stand
anywhere, since it is escaped. -/
def Node.CanPrint : Node → Prop
  | .element name attributes _ => IsTag name ∧ Named attributes
  | .text _ => True
  | .comment content => ¬ commentEnd <:+: content.toList

instance : DecidablePred Node.CanPrint
  | .element name attributes _ => inferInstanceAs (Decidable (IsTag name ∧ Named attributes))
  | .text _ => inferInstanceAs (Decidable True)
  | .comment content => inferInstanceAs (Decidable (¬ commentEnd <:+: content.toList))

mutual

theorem Node.Printable.canPrint {n : Node} (h : n.Printable) : ∀ m ∈ n.subtree, m.CanPrint := by
  cases n with
  | element name attributes children =>
    obtain ⟨ht, ha, -, hall⟩ := h
    exact List.forall_mem_cons.mpr ⟨⟨ht, ha⟩, PrintableAll.canPrint hall⟩
  | text content => exact List.forall_mem_singleton.mpr trivial
  | comment content => exact List.forall_mem_singleton.mpr h

theorem PrintableAll.canPrint {ns : List Node} (h : PrintableAll ns) :
    ∀ m ∈ subtreeAll ns, m.CanPrint := by
  cases ns with
  | nil => exact fun m hm => absurd hm List.not_mem_nil
  | cons n ns => exact List.forall_mem_append.mpr ⟨h.1.canPrint, PrintableAll.canPrint h.2⟩

end

mutual

theorem Node.reads_pieces (n : Node) (h : ∀ m ∈ n.subtree, m.CanPrint) :
    Reads n.markup n.pieces := by
  cases n with
  | element name attributes children =>
    obtain ⟨⟨ht, ha⟩, hall⟩ := List.forall_mem_cons.mp h
    have inner := reads_piecesAll children hall
    rw [Node.markup_element, Node.pieces_element]
    split
    · exact Reads.selfClosing ht ha
    · exact inner.full ht ha
  | text content => exact Reads.text (bracket_not_mem_escapeText content)
  | comment content => exact Reads.comment (h _ (List.mem_singleton_self _))

theorem reads_piecesAll (ns : List Node) (h : ∀ m ∈ subtreeAll ns, m.CanPrint) :
    Reads (markupAll ns) (piecesAll ns) := by
  cases ns with
  | nil => exact Reads.nil
  | cons n ns =>
    rw [subtreeAll, List.forall_mem_append] at h
    exact (n.reads_pieces h.1).append (reads_piecesAll ns h.2)

end

theorem Element.bracketed_outerMarkup (e : Element) : Bracketed e.outerMarkup := by
  obtain ⟨name, attributes, children⟩ := e
  rw [outerMarkup, toNode, Node.markup_element]
  split
  · exact bracketed_selfClosing name attributes
  · exact bracketed_full name attributes _

/-- A printed element is one element, with all that it holds inside. -/
theorem Element.isElement_outerMarkup {e : Element} (h : ∀ m ∈ e.toNode.subtree, m.CanPrint) :
    IsElement e.name e.outerMarkup := by
  obtain ⟨name, attributes, children⟩ := e
  obtain ⟨⟨ht, ha⟩, hall⟩ := List.forall_mem_cons.mp h
  rw [outerMarkup, toNode, Node.markup_element]
  split
  · exact IsElement.selfClosing ht ha
  · exact IsElement.full ht ha (reads_piecesAll children hall)

/-- The pieces of a node begin and end with a text only when the node is one. -/
theorem Node.ends_pieces (n : Node) :
    (∃ p, n.pieces.head? = some p ∧ p.isText = n.isText) ∧
      ∃ p, n.pieces.getLast? = some p ∧ p.isText = n.isText := by
  cases n with
  | element name attributes children =>
    rw [Node.pieces_element]
    split
    · exact ⟨⟨_, rfl, rfl⟩, _, rfl, rfl⟩
    · refine ⟨⟨_, rfl, rfl⟩, .stop name, ?_, rfl⟩
      rw [bracket, ← List.cons_append, List.getLast?_concat]
  | text content => exact ⟨⟨_, rfl, rfl⟩, _, rfl, rfl⟩
  | comment content => exact ⟨⟨_, rfl, rfl⟩, _, rfl, rfl⟩

theorem head?_piecesAll (ns : List Node) :
    ∀ p ∈ (piecesAll ns).head?, ∃ n ∈ ns.head?, p.isText = n.isText := by
  cases ns with
  | nil => simp [piecesAll]
  | cons n ns =>
    obtain ⟨⟨first, hfirst, htext⟩, -⟩ := n.ends_pieces
    intro p hp
    rw [piecesAll, List.head?_append, hfirst, Option.some_or, Option.mem_some_iff] at hp
    exact ⟨n, rfl, hp ▸ htext⟩

mutual

theorem Node.apart_pieces (n : Node) (h : n.Printable) :
    Apart n.pieces ∧ .text "" ∉ n.pieces := by
  cases n with
  | element name attributes children =>
    obtain ⟨-, -, hchain, hall⟩ := h
    obtain ⟨hapart, hfilled⟩ := apart_piecesAll children hchain hall
    rw [Node.pieces_element]
    split
    · exact ⟨List.isChain_singleton _, by simp⟩
    · exact ⟨hapart.bracket name _, by simp [bracket, hfilled]⟩
  | text content =>
    refine ⟨List.isChain_singleton _, ?_⟩
    intro hmem
    exact escapeText_ne_empty h (Piece.text.inj (List.mem_singleton.mp hmem)).symm
  | comment content => exact ⟨List.isChain_singleton _, by simp [Node.pieces]⟩

theorem apart_piecesAll (ns : List Node)
    (hchain : ns.IsChain fun a b => ¬ (a.isText ∧ b.isText)) (h : PrintableAll ns) :
    Apart (piecesAll ns) ∧ .text "" ∉ piecesAll ns := by
  cases ns with
  | nil => exact ⟨List.isChain_nil, List.not_mem_nil⟩
  | cons n ns =>
    obtain ⟨hnode, hfirst⟩ := n.apart_pieces h.1
    obtain ⟨hrest, hothers⟩ := apart_piecesAll ns hchain.tail h.2
    rw [piecesAll]
    refine ⟨List.isChain_append.mpr ⟨hnode, hrest, ?_⟩, ?_⟩
    · intro p hp q hq
      obtain ⟨-, last, hlast, hp'⟩ := n.ends_pieces
      obtain ⟨next, hnext, hq'⟩ := head?_piecesAll ns q hq
      rw [hlast, Option.mem_some_iff] at hp
      rw [← hp, hp', hq']
      exact (List.isChain_cons.mp hchain).1 next hnext
    · rw [List.mem_append, not_or]
      exact ⟨hfirst, hothers⟩

end

theorem Node.splits_pieces {n : Node} (h : n.Printable) : Splits n.markup n.pieces where
  whole := (n.reads_pieces h.canPrint).whole
  proper := (n.reads_pieces h.canPrint).proper
  filled := (n.apart_pieces h).2
  apart := (n.apart_pieces h).1

/-- **Printing loses nothing.** Printable elements with the same markup are the same, in the order
of their attributes too. -/
theorem Element.outerMarkup_inj {e f : Element} (he : e.toNode.Printable)
    (hf : f.toNode.Printable) (h : e.outerMarkup = f.outerMarkup) : e = f := by
  have hsplits : Splits e.outerMarkup f.toNode.pieces := h ▸ Node.splits_pieces hf
  have hpieces : f.toNode.pieces = e.toNode.pieces := (Node.splits_pieces he).unique hsplits
  obtain ⟨hnode, -⟩ := f.toNode.pieces_seam e.toNode [] [] (by rw [hpieces])
  have hsome : some f = some e := congrArg Node.asElement? hnode
  exact (Option.some.inj hsome).symm

/-- An element built by name and one written out: quotes in a value, a bracket in a text, hyphens in
a comment. -/
theorem Element.outerMarkup_inj_named :
    { Element.named "P" with
      attributes := (Dict.ofList [("b", "1"), ("a", "")]).insert "b" "\"&quot;\"",
      children := [.text "1 < 2 &lt;", .comment " -- >", .text "\t", .element "br" ∅ []] }
      = (⟨"p", Dict.ofList [("b", "\"&quot;\""), ("a", "")],
          [.text "1 < 2 &lt;", .comment " -- >", .text "\t", .element "br" ∅ []]⟩ : Element) :=
  outerMarkup_inj (by decide +kernel) (by decide +kernel) (by decide +kernel)

end Lettermill
