import Lettermill.Proofs.Document.Search
import Mathlib.Data.List.Lex
import Mathlib.Data.List.Sort
/-! Document order. The elements of a document are listed with their positions, an element before
those inside it and these before what follows it; positions are compared as words, so the list has the
order of the words. Both searches are read off it: the list of all elements of a name is a part of it,
and the first element of a name is the first of that part. Main statement: the two searches agree on
every document and below every element of it. -/
namespace Lettermill
set_option autoImplicit false

/-! ## Positions below an element -/

/-- The element at a position relative to an element; the empty position is the element itself. -/
def Element.descend? (e : Element) : Path → Option Element
  | [] => some e
  | i :: path => elementAt? e.children (i :: path)

theorem elementAt?_cons (nodes : List Node) (k : Nat) (path : Path) :
    elementAt? nodes (k :: path)
      = ((nodes[k]?).bind Node.asElement?).bind fun e => e.descend? path := by
  cases path with
  | nil =>
    rw [elementAt?]
    cases (nodes[k]?).bind Node.asElement? <;> rfl
  | cons j path =>
    rw [elementAt?]
    cases (nodes[k]?).bind Node.asElement? <;> rfl

theorem elementAt?_append {path : Path} {nodes : List Node} {e : Element}
    (h : elementAt? nodes path = some e) (more : Path) :
    elementAt? nodes (path ++ more) = e.descend? more := by
  induction path generalizing nodes with
  | nil => cases h
  | cons k path ih =>
    rw [elementAt?_cons] at h
    obtain ⟨own, hown, hdown⟩ := Option.bind_eq_some_iff.mp h
    rw [List.cons_append, elementAt?_cons, hown, Option.bind_some]
    cases path with
    | nil =>
      cases hdown
      rfl
    | cons j path => exact ih hdown

theorem elementAt?_zero (node : Node) (rest : List Node) (path : Path) :
    elementAt? (node :: rest) (0 :: path) = node.asElement?.bind fun e => e.descend? path :=
  elementAt?_cons ..

theorem elementAt?_succ (node : Node) (rest : List Node) (k : Nat) (path : Path) :
    elementAt? (node :: rest) ((k + 1) :: path) = elementAt? rest (k :: path) := by
  rw [elementAt?_cons, elementAt?_cons, List.getElem?_cons_succ]

/-! ## All elements in document order -/

mutual

/-- The elements at and below a node with their positions relative to it, in document order. -/
def Node.placed : Node → List (Path × Element)
  | .element name attributes children =>
    ([], ⟨name, attributes, children⟩) :: placedFrom 0 children
  | _ => []

/-- The elements of nodes with their positions, the first node having index `i`. -/
def placedFrom (i : Nat) : List Node → List (Path × Element)
  | [] => []
  | node :: rest => node.placed.map (fun at_ => (i :: at_.1, at_.2)) ++ placedFrom (i + 1) rest

end

/-- The elements of a document with their positions, in document order. -/
def Document.placed (d : Document) : List (Path × Element) := placedFrom 0 d.nodes

mutual

theorem Node.mem_placed {path : Path} {e : Element} : ∀ {node : Node},
    (path, e) ∈ node.placed ↔ (node.asElement?.bind fun own => own.descend? path) = some e
  | .element name attributes children => by
    rw [Node.placed, List.mem_cons, mem_placedFrom]
    cases path with
    | nil => simp [Node.asElement?, Element.descend?, eq_comm]
    | cons k path => simp [Node.asElement?, Element.descend?]
  | .text _ => by simp [Node.placed, Node.asElement?]
  | .comment _ => by simp [Node.placed, Node.asElement?]

theorem mem_placedFrom {i : Nat} {path : Path} {e : Element} : ∀ {nodes : List Node},
    (path, e) ∈ placedFrom i nodes
      ↔ ∃ k q, path = (i + k) :: q ∧ elementAt? nodes (k :: q) = some e
  | [] => by simp [placedFrom, elementAt?_cons]
  | node :: rest => by
    rw [placedFrom, List.mem_append, mem_placedFrom, List.mem_map]
    constructor
    · rintro (⟨⟨q, own⟩, hq, heq⟩ | ⟨k, q, rfl, he⟩)
      · cases heq
        exact ⟨0, q, rfl, (elementAt?_zero ..).trans (Node.mem_placed.mp hq)⟩
      · exact ⟨k + 1, q, by rw [Nat.add_right_comm, Nat.add_assoc], (elementAt?_succ ..).trans he⟩
    · rintro ⟨k, q, rfl, he⟩
      cases k with
      | zero =>
        rw [elementAt?_zero] at he
        exact .inl ⟨(q, e), Node.mem_placed.mpr he, rfl⟩
      | succ k =>
        rw [elementAt?_succ] at he
        exact .inr ⟨k, q, by rw [Nat.add_right_comm, Nat.add_assoc], he⟩

end

theorem mem_placedFrom_zero {nodes : List Node} {path : Path} {e : Element} :
    (path, e) ∈ placedFrom 0 nodes ↔ elementAt? nodes path = some e := by
  rw [mem_placedFrom]
  constructor
  · rintro ⟨k, q, rfl, h⟩
    rwa [Nat.zero_add]
  · intro h
    cases path with
    | nil => cases h
    | cons k path => exact ⟨k, path, by rw [Nat.zero_add], h⟩

/-- One listed element stands before another. -/
def Before (a b : Path × Element) : Prop := a.1 < b.1

instance : Std.Irrefl Before := ⟨fun a => lt_irrefl a.1⟩

instance : Std.Antisymm Before := ⟨fun _ _ h k => absurd k (lt_asymm h)⟩

mutual

theorem Node.ordered_placed : ∀ node : Node, node.placed.Pairwise Before
  | .element name attributes children => by
    rw [Node.placed, List.pairwise_cons]
    refine ⟨fun ⟨path, e⟩ hmem => ?_, ordered_placedFrom 0 children⟩
    obtain ⟨k, q, rfl, -⟩ := mem_placedFrom.mp hmem
    exact List.nil_lt_cons _ _
  | .text _ => by simp [Node.placed]
  | .comment _ => by simp [Node.placed]

theorem ordered_placedFrom (i : Nat) : ∀ nodes : List Node, (placedFrom i nodes).Pairwise Before
  | [] => by simp [placedFrom]
  | node :: rest => by
    rw [placedFrom, List.pairwise_append, List.pairwise_map]
    refine ⟨node.ordered_placed.imp fun h => List.cons_lt_cons_iff.mpr (.inr ⟨rfl, h⟩),
      ordered_placedFrom (i + 1) rest, ?_⟩
    intro front hfront ⟨path, e⟩ hback
    obtain ⟨own, -, rfl⟩ := List.mem_map.mp hfront
    obtain ⟨k, q, rfl, -⟩ := mem_placedFrom.mp hback
    exact List.cons_lt_cons_iff.mpr (.inl (by omega))

end

/-! ## The searches in the list -/

/-- Is the element that was listed called `name`? -/
def isListed (name : String) (found : Path × Element) : Bool := found.2.is name

mutual

theorem Node.elementsNamed_eq (name : String) : ∀ node : Node,
    node.elementsNamed name = (node.placed.filter (isListed name)).map Prod.snd
  | .element own attributes children => by
    rw [elementsNamed_element, Node.placed, elementsNamedAll_eq name 0 children, List.filter_cons,
      isListed, Element.is]
    split <;> rfl
  | .text _ => by rw [Node.elementsNamed, Node.placed]; rfl; all_goals nofun
  | .comment _ => by rw [Node.elementsNamed, Node.placed]; rfl; all_goals nofun

theorem elementsNamedAll_eq (name : String) (i : Nat) : ∀ nodes : List Node,
    elementsNamedAll name nodes = ((placedFrom i nodes).filter (isListed name)).map Prod.snd
  | [] => rfl
  | node :: rest => by
    rw [elementsNamedAll, placedFrom, List.filter_append, List.map_append, List.filter_map,
      List.map_map, node.elementsNamed_eq name, elementsNamedAll_eq name (i + 1) rest]
    rfl

end

mutual

theorem Node.locate?_eq (name : String) : ∀ node : Node,
    node.locate? name = node.placed.find? (isListed name)
  | .element own attributes children => by
    rw [Node.locate?, Node.placed, List.find?_cons, isListed, Element.is,
      locateAmong?_eq name 0 children]
    split <;> simp_all
  | .text _ => by rw [Node.locate?, Node.placed]; rfl; all_goals nofun
  | .comment _ => by rw [Node.locate?, Node.placed]; rfl; all_goals nofun

theorem locateAmong?_eq (name : String) (i : Nat) : ∀ nodes : List Node,
    locateAmong? name i nodes = (placedFrom i nodes).find? (isListed name)
  | [] => rfl
  | node :: rest => by
    rw [locateAmong?, placedFrom, List.find?_append, List.find?_map, node.locate?_eq name,
      locateAmong?_eq name (i + 1) rest]
    have hcomp : (isListed name ∘ fun found : Path × Element => (i :: found.1, found.2))
        = isListed name := rfl
    rw [hcomp]
    cases node.placed.find? (isListed name) <;> rfl

end

/-! ## Inside an element -/

theorem placed_below {d : Document} {path : Path} {e : Element}
    (h : elementAt? d.nodes path = some e) :
    (d.placed.filter fun found => path <+: found.1 ∧ path ≠ found.1)
      = (placedFrom 0 e.children).map fun found => (path ++ found.1, found.2) := by
  have hlisted : d.placed.Pairwise Before := ordered_placedFrom 0 d.nodes
  have hshifted : ((placedFrom 0 e.children).map fun found =>
      (path ++ found.1, found.2)).Pairwise Before := by
    rw [List.pairwise_map]
    exact (ordered_placedFrom 0 e.children).imp fun h => List.Lex.append_left _ h _
  refine (hlisted.filter _).eq_of_mem_iff hshifted fun ⟨place, found⟩ => ?_
  rw [List.mem_filter, Document.placed, mem_placedFrom_zero, List.mem_map]
  simp only [decide_eq_true_eq]
  constructor
  · rintro ⟨hat, ⟨more, rfl⟩, hne⟩
    rw [elementAt?_append h] at hat
    cases more with
    | nil => exact absurd (List.append_nil path).symm hne
    | cons i more => exact ⟨(i :: more, found), mem_placedFrom_zero.mpr hat, rfl⟩
  · rintro ⟨⟨more, own⟩, hmore, heq⟩
    cases heq
    rw [mem_placedFrom_zero] at hmore
    cases more with
    | nil => cases hmore
    | cons i more => exact ⟨(elementAt?_append h _).trans hmore, List.prefix_append .., by simp⟩

namespace Document

/-- **The two searches agree.** The elements of a name are listed in document order, each once and
with the one inside another behind it; the first of them is what the search for one element finds, with
its position, and below any element the search gives the element itself or the first of those listed
inside it. -/
theorem elementsNamed_agrees (d : Document) (name : String) :
    ∃ listed : List (Path × Element),
      (listed.map Prod.fst).Pairwise (· < ·) ∧
      (∀ path e, (path, e) ∈ listed ↔ elementAt? d.nodes path = some e ∧ e.is name = true) ∧
      d.elementsNamed name = listed.map Prod.snd ∧
      d.locate? name = listed.head? ∧
      d.find? name = (d.elementsNamed name).head? ∧
      (d.contains name = true ↔ d.elementsNamed name ≠ []) ∧
      ∀ path e, elementAt? d.nodes path = some e →
        e.find? name =
          if e.is name = true then some e
          else ((listed.filter fun found => path <+: found.1 ∧ path ≠ found.1).head?).map
            Prod.snd := by
  have hordered : (d.placed.filter (isListed name)).Pairwise Before :=
    (ordered_placedFrom 0 d.nodes).filter _
  refine ⟨d.placed.filter (isListed name), List.pairwise_map.mpr hordered, ?_,
    elementsNamedAll_eq name 0 d.nodes, ?_, find?_eq_head? d name, ?_, ?_⟩
  · intro path e
    rw [List.mem_filter, placed, mem_placedFrom_zero]
    rfl
  · rw [List.head?_filter]
    exact locateAmong?_eq name 0 d.nodes
  · rw [contains, find?_eq_head?, List.isSome_head?]
  · intro path e h
    rw [Element.find?, Node.locate?_eq, Element.toNode, Node.placed, List.find?_cons, isListed]
    split
    · next hname => rw [if_pos hname]; rfl
    · next hname =>
      rw [if_neg (by rw [hname]; decide), List.filter_comm, placed_below h, List.filter_map,
        List.head?_map, List.head?_filter, Option.map_map]
      rfl

end Document

end Lettermill
