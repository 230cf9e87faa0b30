import Lettermill.Document.Outside
import Lettermill.Proofs.Document.Search
/-! What lies outside a kept element, node by node. Every node of a document stands at a position, and
the positions of two nodes tell whether one is inside the other, so equal elements in two places are
not taken for each other. Main statement: keeping the element at a position loses nothing exactly
when every node that is not inside it is idle or around it. -/
namespace Lettermill
set_option autoImplicit false

/-! ## Nodes and their positions -/

/-- The node at a position relative to a node; the empty position is the node itself. -/
def Node.descend? : Path → Node → Option Node
  | [], node => some node
  | i :: path, .element _ _ children => (children[i]?).bind (Node.descend? path)
  | _ :: _, _ => none

/-- The node at a position; the empty position means none. -/
def nodeAt? (nodes : List Node) : Path → Option Node
  | [] => none
  | i :: path => (nodes[i]?).bind (Node.descend? path)

/-- Blank text, a comment or an element of the skeleton: a node that is no content itself. -/
def Node.isIdle : Node → Bool
  | .text content => Text.allBlank content
  | .comment _ => true
  | .element name attributes children => (Node.element name attributes children).isSkeleton

theorem nodeAt?_of_elementAt? {path : Path} {nodes : List Node} {e : Element}
    (h : elementAt? nodes path = some e) : nodeAt? nodes path = some e.toNode := by
  induction path generalizing nodes with
  | nil => cases h
  | cons i path ih =>
    cases path with
    | nil =>
      obtain ⟨node, hi, he⟩ := elementAt?_singleton.mp h
      have hnode : node = e.toNode := by
        cases node <;> cases he
        rfl
      rw [nodeAt?, hi, hnode]
      rfl
    | cons j path =>
      obtain ⟨own, attributes, children, hi, he⟩ := elementAt?_cons_cons.mp h
      have hbelow : nodeAt? children (j :: path) = some e.toNode := ih he
      rw [nodeAt?, hi]
      exact hbelow

theorem forall_descend?_element {P : Path → Node → Prop} {name : String} {attributes : Attributes}
    {children : List Node} :
    (∀ q n, Node.descend? q (.element name attributes children) = some n → P q n) ↔
      P [] (.element name attributes children) ∧
        ∀ i q n, nodeAt? children (i :: q) = some n → P (i :: q) n := by
  constructor
  · exact fun h => ⟨h [] _ rfl, fun i q n hn => h (i :: q) n hn⟩
  · rintro ⟨hself, hbelow⟩ q n hn
    cases q with
    | nil =>
      cases hn
      exact hself
    | cons i q => exact hbelow i q n hn

theorem forall_nodeAt?_cons {P : Path → Node → Prop} {node : Node} {rest : List Node} :
    (∀ i q n, nodeAt? (node :: rest) (i :: q) = some n → P (i :: q) n) ↔
      (∀ q n, Node.descend? q node = some n → P (0 :: q) n) ∧
        ∀ i q n, nodeAt? rest (i :: q) = some n → P ((i + 1) :: q) n := by
  constructor
  · exact fun h => ⟨fun q n hn => h 0 q n hn, fun i q n hn => h (i + 1) q n hn⟩
  · rintro ⟨hfirst, hrest⟩ i q n hn
    cases i with
    | zero => exact hfirst q n hn
    | succ i => exact hrest i q n hn

/-! ## Nodes without the kept element -/

mutual

theorem Node.hasContentOutside_none_iff :
    ∀ {node : Node}, node.hasContentOutside none = false ↔
      ∀ q n, Node.descend? q node = some n → n.isIdle = true
  | .text content => by
    rw [Node.hasContentOutside, Bool.not_eq_false']
    constructor
    · intro h q n hn
      cases q <;> cases hn
      exact h
    · exact fun h => h [] _ rfl
  | .comment content => by
    rw [Node.hasContentOutside]
    refine iff_of_true rfl ?_
    intro q n hn
    cases q <;> cases hn
    rfl
  | .element name attributes children => by
    rw [Node.hasContentOutside, forall_descend?_element, ← contentOutside_none_iff, Node.isIdle]
    cases (Node.element name attributes children).isSkeleton <;> simp

theorem contentOutside_none_iff :
    ∀ {nodes : List Node}, contentOutside none nodes = false ↔
      ∀ i q n, nodeAt? nodes (i :: q) = some n → n.isIdle = true
  | [] => iff_of_true rfl (by intro i q n hn; cases hn)
  | node :: rest => by
    rw [contentOutside, Bool.or_eq_false_iff, Node.hasContentOutside_none_iff,
      contentOutside_none_iff, forall_nodeAt?_cons (P := fun _ n => n.isIdle = true)]

end

/-! ## Nodes around the kept element -/

mutual

theorem Node.hasContentOutside_some_iff {path : Path} {e : Element} :
    ∀ {node : Node}, Node.descend? path node = some e.toNode →
      (node.hasContentOutside (some path) = false ↔
        ∀ q n, Node.descend? q node = some n → path <+: q ∨ q <+: path ∨ n.isIdle = true)
  | .text content, h => by cases path <;> cases h
  | .comment content, h => by cases path <;> cases h
  | .element name attributes children, h => by
    cases path with
    | nil =>
      rw [Node.hasContentOutside]
      exact iff_of_true rfl fun q n hn => .inl (List.nil_prefix)
    | cons k path =>
      have hbelow : nodeAt? children (k :: path) = some e.toNode := h
      rw [Node.hasContentOutside, contentOutside_some_iff hbelow, forall_descend?_element]
      exact (and_iff_right (.inr (.inl List.nil_prefix))).symm

theorem contentOutside_some_iff {k : Nat} {path : Path} {e : Element} :
    ∀ {nodes : List Node}, nodeAt? nodes (k :: path) = some e.toNode →
      (contentOutside (some (k, path)) nodes = false ↔
        ∀ i q n, nodeAt? nodes (i :: q) = some n →
          k :: path <+: i :: q ∨ i :: q <+: k :: path ∨ n.isIdle = true)
  | [], h => by cases h
  | node :: rest, h => by
    rw [forall_nodeAt?_cons
      (P := fun place n => k :: path <+: place ∨ place <+: k :: path ∨ n.isIdle = true)]
    cases k with
    | zero =>
      have hnode : Node.descend? path node = some e.toNode := h
      rw [contentOutside, Bool.or_eq_false_iff, Node.hasContentOutside_some_iff hnode,
        contentOutside_none_iff]
      simp [List.cons_prefix_cons]
    | succ k =>
      have hrest : nodeAt? rest (k :: path) = some e.toNode := h
      rw [contentOutside, Bool.or_eq_false_iff, Node.hasContentOutside_none_iff,
        contentOutside_some_iff hrest]
      simp [List.cons_prefix_cons]

end

namespace Document

/-- **Discarded content is judged exactly.** Keeping the element at a position loses nothing just
when each node that is not inside it is around it or is idle. -/
theorem hasContentOutside_eq_false_iff (d : Document) (kept : Path) (e : Element)
    (hat : elementAt? d.nodes kept = some e) :
    d.hasContentOutside kept = false ↔
      ∀ place node, nodeAt? d.nodes place = some node → ¬ kept <+: place →
        place <+: kept ∨ node.isIdle = true := by
  cases kept with
  | nil => cases hat
  | cons k path =>
    rw [hasContentOutside, contentOutside_some_iff (nodeAt?_of_elementAt? hat)]
    constructor
    · intro h place node hnode hout
      cases place with
      | nil => cases hnode
      | cons i q => exact (h i q node hnode).resolve_left hout
    · intro h i q node hnode
      rw [or_iff_not_imp_left]
      exact h (i :: q) node hnode

/-- Of two equal mail documents the first is content when the second is kept. -/
theorem hasContentOutside_copy :
    let mail : Node := .element "mjml" ∅ []
    let d : Document := ⟨[.element "BODY" ∅ [.element "div" ∅ [mail], .text "\n ", mail]]⟩
    elementAt? d.nodes [0, 2] = mail.asElement? ∧ d.hasContentOutside [0, 2] = true := by
  intro mail d
  refine ⟨rfl, ?_⟩
  rw [← Bool.not_eq_false]
  intro h
  have hall := (hasContentOutside_eq_false_iff d [0, 2] ⟨"mjml", ∅, []⟩ rfl).mp h
  have hcopy : [0, 0, 0] <+: [0, 2] ∨ mail.isIdle = true := hall [0, 0, 0] mail rfl (by decide)
  exact absurd hcopy (by decide)

end Document

end Lettermill
