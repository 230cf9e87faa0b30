import Lettermill.Document.Search
import Mathlib.Data.List.Basic
/-! The two searches of a document against each other and against positions: the search for the
first element and the list of all elements agree, the position that the search reports leads to the
element, and an element at a position is among those listed. -/
namespace Lettermill
set_option autoImplicit false

/-! ## Positions -/

theorem elementAt?_singleton {nodes : List Node} {k : Nat} {e : Element} :
    elementAt? nodes [k] = some e ↔ ∃ node, nodes[k]? = some node ∧ node.asElement? = some e := by
  rw [elementAt?, Option.bind_eq_some_iff]

theorem elementAt?_cons_cons {nodes : List Node} {k j : Nat} {path : Path} {e : Element} :
    elementAt? nodes (k :: j :: path) = some e ↔
      ∃ own attributes children, nodes[k]? = some (.element own attributes children) ∧
        elementAt? children (j :: path) = some e := by
  rw [elementAt?]
  cases hk : nodes[k]? with
  | none => simp
  | some node => cases node <;> simp [Node.asElement?]

theorem elementAt?_split {nodes : List Node} {k : Nat} {path : Path} {e : Element}
    (h : elementAt? nodes (k :: path) = some e) :
    ∃ front node back, nodes = front ++ node :: back ∧ front.length = k ∧
      (path = [] ∧ node = e.toNode ∨
        ∃ j q own attributes children, path = j :: q ∧ node = .element own attributes children ∧
          elementAt? children (j :: q) = some e) := by
  have split : ∀ {node : Node}, nodes[k]? = some node →
      nodes = nodes.take k ++ node :: nodes.drop (k + 1) ∧ (nodes.take k).length = k := by
    intro node hk
    obtain ⟨hlt, rfl⟩ := List.getElem?_eq_some_iff.mp hk
    refine ⟨?_, List.length_take_of_le (Nat.le_of_lt hlt)⟩
    rw [List.getElem_cons_drop, List.take_append_drop]
  cases path with
  | nil =>
    obtain ⟨node, hk, he⟩ := elementAt?_singleton.mp h
    have hnode : node = e.toNode := by
      cases node with
      | element own attributes children => cases he; rfl
      | text content => cases he
      | comment content => cases he
    exact ⟨_, node, _, (split hk).1, (split hk).2, .inl ⟨rfl, hnode⟩⟩
  | cons j q =>
    obtain ⟨own, attributes, children, hk, he⟩ := elementAt?_cons_cons.mp h
    refine ⟨_, _, _, (split hk).1, (split hk).2, .inr ?_⟩
    exact ⟨j, q, own, attributes, children, rfl, rfl, he⟩

/-! ## All elements -/

theorem elementsNamedAll_eq_flatMap (name : String) (nodes : List Node) :
    elementsNamedAll name nodes = nodes.flatMap (Node.elementsNamed name) := by
  induction nodes with
  | nil => rfl
  | cons node rest ih => rw [elementsNamedAll, List.flatMap_cons, ih]

theorem elementsNamed_element (name own : String) (attributes : Attributes)
    (children : List Node) :
    (Node.element own attributes children).elementsNamed name
      = (if Text.sameLetters own name then [⟨own, attributes, children⟩] else [])
        ++ elementsNamedAll name children := by
  rw [Node.elementsNamed]
  split <;> rfl

theorem mem_elementsNamedAll {name : String} {e : Element} (hn : e.is name = true) {path : Path}
    {nodes : List Node} {k : Nat} (h : elementAt? nodes (k :: path) = some e) :
    e ∈ elementsNamedAll name nodes := by
  induction path generalizing nodes k with
  | nil =>
    obtain ⟨front, node, back, rfl, -, ⟨-, rfl⟩ | ⟨_, _, _, _, _, hp, -⟩⟩ := elementAt?_split h
    · rw [elementsNamedAll_eq_flatMap, List.mem_flatMap]
      refine ⟨e.toNode, List.mem_append_right _ (List.mem_cons_self ..), ?_⟩
      rw [Element.is] at hn
      rw [Element.toNode, elementsNamed_element, if_pos hn]
      exact List.mem_append_left _ (List.mem_cons_self ..)
    · cases hp
  | cons j q ih =>
    obtain ⟨front, node, back, rfl, -, hplace⟩ := elementAt?_split h
    rcases hplace with ⟨hp, -⟩ | ⟨j', q', own, attributes, children, hp, rfl, he⟩
    · cases hp
    · cases hp
      rw [elementsNamedAll_eq_flatMap, List.mem_flatMap]
      refine ⟨_, List.mem_append_right _ (List.mem_cons_self ..), ?_⟩
      rw [elementsNamed_element]
      exact List.mem_append_right _ (ih he)

mutual

theorem Node.is_of_mem_elementsNamed {name : String} {e : Element} :
    ∀ {node : Node}, e ∈ node.elementsNamed name → e.is name = true
  | .element own attributes children, h => by
    rw [elementsNamed_element] at h
    rcases List.mem_append.mp h with h | h
    · split at h
      case isTrue hs =>
        rw [List.mem_singleton.mp h]
        exact hs
      case isFalse => exact absurd h List.not_mem_nil
    · exact is_of_mem_elementsNamedAll h
  | .text _, h => by rw [Node.elementsNamed] at h; cases h; all_goals nofun
  | .comment _, h => by rw [Node.elementsNamed] at h; cases h; all_goals nofun

theorem is_of_mem_elementsNamedAll {name : String} {e : Element} :
    ∀ {nodes : List Node}, e ∈ elementsNamedAll name nodes → e.is name = true
  | [], h => absurd h List.not_mem_nil
  | node :: rest, h => by
    rw [elementsNamedAll] at h
    rcases List.mem_append.mp h with h | h
    · exact Node.is_of_mem_elementsNamed h
    · exact is_of_mem_elementsNamedAll h

end

/-! ## The first element -/

mutual

theorem Node.locate?_snd (name : String) :
    ∀ node : Node, (node.locate? name).map Prod.snd = (node.elementsNamed name).head?
  | .element own attributes children => by
    rw [Node.locate?, elementsNamed_element]
    split
    · rfl
    · exact locateAmong?_snd name 0 children
  | .text _ => by rw [Node.locate?, Node.elementsNamed]; rfl; all_goals nofun
  | .comment _ => by rw [Node.locate?, Node.elementsNamed]; rfl; all_goals nofun

theorem locateAmong?_snd (name : String) (i : Nat) :
    ∀ nodes : List Node,
      (locateAmong? name i nodes).map Prod.snd = (elementsNamedAll name nodes).head?
  | [] => rfl
  | node :: rest => by
    have hnode := Node.locate?_snd name node
    rw [locateAmong?, elementsNamedAll, List.head?_append, ← hnode,
      ← locateAmong?_snd name (i + 1) rest]
    cases node.locate? name <;> rfl

end

mutual

theorem Node.elementAt?_of_locate? {name : String} {path : Path} {e : Element} :
    ∀ {node : Node}, node.locate? name = some (path, e) →
      path = [] ∧ node.asElement? = some e ∨
      ∃ j q own attributes children, path = j :: q ∧ node = .element own attributes children ∧
        elementAt? children (j :: q) = some e
  | .element own attributes children, h => by
    rw [Node.locate?] at h
    split at h
    · cases h
      exact .inl ⟨rfl, rfl⟩
    · obtain ⟨j, q, rfl, he⟩ := elementAt?_of_locateAmong? h
      exact .inr ⟨0 + j, q, own, attributes, children, rfl, rfl, by rwa [Nat.zero_add]⟩
  | .text _, h => by rw [Node.locate?] at h; cases h; all_goals nofun
  | .comment _, h => by rw [Node.locate?] at h; cases h; all_goals nofun

theorem elementAt?_of_locateAmong? {name : String} {i : Nat} {path : Path} {e : Element} :
    ∀ {nodes : List Node}, locateAmong? name i nodes = some (path, e) →
      ∃ k q, path = (i + k) :: q ∧ elementAt? nodes (k :: q) = some e
  | [], h => by cases h
  | node :: rest, h => by
    rw [locateAmong?] at h
    split at h
    case h_1 q' e' hloc =>
      cases h
      refine ⟨0, q', rfl, ?_⟩
      rcases Node.elementAt?_of_locate? hloc with
        ⟨rfl, he⟩ | ⟨j, q, own, attributes, children, rfl, rfl, he⟩
      · exact elementAt?_singleton.mpr ⟨node, rfl, he⟩
      · exact elementAt?_cons_cons.mpr ⟨own, attributes, children, rfl, he⟩
    case h_2 =>
      obtain ⟨k, q, rfl, he⟩ := elementAt?_of_locateAmong? h
      refine ⟨k + 1, q, by rw [Nat.add_assoc, Nat.add_comm 1 k], ?_⟩
      cases q with
      | nil =>
        obtain ⟨found, hk, hfound⟩ := elementAt?_singleton.mp he
        exact elementAt?_singleton.mpr ⟨found, hk, hfound⟩
      | cons j q =>
        obtain ⟨own, attributes, children, hk, hin⟩ := elementAt?_cons_cons.mp he
        exact elementAt?_cons_cons.mpr ⟨own, attributes, children, hk, hin⟩

end

namespace Document

theorem find?_eq_head? (d : Document) (name : String) :
    d.find? name = (d.elementsNamed name).head? := locateAmong?_snd name 0 d.nodes

theorem contains_eq_isSome (d : Document) (name : String) :
    d.contains name = (d.locate? name).isSome := by rw [contains, find?, Option.isSome_map]

theorem contains_eq_false_iff {d : Document} {name : String} :
    d.contains name = false ↔ d.locate? name = none := by
  rw [contains_eq_isSome, Option.isSome_eq_false_iff, Option.isNone_iff_eq_none]

theorem is_of_find? {d : Document} {name : String} {e : Element} (h : d.find? name = some e) :
    e.is name = true := by
  rw [find?_eq_head?] at h
  exact is_of_mem_elementsNamedAll (List.mem_of_head? h)

theorem locate?_eq_none_iff {d : Document} {name : String} :
    d.locate? name = none ↔ d.elementsNamed name = [] := by
  rw [← List.head?_eq_none_iff, ← find?_eq_head?, find?, Option.map_eq_none_iff]

theorem elementAt?_of_locate? {d : Document} {name : String} {path : Path} {e : Element}
    (h : d.locate? name = some (path, e)) :
    ∃ k q, path = k :: q ∧ elementAt? d.nodes (k :: q) = some e := by
  obtain ⟨k, q, rfl, he⟩ := elementAt?_of_locateAmong? h
  exact ⟨0 + k, q, rfl, by rwa [Nat.zero_add]⟩

end Document

end Lettermill
