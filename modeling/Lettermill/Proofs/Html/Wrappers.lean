import Lettermill.Document.Outside
import Lettermill.Html.Reader
import Lettermill.Proofs.Dict
/-! Dissolving the wrappers that were not written. A listing of a tree says of each node, in document
order, what it is and which elements are around it, so it tells the whole tree. The listing of a
document is that of the trees it was kept of, less the wrappers that dissolve: an `html` that was not
written, and a `head` or `body` in it that was not written. Main statement: nothing else is lost, and
every node stays inside the same elements.

Attributes go by the names that they have in their vocabularies, so a qualified attribute replaces a
plain one of the same name. -/
namespace Lettermill
set_option autoImplicit false

/-! ## Listings -/

/-- What a node is, apart from what it holds. -/
inductive Label where
  | element (name : String) (attributes : List (String × String))
  | text (content : String)
  | comment (content : String)
  deriving DecidableEq

/-- Is it an element of the document skeleton? -/
def Label.isSkeleton : Label → Bool
  | .element name _ => skeleton.any (Text.sameLetters name)
  | _ => false

mutual

/-- A node and those below it, in document order, each with the elements around it, the innermost
first. -/
def Node.listing (around : List Label) : Node → List (Label × List Label)
  | .element name attributes children =>
    (.element name attributes.entries, around)
      :: listingAll (.element name attributes.entries :: around) children
  | .text content => [(.text content, around)]
  | .comment content => [(.comment content, around)]

def listingAll (around : List Label) : List Node → List (Label × List Label)
  | [] => []
  | node :: rest => node.listing around ++ listingAll around rest

end

theorem listingAll_append (around : List Label) (front back : List Node) :
    listingAll around (front ++ back) = listingAll around front ++ listingAll around back := by
  induction front with
  | nil => rfl
  | cons node front ih => rw [List.cons_append, listingAll, listingAll, ih, List.append_assoc]

theorem listingAll_flatMap {α : Type} (around : List Label) (f : α → List Node) (xs : List α) :
    listingAll around (xs.flatMap f) = xs.flatMap fun x => listingAll around (f x) := by
  induction xs with
  | nil => rfl
  | cons x xs ih => rw [List.flatMap_cons, List.flatMap_cons, listingAll_append, ih]

namespace Html
namespace Tree

mutual

/-- A tree and those below it, in document order, each with those around it. -/
def within (around : List Tree) : Tree → List (Tree × List Tree)
  | .element name attrs children =>
    (.element name attrs children, around)
      :: withinAll (.element name attrs children :: around) children
  | .text content => [(.text content, around)]
  | .comment content => [(.comment content, around)]
  | .doctype d => [(.doctype d, around)]
  | .instruction target data => [(.instruction target data, around)]

def withinAll (around : List Tree) : List Tree → List (Tree × List Tree)
  | [] => []
  | tree :: rest => tree.within around ++ withinAll around rest

end

theorem withinAll_eq_flatMap (around : List Tree) (trees : List Tree) :
    withinAll around trees = trees.flatMap fun tree => tree.within around := by
  induction trees with
  | nil => rfl
  | cons tree rest ih => rw [withinAll, List.flatMap_cons, ih]

/-- Each attribute once, where it stands first, with the value that it has last. -/
def gathered (attrs : List (String × String)) : List (String × String) :=
  (attrs.map Prod.fst).eraseDups.filterMap fun name =>
    (attrs.reverse.lookup name).map fun value => (name, value)

/-- What a tree is, apart from what it holds; `attributes` says which of its attributes count. Types
of documents and instructions do not count themselves. -/
def label? (attributes : List (String × String) → List (String × String)) : Tree → Option Label
  | .element name attrs _ => some (.element (Text.lower name) (attributes attrs))
  | .text content => some (.text content)
  | .comment content => some (.comment content)
  | .doctype _ => none
  | .instruction _ _ => none

/-- Does the tree dissolve, given those around it? An `html` at the top does when it was not written,
and then a `head` or `body` directly in it that was not written either. -/
def dissolves (written : Written) (tree : Tree) : List Tree → Bool
  | [] => tree.isNamed "html" && !written.html
  | [root] =>
    root.dissolves written []
      && (tree.isNamed "head" && !written.head || tree.isNamed "body" && !written.body)
  | _ => false

/-- What is left of the trees around another one. -/
def left (written : Written) : List Tree → List Label
  | [] => []
  | tree :: around =>
    if tree.dissolves written around then left written around
    else (tree.label? gathered).toList ++ left written around

/-- The entry that is left of a tree in its place. -/
def left? (written : Written) (place : Tree × List Tree) : Option (Label × List Label) :=
  if place.1.dissolves written place.2 then none
  else (place.1.label? gathered).map fun label => (label, left written place.2)

/-! ## What is kept whole -/

theorem entries_ofList (attrs : List (String × String)) :
    (Dict.ofList attrs).entries = gathered attrs := by
  rw [Dict.entries_eq_filterMap, Dict.keys_ofList, gathered]
  simp only [Dict.get?_ofList]

section
variable {written : Written}

/-- Inside what does not dissolve nothing does. -/
theorem dissolves_below {tree : Tree} {around : List Tree}
    (h : tree.dissolves written around = false) (below : Tree) :
    below.dissolves written (tree :: around) = false := by
  cases around with
  | nil => rw [dissolves, h, Bool.false_and]
  | cons root around => rw [dissolves]; all_goals nofun

mutual

theorem listing_toNode? (around : List Tree) : ∀ tree : Tree,
    tree.dissolves written around = false →
    listingAll (left written around) tree.toNode?.toList
      = (tree.within around).filterMap (left? written)
  | .element name attrs children, h => by
    have hbelow := listing_toNodes (.element name attrs children :: around) children fun tree _ =>
      dissolves_below h tree
    have haround : left written (.element name attrs children :: around)
        = .element (Text.lower name) (gathered attrs) :: left written around := by
      rw [left, h]
      rfl
    rw [haround] at hbelow
    rw [toNode?, Option.toList_some, listingAll, listingAll, List.append_nil, Node.listing,
      entries_ofList, hbelow, within, List.filterMap_cons, left?, h]
    rfl
  | .text content, h => by simp [within, left?, h, label?, toNode?, listingAll, Node.listing]
  | .comment content, h => by simp [within, left?, h, label?, toNode?, listingAll, Node.listing]
  | .doctype d, h => by simp [within, left?, h, label?, toNode?, listingAll]
  | .instruction target data, h => by simp [within, left?, h, label?, toNode?, listingAll]

theorem listing_toNodes (around : List Tree) : ∀ trees : List Tree,
    (∀ tree ∈ trees, tree.dissolves written around = false) →
    listingAll (left written around) (toNodes trees)
      = (withinAll around trees).filterMap (left? written)
  | [], _ => rfl
  | tree :: rest, h => by
    rw [List.forall_mem_cons] at h
    rw [toNodes, listingAll_append, withinAll, List.filterMap_append,
      listing_toNode? around tree h.1, listing_toNodes around rest h.2]

end

/-! ## What dissolves -/

theorem element_of_isNamed {tree : Tree} {name : String} (h : tree.isNamed name = true) :
    ∃ attrs, tree = .element name attrs tree.children := by
  cases tree with
  | element own attrs children =>
    rw [isNamed, decide_eq_true_eq] at h
    exact ⟨attrs, by rw [h]; rfl⟩
  | _ => cases h

theorem listing_dissolvePart {root : Tree} (hroot : root.dissolves written [] = true)
    (part : Tree) :
    listingAll [] (part.dissolvePart written) = (part.within [root]).filterMap (left? written) := by
  have hleft : left written [root] = [] := by rw [left, hroot]; rfl
  have hpart : part.dissolves written [root] = (part.isNamed "head" && !written.head
      || part.isNamed "body" && !written.body) := by rw [dissolves, hroot, Bool.true_and]
  rw [dissolvePart, ← hpart]
  cases h : part.dissolves written [root] with
  | false =>
    have hkept := listing_toNode? [root] part h
    rwa [hleft] at hkept
  | true =>
    obtain ⟨name, attrs, hwrapper⟩ : ∃ name attrs, part = .element name attrs part.children := by
      rw [hpart, Bool.or_eq_true, Bool.and_eq_true, Bool.and_eq_true] at h
      rcases h with ⟨h, -⟩ | ⟨h, -⟩
      · exact ⟨_, element_of_isNamed h⟩
      · exact ⟨_, element_of_isNamed h⟩
    have hinside : ∀ tree ∈ part.children, tree.dissolves written [part, root] = false := by
      intro tree _
      rw [dissolves]
      all_goals nofun
    have hbelow := listing_toNodes [part, root] part.children hinside
    have hnone : left written [part, root] = [] := by rw [left, h]; exact hleft
    rw [hnone] at hbelow
    rw [if_pos rfl, hbelow]
    rw [hwrapper, within, ← hwrapper, List.filterMap_cons, left?, h]
    rfl

theorem listing_dissolve (tree : Tree) :
    listingAll [] (tree.dissolve written) = (tree.within []).filterMap (left? written) := by
  have hroot : (written.html || !tree.isNamed "html") = !tree.dissolves written [] := by
    rw [dissolves, Bool.not_and, Bool.not_not, Bool.or_comm]
  rw [dissolve, hroot]
  cases h : tree.dissolves written [] with
  | false => exact listing_toNode? [] tree h
  | true =>
    obtain ⟨attrs, hwrapper⟩ : ∃ attrs, tree = .element "html" attrs tree.children := by
      rw [dissolves, Bool.and_eq_true] at h
      exact element_of_isNamed h.1
    have hparts : tree.children.flatMap (fun part => listingAll [] (part.dissolvePart written))
        = (withinAll [tree] tree.children).filterMap (left? written) := by
      rw [withinAll_eq_flatMap, List.filterMap_flatMap]
      exact List.flatMap_congr fun part _ => listing_dissolvePart h part
    rw [Bool.not_true, if_neg Bool.false_ne_true, listingAll_flatMap, hparts]
    rw [hwrapper, within, ← hwrapper, List.filterMap_cons, left?, h]
    rfl

theorem isSkeleton_of_dissolves {tree : Tree} {around : List Tree}
    (h : tree.dissolves written around = true) :
    ∃ label, tree.label? gathered = some label ∧ label.isSkeleton = true := by
  have hnamed : ∃ name ∈ skeleton, tree.isNamed name = true := by
    match around with
    | [] =>
      rw [dissolves, Bool.and_eq_true] at h
      exact ⟨"html", by decide, h.1⟩
    | [root] =>
      rw [dissolves, Bool.and_eq_true, Bool.or_eq_true, Bool.and_eq_true, Bool.and_eq_true] at h
      rcases h.2 with ⟨hname, -⟩ | ⟨hname, -⟩
      · exact ⟨"head", by decide, hname⟩
      · exact ⟨"body", by decide, hname⟩
    | _ :: _ :: _ => simp [dissolves] at h
  obtain ⟨name, hname, hnamed⟩ := hnamed
  obtain ⟨attrs, hwrapper⟩ := element_of_isNamed hnamed
  refine ⟨_, by rw [hwrapper, label?], ?_⟩
  have hskeleton : ∀ name ∈ skeleton,
      (Label.element (Text.lower name) []).isSkeleton = true := by decide
  exact hskeleton name hname

theorem filter_left? (places : List (Tree × List Tree)) :
    ((places.filterMap (left? written)).map Prod.fst).filter (fun l => !l.isSkeleton)
      = (places.filterMap fun place => place.1.label? gathered).filter fun l => !l.isSkeleton := by
  induction places with
  | nil => rfl
  | cons place rest ih =>
    rw [List.filterMap_cons, List.filterMap_cons, left?]
    cases h : place.1.dissolves written place.2 with
    | true =>
      obtain ⟨label, hlabel, hskeleton⟩ := isSkeleton_of_dissolves h
      simp only [hlabel, if_true]
      rw [List.filter_cons_of_neg (by rw [hskeleton]; decide)]
      exact ih
    | false =>
      rw [if_neg Bool.false_ne_true]
      cases place.1.label? gathered with
      | none => exact ih
      | some label => simp [List.filter_cons, ih]

end

end Tree

open Lettermill.Html.Tree

/-- **Nothing but the wrappers dissolves.** Whatever was written, the document kept of trees holds, in
their order, the texts, the comments and the elements outside the skeleton that the trees hold, and
each node of it, the skeleton included, is inside what is left of the elements that it was in. -/
theorem toDocument_listing (written : Written) (trees : List Tree) :
    ((listingAll [] (toDocument written trees).nodes).map Prod.fst).filter (fun l => !l.isSkeleton)
      = ((withinAll [] trees).filterMap fun place => place.1.label? gathered).filter
          (fun l => !l.isSkeleton) ∧
    listingAll [] (toDocument written trees).nodes
      = (withinAll [] trees).filterMap (left? written) := by
  have hlisting : listingAll [] (toDocument written trees).nodes
      = (withinAll [] trees).filterMap (left? written) := by
    rw [toDocument, listingAll_flatMap, withinAll_eq_flatMap, List.filterMap_flatMap]
    exact List.flatMap_congr fun tree _ => listing_dissolve tree
  refine ⟨?_, hlisting⟩
  rw [hlisting, filter_left?]

/-- A drawing whose link has a plain and a qualified address. -/
theorem toDocument_qualified :
    let source := "<svg><a href='a' id=i xlink:href='b'>t</a></svg>"
    let trees := treesOf (expand source)
    ((listingAll [] (toDocument (Written.ofSource source) trees).nodes).map Prod.fst).filter
        (fun l => !l.isSkeleton)
      ≠ ((withinAll [] trees).filterMap fun place => place.1.label? id).filter
          (fun l => !l.isSkeleton) := by
  decide +kernel

end Html

end Lettermill
