import Lettermill.Proofs.Markup.Outermost
import Lettermill.Proofs.Transform.Fragment
/-! Where the roots of a fragment end up. A node that is written as an element is one outermost element,
inside the components that its tag needs; texts, comments and elements that are left out have no
outermost element and get no wrapper. Main statement: the outermost elements of a fragment are those of
its nodes, one after the other, and none of them has a tag that belongs inside another component. -/
namespace Lettermill
set_option autoImplicit false
open Text Markup
open Registry (outline writtenNodesAll)

namespace Component

/-- The pieces of a root with this tag, brought to the place where the tag belongs. -/
def repaired (tag : String) (own : List Piece) : List Piece :=
  if tag ∈ columnChildren then bracket "mj-section" [] (bracket "mj-column" [] own)
  else if tag = "mj-column" ∨ tag = "mj-group" then bracket "mj-section" [] own
  else own

/-- The tags that cannot stand at the top. -/
def inner : List String := "mj-column" :: "mj-group" :: columnChildren

theorem wrapRoot_splits {tag m : String} {own : List Piece} (h : Splits m own) :
    Splits (wrapRoot tag m) (repaired tag own) := by
  have hwrap : ∀ {outer m : String} {own : List Piece}, IsTag outer → Splits m own →
      Splits (wrap outer m) (bracket outer [] own) := by
    intro outer m own ht hm
    rw [wrap_eq_full]
    exact hm.full ht named_empty
  simp only [wrapRoot, repaired, needsColumn, needsSection, List.contains_iff_mem, Bool.or_eq_true,
    decide_eq_true_eq]
  split
  · exact hwrap (by decide) (hwrap (by decide) h)
  · split
    · exact hwrap (by decide) h
    · exact h

theorem repaired_single {tag : String} {own : List Piece} (h : Single tag own) :
    ∃ outer, outer ∉ inner ∧ Single outer (repaired tag own) := by
  have hsection : ∀ {t : String} {ps : List Piece}, Single t ps →
      Single "mj-section" (bracket "mj-section" [] ps) :=
    fun hps => ⟨[], .inr ⟨_, rfl, hps.nests⟩⟩
  rw [repaired]
  split
  case isTrue => exact ⟨"mj-section", by decide, hsection ⟨[], .inr ⟨own, rfl, h.nests⟩⟩⟩
  case isFalse hcolumn =>
    split
    case isTrue => exact ⟨"mj-section", by decide, hsection h⟩
    case isFalse hsect =>
      refine ⟨tag, ?_, h⟩
      rw [inner, List.mem_cons, List.mem_cons, ← or_assoc]
      exact fun hmem => hmem.elim hsect hcolumn

end Component

namespace Setting
variable {s : Setting}

/-- What a node brings to a fragment: its markup, and the outermost element of it, if it has one. -/
inductive Brings (s : Setting) : Node → String → List (List Piece) → Prop
  | text (content : String) : Brings s (.text content) content []
  | comment (content : String) : Brings s (.comment content) ("<!-- " ++ content ++ " -->") []
  | leftOut {name : String} (attributes : Attributes) (children : List Node)
      (omitted : s.registry.leavesOut name = true) :
      Brings s (.element name attributes children) "" []
  | element {name : String} {attributes : Attributes} {children : List Node} {tag markup : String}
      {own : List Piece} (written : s.registry.leavesOut name = false)
      (emittedAs : (s.emit none (.element name attributes children)).tag = some tag)
      (emitted : Splits (s.emit none (.element name attributes children)).markup own)
      (single : Single tag own) (placed : Splits markup (Component.repaired tag own)) :
      Brings s (.element name attributes children) markup [Component.repaired tag own]

theorem Brings.tops {node : Node} {markup : String} {es : List (List Piece)}
    (h : s.Brings node markup es)
    (hw : ∀ n ∈ s.registry.writtenNodes node, s.registry.CanWrite s.attributesFor n) :
    Tops markup es := by
  cases h with
  | text => exact Tops.text (hw _ (List.mem_singleton_self _))
  | comment => exact Tops.comment (hw _ (List.mem_singleton_self _))
  | leftOut => exact Tops.nil
  | element _ _ _ single placed =>
    obtain ⟨outer, -, houter⟩ := Component.repaired_single single
    exact Tops.single placed houter

theorem Brings.at_top {node : Node} {markup : String} {es : List (List Piece)}
    (h : s.Brings node markup es) :
    ∀ e ∈ es, ∃ tag, tag ∉ Component.inner ∧ Single tag e := by
  cases h with
  | element _ _ _ single _ =>
    rw [List.forall_mem_singleton]
    exact Component.repaired_single single
  | _ => exact fun _ h => absurd h List.not_mem_nil

theorem brings_emitRoot {node : Node}
    (hw : ∀ n ∈ s.registry.writtenNodes node, s.registry.CanWrite s.attributesFor n) :
    ∃ es, s.Brings node (s.emitRoot node).markup es := by
  cases node with
  | text content =>
    rw [emitRoot, emit]
    exact ⟨[], .text content⟩
  | comment content =>
    rw [emitRoot, emit]
    exact ⟨[], .comment content⟩
  | element name attributes children =>
    rw [emitRoot_markup, outline]
    cases ho : s.registry.leavesOut name with
    | true =>
      rw [emit_leftOut ho]
      exact ⟨[], .leftOut attributes children ho⟩
    | false =>
      obtain ⟨own, hown, -, hsingle⟩ := isElement_emit none ho hw
      exact ⟨_, .element ho (emit_written ho).1 hown hsingle (Component.wrapRoot_splits hown)⟩

theorem brings_emitFragment {nodes : List Node}
    (hw : ∀ n ∈ s.registry.writtenNodesAll nodes, s.registry.CanWrite s.attributesFor n) :
    ∃ parts, List.Forall₂ (fun node part => s.Brings node part.1 part.2) nodes parts ∧
      (s.emitFragment nodes).markup = String.join (parts.map Prod.fst) ∧
      Tops (s.emitFragment nodes).markup (parts.flatMap Prod.snd) ∧
      ∀ e ∈ parts.flatMap Prod.snd, ∃ tag, tag ∉ Component.inner ∧ Single tag e := by
  induction nodes with
  | nil => exact ⟨[], .nil, rfl, Tops.nil, fun _ h => absurd h List.not_mem_nil⟩
  | cons node rest ih =>
    rw [writtenNodesAll, List.forall_mem_append] at hw
    obtain ⟨es, hes⟩ := brings_emitRoot hw.1
    obtain ⟨parts, hall, hmarkup, htops, htop⟩ := ih hw.2
    refine ⟨((s.emitRoot node).markup, es) :: parts, .cons hes hall, ?_,
      (hes.tops hw.1).append htops, ?_⟩
    · rw [List.map_cons, String.join_cons, ← hmarkup]
      rfl
    · rw [List.flatMap_cons, List.forall_mem_append]
      exact ⟨hes.at_top, htop⟩

theorem emitFragment_append (front back : List Node) :
    s.emitFragment (front ++ back) = (s.emitFragment front).append (s.emitFragment back) := by
  induction front with
  | nil => cases back <;> simp [emitFragment, Emission.append]
  | cons node rest ih =>
    have hcons : ∀ nodes, s.emitFragment (node :: nodes)
        = (s.emitRoot node).append (s.emitFragment nodes) := fun _ => rfl
    rw [List.cons_append, hcons, hcons, ih]
    simp [Emission.append, String.append_assoc]

/-- **Every root of a fragment is repaired, once.** The markup of a fragment splits into pieces in one
way. Its parts are the markup of its nodes, one after the other, and its outermost elements are those
that the nodes bring: none for a text, a comment or an element that is left out, and for any other
element the one that it was emitted as, inside a column and a section, inside a section, or by itself,
as its tag demands. No outermost element has a tag that belongs inside another component. A fragment
in two parts is written part by part. -/
theorem emitFragment_repairs (s : Setting) :
    (∀ nodes, (∀ n ∈ s.registry.writtenNodesAll nodes, s.registry.CanWrite s.attributesFor n) →
      ∃ ps parts, Splits (s.emitFragment nodes).markup ps ∧
        (∀ qs, Splits (s.emitFragment nodes).markup qs → qs = ps) ∧ nests [] ps = true ∧
        List.Forall₂ (fun node part => s.Brings node part.1 part.2) nodes parts ∧
        (s.emitFragment nodes).markup = String.join (parts.map Prod.fst) ∧
        outermost ps = parts.flatMap Prod.snd ∧
        ∀ e ∈ outermost ps, ∃ tag, tag ∉ Component.inner ∧ Single tag e) ∧
    ∀ front back, s.emitFragment (front ++ back)
      = (s.emitFragment front).append (s.emitFragment back) := by
  refine ⟨fun nodes hw => ?_, emitFragment_append⟩
  obtain ⟨parts, hall, hmarkup, htops, htop⟩ := brings_emitFragment hw
  obtain ⟨ps, hps, hone, hnest, hes⟩ := htops.splits
  exact ⟨ps, parts, hps, hone, hnest, hall, hmarkup, hes, by rwa [hes]⟩

/-- A text, a comment, a list, a script, a column whose class is kept, a group and a plain division. -/
theorem emitFragment_repairs_list :
    ∃ ps, Splits ("Hi<!-- a > b --><mj-section><mj-column><mj-text><mj-text>• One</mj-text>"
        ++ "</mj-text></mj-column></mj-section>"
        ++ "<mj-section><mj-column css-class=\"col\">B</mj-column></mj-section>"
        ++ "<mj-section><mj-group /></mj-section><mj-section>C</mj-section>") ps ∧
      nests [] ps = true ∧ ∀ e ∈ outermost ps, ∃ tag, tag ∉ Component.inner ∧ Single tag e := by
  obtain ⟨ps, parts, hps, -, hnest, -, -, -, htop⟩ :=
    (emitFragment_repairs { preserveClassNames := true }).1
      [.text "Hi", .comment "a > b", .element "ul" ∅ [.element "li" ∅ [.text "One"]],
        .element "script" ∅ [.text "x < y"],
        .element "div" (Dict.ofList [("class", "col")]) [.text "B"], .element "mj-group" ∅ [],
        .element "div" ∅ [.text "C"]] (by decide +kernel)
  refine ⟨ps, ?_, hnest, htop⟩
  convert hps using 1
  decide +kernel

end Setting

end Lettermill
