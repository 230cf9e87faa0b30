import Lettermill.Proofs.Converter.SingleMail
import Lettermill.Proofs.Document.Conservation
import Lettermill.Proofs.Transform.Places
/-! Where titles end up. Of a document without a root whose titles stand at the top or directly in a
head there, the root is made in one of two ways: a loose title goes into the head when no body was
written, and stays beside the body when one was. Main statement: titles are all written inside a head,
unless a title and a body both stand at the top; then such a title stands right in the mail element. -/
namespace Lettermill
set_option autoImplicit false
open Markup
open Registry (exists_title exists_title_among mem_placesAll placesAll places_of_target places_title
  title_in_head)

theorem Node.isNamed_of_asElement? {node : Node} {e : Element} (h : node.asElement? = some e)
    (name : String) : node.isNamed name = e.is name := by
  cases node with
  | element own attributes children => cases h; rfl
  | text content => cases h
  | comment content => cases h

namespace Document

/-- Does every title stand at the top, or directly in a head that does? -/
def TitlesInFront (d : Document) : Prop :=
  ∀ path e, elementAt? d.nodes path = some e → e.is "title" = true →
    path.length = 1 ∨
    (path.length = 2 ∧ (elementAt? d.nodes path.dropLast).any (·.is "head") = true)

instance (d : Document) : Decidable d.TitlesInFront :=
  decidable_of_iff
    (∀ found ∈ d.placed, found.2.is "title" = true → found.1.length = 1 ∨
      (found.1.length = 2 ∧ (elementAt? d.nodes found.1.dropLast).any (·.is "head") = true))
    ⟨fun h path e he => h (path, e) (mem_placedFrom_zero.mpr he),
      fun h found hfound => h found.1 found.2 (mem_placedFrom_zero.mp hfound)⟩

variable {d : Document} {node : Node}

theorem TitlesInFront.at_top (h : d.TitlesInFront) (hnode : node ∈ d.nodes)
    (hhead : node.isNamed "head" = false) {path : Path} {e : Element}
    (hfound : (path, e) ∈ node.placed) (he : e.is "title" = true) :
    path = [] ∧ node.isNamed "title" = true := by
  obtain ⟨i, hi⟩ := List.mem_iff_getElem?.mp hnode
  have hdown := Node.mem_placed.mp hfound
  have hat : elementAt? d.nodes (i :: path) = some e := by
    rw [elementAt?_cons, hi]
    exact hdown
  obtain hlength | ⟨hlength, hin⟩ := h _ e hat he
  · obtain rfl : path = [] := by simpa using hlength
    obtain ⟨own, hown, hsame⟩ := Option.bind_eq_some_iff.mp hdown
    cases hsame
    exact ⟨rfl, (Node.isNamed_of_asElement? hown _).trans he⟩
  · obtain ⟨j, rfl⟩ : ∃ j, path = [j] := List.length_eq_one_iff.mp (by simpa using hlength)
    have hparent : (elementAt? d.nodes [i]).any (·.is "head") = true := hin
    rw [elementAt?, hi, Option.bind_some] at hparent
    cases hown : node.asElement? with
    | none =>
      rw [hown] at hparent
      cases hparent
    | some own =>
      rw [hown] at hparent
      rw [Node.isNamed_of_asElement? hown] at hhead
      exact absurd (hparent.symm.trans hhead) (by decide)

end Document

/-! ## The document with its root -/

section
variable {d : Document} {place : Placement}

theorem isNamed_of_headHolding {head : Option Element} {loose : List Node} {node : Node}
    (hhead : ∀ e ∈ head, e.is "head" = true) (h : node ∈ headHolding head loose) :
    node.isNamed "head" = true := by
  cases head with
  | some e =>
    rw [List.mem_singleton.mp h]
    exact hhead e rfl
  | none =>
    cases loose with
    | nil => cases h
    | cons first loose =>
      have hname : Text.sameLetters "head" "head" = true := by decide
      rw [List.mem_singleton.mp h]
      exact hname

theorem Document.TitlesInFront.in_head (h : d.TitlesInFront) {node : Node} {around : List String}
    (hnode : node ∈ d.nodes) (htitle : node.isNamed "title" = false)
    (hplace : place ∈ Registry.new.places around node) (ht : place.IsTitle) :
    "mj-head" ∈ place.around := by
  cases hhead : node.isNamed "head" with
  | true => exact title_in_head hhead hplace ht
  | false =>
    obtain ⟨⟨path, e⟩, hfound, he⟩ := exists_title hplace ht
    rw [(h.at_top hnode hhead hfound he).2] at htitle
    cases htitle

theorem Document.TitlesInFront.around_eq (h : d.TitlesInFront) {node : Node} {around : List String}
    (hnode : node ∈ d.nodes) (htitle : node.isNamed "title" = true)
    (hplace : place ∈ Registry.new.places around node) (ht : place.IsTitle) :
    place.around = around := by
  cases node with
  | text content => cases htitle
  | comment content => cases htitle
  | element name attributes children =>
    rw [places_title htitle] at hplace
    rcases List.mem_cons.mp hplace with rfl | hplace
    · rfl
    · obtain ⟨⟨path, e⟩, hfound, he⟩ := exists_title_among hplace ht
      have hlower : Text.lower name = "title" := beq_iff_eq.mp htitle
      have hhead : (Node.element name attributes children).isNamed "head" = false := by
        rw [Node.isNamed, Text.sameLetters, hlower]
        decide
      have hin : (path, e) ∈ (Node.element name attributes children).placed :=
        List.mem_cons_of_mem _ hfound
      obtain ⟨rfl, -⟩ := h.at_top hnode hhead hin he
      obtain ⟨k, q, hcons, -⟩ := mem_placedFrom.mp hfound
      cases hcons

theorem in_head_of_no_body (h : d.TitlesInFront)
    (hbody : ∀ node ∈ d.nodes, node.isNamed "body" = false)
    (hplace : place ∈ Registry.new.placesAll ["mjml"] (rootChildren d.nodes))
    (ht : place.IsTitle) : "mj-head" ∈ place.around := by
  have hdivided := Sorted.divided d.nodes
  rw [rootChildren_of_none hbody] at hplace
  obtain ⟨node, hnode, hplace⟩ := mem_placesAll.mp hplace
  rcases List.mem_append.mp hnode with hnode | hnode
  · exact title_in_head (isNamed_of_headHolding (fun e he => Sorted.is_head he) hnode) hplace ht
  · have hwritten : Registry.new.places ["mjml"]
          (.element "body" ∅ (Sorted.ofNodes d.nodes).content)
        = ⟨some "body", "mj-body", ["mjml"]⟩ ::
          Registry.new.placesAll ["mj-body", "mjml"] (Sorted.ofNodes d.nodes).content :=
      places_of_target "body" (by decide) (by decide +kernel) rfl
    rw [List.mem_singleton.mp hnode, hwritten, ht.mem_cons_iff (by decide)] at hplace
    obtain ⟨inner, hinner, hplace⟩ := mem_placesAll.mp hplace
    have hplain := hdivided.content_plain inner hinner
    have htitle : inner.isNamed "title" = false :=
      Bool.eq_false_iff.mpr (List.any_eq_false.mp hplain "title" (by decide))
    exact h.in_head (hdivided.content_ordered.subset hinner) htitle hplace ht

theorem mem_normalized_places (hroot : d.hasRoot = false) (ht : place.IsTitle) :
    place ∈ Registry.new.placesAll [] d.normalized.nodes ↔
      place ∈ Registry.new.placesAll ["mjml"] (rootChildren d.nodes) := by
  have hwritten : Registry.new.places [] (.element "html" ∅ (rootChildren d.nodes))
      = ⟨some "html", "mjml", []⟩ :: Registry.new.placesAll ["mjml"] (rootChildren d.nodes) :=
    places_of_target "html" (by decide) (by decide +kernel) rfl
  rw [Document.normalized_of_none hroot, placesAll, placesAll, List.append_nil, hwritten,
    ht.mem_cons_iff (by decide)]

theorem Document.TitlesInFront.in_head_or_mail (h : d.TitlesInFront) (hroot : d.hasRoot = false)
    (hplace : place ∈ Registry.new.placesAll [] d.normalized.nodes) (ht : place.IsTitle) :
    "mj-head" ∈ place.around ∨
    (place.around = ["mjml"] ∧ (∃ node ∈ d.nodes, node.isNamed "body" = true) ∧
      ∃ node ∈ d.nodes, node.isNamed "title" = true) := by
  rw [mem_normalized_places hroot ht] at hplace
  by_cases hbody : ∃ node ∈ d.nodes, node.isNamed "body" = true
  · rw [rootChildren_of_body hbody] at hplace
    obtain ⟨node, hnode, hplace⟩ := mem_placesAll.mp hplace
    cases htitle : node.isNamed "title" with
    | true => exact .inr ⟨h.around_eq hnode htitle hplace ht, hbody, node, hnode, htitle⟩
    | false => exact .inl (h.in_head hnode htitle hplace ht)
  · have hnone : ∀ node ∈ d.nodes, node.isNamed "body" = false := fun node hnode =>
      Bool.eq_false_iff.mpr fun hb => hbody ⟨node, hnode, hb⟩
    exact .inl (in_head_of_no_body h hnone hplace ht)

theorem exists_loose_title (hroot : d.hasRoot = false)
    (hbody : ∃ node ∈ d.nodes, node.isNamed "body" = true)
    (htitle : ∃ node ∈ d.nodes, node.isNamed "title" = true) :
    ∃ place ∈ Registry.new.placesAll [] d.normalized.nodes,
      place.IsTitle ∧ place.around = ["mjml"] := by
  obtain ⟨node, hnode, hname⟩ := htitle
  obtain ⟨place, hplace, ht, haround⟩ := Registry.exists_title_at hname ["mjml"]
  refine ⟨place, (mem_normalized_places hroot ht).mpr ?_, ht, haround⟩
  rw [rootChildren_of_body hbody]
  exact mem_placesAll.mpr ⟨node, hnode, hplace⟩

theorem Document.TitlesInFront.all_in_head_iff (h : d.TitlesInFront) (hroot : d.hasRoot = false) :
    (∀ place ∈ Registry.new.placesAll [] d.normalized.nodes, place.IsTitle →
        "mj-head" ∈ place.around) ↔
      ¬ ((∃ node ∈ d.nodes, node.isNamed "body" = true) ∧
        ∃ node ∈ d.nodes, node.isNamed "title" = true) := by
  constructor
  · rintro hall ⟨hbody, htitle⟩
    obtain ⟨place, hplace, ht, haround⟩ := exists_loose_title hroot hbody htitle
    have hin := hall place hplace ht
    rw [haround] at hin
    exact absurd hin (by decide)
  · intro hnot place hplace ht
    rcases h.in_head_or_mail hroot hplace ht with hin | ⟨-, hboth⟩
    · exact hin
    · exact absurd hboth hnot

end

namespace Converter

/-- **Titles end up in the head, unless a body was written.** For a document without a mail document
and without a root whose titles stand at the top or directly in a head there, with the built-in
mappings, a draft comes about. When it is fit to be read back, its elements are those of the tree, each
inside those that the tree tells. Every title among them stands inside a head or right in the mail
element; all of them stand inside a head just when no title stands at the top beside a body. -/
theorem draftText_titles (c : Converter) (options : Options) (html : String) (d : Document)
    (hread : c.parse html = .ok d) (hbuiltin : c.registry = .new)
    (hcustom : options.customMappings = ∅) (hwrap : options.wrapContent = true)
    (hmail : d.contains "mjml" = false) (hroot : d.hasRoot = false)
    (htitles : d.TitlesInFront) :
    ∃ drawn, c.draftText options html = .ok drawn ∧ drawn.passedThrough = false ∧
      ((∀ n ∈ Registry.new.writtenNodesAll d.normalized.nodes,
          Registry.new.CanWrite Registry.new.ownAttributes n) →
        ∃ ps, Splits drawn.markup ps ∧ (∀ qs, Splits drawn.markup qs → qs = ps) ∧
          nests [] ps = true ∧
          sitesOf [] ps = (Registry.new.placesAll [] d.normalized.nodes).map Placement.site) ∧
      (∀ place ∈ Registry.new.placesAll [] d.normalized.nodes, place.IsTitle →
        "mj-head" ∈ place.around ∨ place.around = ["mjml"]) ∧
      ((∀ place ∈ Registry.new.placesAll [] d.normalized.nodes, place.IsTitle →
          "mj-head" ∈ place.around) ↔
        ¬ ((∃ node ∈ d.nodes, node.isNamed "body" = true) ∧
          ∃ node ∈ d.nodes, node.isNamed "title" = true)) := by
  have hrooted : options.rooted d = d.normalized := by rw [Options.rooted, if_pos hwrap]
  have hr : c.registry.withOverrides options.customMappings = .ok .new := by
    rw [hbuiltin, hcustom]
    rfl
  have hnone : d.normalized.locate? "mjml" = none := by
    refine Document.locate?_normalized (by decide) ?_
    rw [Document.contains, Document.find?, Option.isSome_map, Option.isSome_eq_false_iff,
      Option.isNone_iff_eq_none] at hmail
    exact hmail
  obtain ⟨root, htop, hname, hin⟩ := d.exists_top
  obtain ⟨warnings, hdraft⟩ := draft_of_none (hrooted ▸ hnone) hr
  rw [hrooted, Setting.emitDocument, htop, Option.some_or] at hdraft
  simp only [Setting.trim_emitRoot] at hdraft
  have hone : d.normalized.nodes = [root.toNode] := by
    rw [Document.normalized_of_none hroot] at hin ⊢
    rw [List.mem_singleton.mp hin]
  refine ⟨_, draftText_of_read hread hdraft, rfl, fun hwrite => ?_, fun place hplace ht => ?_,
    htitles.all_in_head_iff hroot⟩
  · have hfit : ∀ n ∈ Registry.new.writtenNodes root.toNode,
        Registry.new.CanWrite (options.settingFor .new d).attributesFor n := by
      intro n hn
      refine options.canWrite_settingFor d (hwrite n ?_)
      rw [Registry.writtenNodesAll_eq_flatMap]
      exact List.mem_flatMap.mpr ⟨_, hin, hn⟩
    dsimp only
    rw [Setting.emitRoot_root hname rfl, hone, placesAll, placesAll, List.append_nil]
    exact (Setting.emit_holds (s := options.settingFor .new d) none root.toNode hfit).splits
  · exact (htitles.in_head_or_mail hroot hplace ht).imp_right And.left

/-- Loose titles join the first head, and a second head keeps its own inside the body. -/
theorem draftText_titles_loose :
    ∃ drawn ps, Converter.draftText
        { parse := fun _ => .ok ⟨[.element "TITLE" ∅ [.text "T"], .element "p" ∅ [.text "x"],
            .element "head" ∅ [.element "title" ∅ [.text "U"]],
            .element "head" ∅ [.element "title" ∅ [.text "V"]]]⟩ } {} "" = .ok drawn ∧
      Splits drawn.markup ps ∧
      sitesOf [] ps = [("mjml", []), ("mj-head", ["mjml"]), ("mj-title", ["mj-head", "mjml"]),
        ("mj-title", ["mj-head", "mjml"]), ("mj-body", ["mjml"]), ("mj-text", ["mj-body", "mjml"]),
        ("mj-head", ["mj-body", "mjml"]), ("mj-title", ["mj-head", "mj-body", "mjml"])] := by
  obtain ⟨drawn, hdraft, -, hread, -⟩ := draftText_titles
    { parse := fun _ => .ok ⟨[.element "TITLE" ∅ [.text "T"], .element "p" ∅ [.text "x"],
        .element "head" ∅ [.element "title" ∅ [.text "U"]],
        .element "head" ∅ [.element "title" ∅ [.text "V"]]]⟩ }
    {} "" _ rfl rfl rfl rfl (by decide +kernel) (by decide +kernel) (by decide +kernel)
  obtain ⟨ps, hps, -, -, hsites⟩ := hread (by decide +kernel)
  exact ⟨drawn, ps, hdraft, hps, hsites.trans (by decide +kernel)⟩

/-- A title beside a body stays outside the head. -/
theorem convert_title_beside_body :
    (Converter.convert {} { validateOutput := false } "<title>T</title><body><p>x</p></body>").toOption
      = some "<mjml><mj-title>T</mj-title><mj-body><mj-text>x</mj-text></mj-body></mjml>" := by
  decide +kernel

end Converter

end Lettermill
