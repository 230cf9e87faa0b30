import Lettermill.Converter
import Lettermill.Proofs.Dict
/-! What class styles hold for one class. Seen from a class, styles are attributes that may be
missing, and whatever builds styles lays more attributes over them. Laying over is associative and
idempotent, so it cannot be seen in which order the classes of a block are merged, or how blocks are
grouped before they are merged. Main statement: of the styles that are collected from blocks, a
class has what the rules set that name it. -/
namespace Lettermill
set_option autoImplicit false

/-! ## Attributes that may be missing -/

namespace Style

/-- The later attributes over the earlier ones, where either may be missing. -/
def laid : Option Attributes → Option Attributes → Option Attributes
  | before, none => before
  | none, some later => some later
  | some before, some later => some (before.overlay later)

@[simp] theorem laid_none (before : Option Attributes) : laid before none = before := by
  cases before <;> rfl

@[simp] theorem none_laid (later : Option Attributes) : laid none later = later := by
  cases later <;> rfl

theorem laid_assoc (x y z : Option Attributes) : laid (laid x y) z = laid x (laid y z) := by
  cases z with
  | none => simp
  | some c =>
    cases y with
    | none => simp
    | some b =>
      cases x with
      | none => simp
      | some a => exact congrArg some (Dict.overlay_assoc a b c)

theorem laid_self (x : Option Attributes) : laid x x = x := by
  cases x with
  | none => rfl
  | some a => exact congrArg some (Dict.overlay_self a)

/-- What a declaration as it is written sets: the attribute that the table has for its property, and
its value, which must not be empty. -/
def setting? (property text : List Char) : Option (String × String) :=
  let value := valueOf (Css.plainText text)
  if value = [] then none
  else (attributeFor? (String.ofList (Text.lowerChars property))).map fun name =>
    (name, String.ofList value)

theorem setting?_eq_some_iff {property text : List Char} {name value : String} :
    setting? property text = some (name, value)
      ↔ valueOf (Css.plainText text) ≠ []
        ∧ attributeFor? (String.ofList (Text.lowerChars property)) = some name
        ∧ value = String.ofList (valueOf (Css.plainText text)) := by
  unfold setting?
  by_cases h : valueOf (Css.plainText text) = []
  · simp [h]
  · have hsame : ∀ v : String, String.ofList (valueOf (Css.plainText text)) = v
        ↔ v = String.ofList (valueOf (Css.plainText text)) := fun v => eq_comm
    simp [h, hsame]

theorem declaration_attribute (property text : List Char) :
    (Css.declaration? property text).bind Declaration.attribute? = setting? property text := by
  rw [Css.declaration?, setting?]
  cases valueOf (Css.plainText text) with
  | nil => rfl
  | cons c cs => rfl

end Style

open Style

/-! ## Rules -/

namespace Css

/-- What a rule sets, in the order of its declarations. -/
def Rule.settings (r : Rule) : List (String × String) :=
  r.written.filterMap fun (property, text) => setting? property text

theorem Rule.resolve_declarations (r : Rule) :
    resolveDeclarations r.declarations = Dict.ofList r.settings := by
  have hpiece : r.declarations.filterMap Declaration.attribute? = r.settings := by
    rw [Rule.declarations, List.filterMap_filterMap, Rule.settings]
    exact List.filterMap_congr fun d _ => declaration_attribute d.1 d.2
  rw [resolveDeclarations, hpiece]

/-- The attributes that rules set one after the other; no rules set none. -/
def resolved? : List Rule → Option Attributes
  | [] => none
  | rules => some (Dict.ofList (rules.flatMap Rule.settings))

theorem resolved?_append (rs ss : List Rule) :
    resolved? (rs ++ ss) = laid (resolved? rs) (resolved? ss) := by
  cases rs with
  | nil => simp [resolved?]
  | cons r rs =>
    cases ss with
    | nil => simp [resolved?]
    | cons s ss =>
      rw [List.cons_append, resolved?, resolved?, resolved?, laid, Dict.overlay_ofList,
        ← List.cons_append, List.flatMap_append, Dict.ofList, Dict.insertAll_append, ← Dict.ofList]
      all_goals simp

/-- The attributes that rules give to a class, if one of them styles it. -/
def given (rules : List Rule) (cls : String) : Option Attributes :=
  resolved? (rules.filter fun r => r.classes.contains cls)

theorem given_append (rs ss : List Rule) (cls : String) :
    given (rs ++ ss) cls = laid (given rs cls) (given ss cls) := by
  rw [given, List.filter_append, resolved?_append, ← given, ← given]

theorem given_singleton (r : Rule) (cls : String) :
    given [r] cls
      = if r.classes.contains cls then some (resolveDeclarations r.declarations) else none := by
  rw [given, List.filter_singleton, r.resolve_declarations]
  cases r.classes.contains cls with
  | true => simp [resolved?]
  | false => rfl

/-- The rules of the blocks that could be read. -/
def acceptedRules (blocks : List String) : List Rule :=
  blocks.flatMap fun css => (rules css).toOption.getD []

theorem acceptedRules_append (blocks more : List String) :
    acceptedRules (blocks ++ more) = acceptedRules blocks ++ acceptedRules more :=
  List.flatMap_append

/-- The advice on a block that could not be read. -/
def refusal? (css : String) : Option Warning :=
  match rules css with
  | .ok _ => none
  | .error e => some e.warning

end Css

/-! ## Styles -/

namespace ClassStyles

theorem get?_assign (styles : ClassStyles) (cls key : String) (attributes : Attributes) :
    (styles.assign cls attributes).get? key
      = laid (styles.get? key) (if key = cls then some attributes else none) := by
  rw [assign, get?, Dict.get?_insert]
  by_cases h : key = cls
  · subst h
    rw [if_pos rfl, if_pos rfl]
    cases styles.get? key with
    | none => exact congrArg some (Dict.empty_overlay attributes)
    | some before => rfl
  · rw [if_neg h, if_neg h, laid_none, get?]

/-- Assigns the listed attributes, one class after the other. -/
def assignAll (styles : ClassStyles) (order : List (String × Attributes)) : ClassStyles :=
  order.foldl (fun styles (cls, attributes) => styles.assign cls attributes) styles

theorem get?_assignAll (styles : ClassStyles) {order : List (String × Attributes)}
    (h : (order.map Prod.fst).Nodup) (key : String) :
    (styles.assignAll order).get? key = laid (styles.get? key) (order.lookup key) := by
  induction order generalizing styles with
  | nil => exact (laid_none _).symm
  | cons e rest ih =>
    obtain ⟨cls, attributes⟩ := e
    rw [List.map_cons, List.nodup_cons] at h
    have hstep : styles.assignAll ((cls, attributes) :: rest)
        = (styles.assign cls attributes).assignAll rest := rfl
    rw [hstep, ih _ h.2, get?_assign, laid_assoc, List.lookup_cons]
    by_cases hk : key = cls
    · -- no key is listed twice, so nothing further is laid over this one
      subst hk
      have hout : rest.lookup key = none := by
        rw [List.lookup_eq_none_iff]
        intro p hp
        have hne : key ≠ p.1 := fun he => h.1 (List.mem_map.mpr ⟨p, hp, he.symm⟩)
        simp [hne]
      simp [hout]
    · have hne : (key == cls) = false := beq_eq_false_iff_ne.mpr hk
      rw [if_neg hk, none_laid, hne]

theorem get?_assignAll_perm (styles : ClassStyles) {later : ClassStyles}
    {order : List (String × Attributes)} (h : order.Perm later.classes.entries) (key : String) :
    (styles.assignAll order).get? key = laid (styles.get? key) (later.get? key) := by
  have hn : (order.map Prod.fst).Nodup := (h.map Prod.fst).nodup_iff.mpr later.classes.nodup
  rw [get?_assignAll styles hn, Dict.lookup_of_perm h hn, ← Dict.get?_eq_lookup]
  rfl

theorem get?_merge (styles later : ClassStyles) (key : String) :
    (styles.merge later).get? key = laid (styles.get? key) (later.get? key) :=
  get?_assignAll_perm styles (.refl _) key

theorem get?_merge_assoc (x y z : ClassStyles) (key : String) :
    ((x.merge y).merge z).get? key = (x.merge (y.merge z)).get? key := by
  rw [get?_merge, get?_merge, get?_merge, get?_merge, laid_assoc]

theorem get?_assignEach (styles : ClassStyles) (attributes : Attributes) (classes : List String)
    (key : String) :
    (classes.foldl (fun styles cls => styles.assign cls attributes) styles).get? key
      = laid (styles.get? key) (if classes.contains key then some attributes else none) := by
  induction classes generalizing styles with
  | nil => exact (laid_none _).symm
  | cons cls rest ih =>
    rw [List.foldl_cons, ih, get?_assign, laid_assoc, List.contains_cons]
    by_cases hk : key = cls
    · -- a class that is listed twice gets the same twice, which is getting it once
      subst hk
      by_cases hr : rest.contains key = true
      · rw [if_pos rfl, if_pos hr, laid_self, beq_self_eq_true, Bool.true_or, if_pos rfl]
      · rw [if_pos rfl, if_neg hr, laid_none, beq_self_eq_true, Bool.true_or, if_pos rfl]
    · rw [if_neg hk, none_laid, beq_eq_false_iff_ne.mpr hk, Bool.false_or]

theorem get?_addRule (styles : ClassStyles) (r : Css.Rule) (key : String) :
    (styles.addRule r).get? key = laid (styles.get? key) (Css.given [r] key) := by
  rw [addRule, get?_assignEach, Css.given_singleton]

theorem get?_addRules (styles : ClassStyles) (rules : List Css.Rule) (key : String) :
    (rules.foldl addRule styles).get? key = laid (styles.get? key) (Css.given rules key) := by
  induction rules generalizing styles with
  | nil => exact (laid_none _).symm
  | cons r rest ih =>
    rw [List.foldl_cons, ih, get?_addRule, laid_assoc, ← Css.given_append, List.singleton_append]

theorem get?_ofSheet {css : String} {block : ClassStyles} (h : ofSheet css = .ok block)
    (key : String) : block.get? key = Css.given ((Css.rules css).toOption.getD []) key := by
  rw [ofSheet] at h
  cases hr : Css.rules css with
  | error e =>
    rw [hr] at h
    cases h
  | ok rules =>
    rw [hr] at h
    cases h
    rw [get?_addRules]
    exact none_laid _

end ClassStyles

/-! ## Blocks -/

/-- Folds style blocks into one, the classes of each block in some order. -/
inductive Collects : ClassStyles → List String → ClassStyles → Prop where
  | done (styles : ClassStyles) : Collects styles [] styles
  | block {styles block last : ClassStyles} {css : String} {rest : List String}
      {order : List (String × Attributes)} (hread : ClassStyles.ofSheet css = .ok block)
      (horder : order.Perm block.classes.entries)
      (hrest : Collects (styles.assignAll order) rest last) : Collects styles (css :: rest) last
  | refused {styles last : ClassStyles} {css : String} {rest : List String} {e : StyleError}
      (hread : ClassStyles.ofSheet css = .error e) (hrest : Collects styles rest last) :
      Collects styles (css :: rest) last

theorem acceptedRules_of_error {css : String} {e : StyleError}
    (h : ClassStyles.ofSheet css = .error e) (rest : List String) :
    Css.acceptedRules (css :: rest) = Css.acceptedRules rest := by
  rw [ClassStyles.ofSheet] at h
  cases hr : Css.rules css with
  | ok rules =>
    rw [hr] at h
    cases h
  | error => simp [Css.acceptedRules, hr, Except.toOption]

/-- Whatever the order of the classes, the styles that are collected hold what the rules give. -/
theorem Collects.get? {styles last : ClassStyles} {blocks : List String}
    (h : Collects styles blocks last) (key : String) :
    last.get? key = laid (styles.get? key) (Css.given (Css.acceptedRules blocks) key) := by
  induction h with
  | done styles => exact (laid_none _).symm
  | block hread horder _ ih =>
    rw [ih, ClassStyles.get?_assignAll_perm _ horder, laid_assoc, ClassStyles.get?_ofSheet hread,
      ← Css.given_append]
    rfl
  | refused hread _ ih => rw [ih, acceptedRules_of_error hread]

theorem collects_collectBlocks (styles : ClassStyles) (blocks : List String) :
    Collects styles blocks (collectBlocks styles blocks).1 := by
  induction blocks generalizing styles with
  | nil => exact .done styles
  | cons css rest ih =>
    rw [collectBlocks]
    split
    case h_1 block hread => exact .block hread (.refl _) (ih _)
    case h_2 e hread => exact .refused hread (ih styles)

theorem get?_collectBlocks (styles : ClassStyles) (blocks : List String) (key : String) :
    (collectBlocks styles blocks).1.get? key
      = laid (styles.get? key) (Css.given (Css.acceptedRules blocks) key) :=
  (collects_collectBlocks styles blocks).get? key

/-- Merges groups of blocks, each of which is collected on its own. -/
def mergeGroups (styles : ClassStyles) (groups : List (List String)) : ClassStyles :=
  groups.foldl (fun merged group => merged.merge (collectBlocks ∅ group).1) styles

theorem get?_mergeGroups (styles : ClassStyles) (groups : List (List String)) (key : String) :
    (mergeGroups styles groups).get? key = (collectBlocks styles groups.flatten).1.get? key := by
  rw [get?_collectBlocks]
  induction groups generalizing styles with
  | nil => exact (laid_none _).symm
  | cons group rest ih =>
    have hgroup : (collectBlocks ∅ group).1.get? key
        = Css.given (Css.acceptedRules group) key := by
      rw [get?_collectBlocks]
      exact none_laid _
    rw [mergeGroups, List.foldl_cons, ← mergeGroups, ih, ClassStyles.get?_merge, laid_assoc, hgroup,
      ← Css.given_append, ← Css.acceptedRules_append, List.flatten_cons]

theorem collectBlocks_advice (styles : ClassStyles) (blocks : List String) :
    (collectBlocks styles blocks).2 = blocks.filterMap Css.refusal? := by
  induction blocks generalizing styles with
  | nil => rfl
  | cons css rest ih =>
    rw [collectBlocks, List.filterMap_cons, Css.refusal?, ClassStyles.ofSheet]
    cases Css.rules css with
    | ok rules => exact ih _
    | error e => exact congrArg (e.warning :: ·) (ih styles)

end Lettermill
