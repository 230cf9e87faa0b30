import Lettermill.Proofs.Dict
import Lettermill.Proofs.Mapping.Registration
import Lettermill.Settings.Basic
import Mathlib.Data.String.Basic
/-! What a registry answers after any calls on it. Every call comes down to registering some entries
one after the other, so a registry is known from the log of the entries that were accepted: the last
of a key counts, then the built-in mapping, then the fallback. The calls differ in what they accept
when an entry is refused: the entries before it, or none. Main statement: whatever was called, the
registry answers as its log says. -/
namespace Lettermill
set_option autoImplicit false
open Text

namespace Registry
variable {r : Registry}

/-! ## Entries registered one after the other -/

/-- An entry under the key by which its mapping is found. -/
def keyed (entry : String × Mapping) : String × Mapping := (keyOf entry.1, entry.2)

/-- The mapping that is registered last under `key`. -/
def lastUnder (log : List (String × Mapping)) (key : String) : Option Mapping :=
  (log.reverse.find? fun entry => keyOf entry.1 = key).map Prod.snd

/-- The registry with all entries of `log` registered in their order. -/
def after (r : Registry) (log : List (String × Mapping)) : Registry :=
  ⟨r.custom.insertAll (log.map keyed)⟩

theorem after_nil (r : Registry) : r.after [] = r := rfl

theorem after_append (r : Registry) (log more : List (String × Mapping)) :
    r.after (log ++ more) = (r.after log).after more := by
  rw [after, List.map_append, Dict.insertAll_append]
  rfl

theorem lookup_keyed (log : List (String × Mapping)) (key : String) :
    (log.map keyed).lookup key
      = (log.find? fun entry => keyOf entry.1 = key).map Prod.snd := by
  induction log with
  | nil => rfl
  | cons entry rest ih =>
    rw [List.map_cons, keyed, List.lookup_cons, ih, List.find?_cons]
    by_cases h : keyOf entry.1 = key
    · simp [h]
    · have hne : (key == keyOf entry.1) = false := beq_eq_false_iff_ne.mpr fun e => h e.symm
      simp [h, hne]

theorem get?_after (r : Registry) (log : List (String × Mapping)) (key : String) :
    (r.after log).custom.get? key = (lastUnder log key).or (r.custom.get? key) := by
  rw [after, Dict.get?_insertAll, ← List.map_reverse, lookup_keyed]
  rfl

theorem explicit?_after (r : Registry) (log : List (String × Mapping)) (tag : String) :
    (r.after log).explicit? tag = (lastUnder log (lower tag)).or (r.explicit? tag) := by
  rw [explicit?, explicit?, get?_after, Option.or_assoc]

theorem lookup_after (r : Registry) (log : List (String × Mapping)) (tag : String) :
    (r.after log).lookup tag = (lastUnder log (lower tag)).getD (r.lookup tag) := by
  rw [lookup, lookup, explicit?_after]
  cases lastUnder log (lower tag) <;> rfl

theorem isSome_lastUnder {log : List (String × Mapping)} {key : String} :
    (lastUnder log key).isSome = true ↔ ∃ entry ∈ log, keyOf entry.1 = key := by
  rw [lastUnder, Option.isSome_map, List.find?_isSome]
  simp

theorem mem_keys_after {log : List (String × Mapping)} {key : String} :
    key ∈ (r.after log).custom.keys
      ↔ (∃ entry ∈ log, keyOf entry.1 = key) ∨ key ∈ r.custom.keys := by
  rw [after, Dict.mem_keys_insertAll, List.map_map, List.mem_map]
  rfl

/-- Of entries whose tags increase, the one with the last tag of a key counts. -/
theorem lastUnder_of_increasing {log : List (String × Mapping)} {entry : String × Mapping}
    (hlog : log.Pairwise fun a b => a.1 < b.1) (hin : entry ∈ log)
    (hlast : ∀ other ∈ log, keyOf other.1 = keyOf entry.1 → other.1 ≤ entry.1) :
    lastUnder log (keyOf entry.1) = some entry.2 := by
  obtain ⟨front, back, rfl⟩ := List.append_of_mem hin
  have hback : back.reverse.find? (fun other => keyOf other.1 = keyOf entry.1) = none := by
    rw [List.find?_eq_none]
    intro other hother hkey
    rw [List.mem_reverse] at hother
    have hafter : entry.1 < other.1 :=
      (List.pairwise_cons.mp (List.pairwise_append.mp hlog).2.1).1 other hother
    have hbefore : other.1 ≤ entry.1 :=
      hlast other (List.mem_append_right _ (List.mem_cons_of_mem entry hother)) (by simpa using hkey)
    exact absurd hafter (not_lt.mpr hbefore)
  rw [lastUnder, List.reverse_append, List.reverse_cons, List.append_assoc, List.find?_append, hback]
  simp

theorem registerEach_eq (r : Registry) (entries : List (String × Mapping)) :
    r.registerEach entries
      = (r.after (entries.takeWhile fun entry => !isRefused entry),
          (entries.find? isRefused).map refusalOf) := by
  rw [← registerEach_refusal r]
  refine Prod.ext ?_ rfl
  induction entries generalizing r with
  | nil => rfl
  | cons entry rest ih =>
    obtain ⟨tag, m⟩ := entry
    have hstep := refusal?_eq (tag, m)
    rw [registerEach, register, List.takeWhile_cons, hstep]
    cases isRefused (tag, m) with
    | true => rfl
    | false => exact ih _

theorem registerEach_of_valid (r : Registry) {entries : List (String × Mapping)}
    (h : ∀ entry ∈ entries, isRefused entry = false) :
    r.registerEach entries = (r.after entries, none) := by
  have htake : entries.takeWhile (fun entry => !isRefused entry) = entries := by
    rw [List.takeWhile_eq_self_iff]
    intro entry hentry
    rw [h entry hentry, Bool.not_false]
  have hfind : entries.find? isRefused = none := by
    rw [List.find?_eq_none]
    intro entry hentry
    rw [h entry hentry]
    exact Bool.false_ne_true
  rw [registerEach_eq, htake, hfind]
  rfl

theorem withOverrides_of_valid (r : Registry) {overrides : Dict Mapping}
    (h : ∀ entry ∈ overrides.entries, isRefused entry = false) :
    r.withOverrides overrides = .ok (r.after overrides.entries) := by
  rw [withOverrides, registerEach_of_valid r h]

theorem withOverrides_eq (r : Registry) (overrides : Dict Mapping) :
    r.withOverrides overrides =
      match overrides.entries.find? isRefused with
      | none => .ok (r.after overrides.entries)
      | some entry => .error (refusalOf entry) := by
  cases hfind : overrides.entries.find? isRefused with
  | some entry =>
    rw [withOverrides, registerEach_eq, hfind]
    rfl
  | none =>
    refine r.withOverrides_of_valid fun entry hentry => ?_
    simpa using List.find?_eq_none.mp hfind entry hentry

theorem register_eq (r : Registry) (tag : String) (m : Mapping) :
    r.register tag m
      = if isRefused (tag, m) then .error (refusalOf (tag, m)) else .ok (r.after [(tag, m)]) := by
  have hstep := refusal?_eq (tag, m)
  rw [register, hstep]
  cases isRefused (tag, m) <;> rfl

end Registry

/-! ## Tables of settings -/

/-- The mappings in the settings, in the order of their names. -/
def Settings.tables (s : Settings) : List (String × Mapping) :=
  s.mappings.sorted.map fun entry => (entry.1, entry.2.mapping)

theorem increasing_mergeSort {α : Type} (key : α → String) {as : List α}
    (h : (as.map key).Nodup) :
    (as.mergeSort fun a b => decide (key a ≤ key b)).Pairwise fun a b => key a < key b := by
  have hle : (as.mergeSort fun a b => decide (key a ≤ key b)).Pairwise
      fun a b => key a ≤ key b := by
    refine (List.pairwise_mergeSort ?_ ?_ as).imp fun h => of_decide_eq_true h
    · intro a b c hab hbc
      exact decide_eq_true ((of_decide_eq_true hab).trans (of_decide_eq_true hbc))
    · intro a b
      simpa using le_total (key a) (key b)
  have hne : (as.mergeSort fun a b => decide (key a ≤ key b)).Pairwise
      fun a b => key a ≠ key b :=
    List.pairwise_map.mp ((((List.mergeSort_perm as _).map key).nodup_iff).mpr h)
  exact (hle.and hne).imp fun h => lt_of_le_of_ne h.1 h.2

namespace Dict
variable {α : Type}

theorem perm_sorted (d : Dict α) : d.sorted.Perm d.entries := List.mergeSort_perm _ _

theorem increasing_sorted (d : Dict α) : d.sorted.Pairwise fun a b => a.1 < b.1 :=
  increasing_mergeSort Prod.fst d.nodup

end Dict

theorem Settings.mem_tables {s : Settings} {entry : String × Mapping} :
    entry ∈ s.tables ↔ ∃ own ∈ s.mappings.entries, (own.1, own.2.mapping) = entry := by
  rw [tables, List.mem_map]
  simp only [s.mappings.perm_sorted.mem_iff]

theorem Settings.increasing_tables (s : Settings) :
    s.tables.Pairwise fun a b => a.1 < b.1 :=
  List.pairwise_map.mpr s.mappings.increasing_sorted

namespace Registry

/-- Up to the first refused entry stand those whose names come before all refused names. -/
theorem takeWhile_of_increasing {entries : List (String × Mapping)}
    (h : entries.Pairwise fun a b => a.1 < b.1) :
    entries.takeWhile (fun entry => !isRefused entry)
      = entries.filter fun entry => entries.all fun bad => !isRefused bad || entry.1 < bad.1 := by
  induction entries with
  | nil => rfl
  | cons first rest ih =>
    rw [List.pairwise_cons] at h
    cases hfirst : isRefused first with
    | true =>
      have hnone : ∀ entry ∈ first :: rest, ¬ entry.1 < first.1 := by
        intro entry hentry
        rcases List.mem_cons.mp hentry with rfl | hentry
        · exact lt_irrefl _
        · exact not_lt.mpr (h.1 entry hentry).le
      rw [List.takeWhile_cons, hfirst, eq_comm]
      refine List.filter_eq_nil_iff.mpr fun entry hentry => ?_
      rw [List.all_cons, hfirst, decide_eq_false (hnone entry hentry)]
      exact Bool.false_ne_true
    | false =>
      rw [List.takeWhile_cons, hfirst, List.filter_cons]
      have hkeep : (first :: rest).all (fun bad => !isRefused bad || first.1 < bad.1) = true := by
        rw [List.all_eq_true]
        intro bad hbad
        rcases List.mem_cons.mp hbad with rfl | hbad
        · rw [hfirst, Bool.not_false, Bool.true_or]
        · rw [decide_eq_true (h.1 bad hbad), Bool.or_true]
      rw [if_pos hkeep]
      simp [ih h.2, hfirst]

/-! ## Calls -/

/-- A call on a registry. -/
inductive Call where
  | register (tag : String) (m : Mapping)
  /-- Makes a copy with overrides on top, which is used from then on if `adopt` says so. -/
  | overrides (ms : Dict Mapping) (adopt : Bool)
  | settings (s : Settings)

/-- The registry in use after a call, and why the call failed, if it did. -/
def call (r : Registry) : Call → Registry × Option MappingError
  | .register tag m =>
    match r.register tag m with
    | .ok next => (next, none)
    | .error e => (r, some e)
  | .overrides ms adopt =>
    match r.withOverrides ms with
    | .ok copy => (if adopt then copy else r, none)
    | .error e => (r, some e)
  | .settings s => s.register r

/-- The registry in use after several calls. -/
def run (r : Registry) (calls : List Call) : Registry :=
  calls.foldl (fun r c => (r.call c).1) r

namespace Call

/-- The entries of a call, in the order in which they are tried. -/
def offered : Call → List (String × Mapping)
  | register tag m => [(tag, m)]
  | overrides ms _ => ms.entries
  | settings s => s.tables

/-- The entries of a call that the registry in use takes: those of a copy all or none, those of
settings whose names come before all refused names. -/
def accepted : Call → List (String × Mapping)
  | register tag m => if isRefused (tag, m) then [] else [(tag, m)]
  | overrides ms adopt => if adopt && !ms.entries.any isRefused then ms.entries else []
  | settings s =>
    s.tables.filter fun entry => s.tables.all fun bad => !isRefused bad || entry.1 < bad.1

end Call

theorem call_eq (r : Registry) (c : Call) :
    r.call c = (r.after c.accepted, (c.offered.find? isRefused).map refusalOf) := by
  cases c with
  | register tag m =>
    rw [call, register_eq, Call.accepted, Call.offered, List.find?_singleton]
    cases isRefused (tag, m) <;> rfl
  | overrides ms adopt =>
    have hany : ms.entries.any isRefused = (ms.entries.find? isRefused).isSome :=
      List.isSome_find?.symm
    rw [call, withOverrides_eq, Call.accepted, Call.offered, hany]
    cases ms.entries.find? isRefused with
    | some entry => cases adopt <;> rfl
    | none => cases adopt <;> rfl
  | settings s =>
    have hsame : s.register r = r.registerEach s.tables := rfl
    rw [call, hsame, registerEach_eq, takeWhile_of_increasing s.increasing_tables]
    rfl

theorem run_eq (r : Registry) (calls : List Call) :
    r.run calls = r.after (calls.flatMap Call.accepted) := by
  induction calls generalizing r with
  | nil => rfl
  | cons c rest ih =>
    have hstep : r.run (c :: rest) = (r.call c).1.run rest := rfl
    rw [hstep, ih, call_eq, List.flatMap_cons, after_append]

/-! ## Answers -/

/-- A registry answers as the entries in `log` say, the last of a key first. -/
structure Records (r : Registry) (log : List (String × Mapping)) : Prop where
  lookup (tag : String) : r.lookup tag
    = (lastUnder log (lower tag)).getD ((Builtin.mapping? (lower tag)).getD Builtin.fallback)
  has (tag : String) : r.has tag = true
    ↔ (∃ entry ∈ log, keyOf entry.1 = lower tag) ∨ (Builtin.mapping? (lower tag)).isSome = true
  increasing : r.customTags.Pairwise (· < ·)
  listed (key : String) : key ∈ r.customTags ↔ ∃ entry ∈ log, keyOf entry.1 = key

theorem increasing_customTags (r : Registry) : r.customTags.Pairwise (· < ·) := by
  refine increasing_mergeSort id ?_
  rw [List.map_id]
  exact r.custom.nodup

theorem records_after (log : List (String × Mapping)) : (new.after log).Records log where
  lookup tag := lookup_after new log tag
  has tag := by
    have hnew : new.explicit? tag = Builtin.mapping? (lower tag) := rfl
    rw [Registry.has, explicit?_after, Option.isSome_or, Bool.or_eq_true, isSome_lastUnder, hnew]
  increasing := increasing_customTags _
  listed key := by
    rw [customTags, List.mem_mergeSort, mem_keys_after]
    exact or_iff_left List.not_mem_nil

/-- What the tables of settings leave when they are registered: those whose names come before all
refused names, and of one key the one with the last name. -/
structure TakesTables (r : Registry) (s : Settings) (next : Registry) : Prop where
  taken (entry : String × Mapping) : entry ∈ (Call.settings s).accepted
    ↔ entry ∈ s.tables ∧ ∀ bad ∈ s.tables, isRefused bad = true → entry.1 < bad.1
  lookup (tag : String) : next.lookup tag
    = (lastUnder (Call.settings s).accepted (lower tag)).getD (r.lookup tag)
  last {entry : String × Mapping} {tag : String} (hkey : keyOf entry.1 = lower tag)
    (hin : entry ∈ (Call.settings s).accepted)
    (hlast : ∀ other ∈ (Call.settings s).accepted, keyOf other.1 = lower tag → other.1 ≤ entry.1) :
    next.lookup tag = entry.2

theorem takesTables_call (r : Registry) (s : Settings) :
    r.TakesTables s (r.call (.settings s)).1 where
  taken entry := by
    rw [Call.accepted, List.mem_filter, List.all_eq_true]
    refine and_congr_right fun _ => forall₂_congr fun bad _ => ?_
    rw [Bool.or_eq_true, Bool.not_eq_true', decide_eq_true_eq, ← Bool.not_eq_true, ← imp_iff_not_or]
  lookup tag := by rw [call_eq, lookup_after]
  last {entry tag} hkey hin hlast := by
    have hincreasing : (Call.settings s).accepted.Pairwise fun a b => a.1 < b.1 :=
      s.increasing_tables.sublist List.filter_sublist
    rw [← hkey] at hlast
    rw [call_eq, lookup_after, ← hkey, lastUnder_of_increasing hincreasing hin hlast, Option.getD_some]

/-- **A registry answers as its log says.** After any calls on a new registry a tag has the mapping
that was accepted last under its key, else the built-in one, else the fallback, and the tags listed
are the keys of what was accepted. A call fails when an entry of it is refused, with the first of
them. One entry that is refused changes nothing, settings keep their tables up to the first refused
one, and overrides never change the registry that was copied. -/
theorem run_records (calls : List Call) :
    (new.run calls).Records (calls.flatMap Call.accepted) ∧
    (∀ c : Call, ((new.run calls).call c).2 = (c.offered.find? isRefused).map refusalOf) ∧
    (∀ tag m e, (new.run calls).register tag m = .error e →
      (new.run calls).call (.register tag m) = (new.run calls, some e)) ∧
    (∀ s, (new.run calls).TakesTables s ((new.run calls).call (.settings s)).1) ∧
    (∀ ms, ((new.run calls).call (.overrides ms false)).1 = new.run calls) ∧
    ∀ ms adopt e, (new.run calls).withOverrides ms = .error e →
      (new.run calls).call (.overrides ms adopt) = (new.run calls, some e) := by
  refine ⟨?_, ?_, ?_, takesTables_call _, ?_, ?_⟩
  · rw [run_eq]
    exact records_after _
  · intro c
    rw [call_eq]
  · intro tag m e h
    rw [call, h]
  · intro ms
    rw [call_eq]
    exact after_nil _
  · intro ms adopt e h
    rw [call, h]

/-- A tag found in capitals, a blank tag, a copy that is refused, and settings with two names for one
key and a third that is refused. -/
theorem run_records_folded :
    let r := new.run [.register " Div" { target := "mj-hero" },
      .overrides (Dict.ofList [("p", { target := "mj-raw" })]) false]
    let s : Settings :=
      { convert := ⟨true, false, true, true, true, false, 0⟩, compiler := ⟨true, none⟩
        mappings := Dict.ofList [("x ", { target := "" }), (" x", { target := "mj-a" }),
          ("X", { target := "mj-b" })] }
    "div" ∈ r.customTags ∧ (r.lookup "DIV").target = "mj-hero" ∧
      (r.lookup "P").target = "mj-text" ∧
      r.call (.register " " { target := "mj-raw" }) = (r, some .emptyTag) ∧
      r.call (.overrides (Dict.ofList [("a", { target := "mj-a" }), ("b", { target := " " })]) true)
        = (r, some (.emptyTarget "b")) ∧
      ((r.call (.settings s)).1.lookup "X").target = "mj-b" := by
  intro r s
  obtain ⟨hrecords, -, hregister, hsettings, -, hoverrides⟩ := run_records
    [.register " Div" { target := "mj-hero" },
      .overrides (Dict.ofList [("p", { target := "mj-raw" })]) false]
  have htaken := (hsettings s).taken
  have hnames : ∀ own ∈ s.mappings.entries, own.1 < "x " → own.1 ≤ "X" := by decide +kernel
  have hrefused : ∀ own ∈ s.mappings.entries, isRefused (own.1, own.2.mapping) = true →
      "X" < own.1 := by decide +kernel
  have hlast : ∀ other ∈ (Call.settings s).accepted, keyOf other.1 = lower "X" →
      other.1 ≤ "X" := by
    intro other hother _
    obtain ⟨hin, hbefore⟩ := (htaken other).mp hother
    obtain ⟨own, hown, rfl⟩ := Settings.mem_tables.mp hin
    exact hnames own hown
      (hbefore ("x ", { target := "" }) (Settings.mem_tables.mpr ⟨_, .head _, rfl⟩) rfl)
  have hin : ("X", { target := "mj-b" }) ∈ (Call.settings s).accepted := by
    refine (htaken _).mpr ⟨Settings.mem_tables.mpr ⟨_, .tail _ (.tail _ (.head _)), rfl⟩, ?_⟩
    intro bad hbad hno
    obtain ⟨own, hown, rfl⟩ := Settings.mem_tables.mp hbad
    exact hrefused own hown hno
  refine ⟨(hrecords.listed "div").mpr ⟨(" Div", { target := "mj-hero" }), .head _, rfl⟩, ?_, ?_,
    hregister _ _ _ rfl, hoverrides _ _ _ rfl, ?_⟩
  · rw [hrecords.lookup]
    decide +kernel
  · rw [hrecords.lookup]
    decide +kernel
  · rw [(hsettings s).last (by decide +kernel) hin hlast]

end Registry

end Lettermill
