import Lettermill.Dict
import Mathlib.Data.List.Nodup
/-! Which entries and keys a dictionary has after an operation. Every operation of a dictionary ends
in insertions, so a fact about its entries or keys is a fact about one insertion. A dictionary is
known from its keys in their order and the value of each key; pairs that are inserted leave the keys
in the order of their first and each value as in the last. Main statement: laying dictionaries over
one another is associative. -/
namespace Lettermill.Dict
set_option autoImplicit false
variable {α : Type}

theorem mem_put {key : String} {value : α} {es : List (String × α)} {e : String × α}
    (h : e ∈ put key value es) : e = (key, value) ∨ e ∈ es := by
  induction es with
  | nil => exact .inl (List.mem_singleton.mp h)
  | cons d rest ih =>
    rw [put] at h
    split at h
    · rcases List.mem_cons.mp h with h | h
      · exact .inl h
      · exact .inr (List.mem_cons_of_mem d h)
    · rcases List.mem_cons.mp h with rfl | h
      · exact .inr (List.mem_cons_self ..)
      · exact (ih h).imp_right (List.mem_cons_of_mem d)

theorem mem_insert {d : Dict α} {key : String} {value : α} {e : String × α}
    (h : e ∈ (d.insert key value).entries) : e = (key, value) ∨ e ∈ d.entries := mem_put h

theorem mem_of_find {key : String} {value : α} {es : List (String × α)}
    (h : find key es = some value) : (key, value) ∈ es := by
  induction es with
  | nil => cases h
  | cons d rest ih =>
    rw [find] at h
    split at h
    case isTrue hk =>
      have hv : d.2 = value := Option.some.inj h
      rw [← hk, ← hv]
      exact List.mem_cons_self ..
    case isFalse => exact List.mem_cons_of_mem d (ih h)

theorem mem_of_get? {d : Dict α} {key : String} {value : α} (h : d.get? key = some value) :
    (key, value) ∈ d.entries := mem_of_find h

@[simp] theorem mem_keys_insert {d : Dict α} {key k : String} {value : α} :
    k ∈ (d.insert key value).keys ↔ k = key ∨ k ∈ d.keys := mem_keys_put

theorem mem_keys_insertAll {d : Dict α} {ps : List (String × α)} {k : String} :
    k ∈ (d.insertAll ps).keys ↔ k ∈ ps.map Prod.fst ∨ k ∈ d.keys := by
  induction ps generalizing d with
  | nil => simp
  | cons p ps ih =>
    rw [insertAll_cons, ih, mem_keys_insert, List.map_cons, List.mem_cons]
    tauto

theorem mem_keys_overlay {lower upper : Dict α} {k : String} :
    k ∈ (lower.overlay upper).keys ↔ k ∈ upper.keys ∨ k ∈ lower.keys := mem_keys_insertAll

theorem mem_keys_ofList {ps : List (String × α)} {k : String} :
    k ∈ (ofList ps).keys ↔ k ∈ ps.map Prod.fst := by
  rw [ofList, mem_keys_insertAll]
  exact or_iff_left List.not_mem_nil

/-! ## Keys and values -/

theorem find_eq_lookup (key : String) (es : List (String × α)) : find key es = es.lookup key := by
  induction es with
  | nil => rfl
  | cons e rest ih =>
    obtain ⟨k, v⟩ := e
    rw [find, ih, List.lookup_cons]
    by_cases h : k = key
    · subst h
      simp
    · have hne : (key == k) = false := beq_eq_false_iff_ne.mpr fun e => h e.symm
      rw [if_neg h, hne]

theorem lookup_eq_some_iff {es : List (String × α)} (hn : (es.map Prod.fst).Nodup) {key : String}
    {value : α} : es.lookup key = some value ↔ (key, value) ∈ es := by
  induction es with
  | nil => simp
  | cons e rest ih =>
    obtain ⟨k, v⟩ := e
    rw [List.map_cons, List.nodup_cons] at hn
    rw [List.lookup_cons, List.mem_cons, Prod.mk.injEq]
    by_cases h : key = k
    · subst h
      have hout : (key, value) ∉ rest := fun hm => hn.1 (List.mem_map.mpr ⟨_, hm, rfl⟩)
      simp [hout, eq_comm]
    · have hne : (key == k) = false := beq_eq_false_iff_ne.mpr h
      rw [hne]
      simp [h, ih hn.2]

/-- In entries without a repeated key the order does not matter. -/
theorem lookup_of_perm {es fs : List (String × α)} (h : es.Perm fs)
    (hn : (es.map Prod.fst).Nodup) (key : String) : es.lookup key = fs.lookup key := by
  have hn' : (fs.map Prod.fst).Nodup := (h.map Prod.fst).nodup_iff.mp hn
  apply Option.ext
  intro value
  rw [lookup_eq_some_iff hn, lookup_eq_some_iff hn', h.mem_iff]

theorem get?_eq_lookup (d : Dict α) (key : String) : d.get? key = d.entries.lookup key :=
  find_eq_lookup key d.entries

theorem get?_eq_some_iff {d : Dict α} {key : String} {value : α} :
    d.get? key = some value ↔ (key, value) ∈ d.entries := by
  rw [get?_eq_lookup]
  exact lookup_eq_some_iff d.nodup

theorem isSome_get? {d : Dict α} {key : String} : (d.get? key).isSome ↔ key ∈ d.keys := by
  rw [Option.isSome_iff_exists, keys, List.mem_map]
  constructor
  · rintro ⟨value, h⟩
    exact ⟨_, get?_eq_some_iff.mp h, rfl⟩
  · rintro ⟨e, he, rfl⟩
    exact ⟨e.2, get?_eq_some_iff.mpr he⟩

/-- A dictionary is read off its keys. -/
theorem entries_eq_filterMap (d : Dict α) :
    d.entries = d.keys.filterMap fun key => (d.get? key).map fun value => (key, value) := by
  have hread : ∀ e ∈ d.entries, (d.get? e.1).map (fun value => (e.1, value)) = some e := by
    intro e he
    rw [get?_eq_some_iff.mpr he]
    rfl
  rw [keys, List.filterMap_map]
  refine (List.filterMap_some.symm.trans ?_)
  exact List.filterMap_congr fun e he => (hread e he).symm

theorem ext_keys {a b : Dict α} (hk : a.keys = b.keys) (hg : ∀ key, a.get? key = b.get? key) :
    a = b := by
  have entries : ∀ d : Dict α,
      d.keys.map (fun k => (k, d.get? k)) = d.entries.map fun e => (e.1, some e.2) := by
    intro d
    rw [keys, List.map_map]
    refine List.map_congr_left fun e he => ?_
    rw [Function.comp_apply, get?_eq_some_iff.mpr he]
  have hfun : a.get? = b.get? := funext hg
  have heq := entries a
  rw [hk, hfun, entries b] at heq
  refine ext (List.map_injective_iff.mpr ?_ heq.symm)
  rintro ⟨k, v⟩ ⟨l, w⟩ h
  simpa using h

/-- Of inserted pairs the last value of a key counts. -/
theorem get?_insertAll (d : Dict α) (ps : List (String × α)) (key : String) :
    (d.insertAll ps).get? key = (ps.reverse.lookup key).or (d.get? key) := by
  induction ps generalizing d with
  | nil => rfl
  | cons p ps ih =>
    obtain ⟨k, v⟩ := p
    rw [insertAll_cons, ih, get?_insert, List.reverse_cons, List.lookup_append, Option.or_assoc,
      List.lookup_cons]
    by_cases h : key = k
    · simp [h]
    · have hne : (key == k) = false := beq_eq_false_iff_ne.mpr h
      simp [h, hne]

/-! ## Order of first appearance -/

theorem eraseDups_filter (p : String → Bool) (ks : List String) :
    (ks.filter p).eraseDups = ks.eraseDups.filter p := by
  match ks with
  | [] => rfl
  | k :: ks =>
    have hswap : (ks.filter fun b => !b == k).filter p = (ks.filter p).filter fun b => !b == k := by
      rw [List.filter_filter, List.filter_filter]
      exact List.filter_congr fun b _ => Bool.and_comm ..
    have ih := eraseDups_filter p (ks.filter fun b => !b == k)
    rw [List.eraseDups_cons, List.filter_cons, List.filter_cons]
    split
    · rw [List.eraseDups_cons, ← ih, hswap]
    · next hk =>
      have hout : (ks.filter p).filter (fun b => !b == k) = ks.filter p := by
        refine List.filter_eq_self.mpr fun b hb => ?_
        have hne : b ≠ k := fun e => hk (e ▸ (List.mem_filter.mp hb).2)
        simp [hne]
      rw [← ih, hswap, hout]
termination_by ks.length
decreasing_by
  have hle := List.length_filter_le (fun b => !b == k) ks
  simp only [List.length_cons]
  omega

theorem eraseDups_of_nodup {ks : List String} (h : ks.Nodup) : ks.eraseDups = ks := by
  induction ks with
  | nil => rfl
  | cons k ks ih =>
    rw [List.nodup_cons] at h
    have hself : ks.filter (fun b => !b == k) = ks := by
      refine List.filter_eq_self.mpr fun b hb => ?_
      have hne : b ≠ k := fun e => h.1 (e ▸ hb)
      simp [hne]
    rw [List.eraseDups_cons, hself, ih h.2]

theorem nodup_eraseDups (ks : List String) : ks.eraseDups.Nodup := by
  match ks with
  | [] => exact List.nodup_nil
  | k :: ks =>
    rw [List.eraseDups_cons, List.nodup_cons]
    have ih := nodup_eraseDups (ks.filter fun b => !b == k)
    refine ⟨fun hm => ?_, ih⟩
    have hk := (List.mem_filter.mp (List.mem_eraseDups.mp hm)).2
    simp at hk
termination_by ks.length
decreasing_by
  have hle := List.length_filter_le (fun b => !b == k) ks
  simp only [List.length_cons]
  omega

theorem keys_put (key : String) (value : α) (es : List (String × α)) :
    (put key value es).map Prod.fst
      = if key ∈ es.map Prod.fst then es.map Prod.fst else es.map Prod.fst ++ [key] := by
  induction es with
  | nil => rfl
  | cons e rest ih =>
    rw [put]
    by_cases h : e.1 = key
    · simp [h]
    · have hne : key ≠ e.1 := fun he => h he.symm
      rw [if_neg h, List.map_cons, ih]
      by_cases hm : key ∈ rest.map Prod.fst <;> simp [hm, hne]

theorem keys_insert (d : Dict α) (key : String) (value : α) :
    (d.insert key value).keys = if key ∈ d.keys then d.keys else d.keys ++ [key] :=
  keys_put key value d.entries

/-- Keys that are new come behind, in the order of their first pair. -/
theorem keys_insertAll (d : Dict α) (ps : List (String × α)) :
    (d.insertAll ps).keys = d.keys ++ ((ps.map Prod.fst).removeAll d.keys).eraseDups := by
  induction ps generalizing d with
  | nil => simp [List.removeAll]
  | cons p ps ih =>
    rw [insertAll_cons, ih, keys_insert, List.map_cons]
    by_cases h : p.1 ∈ d.keys
    · simp [h, List.removeAll]
    · have hsplit : (ps.map Prod.fst).removeAll (d.keys ++ [p.1])
          = ((ps.map Prod.fst).removeAll d.keys).filter fun b => !b == p.1 := by
        rw [List.removeAll, List.removeAll, List.filter_filter]
        refine List.filter_congr fun b _ => ?_
        by_cases hb : b = p.1 <;> simp [hb]
      rw [if_neg h, hsplit]
      simp [h, List.removeAll, List.eraseDups_cons]

theorem get?_ofList (ps : List (String × α)) (key : String) :
    (ofList ps).get? key = ps.reverse.lookup key := by
  rw [ofList, get?_insertAll]
  exact Option.or_none

theorem keys_ofList (ps : List (String × α)) :
    (ofList ps).keys = (ps.map Prod.fst).eraseDups := by
  have hempty : (empty : Dict α).keys = [] := rfl
  rw [ofList, keys_insertAll, hempty]
  simp [List.removeAll]

/-! ## Laying over -/

theorem overlay_ofList (d : Dict α) (ps : List (String × α)) :
    d.overlay (ofList ps) = d.insertAll ps := by
  have hentries : (ofList ps).entries.map Prod.fst = (ps.map Prod.fst).eraseDups := keys_ofList ps
  apply ext_keys
  · have honce := eraseDups_of_nodup (nodup_eraseDups ((ps.map Prod.fst).removeAll d.keys))
    rw [overlay, keys_insertAll, keys_insertAll, hentries, List.removeAll, ← eraseDups_filter]
    rw [← List.removeAll, honce]
  · intro key
    have hlast : (ofList ps).entries.reverse.lookup key = ps.reverse.lookup key := by
      have hn : ((ofList ps).entries.reverse.map Prod.fst).Nodup := by
        rw [List.map_reverse, List.nodup_reverse]
        exact (ofList ps).nodup
      rw [lookup_of_perm (List.reverse_perm _) hn, ← get?_eq_lookup, get?_ofList]
    rw [overlay, get?_insertAll, get?_insertAll, hlast]

theorem ofList_entries (d : Dict α) : ofList d.entries = d := by
  apply ext_keys
  · rw [keys_ofList]
    exact eraseDups_of_nodup d.nodup
  · intro key
    have hn : (d.entries.reverse.map Prod.fst).Nodup := by
      rw [List.map_reverse, List.nodup_reverse]
      exact d.nodup
    rw [get?_ofList, lookup_of_perm (List.reverse_perm _) hn, ← get?_eq_lookup]

theorem empty_overlay (d : Dict α) : empty.overlay d = d := ofList_entries d

/-- Laying dictionaries over one another may be done in groups. -/
theorem overlay_assoc (x y z : Dict α) : (x.overlay y).overlay z = x.overlay (y.overlay z) := by
  have hy : y.overlay z = ofList (y.entries ++ z.entries) := by
    rw [ofList, insertAll_append, ← ofList, ofList_entries, overlay]
  rw [hy, overlay_ofList, insertAll_append, overlay, overlay]

theorem insertAll_insertAll_self (d : Dict α) (ps : List (String × α)) :
    (d.insertAll ps).insertAll ps = d.insertAll ps := by
  apply ext_keys
  · have hall : ∀ k ∈ ps.map Prod.fst, k ∈ (d.insertAll ps).keys := fun k hk =>
      mem_keys_insertAll.mpr (.inl hk)
    have hnew : (ps.map Prod.fst).removeAll (d.insertAll ps).keys = [] := by
      refine List.filter_eq_nil_iff.mpr fun k hk => ?_
      simp [hall k hk]
    rw [keys_insertAll (d.insertAll ps), hnew]
    simp
  · intro key
    rw [get?_insertAll, get?_insertAll, ← Option.or_assoc, Option.or_self]

theorem overlay_self (d : Dict α) : d.overlay d = d := by
  have h := insertAll_insertAll_self empty d.entries
  rwa [← ofList, ofList_entries] at h

/-! ## Keeping some of the keys -/

theorem get?_filterKeys (d : Dict α) (keep : String → Bool) (key : String) :
    (d.filterKeys keep).get? key = if keep key then d.get? key else none := by
  apply Option.ext
  intro value
  rw [get?_eq_some_iff, filterKeys, List.mem_filter, ← get?_eq_some_iff]
  cases keep key <;> simp

theorem keys_filterKeys (d : Dict α) (keep : String → Bool) :
    (d.filterKeys keep).keys = d.keys.filter keep := by
  rw [keys, filterKeys, keys, List.filter_map]
  rfl

theorem filter_put (keep : String → Bool) (key : String) (value : α) (es : List (String × α)) :
    (put key value es).filter (fun e => keep e.1)
      = if keep key then put key value (es.filter fun e => keep e.1)
        else es.filter fun e => keep e.1 := by
  induction es with
  | nil => simp [put, List.filter_cons]
  | cons e rest ih =>
    by_cases he : e.1 = key
    · cases hk : keep key <;> simp [put, he, hk]
    · cases hk : keep key <;> cases hkeep : keep e.1 <;> simp_all [put]

theorem filterKeys_insert (d : Dict α) (keep : String → Bool) (key : String) (value : α) :
    (d.insert key value).filterKeys keep
      = if keep key then (d.filterKeys keep).insert key value else d.filterKeys keep := by
  apply ext
  refine (filter_put keep key value d.entries).trans ?_
  split <;> rfl

theorem filterKeys_insertAll (d : Dict α) (keep : String → Bool) (ps : List (String × α)) :
    (d.insertAll ps).filterKeys keep
      = (d.filterKeys keep).insertAll (ps.filter fun p => keep p.1) := by
  induction ps generalizing d with
  | nil => rfl
  | cons p ps ih =>
    rw [insertAll_cons, ih, filterKeys_insert, List.filter_cons]
    split <;> rfl

theorem filterKeys_overlay (lower upper : Dict α) (keep : String → Bool) :
    (lower.overlay upper).filterKeys keep
      = (lower.filterKeys keep).overlay (upper.filterKeys keep) :=
  filterKeys_insertAll lower keep upper.entries

theorem filterKeys_filterKeys (d : Dict α) (keep also : String → Bool) :
    (d.filterKeys keep).filterKeys also = d.filterKeys fun key => keep key && also key := by
  apply ext
  simp only [filterKeys, List.filter_filter, Bool.and_comm]

end Lettermill.Dict
