/-! Insertion-ordered dictionaries with string keys: the one container behind attribute lists,
class styles, mapping tables and settings. Putting a present key replaces its value in place, so
the order of the entries is the order in which the keys were first put. No key occurs twice; that
is part of the type. -/
namespace Lettermill
set_option autoImplicit false

/-- A list of entries in which no key occurs twice. -/
structure Dict (α : Type) where
  entries : List (String × α)
  nodup : (entries.map Prod.fst).Nodup

namespace Dict
variable {α β : Type}

/-! ## Entries -/

/-- The entries with `key` bound to `value`: in place when present, else at the end. -/
def put (key : String) (value : α) : List (String × α) → List (String × α)
  | [] => [(key, value)]
  | entry :: rest =>
    if entry.1 = key then (key, value) :: rest else entry :: put key value rest

def find (key : String) : List (String × α) → Option α
  | [] => none
  | entry :: rest => if entry.1 = key then some entry.2 else find key rest

theorem mem_keys_put {key k : String} {value : α} {es : List (String × α)} :
    k ∈ (put key value es).map Prod.fst ↔ k = key ∨ k ∈ es.map Prod.fst := by
  induction es with
  | nil => simp [put]
  | cons e rest ih =>
    by_cases h : e.1 = key
    · simp [put, h]
    · simp only [put, h, if_false, List.map_cons, List.mem_cons, ih]
      constructor <;> rintro (h | h | h) <;> simp [h]

theorem nodup_keys_put {key : String} {value : α} {es : List (String × α)}
    (h : (es.map Prod.fst).Nodup) : ((put key value es).map Prod.fst).Nodup := by
  induction es with
  | nil => simp [put]
  | cons e rest ih =>
    rw [List.map_cons, List.nodup_cons] at h
    by_cases he : e.1 = key
    · simp only [put, he, if_true, List.map_cons, List.nodup_cons]
      exact he ▸ h
    · simp only [put, he, if_false, List.map_cons, List.nodup_cons]
      refine ⟨fun hm => ?_, ih h.2⟩
      rcases mem_keys_put.1 hm with hk | hk
      · exact he hk
      · exact h.1 hk

theorem find_put (key k : String) (value : α) (es : List (String × α)) :
    find k (put key value es) = if k = key then some value else find k es := by
  induction es with
  | nil => simp [put, find, eq_comm]
  | cons e rest ih =>
    by_cases he : e.1 = key
    · subst he
      by_cases hk : k = e.1
      · simp [put, find, hk]
      · have hk' : ¬ e.1 = k := fun h => hk h.symm
        simp [put, find, hk, hk']
    · by_cases hk : e.1 = k
      · have hn : ¬ k = key := fun h => he (hk.trans h)
        simp [put, find, hk, hn]
      · simp [put, find, he, hk, ih]

/-! ## Dictionaries -/

def empty : Dict α := ⟨[], by simp⟩

instance : EmptyCollection (Dict α) := ⟨empty⟩

instance : Inhabited (Dict α) := ⟨empty⟩

/-- Two dictionaries are equal when they list the same entries in the same order. -/
theorem ext {a b : Dict α} (h : a.entries = b.entries) : a = b := by
  cases a; cases b; cases h; rfl

instance [DecidableEq α] : DecidableEq (Dict α) := fun a b =>
  if h : a.entries = b.entries then .isTrue (ext h) else .isFalse fun e => h (e ▸ rfl)

/-- Binds `key` to `value`; a present key keeps its place. -/
def insert (d : Dict α) (key : String) (value : α) : Dict α :=
  ⟨put key value d.entries, nodup_keys_put d.nodup⟩

def get? (d : Dict α) (key : String) : Option α := find key d.entries

def contains (d : Dict α) (key : String) : Bool := (d.get? key).isSome

def keys (d : Dict α) : List String := d.entries.map Prod.fst

def size (d : Dict α) : Nat := d.entries.length

def isEmpty (d : Dict α) : Bool := d.entries.isEmpty

def insertAll (d : Dict α) (pairs : List (String × α)) : Dict α :=
  pairs.foldl (fun d p => d.insert p.1 p.2) d

/-- Lays `upper` over `lower`: its values win, its new keys follow. -/
def overlay (lower upper : Dict α) : Dict α := lower.insertAll upper.entries

/-- Builds a dictionary from pairs: the last value of a key, at the place of its first. -/
def ofList (pairs : List (String × α)) : Dict α := empty.insertAll pairs

def filterKeys (d : Dict α) (keep : String → Bool) : Dict α :=
  ⟨d.entries.filter fun e => keep e.1,
    d.nodup.sublist (List.filter_sublist.map Prod.fst)⟩

@[simp] theorem get?_empty (key : String) : (∅ : Dict α).get? key = none := rfl

@[simp] theorem get?_insert (d : Dict α) (key k : String) (value : α) :
    (d.insert key value).get? k = if k = key then some value else d.get? k :=
  find_put key k value d.entries

@[simp] theorem insertAll_nil (d : Dict α) : d.insertAll [] = d := rfl

@[simp] theorem insertAll_cons (d : Dict α) (p : String × α) (ps : List (String × α)) :
    d.insertAll (p :: ps) = (d.insert p.1 p.2).insertAll ps := rfl

theorem insertAll_append (d : Dict α) (ps qs : List (String × α)) :
    d.insertAll (ps ++ qs) = (d.insertAll ps).insertAll qs := by
  simp [insertAll, List.foldl_append]

end Dict

/-- The attributes of a tag: names with values, in the order of first appearance. -/
abbrev Attributes := Dict String

end Lettermill
