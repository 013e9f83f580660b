import Mathlib.Data.List.Basic
import Mathlib.Data.List.Nodup

/-! Insertion-ordered maps with one entry a key. Iteration follows the order
in which keys were first inserted, and writing to a present key keeps its
place. The distinctness of the keys is part of the value. -/
namespace Collections

/-- Entries in insertion order. A key occurs at most once. -/
structure JsMap (κ α : Type) where
  entries : List (κ × α)
  nodup : (entries.map Prod.fst).Nodup
deriving DecidableEq

namespace JsMap

variable {κ α : Type}

def empty : JsMap κ α := ⟨[], List.nodup_nil⟩

def keys (m : JsMap κ α) : List κ := m.entries.map Prod.fst

def values (m : JsMap κ α) : List α := m.entries.map Prod.snd

def size (m : JsMap κ α) : Nat := m.entries.length

theorem nodup_keys (m : JsMap κ α) : m.keys.Nodup := m.nodup

variable [DecidableEq κ]

def get? (m : JsMap κ α) (k : κ) : Option α := m.entries.lookup k

def has (m : JsMap κ α) (k : κ) : Bool := (m.get? k).isSome

/-- Overwriting keeps the position of the key. -/
def replaceEntries (k : κ) (v : α) (entries : List (κ × α)) : List (κ × α) :=
  entries.map fun entry => if entry.1 = k then (k, v) else entry

/-- Replacing a value keeps all keys in their places. -/
theorem replaceEntries_keys (k : κ) (v : α) (entries : List (κ × α)) :
    (replaceEntries k v entries).map Prod.fst = entries.map Prod.fst := by
  simp only [replaceEntries, List.map_map]
  apply List.map_congr_left
  intro entry _
  by_cases h : entry.1 = k <;> simp [h]

/-- What is found stands among the entries. -/
theorem mem_keys_of_lookup {entries : List (κ × α)} {k : κ} {v : α}
    (h : entries.lookup k = some v) : (k, v) ∈ entries := by
  obtain ⟨before, after, hs, _⟩ := List.lookup_eq_some_iff.mp h
  rw [hs]
  simp

/-- A key that is not found is no key. -/
theorem not_mem_keys_of_lookup {entries : List (κ × α)} {k : κ}
    (h : entries.lookup k = none) : k ∉ entries.map Prod.fst := by
  intro hm
  obtain ⟨entry, he, rfl⟩ := List.mem_map.mp hm
  simpa using List.lookup_eq_none_iff.mp h entry he

def set (m : JsMap κ α) (k : κ) (v : α) : JsMap κ α :=
  if h : (m.entries.lookup k).isSome then
    ⟨replaceEntries k v m.entries, by rw [replaceEntries_keys]; exact m.nodup⟩
  else
    ⟨m.entries ++ [(k, v)], by
      have hk := not_mem_keys_of_lookup (Option.not_isSome_iff_eq_none.mp h)
      rw [List.map_append, List.nodup_append]
      refine ⟨m.nodup, by simp, ?_⟩
      intro a ha b hb he
      simp only [List.map_cons, List.map_nil, List.mem_singleton] at hb
      exact hk (by rw [← hb, ← he]; exact ha)⟩

def delete (m : JsMap κ α) (k : κ) : JsMap κ α :=
  ⟨m.entries.filter fun entry => entry.1 ≠ k,
    m.nodup.sublist (List.Sublist.map _ List.filter_sublist)⟩

@[simp] theorem get?_empty (k : κ) : (empty : JsMap κ α).get? k = none := rfl

/-- An entry is found under its key, as there is no second one. -/
theorem lookup_eq_some_of_mem {entries : List (κ × α)} {k : κ} {v : α}
    (nodup : (entries.map Prod.fst).Nodup) (h : (k, v) ∈ entries) :
    entries.lookup k = some v := by
  induction entries with
  | nil => simp at h
  | cons entry rest ih =>
      rw [List.map_cons, List.nodup_cons] at nodup
      rcases List.mem_cons.mp h with rfl | h
      · simp
      · have hne : k ≠ entry.1 := by
          rintro rfl
          exact nodup.1 (List.mem_map.mpr ⟨_, h, rfl⟩)
        rw [List.lookup_cons, beq_eq_false_iff_ne.mpr hne]
        exact ih nodup.2 h

/-- Lookup and membership agree because keys are distinct. -/
theorem get?_eq_some_iff {m : JsMap κ α} {k : κ} {v : α} :
    m.get? k = some v ↔ (k, v) ∈ m.entries :=
  ⟨mem_keys_of_lookup, lookup_eq_some_of_mem m.nodup⟩

/-- The keys are those under which something is found. -/
theorem mem_keys_iff {m : JsMap κ α} {k : κ} : k ∈ m.keys ↔ ∃ v, m.get? k = some v := by
  simp only [keys, List.mem_map, get?_eq_some_iff, Prod.exists, exists_and_right, exists_eq_right]

/-- The values are what is found under some key. -/
theorem mem_values_iff {m : JsMap κ α} {v : α} : v ∈ m.values ↔ ∃ k, m.get? k = some v := by
  simp only [values, List.mem_map, get?_eq_some_iff, Prod.exists, exists_eq_right]

/-- Values that name their own key list the keys. -/
theorem values_map_eq_keys {m : JsMap κ α} {key : α → κ}
    (keyed : ∀ k v, m.get? k = some v → key v = k) : m.values.map key = m.keys := by
  rw [values, keys, List.map_map]
  apply List.map_congr_left
  intro entry h
  exact keyed entry.1 entry.2 (get?_eq_some_iff.mpr h)

/-- Looking up every key in turn lists the values. -/
theorem keys_map_get? (m : JsMap κ α) (default : α) :
    m.keys.map (fun k => (m.get? k).getD default) = m.values := by
  rw [keys, values, List.map_map]
  apply List.map_congr_left
  intro entry h
  have stored : m.get? entry.1 = some entry.2 := get?_eq_some_iff.mpr h
  rw [Function.comp, stored, Option.getD_some]

/-- A key is one under which the lookup succeeds. -/
theorem mem_keys_iff_isSome {m : JsMap κ α} {k : κ} : k ∈ m.keys ↔ (m.get? k).isSome := by
  rw [mem_keys_iff, Option.isSome_iff_exists]

/-- Nothing is found under what is no key. -/
theorem get?_eq_none_iff {m : JsMap κ α} {k : κ} : m.get? k = none ↔ k ∉ m.keys := by
  rw [mem_keys_iff_isSome, Option.not_isSome_iff_eq_none]

/-- An empty map is one in which nothing is found. -/
theorem size_eq_zero_iff {m : JsMap κ α} : m.size = 0 ↔ ∀ k, m.get? k = none := by
  rw [size, List.length_eq_zero_iff]
  constructor
  · intro h k
    simp [get?, h]
  · intro h
    rw [List.eq_nil_iff_forall_not_mem]
    intro ⟨k, v⟩ hm
    exact Option.some_ne_none v ((get?_eq_some_iff.mpr hm).symm.trans (h k))

/-- A replaced value is found in place of the old one. -/
private theorem lookup_replaceEntries_self {k : κ} {v : α} {entries : List (κ × α)}
    (h : (entries.lookup k).isSome) : (replaceEntries k v entries).lookup k = some v := by
  induction entries with
  | nil => simp at h
  | cons entry rest ih =>
      by_cases he : entry.1 = k
      · simp [replaceEntries, he]
      · have hb : (k == entry.1) = false := beq_eq_false_iff_ne.mpr (Ne.symm he)
        rw [List.lookup_cons, hb] at h
        rw [replaceEntries, List.map_cons, if_neg he, List.lookup_cons, hb]
        exact ih h

/-- The other entries are found as before. -/
private theorem lookup_replaceEntries_ne {k l : κ} {v : α} (entries : List (κ × α)) (h : l ≠ k) :
    (replaceEntries k v entries).lookup l = entries.lookup l := by
  induction entries with
  | nil => rfl
  | cons entry rest ih =>
      rw [replaceEntries, List.map_cons, List.lookup_cons]
      change _ = match l == entry.1 with
        | true => some entry.2
        | false => rest.lookup l
      rw [← ih]
      by_cases he : entry.1 = k
      · simp [he, beq_eq_false_iff_ne.mpr h, replaceEntries]
      · simp only [replaceEntries, if_neg he]
        rfl

/-- What is written is what is found. -/
@[simp] theorem get?_set_self (m : JsMap κ α) (k : κ) (v : α) : (m.set k v).get? k = some v := by
  rw [set, get?]
  split
  · next h => exact lookup_replaceEntries_self h
  · next h =>
      rw [List.lookup_append, Option.not_isSome_iff_eq_none.mp h]
      simp

/-- Writing one key moves no other. -/
theorem get?_set_ne (m : JsMap κ α) {k l : κ} (v : α) (h : l ≠ k) :
    (m.set k v).get? l = m.get? l := by
  unfold set get?
  split
  · exact lookup_replaceEntries_ne m.entries h
  · rw [List.lookup_append]
    simp [List.lookup_cons, beq_eq_false_iff_ne.mpr h]

/-- The lookup after a write, key by key. -/
theorem get?_set (m : JsMap κ α) (k l : κ) (v : α) :
    (m.set k v).get? l = if l = k then some v else m.get? l := by
  split
  · next h => rw [h, get?_set_self]
  · next h => exact get?_set_ne m v h

/-- A deleted key is not found. -/
@[simp] theorem get?_delete_self (m : JsMap κ α) (k : κ) : (m.delete k).get? k = none := by
  rw [get?_eq_none_iff, keys, delete]
  simp

/-- Deleting one key moves no other. -/
theorem get?_delete_ne (m : JsMap κ α) {k l : κ} (h : l ≠ k) :
    (m.delete k).get? l = m.get? l := by
  apply Option.ext
  intro v
  simp only [get?_eq_some_iff, delete, List.mem_filter, decide_eq_true_eq]
  exact ⟨And.left, fun hm => ⟨hm, h⟩⟩

/-- The lookup after a deletion, key by key. -/
theorem get?_delete (m : JsMap κ α) (k l : κ) :
    (m.delete k).get? l = if l = k then none else m.get? l := by
  split
  · next h => rw [h, get?_delete_self]
  · next h => exact get?_delete_ne m h

/-- Deleting keys one after the other takes away exactly these. -/
theorem get?_foldl_delete (m : JsMap κ α) (gone : List κ) (k : κ) :
    (gone.foldl delete m).get? k = if k ∈ gone then none else m.get? k := by
  induction gone generalizing m with
  | nil => simp
  | cons first gone ih =>
      rw [List.foldl_cons, ih, get?_delete]
      by_cases hm : k ∈ gone
      · simp [hm]
      · by_cases he : k = first <;> simp [hm, he]

/-- Deleting the keys that meet a condition. -/
theorem get?_foldl_delete_filter (m : JsMap κ α) (unwanted : κ → Bool) (k : κ) :
    ((m.keys.filter unwanted).foldl delete m).get? k =
      if unwanted k then none else m.get? k := by
  rw [get?_foldl_delete]
  by_cases h : unwanted k = true
  · rw [if_pos h]
    split
    · rfl
    · next kept =>
        rw [get?_eq_none_iff]
        exact fun there => kept (List.mem_filter.mpr ⟨there, h⟩)
  · rw [if_neg h, if_neg fun listed => h (List.mem_filter.mp listed).2]

/-- Writing what is there already changes nothing. -/
theorem set_of_get? {m : JsMap κ α} {k : κ} {v : α} (h : m.get? k = some v) : m.set k v = m := by
  have present : (m.entries.lookup k).isSome := Option.isSome_of_eq_some h
  have kept : replaceEntries k v m.entries = m.entries := by
    have same : ∀ entry ∈ m.entries, (if entry.1 = k then (k, v) else entry) = entry := by
      intro entry he
      split
      · next hk =>
          have stored : m.get? entry.1 = some entry.2 := get?_eq_some_iff.mpr he
          rw [hk, h] at stored
          exact Prod.ext hk.symm (Option.some.inj stored)
      · rfl
    rw [replaceEntries, List.map_congr_left same, List.map_id']
  rw [set, dif_pos present]
  simp only [kept]

/-- A new key goes to the end. -/
theorem entries_set_of_get?_none {m : JsMap κ α} {k : κ} (h : m.get? k = none) (v : α) :
    (m.set k v).entries = m.entries ++ [(k, v)] := by
  have absent : ¬(m.entries.lookup k).isSome := Option.not_isSome_iff_eq_none.mpr h
  rw [set, dif_neg absent]

/-- Overwriting a value changes the listing in one place. -/
theorem values_set_of_get? {m : JsMap κ α} {k : κ} {old : α} (h : m.get? k = some old) :
    ∃ index, m.values[index]? = some old ∧ ∀ new, (m.set k new).values = m.values.set index new := by
  obtain ⟨before, after, split⟩ := List.append_of_mem (get?_eq_some_iff.mp h)
  have distinct : ((before ++ (k, old) :: after).map Prod.fst).Nodup := split ▸ m.nodup
  rw [List.map_append, List.map_cons, List.nodup_middle, List.nodup_cons, List.mem_append,
    not_or] at distinct
  have kept : ∀ (entries : List (κ × α)) (new : α), k ∉ entries.map Prod.fst →
      replaceEntries k new entries = entries := by
    intro entries new absent
    have same : ∀ entry ∈ entries, (if entry.1 = k then (k, new) else entry) = entry := by
      intro entry he
      rw [if_neg]
      intro hk
      exact absent (hk ▸ List.mem_map_of_mem he)
    rw [replaceEntries, List.map_congr_left same, List.map_id']
  refine ⟨before.length, ?_, fun new => ?_⟩
  · rw [values, split, List.map_append, List.map_cons, List.getElem?_append_right (by simp)]
    simp
  · have present : (m.entries.lookup k).isSome := Option.isSome_of_eq_some h
    have replaced : replaceEntries k new m.entries = before ++ (k, new) :: after := by
      have first := kept before new distinct.1.1
      have last := kept after new distinct.1.2
      rw [replaceEntries] at first last
      rw [split, replaceEntries, List.map_append, List.map_cons, first, last, if_pos rfl]
    rw [values, values, set, dif_pos present]
    dsimp only
    rw [replaced, split, List.map_append, List.map_append, List.map_cons, List.map_cons,
      List.set_append_right _ _ (by simp)]
    simp

/-- Filtering out a key that is not there filters out nothing. -/
private theorem filter_of_not_mem_keys {entries : List (κ × α)} {k : κ}
    (absent : k ∉ entries.map Prod.fst) :
    entries.filter (fun entry => entry.1 ≠ k) = entries := by
  rw [List.filter_eq_self]
  intro entry he
  rw [decide_eq_true_eq]
  intro hk
  exact absent (hk ▸ List.mem_map_of_mem he)

/-- What `delete` leaves, with what it takes out, is everything. -/
theorem perm_values_of_get? {m : JsMap κ α} {k : κ} {v : α} (h : m.get? k = some v) :
    m.values.Perm (v :: (m.delete k).values) := by
  obtain ⟨before, after, split⟩ := List.append_of_mem (get?_eq_some_iff.mp h)
  have distinct : ((before ++ (k, v) :: after).map Prod.fst).Nodup := split ▸ m.nodup
  rw [List.map_append, List.map_cons, List.nodup_middle, List.nodup_cons, List.mem_append,
    not_or] at distinct
  have rest : (m.delete k).values = before.map Prod.snd ++ after.map Prod.snd := by
    rw [values, delete]
    dsimp only
    rw [split, List.filter_append, List.filter_cons_of_neg (by simp),
      filter_of_not_mem_keys distinct.1.1, filter_of_not_mem_keys distinct.1.2, List.map_append]
  rw [rest, values, split, List.map_append, List.map_cons]
  exact List.perm_middle

/-- Deleting a key that is not there changes nothing. -/
theorem delete_of_get?_none {m : JsMap κ α} {k : κ} (h : m.get? k = none) : m.delete k = m := by
  rw [delete]
  simp only [filter_of_not_mem_keys (get?_eq_none_iff.mp h)]

/-- What was written last is what `delete` takes out. -/
theorem delete_set (m : JsMap κ α) (k : κ) (v : α) : (m.set k v).delete k = m.delete k := by
  have dropped : ∀ entries : List (κ × α),
      (replaceEntries k v entries).filter (fun entry => entry.1 ≠ k) =
        entries.filter fun entry => entry.1 ≠ k := by
    intro entries
    induction entries with
    | nil => rfl
    | cons entry entries ih =>
        rw [replaceEntries] at ih ⊢
        by_cases hk : entry.1 = k
        · simp [hk] at ih ⊢
          exact ih
        · simp [hk] at ih ⊢
          exact ih
  unfold set
  split
  · simp only [delete, dropped]
  · simp [delete, List.filter_append]

/-- A key is there when something is found under it. -/
theorem has_eq_true_iff {m : JsMap κ α} {k : κ} : m.has k = true ↔ ∃ v, m.get? k = some v := by
  rw [has, Option.isSome_iff_exists]

/-- A key is not there when nothing is. -/
theorem has_eq_false_iff {m : JsMap κ α} {k : κ} : m.has k = false ↔ m.get? k = none := by
  rw [has, Option.isSome_eq_false_iff, Option.isNone_iff_eq_none]

variable {β : Type} (f : α → β)

def mapValues (m : JsMap κ α) : JsMap κ β :=
  ⟨m.entries.map fun entry => (entry.1, f entry.2), by
    rw [List.map_map]
    exact m.nodup⟩

/-- Mapping the values maps what is found. -/
private theorem lookup_map_values (k : κ) (entries : List (κ × α)) :
    (entries.map fun entry => (entry.1, f entry.2)).lookup k = (entries.lookup k).map f := by
  induction entries with
  | nil => rfl
  | cons entry rest ih =>
      rw [List.map_cons, List.lookup_cons]
      change _ = Option.map f (match k == entry.1 with
        | true => some entry.2
        | false => rest.lookup k)
      cases k == entry.1 with
      | true => rfl
      | false => exact ih

/-- A mapped map is looked up by mapping what is found. -/
@[simp] theorem get?_mapValues (m : JsMap κ α) (k : κ) :
    (m.mapValues f).get? k = (m.get? k).map f :=
  lookup_map_values f k m.entries

@[simp] theorem has_mapValues (m : JsMap κ α) (k : κ) : (m.mapValues f).has k = m.has k := by
  rw [has, has, get?_mapValues, Option.isSome_map]

omit [DecidableEq κ] in
@[simp] theorem size_mapValues (m : JsMap κ α) : (m.mapValues f).size = m.size :=
  List.length_map ..

omit [DecidableEq κ] in
@[simp] theorem values_mapValues (m : JsMap κ α) : (m.mapValues f).values = m.values.map f := by
  rw [values, values, mapValues, List.map_map, List.map_map]
  rfl

/-- Writing and then mapping is mapping and then writing the image. -/
theorem set_mapValues (m : JsMap κ α) (k : κ) (v : α) :
    (m.set k v).mapValues f = (m.mapValues f).set k (f v) := by
  have present : ((m.mapValues f).entries.lookup k).isSome = (m.entries.lookup k).isSome := by
    rw [mapValues, lookup_map_values, Option.isSome_map]
  unfold set
  by_cases h : (m.entries.lookup k).isSome
  · rw [dif_pos h, dif_pos (present.trans h), mapValues, JsMap.mk.injEq]
    simp only [replaceEntries, mapValues, List.map_map]
    apply List.map_congr_left
    intro entry _
    by_cases hk : entry.1 = k <;> simp [hk]
  · rw [dif_neg h, dif_neg (present ▸ h), mapValues, JsMap.mk.injEq]
    simp [mapValues]

/-- Deleting and mapping can change places. -/
theorem delete_mapValues (m : JsMap κ α) (k : κ) :
    (m.delete k).mapValues f = (m.mapValues f).delete k := by
  rw [delete, delete, mapValues, JsMap.mk.injEq, mapValues, List.filter_map]
  rfl

end JsMap

/-- A set in insertion order, as a map to the one-point type. -/
abbrev JsSet (κ : Type) := JsMap κ Unit

namespace JsSet

variable {κ : Type} [DecidableEq κ]

def add (s : JsSet κ) (k : κ) : JsSet κ := JsMap.set s k ()

def toList (s : JsSet κ) : List κ := JsMap.keys s

/-- Adding to a set adds that element. -/
theorem mem_toList_add {s : JsSet κ} {k l : κ} : l ∈ (s.add k).toList ↔ l = k ∨ l ∈ s.toList := by
  rw [toList, toList, JsMap.mem_keys_iff_isSome, JsMap.mem_keys_iff_isSome, add, JsMap.get?_set]
  by_cases h : l = k <;> simp [h]

/-- Deleting from a set takes that element away. -/
theorem mem_toList_delete {s : JsSet κ} {k l : κ} :
    l ∈ JsSet.toList (JsMap.delete s k) ↔ l ≠ k ∧ l ∈ s.toList := by
  rw [toList, toList, JsMap.mem_keys_iff_isSome, JsMap.mem_keys_iff_isSome, JsMap.get?_delete]
  by_cases h : l = k <;> simp [h]

/-- Adding elements one after the other adds all of them. -/
theorem mem_toList_foldl_add {s : JsSet κ} {items : List κ} {l : κ} :
    l ∈ (items.foldl add s).toList ↔ l ∈ items ∨ l ∈ s.toList := by
  induction items generalizing s with
  | nil => simp
  | cons k items ih =>
      rw [List.foldl_cons, ih, mem_toList_add, List.mem_cons, ← or_assoc, or_comm (a := l ∈ items)]

/-- A new element makes the set larger by one. -/
theorem size_add_of_fresh {s : JsSet κ} {k : κ} (fresh : k ∉ s.toList) :
    (s.add k).size = s.size + 1 := by
  have absent := JsMap.get?_eq_none_iff.mpr fresh
  rw [JsMap.size, add, JsMap.entries_set_of_get?_none absent, List.length_append]
  rfl

/-- An element makes a set larger by one at most. -/
theorem size_add_le (s : JsSet κ) (k : κ) : (s.add k).size ≤ s.size + 1 := by
  by_cases present : k ∈ s.toList
  · have stored : JsMap.get? s k = some () := by
      obtain ⟨_, h⟩ := JsMap.mem_keys_iff.mp present
      exact h
    rw [add, JsMap.set_of_get? stored]
    exact Nat.le_succ _
  · exact Nat.le_of_eq (size_add_of_fresh present)

/-- A list of elements makes it larger by at most its length. -/
theorem size_foldl_add_le (s : JsSet κ) (items : List κ) :
    (items.foldl add s).size ≤ s.size + items.length := by
  induction items generalizing s with
  | nil => exact Nat.le_refl _
  | cons k items ih =>
      have first := size_add_le s k
      have rest := ih (s.add k)
      rw [List.foldl_cons, List.length_cons]
      omega

/-- Each of these new and different keys counts once. -/
theorem size_foldl_add {s : JsSet κ} {items : List κ} (nodup : items.Nodup)
    (fresh : ∀ k ∈ items, k ∉ s.toList) : (items.foldl add s).size = s.size + items.length := by
  induction items generalizing s with
  | nil => rfl
  | cons k items ih =>
      obtain ⟨other, rest⟩ := List.nodup_cons.mp nodup
      have grown := size_add_of_fresh (fresh k List.mem_cons_self)
      rw [List.foldl_cons, ih rest, grown, List.length_cons]
      · omega
      · intro l hl
        rw [mem_toList_add, not_or]
        refine ⟨?_, fresh l (List.mem_cons_of_mem _ hl)⟩
        rintro rfl
        exact other hl

/-- Deleting makes no set larger. -/
theorem size_delete_le (s : JsSet κ) (k : κ) : (JsMap.delete s k).size ≤ s.size :=
  List.length_filter_le _ _

end JsSet

/-- A loop over items with distinct keys, each turn of which changes only what
its own key sees, acts on every key by itself. -/
theorem foldl_own_key {σ ι κ β : Type} [DecidableEq κ] {key : ι → κ} (look : σ → κ → β)
    {turn : σ → ι → σ} {change : ι → β → β}
    (own : ∀ state item k, look (turn state item) k =
      if k = key item then change item (look state k) else look state k)
    {items : List ι} (nodup : (items.map key).Nodup) (state : σ) :
    (∀ item ∈ items, look (items.foldl turn state) (key item) =
      change item (look state (key item))) ∧
    (∀ k, k ∉ items.map key → look (items.foldl turn state) k = look state k) := by
  induction items generalizing state with
  | nil => simp
  | cons first items ih =>
      rw [List.map_cons, List.nodup_cons] at nodup
      obtain ⟨inside, outside⟩ := ih nodup.2 (turn state first)
      constructor
      · intro item hm
        rw [List.foldl_cons]
        rcases List.mem_cons.mp hm with rfl | hm
        · rw [outside _ nodup.1, own, if_pos rfl]
        · have hne : key item ≠ key first := fun he => nodup.1 (he ▸ List.mem_map_of_mem hm)
          rw [inside item hm, own, if_neg hne]
      · intro k hk
        obtain ⟨hne, hk⟩ := not_or.mp (mt List.mem_cons.mpr hk)
        rw [List.foldl_cons, outside k hk, own, if_neg hne]

end Collections
