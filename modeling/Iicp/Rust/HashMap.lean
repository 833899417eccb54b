import Mathlib.Data.List.AList
import Mathlib.Tactic

/-!
# Hash maps

A hash map is an association list without duplicate keys. Mathlib has lookup, insertion and removal;
added here are the number of entries, the values, `retain`, which keeps the entries that pass a
test, `modify`, which changes a value in place, and `takeAll`, which empties the map in an order.
-/

namespace Iicp.Rust

abbrev HashMap (κ ν : Type) := AList fun _ : κ ↦ ν

namespace HashMap

variable {κ ν : Type}

def size (map : HashMap κ ν) : ℕ := map.keys.length

/-- The values, in the order of the entries. -/
def values (map : HashMap κ ν) : List ν := map.entries.map Sigma.snd

/-- Keeps the entries that pass a test. -/
def retain (map : HashMap κ ν) (test : κ → ν → Bool) : HashMap κ ν where
  entries := map.entries.filter fun entry ↦ test entry.1 entry.2
  nodupKeys := map.nodupKeys.sublist List.filter_sublist

variable [DecidableEq κ] in
/-- Changes the value of a key in place. -/
def modify (map : HashMap κ ν) (key : κ) (change : ν → ν) : HashMap κ ν where
  entries := map.entries.map fun entry ↦
    ⟨entry.1, if entry.1 = key then change entry.2 else entry.2⟩
  nodupKeys := by
    have hkeys := map.nodupKeys
    rw [List.NodupKeys, List.keys] at hkeys ⊢
    rw [List.map_map]
    exact hkeys

variable [DecidableEq κ] in
/-- Removes keys in turn and gives their values, or nothing when a key is missing. -/
def takeAll : List κ → HashMap κ ν → Option (List ν)
  | [], _ => some []
  | key :: rest, map => do return (← map.lookup key) :: (← takeAll rest (map.erase key))

variable (map : HashMap κ ν)

lemma entries_retain (test : κ → ν → Bool) :
    (map.retain test).entries = map.entries.filter fun entry ↦ test entry.1 entry.2 := rfl

@[simp] lemma size_empty : (∅ : HashMap κ ν).size = 0 := rfl

lemma length_values : map.values.length = map.size := by
  simp [values, size, AList.keys, List.keys]

variable [DecidableEq κ] (key : κ)

lemma entries_modify (change : ν → ν) :
    (map.modify key change).entries = map.entries.map fun entry ↦
      ⟨entry.1, if entry.1 = key then change entry.2 else entry.2⟩ := rfl

lemma size_insert (value : ν) :
    size (map.insert key value) = if key ∈ map then map.size else map.size + 1 := by
  rw [size, AList.keys_insert, List.length_cons, List.length_erase, size]
  by_cases hmem : key ∈ map
  · have hkeys : key ∈ map.keys := AList.mem_keys.mp hmem
    have hpos : 0 < map.keys.length := List.length_pos_of_mem hkeys
    rw [if_pos hkeys, if_pos hmem]
    omega
  · rw [if_neg hmem, if_neg fun hkeys ↦ hmem (AList.mem_keys.mpr hkeys)]

lemma size_erase : size (map.erase key) = if key ∈ map then map.size - 1 else map.size := by
  rw [size, AList.keys_erase, List.length_erase, size]
  simp only [AList.mem_keys]

lemma size_erase_le : size (map.erase key) ≤ map.size := by
  rw [size_erase]
  split_ifs <;> omega

lemma mem_iff_lookup {map : HashMap κ ν} {key : κ} :
    key ∈ map ↔ ∃ value, map.lookup key = some value := by
  rw [← AList.lookup_isSome, Option.isSome_iff_exists]

lemma lookup_retain (test : κ → ν → Bool) (key : κ) :
    (map.retain test).lookup key = (map.lookup key).filter (test key) := by
  ext value
  rw [Option.filter_eq_some_iff, ← Option.mem_def, ← Option.mem_def, AList.mem_lookup_iff,
    AList.mem_lookup_iff, retain, List.mem_filter]

lemma lookup_modify (change : ν → ν) (other : κ) :
    (map.modify key change).lookup other =
      (map.lookup other).map fun value ↦ if other = key then change value else value := by
  ext value
  rw [← Option.mem_def, AList.mem_lookup_iff, Option.map_eq_some_iff, modify, List.mem_map]
  constructor
  · rintro ⟨⟨_, old⟩, hentry, heq⟩
    obtain ⟨rfl, rfl⟩ := Sigma.mk.inj_iff.mp heq
    exact ⟨old, AList.mem_lookup_iff.mpr hentry, rfl⟩
  · rintro ⟨old, hlookup, rfl⟩
    exact ⟨⟨other, old⟩, AList.mem_lookup_iff.mp hlookup, rfl⟩

lemma takeAll_map {α : Type} {keyOf : α → κ} (valueOf : α → ν) {items : List α}
    (hnodup : (items.map keyOf).Nodup)
    (hlookup : ∀ item ∈ items, map.lookup (keyOf item) = some (valueOf item)) :
    takeAll (items.map keyOf) map = some (items.map valueOf) := by
  induction items generalizing map with
  | nil => rfl
  | cons item rest ih =>
    obtain ⟨hfresh, hrest⟩ := List.nodup_cons.mp hnodup
    have hkept : ∀ other ∈ rest, (map.erase (keyOf item)).lookup (keyOf other) =
        some (valueOf other) := by
      intro other hother
      have hne : keyOf other ≠ keyOf item := fun hsame ↦ hfresh (hsame ▸ List.mem_map_of_mem hother)
      rw [AList.lookup_erase_ne hne]
      exact hlookup other (List.mem_cons_of_mem _ hother)
    simp [takeAll, hlookup item List.mem_cons_self, ih _ hrest hkept]

lemma mem_values_iff {map : HashMap κ ν} {value : ν} :
    value ∈ map.values ↔ ∃ key, map.lookup key = some value := by
  rw [values, List.mem_map]
  constructor
  · rintro ⟨⟨key, _⟩, hentry, rfl⟩
    exact ⟨key, AList.mem_lookup_iff.mpr hentry⟩
  · rintro ⟨key, hkey⟩
    exact ⟨⟨key, value⟩, AList.mem_lookup_iff.mp hkey, rfl⟩

end HashMap

end Iicp.Rust
