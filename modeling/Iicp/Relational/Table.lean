import Mathlib.Tactic

/-!
# Tables with a primary key

A table is a list of rows no two of which have the same key; the structure carries that as a field,
so a table that breaks its primary key cannot be built. Rows are inserted, changed in place by key
and deleted by a condition. `find?` is the lookup by key, and each operation has a lemma that gives
the lookup after it in terms of the lookup before.
-/

namespace Iicp.Relational

open List

/-- A list of rows with distinct keys. -/
structure Table (ρ κ : Type) (key : ρ → κ) where
  rows : List ρ
  unique : (rows.map key).Nodup

namespace Table

variable {ρ κ : Type} {key : ρ → κ}

def empty : Table ρ κ key where
  rows := []
  unique := nodup_nil

/-- Adds a row whose key is not in the table. -/
def insert (table : Table ρ κ key) (row : ρ) (hfresh : key row ∉ table.rows.map key) :
    Table ρ κ key where
  rows := table.rows ++ [row]
  unique := by
    rw [map_append, nodup_append]
    refine ⟨table.unique, nodup_singleton _, ?_⟩
    intro first hfirst second hsecond hsame
    obtain rfl : second = key row := by simpa using hsecond
    exact hfresh (hsame ▸ hfirst)

def delete (table : Table ρ κ key) (doomed : ρ → Bool) : Table ρ κ key where
  rows := table.rows.filter fun row ↦ !doomed row
  unique := table.unique.sublist (filter_sublist.map key)

variable [DecidableEq κ] (table : Table ρ κ key) (wanted : κ)

def find? (table : Table ρ κ key) (wanted : κ) : Option ρ :=
  table.rows.find? fun row ↦ key row = wanted

/-- A change of the row with a key leaves a column as it is when it does so on every row. -/
lemma map_column {γ : Type} (rows : List ρ) (wanted : κ) {change : ρ → ρ} {column : ρ → γ}
    (hcolumn : ∀ row, column (change row) = column row) :
    (rows.map fun row ↦ if key row = wanted then change row else row).map column =
      rows.map column := by
  rw [map_map]
  apply map_congr_left
  intro row _
  show column (if key row = wanted then change row else row) = column row
  split_ifs
  · exact hcolumn row
  · rfl

/-- Changes the row with a key; the change keeps the key. -/
def modify (table : Table ρ κ key) (wanted : κ) (change : ρ → ρ)
    (hkey : ∀ row, key (change row) = key row) : Table ρ κ key where
  rows := table.rows.map fun row ↦ if key row = wanted then change row else row
  unique := by
    rw [map_column table.rows wanted hkey]
    exact table.unique

/-- A column that the change keeps is as it was. -/
lemma map_modify {γ : Type} {change : ρ → ρ} {hkey : ∀ row, key (change row) = key row}
    {column : ρ → γ} (hcolumn : ∀ row, column (change row) = column row) :
    (table.modify wanted change hkey).rows.map column = table.rows.map column :=
  map_column table.rows wanted hcolumn

lemma find?_eq_some_iff (row : ρ) :
    table.find? wanted = some row ↔ row ∈ table.rows ∧ key row = wanted := by
  constructor
  · intro hfound
    exact ⟨mem_of_find?_eq_some hfound, by simpa using List.find?_some hfound⟩
  · rintro ⟨hmem, hkey⟩
    cases hfound : table.find? wanted with
    | none =>
      have hnone := List.find?_eq_none.mp hfound row hmem
      exact absurd hkey (by simpa using hnone)
    | some other =>
      have hother : other ∈ table.rows := mem_of_find?_eq_some hfound
      have hwanted : key other = wanted := by simpa using List.find?_some hfound
      rw [inj_on_of_nodup_map table.unique hother hmem (hwanted.trans hkey.symm)]

lemma find?_eq_none_iff : table.find? wanted = none ↔ wanted ∉ table.rows.map key := by
  rw [find?, List.find?_eq_none, mem_map]
  simp

@[simp] lemma find?_empty : (empty : Table ρ κ key).find? wanted = none := rfl

lemma find?_insert (row : ρ) (hfresh : key row ∉ table.rows.map key) (wanted : κ) :
    (table.insert row hfresh).find? wanted =
      if wanted = key row then some row else table.find? wanted := by
  split_ifs with hwanted
  · rw [find?_eq_some_iff]
    exact ⟨by simp [insert], hwanted.symm⟩
  · rw [find?, insert, List.find?_append]
    have hother : List.find? (fun row ↦ decide (key row = wanted)) [row] = none := by
      simp [Ne.symm hwanted]
    rw [hother, Option.or_none]
    rfl

lemma find?_modify (changed : κ) (change : ρ → ρ) (hkey : ∀ row, key (change row) = key row)
    (wanted : κ) :
    (table.modify changed change hkey).find? wanted =
      if wanted = changed then (table.find? wanted).map change else table.find? wanted := by
  have hcomp : ((fun row ↦ decide (key row = wanted)) ∘
      fun row ↦ if key row = changed then change row else row) =
      fun row ↦ decide (key row = wanted) := by
    ext row
    show decide (key (if key row = changed then change row else row) = wanted) = _
    split_ifs
    · rw [hkey]
    · rfl
  rw [find?, modify, List.find?_map, hcomp]
  change Option.map _ (table.find? wanted) = _
  cases hfound : table.find? wanted with
  | none => simp
  | some row =>
    have hrow := ((table.find?_eq_some_iff wanted row).mp hfound).2
    split_ifs with hwanted
    · simp [hrow, hwanted]
    · simp [hrow, hwanted]

lemma find?_delete (deleted wanted : κ) :
    (table.delete fun row ↦ key row = deleted).find? wanted =
      if wanted = deleted then none else table.find? wanted := by
  split_ifs with hwanted
  · rw [find?_eq_none_iff]
    simp [delete, hwanted]
  · ext row
    rw [find?_eq_some_iff, find?_eq_some_iff]
    constructor
    · rintro ⟨hmem, hkey⟩
      exact ⟨(mem_filter.mp hmem).1, hkey⟩
    · rintro ⟨hmem, hkey⟩
      refine ⟨mem_filter.mpr ⟨hmem, ?_⟩, hkey⟩
      simpa [hkey] using hwanted

end Table

end Iicp.Relational
