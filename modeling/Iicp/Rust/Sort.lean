import Mathlib.Tactic

/-!
# Stable sorting by a key

`sortByKey` sorts a list by a key and keeps the order of items with the same key, as the sort of a
slice does. A list that is sorted by a key is determined by its items of each key, in their order
(`eq_of_filter_eq`); so two lists that have the same items of each key, in the same order, have the
same sorted list (`sortByKey_eq_of_filter_eq`), and sorting twice is sorting once
(`sortByKey_sortByKey`).
-/

namespace Iicp.Rust

open List

variable {α β κ : Type} [LinearOrder κ]

/-- The first item does not come after the second by the key. -/
def KeyLe (key : α → κ) (first second : α) : Prop := key first ≤ key second

instance (key : α → κ) : DecidableRel (KeyLe key) := fun first second ↦
  inferInstanceAs (Decidable (key first ≤ key second))

instance (key : α → κ) : Std.Total (KeyLe key) := ⟨fun first second ↦ le_total (key first) (key second)⟩

instance (key : α → κ) : IsTrans α (KeyLe key) := ⟨fun _ _ _ ↦ le_trans⟩

/-- The list in the order of a key, with items of the same key in the order that they had. -/
def sortByKey (key : α → κ) (items : List α) : List α := items.insertionSort (KeyLe key)

variable (key : α → κ) (items : List α)

lemma perm_sortByKey : (sortByKey key items).Perm items := perm_insertionSort _ items

@[simp] lemma mem_sortByKey {item : α} : item ∈ sortByKey key items ↔ item ∈ items :=
  (perm_sortByKey key items).mem_iff

lemma pairwise_sortByKey : (sortByKey key items).Pairwise (KeyLe key) :=
  pairwise_insertionSort _ items

/-- The items of one key keep their order. -/
lemma filter_sortByKey (wanted : κ) :
    (sortByKey key items).filter (fun item ↦ key item = wanted) =
      items.filter fun item ↦ key item = wanted := by
  have hsame : (items.filter fun item ↦ key item = wanted).Pairwise (KeyLe key) := by
    refine pairwise_of_forall_mem_list fun first hfirst second hsecond ↦ ?_
    have hkey : key first = wanted := by simpa using (mem_filter.mp hfirst).2
    have hother : key second = wanted := by simpa using (mem_filter.mp hsecond).2
    rw [KeyLe, hkey, hother]
  have hsublist : (items.filter fun item ↦ key item = wanted).Sublist (sortByKey key items) :=
    sublist_insertionSort hsame filter_sublist
  have hfiltered := hsublist.filter fun item ↦ decide (key item = wanted)
  simp only [filter_filter, Bool.and_self] at hfiltered
  have hlength := ((perm_sortByKey key items).filter fun item ↦ decide (key item = wanted)).length_eq
  exact (hfiltered.eq_of_length hlength.symm).symm

variable {key items}

/-- Two lists that are sorted by a key and have the same items of each key are the same. -/
lemma eq_of_filter_eq {first second : List α} (hfirst : first.Pairwise (KeyLe key))
    (hsecond : second.Pairwise (KeyLe key))
    (hfilter : ∀ wanted, first.filter (fun item ↦ key item = wanted) =
      second.filter fun item ↦ key item = wanted) : first = second := by
  induction first generalizing second with
  | nil =>
    cases second with
    | nil => rfl
    | cons item => exact absurd (hfilter (key item)) (by simp)
  | cons item rest ih =>
    cases second with
    | nil => exact absurd (hfilter (key item)) (by simp)
    | cons other others =>
      rw [pairwise_cons] at hfirst hsecond
      have hitem : item ∈ other :: others := by
        have hmem : item ∈ (item :: rest).filter fun found ↦ key found = key item := by simp
        rw [hfilter] at hmem
        exact (mem_filter.mp hmem).1
      have hother : other ∈ item :: rest := by
        have hmem : other ∈ (other :: others).filter fun found ↦ key found = key other := by simp
        rw [← hfilter] at hmem
        exact (mem_filter.mp hmem).1
      have hle : key other ≤ key item := by
        obtain rfl | hrest := mem_cons.mp hitem
        · exact le_rfl
        · exact hsecond.1 item hrest
      have hge : key item ≤ key other := by
        obtain rfl | hrest := mem_cons.mp hother
        · exact le_rfl
        · exact hfirst.1 other hrest
      have hkey : key other = key item := le_antisymm hle hge
      have hheads := hfilter (key item)
      simp only [filter_cons, hkey, decide_true, if_true] at hheads
      obtain ⟨rfl, -⟩ := cons.inj hheads
      refine congrArg (cons item) (ih hfirst.2 hsecond.2 fun wanted ↦ ?_)
      have hall := hfilter wanted
      by_cases hwanted : key item = wanted
      · simpa [filter_cons, hwanted] using hall
      · simpa [filter_cons, hwanted] using hall

lemma sortByKey_eq_of_filter_eq {first second : List α}
    (hfilter : ∀ wanted, first.filter (fun item ↦ key item = wanted) =
      second.filter fun item ↦ key item = wanted) : sortByKey key first = sortByKey key second := by
  apply eq_of_filter_eq (pairwise_sortByKey key first) (pairwise_sortByKey key second)
  intro wanted
  rw [filter_sortByKey, filter_sortByKey]
  exact hfilter wanted

lemma sortByKey_eq_of_perm {first second : List α}
    (hinjective : ∀ item ∈ first, ∀ other ∈ first, key item = key other → item = other)
    (hperm : first.Perm second) : sortByKey key first = sortByKey key second := by
  have hsorted : (sortByKey key first).Perm (sortByKey key second) :=
    ((perm_sortByKey key first).trans hperm).trans (perm_sortByKey key second).symm
  refine hsorted.eq_of_pairwise (fun item other hitem hother hle hge ↦ ?_)
    (pairwise_sortByKey key first) (pairwise_sortByKey key second)
  have hmem : other ∈ first := hperm.mem_iff.mpr ((mem_sortByKey key second).mp hother)
  exact hinjective item ((mem_sortByKey key first).mp hitem) other hmem (le_antisymm hle hge)

lemma sortByKey_of_pairwise (hsorted : items.Pairwise (KeyLe key)) : sortByKey key items = items :=
  hsorted.insertionSort_eq

@[simp] lemma sortByKey_sortByKey : sortByKey key (sortByKey key items) = sortByKey key items :=
  sortByKey_of_pairwise (pairwise_sortByKey key items)

/-- A change of the items that keeps the order of their keys keeps their places. -/
lemma sortByKey_map {κ' : Type} [LinearOrder κ'] {other : β → κ'} {change : α → β}
    (hkey : ∀ first second, KeyLe other (change first) (change second) ↔ KeyLe key first second) :
    sortByKey other (items.map change) = (sortByKey key items).map change := by
  refine (map_insertionSort (KeyLe key) (KeyLe other) change items ?_).symm
  intro first _ second _
  exact (hkey first second).symm

end Iicp.Rust
