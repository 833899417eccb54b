import Mathlib.Data.List.DropRight
import Mathlib.Tactic

/-!
# Numbered logs and the window that is kept of them

A log grows at its end and its entries carry their positions as numbers, counted from zero
(`Numbered`). A store that keeps only the last `bound` entries holds the window `log.rtake bound`.
Two ways to maintain the window agree with it: dropping the excess by length after an entry is added
(`drop_excess_rtake`), and deleting every entry whose number is below a cutoff
(`filter_cutoff_rtake`).

The entries past a cursor can be read off the window exactly when the cursor reaches the entry
before the first one kept (`filter_rtake_of_le`), and when it does not the window has lost one of
them (`exists_dropped_of_lt`).
-/

namespace Iicp.Window

open List

variable {α : Type} (number : α → ℕ)

/-- Every entry of the log carries its position. -/
def Numbered (log : List α) : Prop := ∀ (i : ℕ) (h : i < log.length), number log[i] = i

variable {number} {log : List α} {entry : α} {bound : ℕ}

lemma numbered_singleton (hentry : number entry = 0) : Numbered number [entry] := by
  intro i h
  have hi : i = 0 := by simpa using h
  subst hi
  exact hentry

/-- Assumes: an entry numbered by the length of a numbered log. Adding it keeps the log numbered. -/
lemma Numbered.concat (hlog : Numbered number log) (hentry : number entry = log.length) :
    Numbered number (log ++ [entry]) := by
  intro i h
  by_cases hold : i < log.length
  · rw [getElem_append_left hold]
    exact hlog i hold
  · have hi : i = log.length := by
      rw [length_append, length_singleton] at h
      omega
    subst hi
    simpa using hentry

lemma Numbered.of_append {rest : List α} (hlog : Numbered number (log ++ rest)) :
    Numbered number log := by
  intro i h
  have hlonger : i < (log ++ rest).length := by
    rw [length_append]
    omega
  have hnumber := hlog i hlonger
  rwa [getElem_append_left h] at hnumber

lemma Numbered.number_lt (hlog : Numbered number log) (hentry : entry ∈ log) :
    number entry < log.length := by
  obtain ⟨i, h, rfl⟩ := getElem_of_mem hentry
  rw [hlog i h]
  exact h

/-- The last entry of a numbered log carries the length less one. -/
lemma Numbered.getLast? (hlog : Numbered number log) (hentry : log.getLast? = some entry) :
    number entry + 1 = log.length := by
  rw [getLast?_eq_getElem?] at hentry
  obtain ⟨h, rfl⟩ := List.getElem?_eq_some_iff.mp hentry
  rw [hlog _ h]
  omega

/-! ### The window -/

lemma length_rtake (bound : ℕ) : (log.rtake bound).length = min bound log.length := by
  rw [rtake, length_drop]
  omega

lemma mem_of_mem_rtake (hentry : entry ∈ log.rtake bound) : entry ∈ log := mem_of_mem_drop hentry

lemma rtake_of_length_le (h : log.length ≤ bound) : log.rtake bound = log := by
  rw [rtake, Nat.sub_eq_zero_of_le h, drop_zero]

lemma rtake_ne_nil (hbound : 0 < bound) (hlog : log ≠ []) : log.rtake bound ≠ [] := by
  intro hnil
  have hlength : (log.rtake bound).length = min bound log.length := length_rtake bound
  rw [hnil, length_nil] at hlength
  have hpos : 0 < log.length := length_pos_iff.mpr hlog
  omega

lemma getLast?_rtake (hbound : 0 < bound) : (log.rtake bound).getLast? = log.getLast? := by
  rw [rtake, getLast?_drop]
  split_ifs with h
  · have hzero : log.length = 0 := by omega
    rw [length_eq_zero_iff.mp hzero]
    rfl
  · rfl

/-- An entry of the window before its last is an entry of the log before its last. -/
lemma mem_dropLast_of_mem_rtake (hentry : entry ∈ (log.rtake bound).dropLast) :
    entry ∈ log.dropLast := by
  obtain ⟨i, h, rfl⟩ := getElem_of_mem hentry
  rw [length_dropLast, length_rtake] at h
  have hrange : log.length - bound + i < log.dropLast.length := by
    rw [length_dropLast]
    omega
  have heq : (log.rtake bound).dropLast[i] = log.dropLast[log.length - bound + i] := by
    simp only [rtake, getElem_dropLast, getElem_drop]
  rw [heq]
  exact getElem_mem hrange

/-- The first number in the window is the number of entries the window has lost. -/
lemma head?_rtake (hlog : Numbered number log) (hentry : (log.rtake bound).head? = some entry) :
    number entry = log.length - bound := by
  rw [rtake, head?_drop] at hentry
  obtain ⟨h, rfl⟩ := List.getElem?_eq_some_iff.mp hentry
  exact hlog _ h

lemma isChain_rtake (hlog : Numbered number log) (bound : ℕ) :
    (log.rtake bound).IsChain fun first second ↦ number second = number first + 1 := by
  rw [isChain_iff_getElem]
  intro i h
  simp only [rtake, getElem_drop]
  rw [hlog, hlog]
  omega

lemma rtake_rtake (outer inner : ℕ) :
    (log.rtake outer).rtake inner = log.rtake (min outer inner) := by
  rw [rtake, length_rtake, rtake, drop_drop, rtake]
  congr 1
  omega

/-- Adding an entry to the window and dropping the excess at its front gives the window of the
longer log. -/
lemma drop_excess_rtake (hbound : 0 < bound) (entry : α) :
    (if bound < (log.rtake bound ++ [entry]).length then
        (log.rtake bound ++ [entry]).drop ((log.rtake bound ++ [entry]).length - bound)
      else log.rtake bound ++ [entry]) = (log ++ [entry]).rtake bound := by
  have hwindow : (log.rtake bound ++ [entry]).rtake bound = (log ++ [entry]).rtake bound := by
    obtain ⟨smaller, rfl⟩ := Nat.exists_eq_add_of_lt hbound
    rw [zero_add, rtake_concat_succ, rtake_concat_succ, rtake_rtake,
      Nat.min_eq_right (Nat.le_succ smaller)]
  split_ifs with h
  · exact hwindow
  · rw [← hwindow, rtake_of_length_le (not_lt.mp h)]

/-! ### Reading by number -/

section

variable (hlog : Numbered number log)

include hlog

lemma Numbered.le_of_mem_drop {start : ℕ} (hentry : entry ∈ log.drop start) :
    start ≤ number entry := by
  obtain ⟨_, h, rfl⟩ := getElem_of_mem hentry
  rw [getElem_drop, hlog]
  omega

lemma Numbered.lt_of_mem_take {stop : ℕ} (hentry : entry ∈ log.take stop) :
    number entry < stop := by
  obtain ⟨_, h, rfl⟩ := getElem_of_mem hentry
  rw [length_take] at h
  rw [getElem_take, hlog]
  omega

/-- In a numbered log the entries from a number on are those from that position on. -/
lemma filter_drop (start cutoff : ℕ) :
    (log.drop start).filter (fun entry ↦ cutoff ≤ number entry) = log.drop (max start cutoff) := by
  have hsplit : log.drop start = (log.drop start).take (cutoff - start) ++
      log.drop (max start cutoff) := by
    have hmax : max start cutoff = start + (cutoff - start) := by omega
    rw [hmax, ← drop_drop, take_append_drop]
  have hlow : ∀ entry ∈ (log.drop start).take (cutoff - start), ¬ cutoff ≤ number entry := by
    intro entry hentry hge
    have hlt : number entry < start + (cutoff - start) := by
      refine hlog.lt_of_mem_take ?_
      rw [take_add]
      exact mem_append_right _ hentry
    have hstart := hlog.le_of_mem_drop (mem_of_mem_take hentry)
    omega
  have hhigh : ∀ entry ∈ log.drop (max start cutoff), cutoff ≤ number entry := fun entry hentry ↦
    (le_max_right start cutoff).trans (hlog.le_of_mem_drop hentry)
  rw [hsplit, filter_append, filter_eq_nil_iff.mpr fun entry hentry ↦ by
    simpa using hlow entry hentry, nil_append, filter_eq_self.mpr fun entry hentry ↦ by
    simpa using hhigh entry hentry]

/-- Assumes: a window at least as long as the bound. Deleting the entries numbered below the cutoff
of the bound leaves the window of the bound. -/
lemma filter_cutoff_rtake {held : ℕ} (hheld : bound ≤ held) :
    (log.rtake held).filter (fun entry ↦ log.length - bound ≤ number entry) = log.rtake bound := by
  rw [rtake, filter_drop hlog, rtake]
  congr 1
  omega

/-- Assumes: a first number of interest at or after the first number kept. The window holds every
entry from there on. -/
lemma filter_rtake_of_le {cutoff : ℕ} (hcutoff : log.length - bound ≤ cutoff) :
    (log.rtake bound).filter (fun entry ↦ cutoff ≤ number entry) =
      log.filter fun entry ↦ cutoff ≤ number entry := by
  have hall := filter_drop hlog 0 cutoff
  rw [drop_zero] at hall
  rw [rtake, filter_drop hlog, hall]
  congr 1
  omega

/-- Assumes: a first number of interest before the first number kept. The window has lost an entry
from there on. -/
lemma exists_dropped_of_lt {cutoff : ℕ} (hcutoff : cutoff < log.length - bound) :
    ∃ entry ∈ log, cutoff ≤ number entry ∧ entry ∉ log.rtake bound := by
  have hrange : cutoff < log.length := by omega
  refine ⟨log[cutoff], getElem_mem hrange, (hlog cutoff hrange).ge, fun hkept ↦ ?_⟩
  have hle := hlog.le_of_mem_drop hkept
  rw [hlog cutoff hrange] at hle
  omega

end

/-! ### Two logs entry by entry -/

section Related

variable {β : Type} {related : α → β → Prop} {other : List β}
variable (hlogs : Forall₂ related log other)

include hlogs

lemma forall₂_rtake (bound : ℕ) : Forall₂ related (log.rtake bound) (other.rtake bound) := by
  rw [rtake, rtake, hlogs.length_eq]
  exact forall₂_drop _ hlogs

lemma forall₂_getLast? (hentry : log.getLast? = some entry) :
    ∃ counterpart, other.getLast? = some counterpart ∧ related entry counterpart := by
  rw [getLast?_eq_getElem?] at hentry
  obtain ⟨hrange, rfl⟩ := List.getElem?_eq_some_iff.mp hentry
  have hother : log.length - 1 < other.length := hlogs.length_eq ▸ hrange
  refine ⟨other[log.length - 1], ?_, Forall₂.get hlogs hrange hother⟩
  rw [getLast?_eq_getElem?, ← hlogs.length_eq, List.getElem?_eq_getElem hother]

end Related

end Iicp.Window
