import Iicp.Rust.HashMap

/-!
# Entries that expire

A table of keys with the times at which they expire. `evict` drops the entries that have expired,
and `liveAt` is the entry of a key at a time, if it has not expired then. Dropping expired entries
changes nothing from that time on (`liveAt_evict`), so two tables are compared by what is live from
a time on (`AgreeFrom`).

`Used` is one use of a table: nothing is recorded, or a key that was not live. Along a run of uses
at times that do not decrease, a key is recorded again only after its entry has expired
(`expired_of_recorded_again`), and what is live was recorded (`recorded_of_live`).
-/

namespace Iicp.Window

open Rust (HashMap)

variable {κ τ : Type} [DecidableEq κ] [LinearOrder τ] (seen : HashMap κ τ) {start expiry now : τ}
  {key : κ}

def evict (now : τ) (seen : HashMap κ τ) : HashMap κ τ :=
  HashMap.retain seen fun _ expiry ↦ now < expiry

def liveAt (seen : HashMap κ τ) (now : τ) (key : κ) : Option τ :=
  (seen.lookup key).filter fun expiry ↦ now < expiry

lemma liveAt_eq_some_iff {seen : HashMap κ τ} :
    liveAt seen now key = some expiry ↔ seen.lookup key = some expiry ∧ now < expiry := by
  rw [liveAt, Option.filter_eq_some_iff, decide_eq_true_iff]

@[simp] lemma liveAt_empty (now : τ) (key : κ) : liveAt (∅ : HashMap κ τ) now key = none := rfl

lemma lookup_evict (now : τ) (key : κ) :
    (evict now seen).lookup key = liveAt seen now key := HashMap.lookup_retain _ _ _

lemma mem_evict {seen : HashMap κ τ} : key ∈ evict now seen ↔ liveAt seen now key ≠ none := by
  rw [HashMap.mem_iff_lookup, lookup_evict, Option.ne_none_iff_exists']

/-- Nothing that is live later is dropped. -/
lemma liveAt_evict {later : τ} (hlater : now ≤ later) (key : κ) :
    liveAt (evict now seen) later key = liveAt seen later key := by
  ext expiry
  rw [liveAt_eq_some_iff, lookup_evict, liveAt_eq_some_iff, liveAt_eq_some_iff]
  constructor
  · rintro ⟨⟨hfound, -⟩, hlive⟩
    exact ⟨hfound, hlive⟩
  · rintro ⟨hfound, hlive⟩
    exact ⟨⟨hfound, hlater.trans_lt hlive⟩, hlive⟩

lemma liveAt_insert (now expiry : τ) (key other : κ) :
    liveAt (seen.insert key expiry) now other =
      if other = key then (some expiry).filter (fun expiry ↦ now < expiry)
      else liveAt seen now other := by
  by_cases hkey : other = key
  · rw [if_pos hkey, hkey, liveAt, AList.lookup_insert]
  · rw [if_neg hkey, liveAt, AList.lookup_insert_ne hkey, liveAt]

/-- The same entries are live from a time on. -/
def AgreeFrom (start : τ) (first second : HashMap κ τ) : Prop :=
  ∀ later, start ≤ later → ∀ key, liveAt first later key = liveAt second later key

lemma AgreeFrom.refl (start : τ) (seen : HashMap κ τ) : AgreeFrom start seen seen :=
  fun _ _ _ ↦ rfl

lemma AgreeFrom.symm {first second : HashMap κ τ} (h : AgreeFrom start first second) :
    AgreeFrom start second first :=
  fun later hlater key ↦ (h later hlater key).symm

lemma AgreeFrom.trans {first second third : HashMap κ τ} (h : AgreeFrom start first second)
    (hnext : AgreeFrom start second third) : AgreeFrom start first third :=
  fun later hlater key ↦ (h later hlater key).trans (hnext later hlater key)

lemma AgreeFrom.later {next : τ} {first second : HashMap κ τ} (h : AgreeFrom start first second)
    (hnext : start ≤ next) : AgreeFrom next first second :=
  fun later hlater key ↦ h later (hnext.trans hlater) key

lemma agreeFrom_evict (hnow : now ≤ start) : AgreeFrom start (evict now seen) seen :=
  fun _ hlater key ↦ liveAt_evict seen (hnow.trans hlater) key

lemma AgreeFrom.insert {first second : HashMap κ τ} (h : AgreeFrom start first second) (key : κ)
    (expiry : τ) : AgreeFrom start (first.insert key expiry) (second.insert key expiry) := by
  intro later hlater other
  rw [liveAt_insert, liveAt_insert, h later hlater other]

/-- One use of a table at a time: nothing is recorded, or a key that was not live. -/
inductive Used (now : τ) (seen : HashMap κ τ) : Option (κ × τ) → HashMap κ τ → Prop
  | kept {next : HashMap κ τ} (hsame : AgreeFrom now next seen) : Used now seen none next
  | recorded {next : HashMap κ τ} {key : κ} {expiry : τ} (hfresh : liveAt seen now key = none)
      (hsame : AgreeFrom now next (seen.insert key expiry)) : Used now seen (some (key, expiry)) next

section Runs

variable {tables : ℕ → HashMap κ τ} {times : ℕ → τ} {records : ℕ → Option (κ × τ)} {bound : ℕ}
  (hstep : ∀ n < bound, Used (times n) (tables n) (records n) (tables (n + 1)))

include hstep

lemma live_of_recorded (hmono : ∀ i j, i ≤ j → j < bound → times i ≤ times j) {first : ℕ}
    (hrecord : records first = some (key, expiry)) {n : ℕ} (hfirst : first < n) (hn : n ≤ bound)
    (hnow : ∀ i < n, times i ≤ now) (hlive : now < expiry) :
    liveAt (tables n) now key = some expiry := by
  induction n, hfirst using Nat.le_induction generalizing now with
  | base =>
    have huse := hstep first (by omega)
    rw [hrecord] at huse
    obtain ⟨⟩ | ⟨-, hsame⟩ := huse
    rw [hsame now (hnow first (by omega)) key, liveAt_insert, if_pos rfl]
    exact Option.filter_eq_some_iff.mpr ⟨rfl, decide_eq_true hlive⟩
  | succ n hfirst ih =>
    have hlast : times n ≤ now := hnow n (by omega)
    have hbefore : ∀ later, (∀ i < n, times i ≤ later) → later < expiry →
        liveAt (tables n) later key = some expiry :=
      fun later hlater hstill ↦ ih (by omega) hlater hstill
    have hnowBefore := hbefore now (fun i hi ↦ hnow i (by omega)) hlive
    have huse := hstep n (by omega)
    generalize records n = record at huse
    cases huse with
    | kept hsame => rw [hsame now hlast key, hnowBefore]
    | recorded hfresh hsame =>
      rename_i other otherExpiry
      have hne : key ≠ other := by
        rintro rfl
        have hthen := hbefore (times n) (fun i hi ↦ hmono i n (by omega) (by omega))
          (hlast.trans_lt hlive)
        rw [hfresh] at hthen
        nomatch hthen
      rw [hsame now hlast key, liveAt_insert, if_neg hne, hnowBefore]

/-- A key that is recorded again had expired. -/
lemma expired_of_recorded_again (hmono : ∀ i j, i ≤ j → j < bound → times i ≤ times j)
    {first second : ℕ} {other : τ}
    (hfirst : records first = some (key, expiry)) (hsecond : records second = some (key, other))
    (horder : first < second) (hbound : second < bound) : expiry ≤ times second := by
  by_contra hlive
  have hthen := live_of_recorded hstep hmono hfirst horder hbound.le
    (fun i hi ↦ hmono i second hi.le hbound) (not_le.mp hlive)
  have huse := hstep second hbound
  rw [hsecond] at huse
  obtain ⟨⟩ | ⟨hfresh, -⟩ := huse
  rw [hfresh] at hthen
  nomatch hthen

lemma recorded_of_live (hstart : tables 0 = ∅) {n : ℕ} (hn : n ≤ bound) (hnow : ∀ i < n, times i ≤ now)
    (hlive : liveAt (tables n) now key = some expiry) :
    ∃ first < n, records first = some (key, expiry) := by
  induction n with
  | zero =>
    rw [hstart, liveAt_empty] at hlive
    nomatch hlive
  | succ n ih =>
    have hearlier : liveAt (tables n) now key = some expiry →
        ∃ first < n + 1, records first = some (key, expiry) := by
      intro hbefore
      obtain ⟨first, hfirst, hrecord⟩ := ih (by omega) (fun i hi ↦ hnow i (by omega)) hbefore
      exact ⟨first, by omega, hrecord⟩
    have huse := hstep n (by omega)
    generalize hrecords : records n = record at huse
    cases huse with
    | kept hsame =>
      rw [hsame now (hnow n (by omega)) key] at hlive
      exact hearlier hlive
    | recorded hfresh hsame =>
      rename_i other otherExpiry
      rw [hsame now (hnow n (by omega)) key, liveAt_insert] at hlive
      by_cases hkey : key = other
      · rw [if_pos hkey, Option.filter_eq_some_iff] at hlive
        obtain rfl := Option.some.inj hlive.1
        exact ⟨n, by omega, hkey ▸ hrecords⟩
      · rw [if_neg hkey] at hlive
        exact hearlier hlive

end Runs

end Iicp.Window
