import Iicp.Lifecycle.StoreInvariant

/-!
# Snapshots of the in-memory store

`snapshot` lists the stored records under the profile name, in the order in which the map happens to
iterate. `restore` reads such a list from outside: it checks the profile and, record by record, that
there are events and that their sequence numbers count up from the first one, and then replaces the
whole map. The check adds the position of an event to the first sequence number, and the sum wraps
around at the range of the type; `checkSums` lists the sums of a call before they do.

Nothing is checked about lengths, task ids, states, final flags or keys. `restore_well_formed_iff`
says which snapshots lead to an error or to a store with the invariant of reachable ones; those of a
reachable store are among them.
-/

namespace Iicp.Lifecycle

open Rust Concurrent List

namespace LifecycleStore

def snapshot (store : LifecycleStore) : LifecycleSnapshot where
  profile := profileName
  records := store.records.entries.map Sigma.snd

/-- Some event from this position on does not carry the first sequence number plus its position. -/
def sequenceMismatch (first : ℕ) : ℕ → List LifecycleEvent → Bool
  | _, [] => false
  | position, event :: rest =>
    event.sequence != (first + position) % 2 ^ 64 || sequenceMismatch first (position + 1) rest

/-- The check of `restore` on one record. -/
def invalidSequence (record : LifecycleRecord) : Bool :=
  match record.events with
  | [] => true
  | first :: rest => sequenceMismatch first.sequence 0 (first :: rest)

/-- The loop of `restore`: the map built from the records read so far. -/
def restoreRecords : List LifecycleRecord → Records → Except LifecycleError Records
  | [], restored => .ok restored
  | record :: rest, restored =>
    if invalidSequence record then .error (.conflict "invalid lifecycle snapshot sequence")
    else restoreRecords rest (restored.insert record.taskId record)

def restore (store : LifecycleStore) (snapshot : LifecycleSnapshot) :
    LifecycleStore × Except LifecycleError Unit :=
  if snapshot.profile ≠ profileName then
    (store, .error (.conflict "unsupported lifecycle snapshot profile"))
  else
    match restoreRecords snapshot.records ∅ with
    | .ok restored => ({ store with records := restored }, .ok ())
    | .error error => (store, .error error)

/-- The sums that the search of `sequenceMismatch` computes, before they wrap around. -/
def sequenceSums (first : ℕ) : ℕ → List LifecycleEvent → List ℕ
  | _, [] => []
  | position, event :: rest =>
    (first + position) :: if event.sequence = (first + position) % 2 ^ 64 then
      sequenceSums first (position + 1) rest else []

def restoreSums : List LifecycleRecord → List ℕ
  | [] => []
  | record :: rest => sequenceSums record.firstSequence 0 record.events ++
      if invalidSequence record then [] else restoreSums rest

def checkSums (snapshot : LifecycleSnapshot) : List ℕ :=
  if snapshot.profile ≠ profileName then [] else restoreSums snapshot.records

end LifecycleStore

open LifecycleStore

/-! ### The check of one record -/

/-- The events are numbered one by one from a number on, within the range of the type. -/
def NumberedFrom (first : ℕ) (events : List LifecycleEvent) : Prop :=
  events.map LifecycleEvent.sequence = range' first events.length ∧
    ∀ event ∈ events, event.sequence < 2 ^ 64

def WellNumbered (record : LifecycleRecord) : Prop :=
  record.events ≠ [] ∧ NumberedFrom record.firstSequence record.events

/-- There is an event with a wrong number, and up to it all numbers are right and in range. -/
def MisnumberedFrom (first : ℕ) (events : List LifecycleEvent) : Prop :=
  ∃ earlier wrong later, events = earlier ++ wrong :: later ∧ NumberedFrom first earlier ∧
    wrong.sequence ≠ first + earlier.length ∧ first + earlier.length < 2 ^ 64

def Misnumbered (record : LifecycleRecord) : Prop :=
  record.events = [] ∨ MisnumberedFrom record.firstSequence record.events

lemma numberedFrom_cons (first : ℕ) (event : LifecycleEvent) (rest : List LifecycleEvent) :
    NumberedFrom first (event :: rest) ↔
      event.sequence = first ∧ first < 2 ^ 64 ∧ NumberedFrom (first + 1) rest := by
  simp only [NumberedFrom, map_cons, length_cons, range'_succ, cons.injEq, forall_mem_cons]
  constructor
  · rintro ⟨⟨rfl, hrest⟩, hrange, hall⟩
    exact ⟨rfl, hrange, hrest, hall⟩
  · rintro ⟨rfl, hrange, hrest, hall⟩
    exact ⟨⟨rfl, hrest⟩, hrange, hall⟩

lemma misnumberedFrom_cons (first : ℕ) (event : LifecycleEvent) (rest : List LifecycleEvent) :
    MisnumberedFrom first (event :: rest) ↔ first < 2 ^ 64 ∧
      (event.sequence = first → MisnumberedFrom (first + 1) rest) := by
  constructor
  · rintro ⟨_ | ⟨head, earlier⟩, wrong, later, hsplit, hearlier, hwrong, hrange⟩ <;>
      obtain ⟨rfl, rfl⟩ := cons.inj hsplit
    · exact ⟨hrange, fun hsame ↦ absurd hsame hwrong⟩
    · rw [numberedFrom_cons] at hearlier
      rw [length_cons, Nat.add_comm _ 1, ← Nat.add_assoc] at hwrong hrange
      exact ⟨hearlier.2.1, fun _ ↦ ⟨earlier, wrong, later, rfl, hearlier.2.2, hwrong, hrange⟩⟩
  · rintro ⟨hrange, hrest⟩
    by_cases hsame : event.sequence = first
    · obtain ⟨earlier, wrong, later, rfl, hearlier, hwrong, hlater⟩ := hrest hsame
      refine ⟨event :: earlier, wrong, later, rfl, ?_, ?_⟩
      · exact (numberedFrom_cons _ _ _).mpr ⟨hsame, hrange, hearlier⟩
      · rw [length_cons, Nat.add_comm _ 1, ← Nat.add_assoc]
        exact ⟨hwrong, hlater⟩
    · exact ⟨[], event, rest, rfl, ⟨rfl, by simp⟩, hsame, hrange⟩

/-- The search, as far as no sum is out of range, tells right numbers from wrong ones. -/
lemma sequenceMismatch_iff (first : ℕ) (rest : List LifecycleEvent) :
    ∀ start, ((∀ sum ∈ sequenceSums first start rest, sum < 2 ^ 64) ∧
        sequenceMismatch first start rest = false ↔ NumberedFrom (first + start) rest) ∧
      ((∀ sum ∈ sequenceSums first start rest, sum < 2 ^ 64) ∧
        sequenceMismatch first start rest = true ↔ MisnumberedFrom (first + start) rest) := by
  induction rest with
  | nil => simp [sequenceSums, sequenceMismatch, NumberedFrom, MisnumberedFrom]
  | cons event rest ih =>
    intro start
    rw [numberedFrom_cons, misnumberedFrom_cons, Nat.add_assoc, ← (ih _).1, ← (ih _).2,
      sequenceSums, sequenceMismatch, forall_mem_cons]
    by_cases hrange : first + start < 2 ^ 64
    · rw [Nat.mod_eq_of_lt hrange]
      by_cases hsame : event.sequence = first + start <;>
        simp [-Nat.reducePow, hsame, hrange]
    · simp [-Nat.reducePow, hrange]

/-- The check of a record without a sum out of range passes it or finds it invalid. -/
lemma invalidSequence_iff (record : LifecycleRecord) :
    ((∀ sum ∈ sequenceSums record.firstSequence 0 record.events, sum < 2 ^ 64) ∧
        invalidSequence record = false ↔ WellNumbered record) ∧
      ((∀ sum ∈ sequenceSums record.firstSequence 0 record.events, sum < 2 ^ 64) ∧
        invalidSequence record = true ↔ Misnumbered record) := by
  rcases record with ⟨taskId, idempotencyKey, requestDigest, state, events, updatedAtMs⟩
  cases events with
  | nil => simp [WellNumbered, Misnumbered, invalidSequence, sequenceSums]
  | cons first rest =>
    simpa [WellNumbered, Misnumbered, invalidSequence, LifecycleRecord.firstSequence] using
      sequenceMismatch_iff first.sequence (first :: rest) 0

/-! ### The loop over the records -/

variable (records : List LifecycleRecord)

/-- The loop fails at an invalid record, and otherwise builds the map. -/
lemma restoreRecords_eq : ∀ restored : Records, restoreRecords records restored =
    if records.any invalidSequence then .error (.conflict "invalid lifecycle snapshot sequence")
    else .ok (records.foldl (fun kept record ↦ kept.insert record.taskId record) restored) := by
  induction records with
  | nil => intro restored; rfl
  | cons record rest ih =>
    intro restored
    rw [restoreRecords, any_cons, foldl_cons]
    cases hinvalid : invalidSequence record with
    | true => rfl
    | false => exact ih _

lemma restoreSums_passes_iff :
    (∀ sum ∈ restoreSums records, sum < 2 ^ 64) ∧ records.any invalidSequence = false ↔
      ∀ record ∈ records, WellNumbered record := by
  induction records with
  | nil => simp [restoreSums]
  | cons record rest ih =>
    rw [forall_mem_cons, ← ih, ← (invalidSequence_iff record).1, restoreSums, any_cons,
      Bool.or_eq_false_iff]
    cases invalidSequence record <;> simp [or_imp, forall_and, and_assoc]

lemma restoreSums_fails_iff :
    (∀ sum ∈ restoreSums records, sum < 2 ^ 64) ∧ records.any invalidSequence = true ↔
      ∃ earlier wrong later, records = earlier ++ wrong :: later ∧
        (∀ record ∈ earlier, WellNumbered record) ∧ Misnumbered wrong := by
  induction records with
  | nil => simp [restoreSums]
  | cons record rest ih =>
    obtain ⟨hpasses, hfails⟩ := invalidSequence_iff record
    rw [restoreSums, any_cons]
    constructor
    · intro ⟨hsums, hany⟩
      have hown := fun sum hsum ↦ hsums sum (mem_append_left _ hsum)
      cases hinvalid : invalidSequence record with
      | true => exact ⟨[], record, rest, rfl, by simp, hfails.mp ⟨hown, hinvalid⟩⟩
      | false =>
        rw [hinvalid] at hsums hany
        obtain ⟨earlier, wrong, later, rfl, hearlier, hwrong⟩ := ih.mp
          ⟨fun sum hsum ↦ hsums sum (mem_append_right _ hsum), hany⟩
        exact ⟨record :: earlier, wrong, later, rfl,
          forall_mem_cons.mpr ⟨hpasses.mp ⟨hown, hinvalid⟩, hearlier⟩, hwrong⟩
    · rintro ⟨_ | ⟨head, earlier⟩, wrong, later, hsplit, hearlier, hwrong⟩ <;>
        obtain ⟨rfl, rfl⟩ := cons.inj hsplit
      · obtain ⟨hown, hinvalid⟩ := hfails.mpr hwrong
        simpa [hinvalid] using hown
      · rw [forall_mem_cons] at hearlier
        obtain ⟨hown, hinvalid⟩ := hpasses.mpr hearlier.1
        have hrest := ih.mpr ⟨earlier, wrong, later, rfl, hearlier.2, hwrong⟩
        rw [hinvalid]
        exact ⟨forall_mem_append.mpr ⟨hown, hrest.1⟩, hrest.2⟩

/-- The map built from records holds the last record of each task id. -/
lemma lookup_foldl_insert (taskId : String) :
    ∀ restored : Records,
      (records.foldl (fun kept record ↦ kept.insert record.taskId record) restored).lookup taskId =
        (records.reverse.find? fun record ↦ record.taskId == taskId).or
          (restored.lookup taskId) := by
  induction records with
  | nil => intro restored; rfl
  | cons record rest ih =>
    intro restored
    rw [foldl_cons, ih, reverse_cons, find?_append, Option.or_assoc]
    congr 1
    by_cases hsame : record.taskId = taskId
    · subst hsame
      simp [AList.lookup_insert]
    · rw [AList.lookup_insert_ne (Ne.symm hsame)]
      simp [hsame]

/-! ### Restoring a snapshot -/

def withRecords (store : LifecycleStore) (records : List LifecycleRecord) : LifecycleStore :=
  { store with records := records.foldl (fun kept record ↦ kept.insert record.taskId record) ∅ }

/-- A restored store holds the last record of each task id. -/
lemma get_withRecords (store : LifecycleStore) (records : List LifecycleRecord) (taskId : String) :
    (withRecords store records).get taskId =
      records.reverse.find? fun record ↦ record.taskId == taskId := by
  have hlookup := lookup_foldl_insert records taskId ∅
  rwa [AList.lookup_empty, Option.or_none] at hlookup

/-- What the store promises of one record, apart from what has happened to it. -/
structure WellFormedRecord (bound : ℕ) (record : LifecycleRecord) : Prop where
  numbered : WellNumbered record
  bounded : record.events.length ≤ bound
  owned : ∀ event ∈ record.events, event.taskId = record.taskId
  last_state : record.events.getLast?.map LifecycleEvent.state = some record.state
  flagged : ∀ event ∈ record.events, event.isFinal = terminal event.state

structure DistinctRecords (records : List LifecycleRecord) : Prop where
  taskIds : (records.map LifecycleRecord.taskId).Nodup
  keys : (records.map LifecycleRecord.idempotencyKey).Nodup

/-- Every record of the store is well formed and stored under its task id. -/
def WellFormedStore (store : LifecycleStore) : Prop :=
  ∀ taskId record, store.get taskId = some record →
    record.taskId = taskId ∧ WellFormedRecord store.maxEvents record

/-- Restoring a snapshot fails and leaves the store as it was, or leads to a well-formed store from
distinct records; and no sum of the check is out of range. -/
def RestoresWellFormed (store : LifecycleStore) (snapshot : LifecycleSnapshot) : Prop :=
  ((∃ error, store.restore snapshot = (store, .error error)) ∨
    ∃ restored, store.restore snapshot = (restored, .ok ()) ∧ WellFormedStore restored ∧
      DistinctRecords snapshot.records) ∧
    ∀ sum ∈ checkSums snapshot, sum < 2 ^ 64

/-- The profile is another one, or the first record that is not well numbered has a wrong number
before its numbers run out of range. -/
def Refusable (snapshot : LifecycleSnapshot) : Prop :=
  snapshot.profile ≠ profileName ∨
    ∃ earlier wrong later, snapshot.records = earlier ++ wrong :: later ∧
      (∀ record ∈ earlier, WellNumbered record) ∧ Misnumbered wrong

/-- The records themselves are well formed, for a store that keeps so many events. -/
def WellFormedRecords (bound : ℕ) (records : List LifecycleRecord) : Prop :=
  (∀ record ∈ records, WellFormedRecord bound record) ∧ DistinctRecords records

lemma find?_of_nodup {records : List LifecycleRecord}
    (hnodup : (records.map LifecycleRecord.taskId).Nodup) {record : LifecycleRecord}
    (hrecord : record ∈ records) :
    (records.reverse.find? fun other ↦ other.taskId == record.taskId) = some record := by
  cases hfound : records.reverse.find? fun other ↦ other.taskId == record.taskId with
  | none => simpa using find?_eq_none.mp hfound record (mem_reverse.mpr hrecord)
  | some other =>
    have hsame : other.taskId = record.taskId := by simpa using find?_some hfound
    have hother := mem_reverse.mp (mem_of_find?_eq_some hfound)
    rw [inj_on_of_nodup_map hnodup hother hrecord hsame]

lemma wellFormedStore_withRecords_iff (store : LifecycleStore) {records : List LifecycleRecord}
    (hdistinct : DistinctRecords records) : WellFormedStore (withRecords store records) ↔
      ∀ record ∈ records, WellFormedRecord store.maxEvents record := by
  constructor
  · intro hstore record hrecord
    refine (hstore record.taskId record ?_).2
    rw [get_withRecords, find?_of_nodup hdistinct.taskIds hrecord]
  · intro hrecords taskId record hget
    rw [get_withRecords] at hget
    exact ⟨by simpa using find?_some hget,
      hrecords record (mem_reverse.mp (mem_of_find?_eq_some hget))⟩

lemma restore_eq (store : LifecycleStore) (records : List LifecycleRecord) :
    store.restore ⟨profileName, records⟩ = if records.any invalidSequence then
      (store, .error (.conflict "invalid lifecycle snapshot sequence"))
    else (withRecords store records, .ok ()) := by
  rw [restore, if_neg (not_not.mpr rfl), restoreRecords_eq]
  cases records.any invalidSequence <;> rfl

/-- A snapshot restores well exactly if it is refused or its records are well formed. -/
lemma restoresWellFormed_iff (store : LifecycleStore) (snapshot : LifecycleSnapshot) :
    RestoresWellFormed store snapshot ↔
      Refusable snapshot ∨ WellFormedRecords store.maxEvents snapshot.records := by
  rcases snapshot with ⟨profile, records⟩
  by_cases hprofile : profile = profileName
  · subst hprofile
    have hpasses := restoreSums_passes_iff records
    simp only [RestoresWellFormed, Refusable, WellFormedRecords, checkSums, ne_eq,
      not_true_eq_false, if_false, false_or, ← restoreSums_fails_iff, restore_eq]
    cases hany : records.any invalidSequence with
    | true =>
      rw [hany] at hpasses
      simp only [Bool.true_eq_false, and_false, false_iff] at hpasses
      have hnot : ¬ ∀ record ∈ records, WellFormedRecord store.maxEvents record :=
        fun hall ↦ hpasses fun record hrecord ↦ (hall record hrecord).numbered
      simp [hnot]
    | false =>
      simp only [Bool.false_eq_true, ↓reduceIte, Prod.mk.injEq, reduceCtorEq, and_false,
        exists_false, false_or, and_true, exists_eq_left']
      constructor
      · rintro ⟨⟨hstore, hdistinct⟩, -⟩
        exact ⟨(wellFormedStore_withRecords_iff store hdistinct).mp hstore, hdistinct⟩
      · rintro ⟨hrecords, hdistinct⟩
        exact ⟨⟨(wellFormedStore_withRecords_iff store hdistinct).mpr hrecords, hdistinct⟩,
          (hpasses.mpr fun record hrecord ↦ (hrecords record hrecord).numbered).1⟩
  · simp [RestoresWellFormed, Refusable, checkSums, restore, hprofile]

/-! ### Snapshots of reachable stores -/

/-- Every stored event has a sequence number within the range of the type. -/
def SequencesInRange (store : LifecycleStore) : Prop :=
  ∀ taskId record, store.get taskId = some record → ∀ event ∈ record.events, event.sequence < 2 ^ 64

variable {store : LifecycleStore} {record : LifecycleRecord}

lemma SequencesInRange.put (hstore : SequencesInRange store)
    {stored : String} (hrecord : ∀ event ∈ record.events, event.sequence < 2 ^ 64) :
    SequencesInRange (store.put stored record) := by
  intro taskId other hget
  rw [get_put] at hget
  split_ifs at hget
  · obtain rfl := Option.some.inj hget
    exact hrecord
  · exact hstore taskId other hget

lemma SequencesInRange.remove (hstore : SequencesInRange store)
    (removed : String) : SequencesInRange (store.remove removed) := by
  intro taskId other hget
  rw [get_remove] at hget
  split_ifs at hget
  exact hstore taskId other hget

lemma mem_pushEvent {bound : ℕ} {events : List LifecycleEvent} {event pushed : LifecycleEvent}
    (hevent : event ∈ pushEvent bound events pushed) : event ∈ events ∨ event = pushed := by
  have hmem : event ∈ events ++ [pushed] := by
    unfold pushEvent at hevent
    dsimp only at hevent
    split_ifs at hevent
    · exact mem_of_mem_drop hevent
    · exact hevent
  simpa using hmem

/-- Every operation keeps the sequence numbers in range: a transition beyond it panics. -/
lemma sequencesInRange_invariant :
    Invariant (logged lifecycleStore) fun state ↦ SequencesInRange state.1 := by
  intro op state hstate
  show SequencesInRange (lifecycleStore op state.1).1
  obtain heq | ⟨taskId, _, _, _, _, _, heq⟩ | ⟨_, _, _, _, _, heq⟩ |
    ⟨taskId, record, event, _, _, hget, _, hrange, heq⟩ := state.1.step_cases op
  · rw [heq]
    exact hstate
  · rw [heq]
    exact hstate.remove taskId
  · rw [heq]
    exact hstate.put (by simp [acceptedRecord, acceptedEvent])
  · rw [heq]
    refine hstate.put fun other hother ↦ ?_
    rcases mem_pushEvent hother with hkept | rfl
    · exact hstate taskId record hget other hkept
    · exact hrange

lemma reached_sequencesInRange (maxEvents terminalStatusTtlMs : ℕ) (calls : List Call) :
    SequencesInRange (reached maxEvents terminalStatusTtlMs calls).1 :=
  runAll_invariant sequencesInRange_invariant _ _ fun _ _ hget ↦ by simp [startState] at hget

lemma wellFormedRecord_of_reached {maxEvents terminalStatusTtlMs : ℕ} {calls : List Call}
    {taskId : String}
    (hget : (reached maxEvents terminalStatusTtlMs calls).1.get taskId = some record) :
    WellFormedRecord (max maxEvents 2) record := by
  have hbound : 0 < max maxEvents 2 := by omega
  have htracks := (runCalls_coherent maxEvents terminalStatusTtlMs calls).tracks taskId record hget
  have hrecord := htracks.recordInvariant hbound
  have hnumber : ∀ position event, record.events[position]? = some event →
      event.sequence = record.firstSequence + position := by
    intro position event hevent
    rw [htracks.firstSequence_eq hbound]
    rw [htracks.window, rtake, getElem?_drop] at hevent
    obtain ⟨hlength, rfl⟩ := List.getElem?_eq_some_iff.mp hevent
    exact htracks.history.numbered _ hlength
  refine ⟨⟨hrecord.nonempty, ?_, reached_sequencesInRange _ _ calls taskId record hget⟩,
    hrecord.bounded, hrecord.owned, hrecord.last_state, fun event hevent ↦
      Bool.eq_iff_iff.mpr (hrecord.final_iff event hevent)⟩
  refine ext_getElem (by simp) fun position hposition _ ↦ ?_
  rw [getElem_map, getElem_range', Nat.one_mul]
  exact hnumber position _ (getElem?_eq_getElem _)

/-- The records of a store, in any order, rebuild its map. -/
lemma find?_snapshot
    (howned : ∀ taskId record, store.get taskId = some record → record.taskId = taskId)
    {records : List LifecycleRecord} (hperm : records.Perm store.snapshot.records)
    (taskId : String) :
    (records.reverse.find? fun record ↦ record.taskId == taskId) = store.get taskId := by
  have hmem : ∀ record, record ∈ records.reverse ↔ store.get record.taskId = some record := by
    intro record
    rw [mem_reverse, hperm.mem_iff, snapshot, mem_map]
    constructor
    · rintro ⟨⟨key, stored⟩, hentry, rfl⟩
      have hget : store.get key = some stored := AList.mem_lookup_iff.mpr hentry
      show store.get stored.taskId = some stored
      rw [howned key stored hget, hget]
    · intro hget
      exact ⟨⟨record.taskId, record⟩, AList.mem_lookup_iff.mp hget, rfl⟩
  ext record
  constructor
  · intro hfound
    have hsame : record.taskId = taskId := by simpa using find?_some hfound
    exact hsame ▸ (hmem record).mp (mem_of_find?_eq_some hfound)
  · intro hget
    have hsame := howned taskId record hget
    cases hfound : records.reverse.find? fun record ↦ record.taskId == taskId with
    | none =>
      rw [find?_eq_none] at hfound
      have hin : record ∈ records.reverse := (hmem record).mpr (hsame.symm ▸ hget)
      exact absurd (beq_iff_eq.mpr hsame) (hfound record hin)
    | some found =>
      have hkey : found.taskId = taskId := by simpa using find?_some hfound
      have hstored := (hmem found).mp (mem_of_find?_eq_some hfound)
      rw [hkey, hget] at hstored
      exact hstored.symm

lemma distinctRecords_snapshot (maxEvents terminalStatusTtlMs : ℕ) (calls : List Call) :
    DistinctRecords (reached maxEvents terminalStatusTtlMs calls).1.snapshot.records := by
  have hcoherent := runCalls_coherent maxEvents terminalStatusTtlMs calls
  set store := (reached maxEvents terminalStatusTtlMs calls).1
  have hget : ∀ entry ∈ store.records.entries, store.get entry.1 = some entry.2 :=
    fun entry hentry ↦ AList.mem_lookup_iff.mpr hentry
  have hkeys : store.records.entries.Pairwise fun one two ↦ one.1 ≠ two.1 :=
    pairwise_map.mp store.records.nodupKeys
  constructor <;> rw [snapshot, map_map, Nodup, pairwise_map] <;>
    refine hkeys.imp_of_mem fun {one two} hone htwo hdistinct hsame ↦ hdistinct ?_
  · rw [← (hcoherent.tracks _ _ (hget one hone)).taskId_eq,
      ← (hcoherent.tracks _ _ (hget two htwo)).taskId_eq]
    exact hsame
  · exact hcoherent.keys one.1 two.1 one.2 two.2 (hget one hone) (hget two htwo) hsame

/-- A snapshot of a reachable store, in any order, is well formed for a store that keeps as many
events, and restores to the same records. -/
lemma restore_snapshot (maxEvents terminalStatusTtlMs : ℕ) (calls : List Call)
    (store : LifecycleStore) {records : List LifecycleRecord}
    (hperm : records.Perm (reached maxEvents terminalStatusTtlMs calls).1.snapshot.records)
    (hbound : max maxEvents 2 ≤ store.maxEvents) :
    WellFormedRecords store.maxEvents records ∧
      (store.restore ⟨profileName, records⟩).2 = .ok () ∧
      ∀ taskId, (store.restore ⟨profileName, records⟩).1.get taskId =
        (reached maxEvents terminalStatusTtlMs calls).1.get taskId := by
  have hcoherent := runCalls_coherent maxEvents terminalStatusTtlMs calls
  have hformed : ∀ record ∈ records, WellFormedRecord store.maxEvents record := by
    intro record hrecord
    obtain ⟨⟨taskId, _⟩, hentry, rfl⟩ := mem_map.mp (hperm.mem_iff.mp hrecord)
    have hreached := wellFormedRecord_of_reached (AList.mem_lookup_iff.mpr hentry)
    exact { hreached with bounded := hreached.bounded.trans hbound }
  have hdistinct := distinctRecords_snapshot maxEvents terminalStatusTtlMs calls
  have hvalid : records.any invalidSequence = false :=
    ((restoreSums_passes_iff records).mpr fun record hrecord ↦ (hformed record hrecord).numbered).2
  rw [restore_eq, hvalid]
  refine ⟨⟨hformed, (hperm.map _).nodup_iff.mpr hdistinct.taskIds,
    (hperm.map _).nodup_iff.mpr hdistinct.keys⟩, rfl, fun taskId ↦ ?_⟩
  show (withRecords store records).get taskId = _
  rw [get_withRecords]
  exact find?_snapshot (fun taskId record hget ↦ (hcoherent.tracks taskId record hget).taskId_eq)
    hperm taskId

/-- Restoring a snapshot, whatever it carries, fails without an effect or leads to a well-formed
store from distinct records, with no sum out of range, exactly if the snapshot is refused by its
profile or its first wrong number, or its records are well formed and distinct themselves. A
snapshot of a reachable store, in any order, is such a one for every store that keeps as many
events, and restores to the same records. -/
theorem restore_well_formed_iff (store : LifecycleStore) (snapshot : LifecycleSnapshot) :
    (RestoresWellFormed store snapshot ↔
        Refusable snapshot ∨ WellFormedRecords store.maxEvents snapshot.records) ∧
      ∀ (maxEvents terminalStatusTtlMs : ℕ) (calls : List Call) (records : List LifecycleRecord),
        records.Perm (reached maxEvents terminalStatusTtlMs calls).1.snapshot.records →
        max maxEvents 2 ≤ store.maxEvents →
        WellFormedRecords store.maxEvents records ∧
          (store.restore ⟨profileName, records⟩).2 = .ok () ∧
          ∀ taskId, (store.restore ⟨profileName, records⟩).1.get taskId =
            (reached maxEvents terminalStatusTtlMs calls).1.get taskId :=
  ⟨restoresWellFormed_iff store snapshot, fun maxEvents terminalStatusTtlMs calls _ hperm hbound ↦
    restore_snapshot maxEvents terminalStatusTtlMs calls store hperm hbound⟩

/-- The snapshot of one reachable record is well formed for a store that keeps as many events. -/
theorem one_record_restores :
    ((new 8 50).restore (reached 4 1000 [.submit "task" "key" "digest" 5]).1.snapshot).2 = .ok () :=
  ((restore_well_formed_iff (new 8 50) ⟨"", []⟩).2 4 1000 [.submit "task" "key" "digest" 5] _
    (Perm.refl _) (by decide)).2.1

/-- A record of another task's events, longer than the bound, that ends in no event of its state and
whose first event is marked as final. -/
def strayRecord (taskId : String) : LifecycleRecord where
  taskId := taskId
  idempotencyKey := "key"
  requestDigest := "digest"
  state := "running"
  events := [⟨"other", 7, "accepted", true, 0, .null⟩, ⟨"other", 8, "queued", false, 0, .null⟩,
    ⟨"other", 9, "completed", false, 0, .null⟩]
  updatedAtMs := 0

/-- A record whose second number is the first one plus one, wrapped around. -/
def wrappedRecord : LifecycleRecord :=
  { strayRecord "first" with
    events := [⟨"first", 2 ^ 64 - 1, "accepted", false, 0, .null⟩,
      ⟨"first", 0, "running", false, 0, .null⟩] }

/-- Two stray records with one key are restored as they are, and so is a record for which a sum of
the check is out of range. -/
theorem stray_records_restored :
    ((new 2 1000).restore ⟨profileName, [strayRecord "first", strayRecord "second"]⟩).2 = .ok () ∧
      ((new 2 1000).restore
        ⟨profileName, [strayRecord "first", strayRecord "second"]⟩).1.get "first" =
          some (strayRecord "first") ∧
      ¬ RestoresWellFormed (new 2 1000)
        ⟨profileName, [strayRecord "first", strayRecord "second"]⟩ ∧
      ((new 2 1000).restore ⟨profileName, [wrappedRecord]⟩).2 = .ok () ∧
      checkSums ⟨profileName, [wrappedRecord]⟩ = [2 ^ 64 - 1, 2 ^ 64] ∧
      ¬ RestoresWellFormed (new 2 1000) ⟨profileName, [wrappedRecord]⟩ := by
  have hsums : checkSums ⟨profileName, [wrappedRecord]⟩ = [2 ^ 64 - 1, 2 ^ 64] := by decide
  refine ⟨by decide, by decide, ?_, by decide, hsums, ?_⟩
  · rintro ⟨⟨_, herror⟩ | ⟨_, hrestored, _, hdistinct⟩, _⟩
    · exact absurd (congrArg Prod.snd herror)
        (by simp [restore_eq, invalidSequence, strayRecord, sequenceMismatch])
    · exact absurd hdistinct.keys (by decide)
  · intro hrestores
    exact absurd (hrestores.2 (2 ^ 64) (by simp [hsums])) (lt_irrefl _)

end Iicp.Lifecycle
