import Iicp.Lifecycle.Distributed
import Iicp.Lifecycle.Snapshot
import Iicp.Lifecycle.SqliteInvariant

/-!
# Replay from a cursor

`events_after` of both stores replays the retained events past a cursor. A replay hides no gap when
a list it returns is everything ever emitted past the cursor, when it refuses if an event past the
cursor has been dropped, and when its refusal is what the observe rule of the distributed profile
says for the same cursor and first retained number (`HidesNoGap`).

The gap test of `events_after` applies to cursors that are not negative. A negative cursor, the
default of the HTTP route among them, is served with whatever is retained. Sequence numbers are
compared as signed integers, so numbers beyond the signed range come out as negative. `CursorServed`
is the exact condition, the same for both stores (`replay_hides_no_gap_iff`).
-/

namespace Iicp.Lifecycle

open Rust Concurrent Window SqliteLifecyclePersistence

def defaultAfter : Int64 := -1

/-- The replay is refused because of a gap. -/
def RefusesGap (result : Outcome LifecycleError (List LifecycleEvent)) : Prop :=
  ∃ state latestSequence, result = .err (.resumeUnavailable state latestSequence)

/-- A replay of a record from a cursor is complete, refuses when an event past the cursor has been
dropped, and refuses exactly when the observe rule finds a gap. -/
structure HidesNoGap (log : List LifecycleEvent) (record : LifecycleRecord) (afterSequence : Int64)
    (result : Outcome LifecycleError (List LifecycleEvent)) : Prop where
  complete : ∀ events, result = .ok events →
    events = log.filter fun event ↦ afterSequence.toInt < event.sequence
  refuses : (∃ event ∈ log, afterSequence.toInt < event.sequence ∧ event ∉ record.events) →
    RefusesGap result
  agrees : ∀ ended, ∃ verdict,
    evaluateDistributedLifecycle (observeVector afterSequence record.firstSequence ended) =
      .ok verdict ∧ (RefusesGap result ↔ verdict ∈ gapVerdicts)

/-- The cursors that a record serves as it should: a cursor that is not negative and falls before
the retained events, one that reaches them, and the cursor before all events as long as nothing has
been dropped; with numbers in the signed range. -/
def CursorServed (record : LifecycleRecord) (afterSequence : Int64) : Prop :=
  (0 ≤ afterSequence.toInt ∧ afterSequence.toInt + 1 < record.firstSequence ∧
      record.firstSequence < 2 ^ 63) ∨
    (0 ≤ afterSequence.toInt ∧ (record.firstSequence : ℤ) ≤ afterSequence.toInt + 1 ∧
      afterSequence.toInt + 1 < 2 ^ 63 ∧ record.latestSequence < 2 ^ 63) ∨
    (afterSequence.toInt = -1 ∧ record.firstSequence = 0 ∧ record.latestSequence < 2 ^ 63)

instance (record : LifecycleRecord) (afterSequence : Int64) :
    Decidable (CursorServed record afterSequence) := by
  unfold CursorServed
  infer_instance

section Record

variable {bound : ℕ} {taskId : String} {log : List LifecycleEvent} {record : LifecycleRecord}
  {afterSequence : ℤ}

/-- A replay refuses a cursor that is not negative and falls before the retained events. -/
lemma replay_of_gap {afterSequence : Int64} (hsign : 0 ≤ afterSequence.toInt)
    (hgap : afterSequence.toInt + 1 < record.firstSequence) :
    replay record afterSequence =
      .err (.resumeUnavailable record.state record.latestSequence) := by
  have hsum : saturatingAddU64 afterSequence.toInt.toNat 1 < record.firstSequence := by
    unfold saturatingAddU64
    omega
  rw [replay, if_pos ⟨hsign, hsum⟩]

lemma replay_of_no_gap {afterSequence : Int64}
    (hgap : ¬ (0 ≤ afterSequence.toInt ∧ afterSequence.toInt + 1 < record.firstSequence)) :
    replay record afterSequence =
      .ok (record.events.filter fun event ↦ afterSequence.toInt < asI64 event.sequence) := by
  have hlt : afterSequence.toInt < 2 ^ 63 := afterSequence.toInt_lt
  refine if_neg ?_
  unfold saturatingAddU64
  rintro ⟨hsign, hless⟩
  exact hgap ⟨hsign, by omega⟩

namespace Tracks

variable (htracks : Tracks bound taskId log record) (hbound : 0 < bound)

include htracks hbound

/-- The events of a tracked record have numbers up to the latest one. -/
lemma sequence_le {event : LifecycleEvent} (hevent : event ∈ log) :
    event.sequence ≤ record.latestSequence := by
  have hlt := htracks.history.numbered.number_lt hevent
  have hlatest := htracks.latestSequence_add_one hbound
  omega

/-- The retained events past the cursor are all events past the cursor. -/
lemma filter_events (hlatest : record.latestSequence < 2 ^ 63)
    (hreaches : (record.firstSequence : ℤ) ≤ afterSequence + 1) :
    (record.events.filter fun event ↦ afterSequence < asI64 event.sequence) =
      log.filter fun event ↦ afterSequence < event.sequence := by
  rw [htracks.firstSequence_eq hbound] at hreaches
  obtain ⟨cutoff, hcutoff⟩ : ∃ cutoff : ℕ, (cutoff : ℤ) = afterSequence + 1 :=
    ⟨(afterSequence + 1).toNat, Int.toNat_of_nonneg (by omega)⟩
  have hpast : ∀ sequence : ℕ, afterSequence < sequence ↔ cutoff ≤ sequence := by omega
  have hkept : (log.rtake bound).filter (fun event ↦ afterSequence < asI64 event.sequence) =
      (log.rtake bound).filter fun event ↦ afterSequence < event.sequence := by
    apply List.filter_congr
    intro event hevent
    have hle := htracks.sequence_le hbound (mem_of_mem_rtake hevent)
    rw [asI64_of_lt (by omega)]
  rw [htracks.window, hkept]
  simp only [hpast]
  exact filter_rtake_of_le htracks.history.numbered (by omega)

/-- Assumes: a latest number beyond the signed range. A cursor below it is not served with the last
event. -/
lemma not_complete (hlow : 2 ^ 63 ≤ record.latestSequence) (hhigh : record.latestSequence < 2 ^ 64)
    (hsign : -1 ≤ afterSequence) (hcursor : afterSequence < 2 ^ 63) :
    (record.events.filter fun event ↦ afterSequence < asI64 event.sequence) ≠
      log.filter fun event ↦ afterSequence < event.sequence := by
  intro hsame
  obtain ⟨last, hlast, _, _⟩ := htracks.last
  have hnumber := htracks.history.numbered.getLast? hlast
  have hlatest := htracks.latestSequence_add_one hbound
  have hsequence : last.sequence = record.latestSequence := by omega
  have hmem : last ∈ log.filter fun event ↦ afterSequence < event.sequence := by
    refine List.mem_filter.mpr ⟨List.mem_of_getLast? hlast, ?_⟩
    rw [decide_eq_true_iff]
    omega
  rw [← hsame] at hmem
  have hserved := (List.mem_filter.mp hmem).2
  have hnegative : asI64 last.sequence < 0 := asI64_neg (by omega) (by omega)
  rw [decide_eq_true_iff] at hserved
  omega

lemma firstSequence_le : record.firstSequence ≤ record.latestSequence := by
  have hlatest := htracks.latestSequence_add_one hbound
  rw [htracks.firstSequence_eq hbound]
  omega

/-- Assumes: a cursor that reaches the retained events. No event past it has been dropped. -/
lemma not_dropped (hreaches : (record.firstSequence : ℤ) ≤ afterSequence + 1) :
    ¬ ∃ event ∈ log, afterSequence < event.sequence ∧ event ∉ record.events := by
  rintro ⟨_, hevent, hpast, hdropped⟩
  obtain ⟨position, hposition, rfl⟩ := List.getElem_of_mem hevent
  rw [htracks.history.numbered position hposition] at hpast
  rw [htracks.firstSequence_eq hbound] at hreaches
  apply hdropped
  rw [htracks.window, List.rtake, List.mem_drop_iff_getElem]
  exact ⟨position - (log.length - bound), by omega, by congr 1; omega⟩

section Cursor

variable (hrange : record.latestSequence < 2 ^ 64) {afterSequence : Int64}

include hrange

/-- A cursor before the retained events: the refusal is right when the first retained number is in
the signed range. -/
lemma hidesNoGap_before (hsign : 0 ≤ afterSequence.toInt)
    (hgap : afterSequence.toInt + 1 < record.firstSequence) :
    HidesNoGap log record afterSequence (replay record afterSequence) ↔
      record.firstSequence < 2 ^ 63 := by
  have hfirst := htracks.firstSequence_le hbound
  have hrefused : RefusesGap (replay record afterSequence) :=
    ⟨_, _, replay_of_gap hsign hgap⟩
  have hagrees := observe_agrees_iff afterSequence (hfirst.trans_lt hrange)
    (RefusesGap (replay record afterSequence))
  constructor
  · intro hsound
    obtain ⟨_, hverdict⟩ := hagrees.mp hsound.agrees
    have hless := hverdict.mp hrefused
    split_ifs at hless with hsmall
    · exact hsmall
    · omega
  · intro hsmall
    refine ⟨?_, fun _ ↦ hrefused, hagrees.mpr ⟨by omega, ?_⟩⟩
    · intro events hevents
      rw [replay_of_gap hsign hgap] at hevents
      nomatch hevents
    · rw [if_pos hsmall]
      exact iff_of_true hrefused hgap

/-- A cursor that reaches the retained events: the replay is right when the numbers are in the
signed range and the cursor is not the largest one. -/
lemma hidesNoGap_reaches (hsign : -1 ≤ afterSequence.toInt)
    (hreaches : (record.firstSequence : ℤ) ≤ afterSequence.toInt + 1) :
    HidesNoGap log record afterSequence (replay record afterSequence) ↔
      afterSequence.toInt + 1 < 2 ^ 63 ∧ record.latestSequence < 2 ^ 63 := by
  have hcursor : afterSequence.toInt < 2 ^ 63 := afterSequence.toInt_lt
  have hfirst := htracks.firstSequence_le hbound
  have hreplay : replay record afterSequence =
      .ok (record.events.filter fun event ↦ afterSequence.toInt < asI64 event.sequence) :=
    replay_of_no_gap fun h ↦ absurd h.2 (not_lt.mpr hreaches)
  have hserved : ¬ RefusesGap (replay record afterSequence) := by
    rintro ⟨_, _, hrefused⟩
    rw [hreplay] at hrefused
    nomatch hrefused
  have hagrees := observe_agrees_iff afterSequence (hfirst.trans_lt hrange)
    (RefusesGap (replay record afterSequence))
  constructor
  · intro hsound
    refine ⟨(hagrees.mp hsound.agrees).1, ?_⟩
    by_contra hlarge
    exact htracks.not_complete hbound (not_lt.mp hlarge) hrange hsign hcursor
      (hsound.complete _ hreplay)
  · rintro ⟨hnext, hlatest⟩
    refine ⟨?_, ?_, hagrees.mpr ⟨hnext, iff_of_false hserved ?_⟩⟩
    · intro events hevents
      rw [hreplay] at hevents
      rw [← Outcome.ok.inj hevents]
      exact htracks.filter_events hbound hlatest hreaches
    · exact fun hdropped ↦ absurd hdropped (htracks.not_dropped hbound hreaches)
    · rw [if_pos (by omega)]
      exact not_lt.mpr hreaches

/-- A negative cursor that does not reach the retained events: the replay hides a gap, or the
observe rule sees one before the first event. -/
lemma not_hidesNoGap_negative (hsign : afterSequence.toInt < 0)
    (hreaches : afterSequence.toInt + 1 < record.firstSequence) :
    ¬ HidesNoGap log record afterSequence (replay record afterSequence) := by
  intro hsound
  have hfirst := htracks.firstSequence_le hbound
  have hserved : ¬ RefusesGap (replay record afterSequence) := by
    rintro ⟨_, _, hrefused⟩
    rw [replay_of_no_gap fun h ↦ absurd h.1 (not_le.mpr hsign)] at hrefused
    nomatch hrefused
  have hverdict := ((observe_agrees_iff afterSequence (hfirst.trans_lt hrange)
    (RefusesGap (replay record afterSequence))).mp hsound.agrees).2
  have hnone := hverdict.not.mp hserved
  split_ifs at hnone with hsmall
  · exact hnone hreaches
  · obtain ⟨event, hevent, _, hdropped⟩ := exists_dropped_of_lt htracks.history.numbered
      (show 0 < log.length - bound by
        rw [← htracks.firstSequence_eq hbound]
        omega)
    refine hserved (hsound.refuses ⟨event, hevent, by omega, ?_⟩)
    rw [htracks.window]
    exact hdropped

end Cursor

/-- A replay of a tracked record hides no gap exactly for the cursors that the record serves. -/
lemma hidesNoGap_iff (hrange : record.latestSequence < 2 ^ 64) (afterSequence : Int64) :
    HidesNoGap log record afterSequence (replay record afterSequence) ↔
      CursorServed record afterSequence := by
  have hfirst := htracks.firstSequence_le hbound
  unfold CursorServed
  by_cases hreaches : (record.firstSequence : ℤ) ≤ afterSequence.toInt + 1
  · rw [htracks.hidesNoGap_reaches hbound hrange (by omega) hreaches]
    omega
  · rw [not_le] at hreaches
    by_cases hsign : 0 ≤ afterSequence.toInt
    · rw [htracks.hidesNoGap_before hbound hrange hsign hreaches]
      omega
    · have hnot := htracks.not_hidesNoGap_negative hbound hrange (not_le.mp hsign) hreaches
      simp only [hnot, false_iff]
      omega

end Tracks

end Record

/-! ### Both stores -/

/-- Assumes: a record that the in-memory store returns. It tracks the history of its task, with
numbers in range. -/
lemma tracks_of_status {maxEvents terminalStatusTtlMs : ℕ} {calls : List Call} {taskId : String}
    {now : ℕ} {record : LifecycleRecord}
    (hstatus : ((reached maxEvents terminalStatusTtlMs calls).1.status taskId now).2 =
      .ok record) :
    Tracks (max maxEvents 2) taskId
        (emitted taskId (reached maxEvents terminalStatusTtlMs calls).2) record ∧
      record.latestSequence < 2 ^ 64 := by
  have hbound : 0 < max maxEvents 2 := by omega
  have hget : (reached maxEvents terminalStatusTtlMs calls).1.get taskId = some record := by
    obtain ⟨_, _, _, heq⟩ | ⟨_, hget, _, heq⟩ | ⟨_, heq⟩ :=
      (reached maxEvents terminalStatusTtlMs calls).1.status_cases taskId now
    · rw [heq] at hstatus
      nomatch hstatus
    · rw [heq] at hstatus
      rw [hget, Outcome.ok.inj hstatus]
    · rw [heq] at hstatus
      nomatch hstatus
  have htracks := (runCalls_coherent maxEvents terminalStatusTtlMs calls).tracks taskId record hget
  refine ⟨htracks, ?_⟩
  obtain ⟨last, hlast, _, _⟩ := htracks.last
  have hkept := (htracks.getLast?_events hbound).trans hlast
  have hlatest : record.latestSequence = last.sequence := by
    rw [LifecycleRecord.latestSequence, hkept]
  rw [hlatest]
  exact reached_sequencesInRange maxEvents terminalStatusTtlMs calls taskId record hget last
    (List.mem_of_getLast? hkept)

/-- Assumes: a record that the SQLite store returns. It tracks the history of its task, with numbers
in range. -/
lemma tracks_of_statusSync {Blob : Type} {backend : Backend Blob}
    {maxEvents terminalStatusTtlMs : ℕ} {calls : List Call} {taskId : String} {now : ℕ}
    {record : LifecycleRecord}
    (hstatus : (statusSync backend (openWith maxEvents terminalStatusTtlMs)
      (sqlReached backend maxEvents terminalStatusTtlMs calls).1 taskId now).2 = .ok record) :
    Tracks (max maxEvents 2) taskId
        (emitted taskId (sqlReached backend maxEvents terminalStatusTtlMs calls).2) record ∧
      record.latestSequence < 2 ^ 64 := by
  have hbound : 0 < max maxEvents 2 := by omega
  obtain ⟨_, heq⟩ | ⟨_, _, _, heq⟩ | ⟨row, hrow, _, heq⟩ := statusSync_cases backend
    (openWith maxEvents terminalStatusTtlMs)
    (sqlReached backend maxEvents terminalStatusTtlMs calls).1 taskId now
  · rw [heq] at hstatus
    nomatch hstatus
  · rw [heq] at hstatus
    nomatch hstatus
  · have hsql := sqlReached_coherent backend maxEvents terminalStatusTtlMs calls taskId row hrow
    rw [heq, hsql.loadRecord_eq hbound hrow] at hstatus
    obtain rfl := Outcome.ok.inj hstatus
    have htracks := hsql.tracks hrow
    have hlatest := htracks.latestSequence_add_one hbound
    have hrowLatest := hsql.latest
    have hrange := hsql.range
    exact ⟨htracks, by omega⟩

/-- In every reachable state of the in-memory store, and of the SQLite store, the replay of a live
task from a cursor hides no gap exactly when its record serves the cursor. -/
theorem replay_hides_no_gap_iff {Blob : Type} (backend : Backend Blob)
    (maxEvents terminalStatusTtlMs : ℕ) (calls : List Call) (taskId : String)
    (afterSequence : Int64) (now : ℕ) :
    (∀ record, ((reached maxEvents terminalStatusTtlMs calls).1.status taskId now).2 = .ok record →
      (HidesNoGap (emitted taskId (reached maxEvents terminalStatusTtlMs calls).2) record
          afterSequence
          ((reached maxEvents terminalStatusTtlMs calls).1.eventsAfter taskId afterSequence now).2 ↔
        CursorServed record afterSequence)) ∧
    ∀ record, (statusSync backend (openWith maxEvents terminalStatusTtlMs)
        (sqlReached backend maxEvents terminalStatusTtlMs calls).1 taskId now).2 = .ok record →
      (HidesNoGap (emitted taskId (sqlReached backend maxEvents terminalStatusTtlMs calls).2) record
          afterSequence
          (eventsAfterSync backend (openWith maxEvents terminalStatusTtlMs)
            (sqlReached backend maxEvents terminalStatusTtlMs calls).1 taskId afterSequence now).2 ↔
        CursorServed record afterSequence) := by
  have hbound : 0 < max maxEvents 2 := by omega
  constructor
  · intro record hstatus
    obtain ⟨htracks, hrange⟩ := tracks_of_status hstatus
    change HidesNoGap _ _ _ ((LifecycleStore.status _ taskId now).2 >>= (replay · afterSequence)) ↔ _
    rw [hstatus, Outcome.ok_bind]
    exact htracks.hidesNoGap_iff hbound hrange afterSequence
  · intro record hstatus
    obtain ⟨htracks, hrange⟩ := tracks_of_statusSync hstatus
    change HidesNoGap _ _ _ ((statusSync _ _ _ taskId now).2 >>= (replay · afterSequence)) ↔ _
    rw [hstatus, Outcome.ok_bind]
    exact htracks.hidesNoGap_iff hbound hrange afterSequence

def threeMoves : List Call :=
  [.submit "task" "key" "digest" 1, .transition "task" "queued" .null 2,
    .transition "task" "running" .null 3, .transition "task" "waiting" .null 4]

/-- What a store with room for two events keeps of them, with details in the given form. -/
def lastMoves (detail : Json) : List LifecycleEvent :=
  [LifecycleStore.transitionEvent "task" 2 "running" 3 detail,
    LifecycleStore.transitionEvent "task" 3 "waiting" 4 detail]

/-- The cursor before the first retained event is served, by both stores. -/
theorem replay_hides_no_gap_from_one :
    HidesNoGap (emitted "task" (reached 2 1000 threeMoves).2)
        ⟨"task", "key", "digest", "waiting", lastMoves .null, 4⟩ 1
        ((reached 2 1000 threeMoves).1.eventsAfter "task" 1 5).2 ∧
      HidesNoGap (emitted "task" (sqlReached plainBackend 2 1000 threeMoves).2)
        ⟨"task", "key", "digest", "waiting", lastMoves (.object []), 4⟩ 1
        (eventsAfterSync plainBackend (openWith 2 1000)
          (sqlReached plainBackend 2 1000 threeMoves).1 "task" 1 5).2 :=
  ⟨((replay_hides_no_gap_iff plainBackend 2 1000 threeMoves "task" 1 5).1 _
      (by decide)).mpr (by decide),
    ((replay_hides_no_gap_iff plainBackend 2 1000 threeMoves "task" 1 5).2 _
      (by decide)).mpr (by decide)⟩

/-- From the default cursor of the HTTP route, both stores return the two retained events and no
refusal, while four events were emitted and the observe rule sees a gap. -/
theorem replay_hides_gap_from_default :
    ((reached 2 1000 threeMoves).1.eventsAfter "task" defaultAfter 5).2 = .ok (lastMoves .null) ∧
      (eventsAfterSync plainBackend (openWith 2 1000)
        (sqlReached plainBackend 2 1000 threeMoves).1 "task" defaultAfter 5).2 =
          .ok (lastMoves (.object [])) ∧
      (emitted "task" (reached 2 1000 threeMoves).2).map LifecycleEvent.sequence =
        [0, 1, 2, 3] ∧
      evaluateDistributedLifecycle (observeVector defaultAfter 2 false) = .ok "resume_unavailable" := by
  decide

end Iicp.Lifecycle
