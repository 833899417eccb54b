import Iicp.Lifecycle.Sqlite
import Iicp.Lifecycle.StoreInvariant

/-!
# The invariant of the SQLite store

The rows of a task are what the database keeps of its task's history: the event rows are those of
the last events up to the bound, and the task row carries the number, the state and the time of the
last event (`SqlTracks`). `SqlCoherent` says this of every task row, against the log of the
operations run on the database. Every operation keeps a database coherent, whatever details,
readings and states it is called with (`sqlCoherent_invariant`): an operation that fails changes
nothing.

In a coherent database a record is always read back, and it tracks the same history as an in-memory
record would (`SqlTracks.loadRecord_eq`, `SqlTracks.tracks`).
-/

namespace Iicp.Lifecycle

open Rust Concurrent Window SqliteLifecyclePersistence List

variable {Blob : Type} {next : Database Blob}

abbrev LoggedDatabase (Blob : Type) := Database Blob × List (LogEntry LifecyclePersistence)

/-- The rows of a task are what a database with this bound keeps of its history. -/
structure SqlTracks (backend : Backend Blob) (bound : ℕ) (db : Database Blob) (taskId : String)
    (log : List LifecycleEvent) (row : TaskRow) : Prop where
  history : History taskId log
  admitted : ∀ event ∈ log, Admitted event
  rows : db.eventsOf taskId = (log.rtake bound).map (rowOf backend)
  latest : row.latestSequence + 1 = log.length
  range : row.latestSequence < 2 ^ 63
  last : ∃ event, log.getLast? = some event ∧ event.state = row.state ∧
    event.observedAtMs = row.updatedAtMs

/-- The rows of every task track its history. -/
def SqlCoherent (backend : Backend Blob) (bound : ℕ) (state : LoggedDatabase Blob) : Prop :=
  ∀ taskId row, state.1.tasks.find? taskId = some row →
    SqlTracks backend bound state.1 taskId (emitted taskId state.2) row

namespace SqlTracks

variable {backend : Backend Blob} {bound : ℕ} {db : Database Blob} {taskId : String}
  {log : List LifecycleEvent} {row : TaskRow}

variable (htracks : SqlTracks backend bound db taskId log row)

include htracks

/-- A database with the same rows of a task tracks the same history. -/
lemma of_rows (hrows : next.eventsOf taskId = db.eventsOf taskId) :
    SqlTracks backend bound next taskId log row where
  history := htracks.history
  admitted := htracks.admitted
  rows := hrows.trans htracks.rows
  latest := htracks.latest
  range := htracks.range
  last := htracks.last

/-- The record of a tracked task is read back with the end of its history. -/
lemma loadRecord_eq (hbound : 0 < bound) (hrow : db.tasks.find? taskId = some row) :
    loadRecord backend db taskId = .ok (row.record (log.rtake bound)) := by
  refine loadRecord_of_rows backend hrow htracks.rows
    (fun event hevent ↦ htracks.admitted event (mem_of_mem_rtake hevent))
    (rtake_ne_nil hbound htracks.history.ne_nil) ?_
  have hchain := isChain_rtake htracks.history.numbered bound
  have hle : (log.rtake bound).IsChain fun first second ↦ first.sequence ≤ second.sequence :=
    hchain.imp fun first second hnext ↦ by omega
  exact isChain_iff_pairwise.mp hle

lemma tracks (hrow : db.tasks.find? taskId = some row) :
    Tracks bound taskId log (row.record (log.rtake bound)) where
  history := htracks.history
  taskId_eq := ((db.tasks.find?_eq_some_iff taskId row).mp hrow).2
  window := rfl
  last := htracks.last

lemma fresh : ∀ event ∈ db.eventsOf taskId, event.sequence ≠ row.latestSequence + 1 := by
  intro stored hstored
  rw [htracks.rows] at hstored
  obtain ⟨_, hevent, rfl⟩ := mem_map.mp hstored
  have hlt := htracks.history.numbered.number_lt (mem_of_mem_rtake hevent)
  rw [htracks.latest]
  exact hlt.ne

/-- Adding an event to a tracked task, and deleting the events before the cutoff, keeps it tracked.
-/
lemma push (hbound : 0 < bound) {state : String} {now : ℕ} {given detail : Json}
    (hlegal : legalTransition row.state state)
    (hdetail : contentFreeDetail given = .ok detail) (hsequence : row.latestSequence + 1 < 2 ^ 63)
    (hrows : next.eventsOf taskId =
      (db.eventsOf taskId ++ [rowOf backend (LifecycleStore.transitionEvent taskId
        (row.latestSequence + 1) state now detail)]).filter fun stored ↦
          row.latestSequence + 1 - (bound - 1) ≤ stored.sequence) :
    SqlTracks backend bound next taskId
      (log ++ [LifecycleStore.transitionEvent taskId (row.latestSequence + 1) state now detail])
      (row.moveTo state (row.latestSequence + 1) now) := by
  obtain ⟨last, hlast, hstate, _⟩ := htracks.last
  have hhistory : History taskId (log ++ [LifecycleStore.transitionEvent taskId
      (row.latestSequence + 1) state now detail]) := by
    refine htracks.history.concat hlast rfl htracks.latest rfl ?_
    rw [hstate]
    exact hlegal
  refine ⟨hhistory, ?_, ?_, ?_, hsequence, ⟨_, getLast?_concat, rfl, rfl⟩⟩
  · intro event hevent
    rcases mem_append.mp hevent with hold | hnew
    · exact htracks.admitted event hold
    · obtain rfl := mem_singleton.mp hnew
      exact ⟨given, hdetail⟩
  · have hlonger := filter_cutoff_rtake hhistory.numbered (Nat.le_succ bound)
    rw [rtake_concat_succ, length_append, length_singleton] at hlonger
    have hcutoff : row.latestSequence + 1 - (bound - 1) = log.length + 1 - bound := by
      rw [htracks.latest]
      omega
    rw [hrows, htracks.rows, ← hlonger, hcutoff, ← map_singleton, ← map_append, filter_map]
    rfl
  · rw [length_append, length_singleton]
    exact congrArg (· + 1) htracks.latest

end SqlTracks

namespace SqlCoherent

variable {backend : Backend Blob} {bound : ℕ} {store : SqliteLifecyclePersistence}
  {state : LoggedDatabase Blob} {op : LifecyclePersistence.Op} {answer : LifecyclePersistence.Res op}
variable (hstate : SqlCoherent backend bound state)

include hstate

/-- An operation that changes neither the database nor a history keeps the database coherent. -/
lemma of_unchanged (heq : sqlitePersistence backend store op state.1 = (state.1, answer))
    (hquiet : ∀ taskId past, emittedBy taskId past ⟨op, answer⟩ = past) :
    SqlCoherent backend bound (logged (sqlitePersistence backend store) op state).1 := by
  refine logged_of_eq heq fun taskId row hrow ↦ ?_
  rw [emitted_concat, hquiet]
  exact hstate taskId row hrow

lemma deleteTask {deleted : String}
    (heq : sqlitePersistence backend store op state.1 = (state.1.deleteTask deleted, answer))
    (hquiet : ∀ taskId past, emittedBy taskId past ⟨op, answer⟩ = past) :
    SqlCoherent backend bound (logged (sqlitePersistence backend store) op state).1 := by
  refine logged_of_eq heq fun taskId row hrow ↦ ?_
  rw [Database.find?_deleteTask] at hrow
  split_ifs at hrow with hother
  rw [emitted_concat, hquiet]
  exact (hstate taskId row hrow).of_rows (state.1.eventsOf_deleteTask hother)

/-- Assumes: a database that has changed the rows of one task only, to rows that track its new
history. It is coherent. -/
lemma put {stored : String} {row : TaskRow} {rows : List (EventRow Blob)}
    (heq : sqlitePersistence backend store op state.1 = (next, answer))
    (hchanged : TaskChanged state.1 next stored row rows)
    (hquiet : ∀ taskId past, taskId ≠ stored → emittedBy taskId past ⟨op, answer⟩ = past)
    (htracks : SqlTracks backend bound next stored
      (emittedBy stored (emitted stored state.2) ⟨op, answer⟩) row) :
    SqlCoherent backend bound (logged (sqlitePersistence backend store) op state).1 := by
  refine logged_of_eq heq fun taskId other hother ↦ ?_
  rw [emitted_concat]
  rw [hchanged.find] at hother
  split_ifs at hother with hsame
  · obtain rfl := Option.some.inj hother
    rw [hsame]
    exact htracks
  · rw [hquiet taskId _ hsame]
    exact (hstate taskId other hother).of_rows ((hchanged.events taskId).trans (if_neg hsame))

end SqlCoherent

/-! ### Every operation keeps the database coherent -/

section Steps

variable {backend : Backend Blob} {store : SqliteLifecyclePersistence}
  (hbound : 0 < store.maxEvents) {state : LoggedDatabase Blob}

include hbound

section

variable (hstate : SqlCoherent backend store.maxEvents state)

include hstate

lemma sqlCoherent_submit (taskId idempotencyKey requestDigest : String) (now : ℕ) :
    SqlCoherent backend store.maxEvents (logged (sqlitePersistence backend store)
        (.submit taskId idempotencyKey requestDigest now) state).1 := by
  obtain ⟨row, hrow, _, _, heq⟩ | ⟨_, heq⟩ | ⟨_, _, _, heq⟩ | ⟨_, _, _, next, heq, hchanged⟩ :=
    submitSync_cases backend state.1 taskId idempotencyKey requestDigest now
  · rw [(hstate taskId row hrow).loadRecord_eq hbound hrow] at heq
    exact hstate.of_unchanged heq fun _ _ ↦ rfl
  · exact hstate.of_unchanged heq fun _ _ ↦ rfl
  · exact hstate.of_unchanged heq fun _ _ ↦ rfl
  · refine hstate.put heq hchanged (fun _ _ hother ↦ if_neg hother.symm) ?_
    simp only [emittedBy, ↓reduceIte]
    refine ⟨History.singleton rfl rfl rfl rfl, ?_, ?_, rfl, Nat.two_pow_pos 63, ⟨_, rfl, rfl, rfl⟩⟩
    · intro event hevent
      obtain rfl := mem_singleton.mp hevent
      exact ⟨.null, rfl⟩
    · rw [hchanged.events, if_pos rfl, rtake_of_length_le (show 1 ≤ store.maxEvents from hbound)]

omit hbound in
lemma sqlCoherent_status (taskId : String) (now : ℕ) :
    SqlCoherent backend store.maxEvents
      (logged (sqlitePersistence backend store) (.status taskId now) state).1 := by
  obtain ⟨_, heq⟩ | ⟨_, _, _, heq⟩ | ⟨_, _, _, heq⟩ :=
    statusSync_cases backend store state.1 taskId now
  · exact hstate.of_unchanged heq fun _ _ ↦ rfl
  · exact hstate.deleteTask heq fun _ _ ↦ rfl
  · exact hstate.of_unchanged heq fun _ _ ↦ rfl

lemma sqlCoherent_transition (taskId requestedState : String) (given : Json) (now : ℕ) :
    SqlCoherent backend store.maxEvents (logged (sqlitePersistence backend store)
        (.transition taskId requestedState given now) state).1 := by
  obtain ⟨_, _, heq⟩ | ⟨_, _, _, heq⟩ | ⟨_, _, _, _, _, heq⟩ |
    ⟨_, _, _, _, _, _, reply, hreply, heq⟩ |
    ⟨_, row, next, event, hdetail, hrow, hlegal, hsequence, _, hevent, heq, hchanged⟩ :=
    transitionSync_cases backend store state.1 taskId requestedState given now
  · exact hstate.of_unchanged heq fun _ _ ↦ rfl
  · exact hstate.of_unchanged heq fun _ _ ↦ rfl
  · exact hstate.of_unchanged heq fun _ _ ↦ rfl
  · refine hstate.of_unchanged heq fun _ _ ↦ ?_
    cases reply with
    | ok event => exact absurd rfl (hreply event)
    | err => rfl
    | panicked => rfl
  · subst hevent
    refine hstate.put heq hchanged (fun _ _ hother ↦ if_neg hother.symm) ?_
    simp only [emittedBy, ↓reduceIte]
    exact (hstate taskId row hrow).push hbound hlegal hdetail hsequence
      ((hchanged.events taskId).trans (if_pos rfl))

end

/-- Every operation keeps the database coherent. -/
lemma sqlCoherent_invariant :
    Invariant (logged (sqlitePersistence backend store)) (SqlCoherent backend store.maxEvents) := by
  intro op state hstate
  cases op with
  | submit taskId idempotencyKey requestDigest now =>
    exact sqlCoherent_submit hbound hstate taskId idempotencyKey requestDigest now
  | status taskId now => exact sqlCoherent_status hstate taskId now
  | transition taskId requestedState given now =>
    exact sqlCoherent_transition hbound hstate taskId requestedState given now

end Steps

/-! ### Runs -/

variable (backend : Backend Blob) (maxEvents terminalStatusTtlMs : ℕ)

/-- What calls lead to from a new database, with the log of their operations. -/
def sqlReached (calls : List Call) : LoggedDatabase Blob :=
  (runCalls (logged (sqlitePersistence backend (openWith maxEvents terminalStatusTtlMs))) calls
    (Database.empty, [])).1

lemma sqlCoherent_empty (bound : ℕ) : SqlCoherent backend bound (Database.empty, []) := by
  intro taskId row hrow
  simp [Database.empty] at hrow

lemma sqlReached_coherent (calls : List Call) :
    SqlCoherent backend (max maxEvents 2)
      (sqlReached backend maxEvents terminalStatusTtlMs calls) := by
  have hbound : 0 < max maxEvents 2 := by omega
  exact runAll_invariant (sqlCoherent_invariant hbound) _ _ (sqlCoherent_empty backend _)

/-- What clients of a new database, each with its own program, lead to under a schedule. -/
def sqlShared (clients : List (Prog LifecyclePersistence Reply)) (schedule : List ℕ) :
    LoggedDatabase Blob :=
  (Pool.run (logged (sqlitePersistence backend (openWith maxEvents terminalStatusTtlMs)))
    ⟨(Database.empty, []), clients⟩ schedule).state

/-- At every moment of every interleaving, whatever the clients call, a task has a row exactly if it
is read back, under its own id and as the end of what was emitted for it. -/
theorem sqlShared_records (backend : Backend Blob) (maxEvents terminalStatusTtlMs : ℕ)
    (clients : List (Prog LifecyclePersistence Reply)) (schedule : List ℕ) (taskId : String) :
    let shared := sqlShared backend maxEvents terminalStatusTtlMs clients schedule
    (shared.1.tasks.find? taskId).isSome ↔
      ∃ record, loadRecord backend shared.1 taskId = .ok record ∧ record.taskId = taskId ∧
        RecordInvariant (max maxEvents 2) (emitted taskId shared.2) record := by
  intro shared
  have hbound : 0 < max maxEvents 2 := by omega
  have hcoherent : SqlCoherent backend (max maxEvents 2) shared :=
    Pool.run_invariant (sqlCoherent_invariant hbound) schedule _ (sqlCoherent_empty backend _)
  cases hrow : shared.1.tasks.find? taskId with
  | none => simp [loadRecord, hrow]
  | some row =>
    have htracks := hcoherent taskId row hrow
    exact iff_of_true rfl ⟨_, htracks.loadRecord_eq hbound hrow, (htracks.tracks hrow).taskId_eq,
      (htracks.tracks hrow).recordInvariant hbound⟩

end Iicp.Lifecycle
