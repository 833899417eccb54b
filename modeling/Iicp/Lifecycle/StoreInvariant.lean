import Iicp.Lifecycle.History
import Iicp.Lifecycle.Store

/-!
# The invariant of the in-memory store

A stored record is what the store keeps of its task's history: the last events up to the bound, the
state of the last event and its time (`Tracks`). `Coherent` says this of every record of a store,
against the log of the operations run on it, and that no two records share an idempotency key. Every
operation keeps a store coherent (`coherent_invariant`), so every sequence of calls on a new store
does (`runCalls_coherent`).

`RecordInvariant` spells out what this says about one record in the terms of the store alone
(`lifecycleStore_invariant`).
-/

namespace Iicp.Lifecycle

open Rust Concurrent Window LifecycleStore

abbrev LoggedStore := LifecycleStore × List (LogEntry LifecyclePersistence)

/-- The record is what a store with this bound keeps of a task's history. -/
structure Tracks (bound : ℕ) (taskId : String) (log : List LifecycleEvent)
    (record : LifecycleRecord) : Prop where
  history : History taskId log
  taskId_eq : record.taskId = taskId
  window : record.events = log.rtake bound
  last : ∃ event, log.getLast? = some event ∧ event.state = record.state ∧
    event.observedAtMs = record.updatedAtMs

/-- Every record of the store tracks the history of its task, and the keys are distinct. -/
structure Coherent (bound : ℕ) (state : LoggedStore) : Prop where
  bound_eq : state.1.maxEvents = bound
  tracks : ∀ taskId record, state.1.get taskId = some record →
    Tracks bound taskId (emitted taskId state.2) record
  keys : ∀ first second recordOne recordTwo, state.1.get first = some recordOne →
    state.1.get second = some recordTwo → recordOne.idempotencyKey = recordTwo.idempotencyKey →
    first = second

namespace Tracks

variable {bound : ℕ} {taskId : String} {log : List LifecycleEvent} {record : LifecycleRecord}
variable (htracks : Tracks bound taskId log record)

include htracks

lemma getLast?_events (hbound : 0 < bound) : record.events.getLast? = log.getLast? := by
  rw [htracks.window, getLast?_rtake hbound]

/-- The latest sequence number counts the events before the last one. -/
lemma latestSequence_add_one (hbound : 0 < bound) : record.latestSequence + 1 = log.length := by
  obtain ⟨event, hlast, _, _⟩ := htracks.last
  have hkept : record.events.getLast? = some event := by
    rw [htracks.getLast?_events hbound, hlast]
  rw [LifecycleRecord.latestSequence, hkept]
  exact htracks.history.numbered.getLast? hlast

/-- The first retained sequence number counts the events dropped. -/
lemma firstSequence_eq (hbound : 0 < bound) : record.firstSequence = log.length - bound := by
  have hkept : record.events ≠ [] := by
    rw [htracks.window]
    exact rtake_ne_nil hbound htracks.history.ne_nil
  obtain ⟨first, _, hevents⟩ := List.exists_cons_of_ne_nil hkept
  have hhead : (log.rtake bound).head? = some first := by
    rw [← htracks.window, hevents]
    rfl
  rw [LifecycleRecord.firstSequence, hevents]
  exact head?_rtake htracks.history.numbered hhead

/-- Adding an event to a tracked record, and its event to the history, keeps it tracked. -/
lemma push (hbound : 0 < bound) {state : String} {now : ℕ} {detail : Json}
    (hlegal : legalTransition record.state state) :
    Tracks bound taskId
      (log ++ [transitionEvent taskId (record.latestSequence + 1) state now detail])
      { record with
        events := pushEvent bound record.events
          (transitionEvent taskId (record.latestSequence + 1) state now detail)
        state := state
        updatedAtMs := now } := by
  obtain ⟨_, hlast, hstate, _⟩ := htracks.last
  refine ⟨?_, htracks.taskId_eq, ?_, ?_⟩
  · refine htracks.history.concat hlast rfl (htracks.latestSequence_add_one hbound) rfl ?_
    rw [hstate]
    exact hlegal
  · show pushEvent bound record.events _ = _
    rw [htracks.window]
    exact drop_excess_rtake hbound _
  · exact ⟨_, List.getLast?_concat, rfl, rfl⟩

end Tracks

namespace Coherent

variable {bound : ℕ} {state : LoggedStore} {log : List (LogEntry LifecyclePersistence)}
  {op : LifecyclePersistence.Op} {answer : LifecyclePersistence.Res op}
variable (hstate : Coherent bound state)

include hstate

/-- An operation that changes neither the store nor a history keeps the store coherent. -/
lemma of_unchanged (heq : lifecycleStore op state.1 = (state.1, answer))
    (hquiet : ∀ taskId past, emittedBy taskId past ⟨op, answer⟩ = past) :
    Coherent bound (logged lifecycleStore op state).1 := by
  refine logged_of_eq heq ⟨hstate.bound_eq, fun taskId record hget ↦ ?_, hstate.keys⟩
  rw [emitted_concat, hquiet]
  exact hstate.tracks taskId record hget

lemma remove (hlog : ∀ taskId, emitted taskId log = emitted taskId state.2) (removed : String) :
    Coherent bound (state.1.remove removed, log) := by
  have hget : ∀ {taskId record}, (state.1.remove removed).get taskId = some record →
      state.1.get taskId = some record := by
    intro taskId record h
    rw [get_remove] at h
    split_ifs at h
    exact h
  exact
    { bound_eq := hstate.bound_eq
      tracks := fun taskId record h ↦ by
        rw [hlog]
        exact hstate.tracks taskId record (hget h)
      keys := fun first second recordOne recordTwo hone htwo ↦
        hstate.keys first second recordOne recordTwo (hget hone) (hget htwo) }

lemma put {stored : String} {record : LifecycleRecord}
    (heq : lifecycleStore op state.1 = (state.1.put stored record, answer))
    (hquiet : ∀ taskId past, taskId ≠ stored → emittedBy taskId past ⟨op, answer⟩ = past)
    (htracks : Tracks bound stored (emittedBy stored (emitted stored state.2) ⟨op, answer⟩) record)
    (hkey : ∀ taskId other, taskId ≠ stored → state.1.get taskId = some other →
      other.idempotencyKey ≠ record.idempotencyKey) :
    Coherent bound (logged lifecycleStore op state).1 := by
  refine logged_of_eq heq ⟨hstate.bound_eq, fun taskId other h ↦ ?_,
    fun first second recordOne recordTwo hone htwo hsame ↦ ?_⟩
  · rw [emitted_concat]
    rw [get_put] at h
    split_ifs at h with htask
    · subst htask
      obtain rfl := Option.some.inj h
      exact htracks
    · rw [hquiet taskId _ htask]
      exact hstate.tracks taskId other h
  · rw [get_put] at hone htwo
    split_ifs at hone htwo with hfirst hsecond hsecond
    · exact hfirst.trans hsecond.symm
    · obtain rfl := Option.some.inj hone
      exact absurd hsame.symm (hkey second recordTwo hsecond htwo)
    · obtain rfl := Option.some.inj htwo
      exact absurd hsame (hkey first recordOne hfirst hone)
    · exact hstate.keys first second recordOne recordTwo hone htwo hsame

end Coherent

/-! ### Every operation keeps the store coherent -/

section Steps

variable {bound : ℕ} (hbound : 0 < bound) {state : LoggedStore}

include hbound

lemma coherent_submit (hstate : Coherent bound state)
    (taskId idempotencyKey requestDigest : String) (now : ℕ) :
    Coherent bound
      (logged lifecycleStore (.submit taskId idempotencyKey requestDigest now) state).1 := by
  obtain ⟨_, _, _, _, heq⟩ | ⟨_, _, _, heq⟩ | ⟨_, _, heq⟩ | ⟨_, hkey, heq⟩ :=
    state.1.submit_cases taskId idempotencyKey requestDigest now
  · exact hstate.of_unchanged heq fun _ _ ↦ rfl
  · exact hstate.of_unchanged heq fun _ _ ↦ rfl
  · exact hstate.of_unchanged heq fun _ _ ↦ rfl
  · refine hstate.put heq (fun _ _ hother ↦ if_neg hother.symm) ?_ ?_
    · simp only [emittedBy, ↓reduceIte]
      refine ⟨History.singleton rfl rfl rfl rfl, rfl, ?_, ⟨_, rfl, rfl, rfl⟩⟩
      rw [rtake_of_length_le (show 1 ≤ bound from hbound)]
    · intro other record _ hrecord hsame
      have hused := (keyInUse_iff state.1 idempotencyKey).mpr ⟨other, record, hrecord, hsame⟩
      rw [hkey] at hused
      exact Bool.false_ne_true hused

omit hbound in
lemma coherent_status (hstate : Coherent bound state) (taskId : String) (now : ℕ) :
    Coherent bound (logged lifecycleStore (.status taskId now) state).1 := by
  obtain ⟨_, _, _, heq⟩ | ⟨_, _, _, heq⟩ | ⟨_, heq⟩ := state.1.status_cases taskId now
  · exact logged_of_eq heq (hstate.remove (fun other ↦ emitted_concat other _ _) taskId)
  · exact hstate.of_unchanged heq fun _ _ ↦ rfl
  · exact hstate.of_unchanged heq fun _ _ ↦ rfl

lemma coherent_transition (hstate : Coherent bound state) (taskId requestedState : String)
    (detail : Json) (now : ℕ) :
    Coherent bound
      (logged lifecycleStore (.transition taskId requestedState detail now) state).1 := by
  obtain ⟨_, heq⟩ | ⟨record, _, _, heq⟩ | ⟨record, _, _, _, heq⟩ |
    ⟨record, _, hget, hlegal, _, hevent, heq⟩ :=
    state.1.transition_cases taskId requestedState detail now
  · exact hstate.of_unchanged heq fun _ _ ↦ rfl
  · exact hstate.of_unchanged heq fun _ _ ↦ rfl
  · exact hstate.of_unchanged heq fun _ _ ↦ rfl
  · refine hstate.put heq (fun _ _ hother ↦ if_neg hother.symm) ?_ ?_
    · simp only [emittedBy, ↓reduceIte, hstate.bound_eq, hevent]
      exact (hstate.tracks taskId record hget).push hbound hlegal
    · intro other stored hother hstored hsame
      exact hother (hstate.keys other taskId stored record hstored hget hsame)

/-- Every operation keeps the store coherent. -/
lemma coherent_invariant : Invariant (logged lifecycleStore) (Coherent bound) := by
  intro op state hstate
  cases op with
  | submit taskId idempotencyKey requestDigest now =>
    exact coherent_submit hbound hstate taskId idempotencyKey requestDigest now
  | status taskId now => exact coherent_status hstate taskId now
  | transition taskId requestedState detail now =>
    exact coherent_transition hbound hstate taskId requestedState detail now

end Steps

/-! ### Runs -/

variable (maxEvents terminalStatusTtlMs : ℕ)

def startState : LoggedStore :=
  (LifecycleStore.new maxEvents terminalStatusTtlMs, [])

lemma coherent_startState :
    Coherent (max maxEvents 2) (startState maxEvents terminalStatusTtlMs) where
  bound_eq := rfl
  tracks := fun _ _ hget ↦ by simp [startState] at hget
  keys := fun _ _ _ _ hget ↦ by simp [startState] at hget

/-- The store and its log after a sequence of calls on a new store. -/
def reached (calls : List Call) : LoggedStore :=
  (runCalls (logged lifecycleStore) calls (startState maxEvents terminalStatusTtlMs)).1

lemma runCalls_coherent (calls : List Call) :
    Coherent (max maxEvents 2) (reached maxEvents terminalStatusTtlMs calls) :=
  runAll_invariant (coherent_invariant (by omega)) _ _
    (coherent_startState maxEvents terminalStatusTtlMs)

/-- What the store promises of one record, given everything emitted for it. -/
structure RecordInvariant (bound : ℕ) (history : List LifecycleEvent)
    (record : LifecycleRecord) : Prop where
  nonempty : record.events ≠ []
  bounded : record.events.length ≤ bound
  consecutive : record.events.IsChain fun first second ↦ second.sequence = first.sequence + 1
  owned : ∀ event ∈ record.events, event.taskId = record.taskId
  last_state : record.events.getLast?.map LifecycleEvent.state = some record.state
  final_iff : ∀ event ∈ record.events, event.isFinal = true ↔ terminal event.state = true
  only_last_final : ∀ event ∈ record.events.dropLast, event.isFinal = false
  retained : record.events = history.drop (history.length - bound)

lemma Tracks.recordInvariant {bound : ℕ} {taskId : String} {log : List LifecycleEvent}
    {record : LifecycleRecord} (htracks : Tracks bound taskId log record) (hbound : 0 < bound) :
    RecordInvariant bound log record where
  nonempty := by
    rw [htracks.window]
    exact rtake_ne_nil hbound htracks.history.ne_nil
  bounded := by
    rw [htracks.window, length_rtake]
    exact min_le_left bound log.length
  consecutive := by
    rw [htracks.window]
    exact isChain_rtake htracks.history.numbered bound
  owned := fun event hevent ↦ by
    rw [htracks.window] at hevent
    rw [htracks.taskId_eq]
    exact htracks.history.owned event (mem_of_mem_rtake hevent)
  last_state := by
    obtain ⟨event, hlast, hstate, _⟩ := htracks.last
    rw [htracks.getLast?_events hbound, hlast, Option.map_some, hstate]
  final_iff := fun event hevent ↦ by
    rw [htracks.window] at hevent
    rw [htracks.history.flagged event (mem_of_mem_rtake hevent)]
  only_last_final := fun event hevent ↦ by
    have hearly : event ∈ log.dropLast := by
      rw [htracks.window] at hevent
      exact mem_dropLast_of_mem_rtake hevent
    rw [htracks.history.flagged event (List.mem_of_mem_dropLast hearly)]
    exact htracks.history.not_terminal_of_mem_dropLast hearly
  retained := htracks.window

/-- After every sequence of calls on a new store, every stored record is kept under its own task id
and is the end of what was emitted for it, with consecutive sequence numbers, its own task id, the
state of its last event and at most one final event at its end; and no two records share an
idempotency key. -/
theorem lifecycleStore_invariant (maxEvents terminalStatusTtlMs : ℕ) (calls : List Call) :
    (∀ taskId record,
        (reached maxEvents terminalStatusTtlMs calls).1.get taskId = some record →
        record.taskId = taskId ∧
          RecordInvariant (max maxEvents 2)
            (emitted taskId (reached maxEvents terminalStatusTtlMs calls).2) record) ∧
      ∀ first second recordOne recordTwo,
        (reached maxEvents terminalStatusTtlMs calls).1.get first = some recordOne →
        (reached maxEvents terminalStatusTtlMs calls).1.get second = some recordTwo →
        recordOne.idempotencyKey = recordTwo.idempotencyKey → first = second := by
  have hcoherent := runCalls_coherent maxEvents terminalStatusTtlMs calls
  have hbound : 0 < max maxEvents 2 := by omega
  refine ⟨fun taskId record hget ↦ ?_, hcoherent.keys⟩
  have htracks := hcoherent.tracks taskId record hget
  exact ⟨htracks.taskId_eq, htracks.recordInvariant hbound⟩

end Iicp.Lifecycle
