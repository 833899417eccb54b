import Iicp.Lifecycle.Record
import Mathlib.Data.List.AList

/-!
# The in-memory lifecycle store

`LifecycleStore` of `service_lifecycle.rs`: a map from task ids to records, with a bound on the
retained events and a lifetime for records of ended tasks. `submit`, `status` and `transition` are
the three operations that take the lock; `lifecycleStore` is the store as an implementation of the
storage port.

A record of an ended task is removed by the first `status` after its lifetime (`expired`); `submit`
and `transition` look at the map as it is. The sequence number of a new event is one more than that
of the last retained event, and an overflow there is a panic that leaves the store as it was.

Each operation has one lemma that says everything it can do (`submit_cases`, `status_cases`,
`transition_cases`).
-/

namespace Iicp.Lifecycle

open Rust Concurrent

abbrev Records := AList fun _ : String ↦ LifecycleRecord

structure LifecycleStore where
  records : Records
  maxEvents : ℕ
  terminalStatusTtlMs : ℕ

namespace LifecycleStore

def new (maxEvents terminalStatusTtlMs : ℕ) : LifecycleStore where
  records := ∅
  maxEvents := max maxEvents 2
  terminalStatusTtlMs := terminalStatusTtlMs

def get (store : LifecycleStore) (taskId : String) : Option LifecycleRecord :=
  store.records.lookup taskId

/-- Stores a record under a task id, in place of any other record there. -/
def put (store : LifecycleStore) (taskId : String) (record : LifecycleRecord) : LifecycleStore :=
  { store with records := store.records.insert taskId record }

def remove (store : LifecycleStore) (taskId : String) : LifecycleStore :=
  { store with records := store.records.erase taskId }

def keyInUse (store : LifecycleStore) (idempotencyKey : String) : Bool :=
  store.records.entries.any fun entry ↦ entry.2.idempotencyKey == idempotencyKey

def acceptedEvent (taskId : String) (now : ℕ) : LifecycleEvent where
  taskId := taskId
  sequence := 0
  state := "accepted"
  isFinal := false
  observedAtMs := now
  detail := .null

def acceptedRecord (taskId idempotencyKey requestDigest : String) (now : ℕ) : LifecycleRecord where
  taskId := taskId
  idempotencyKey := idempotencyKey
  requestDigest := requestDigest
  state := "accepted"
  events := [acceptedEvent taskId now]
  updatedAtMs := now

def submit (store : LifecycleStore) (taskId idempotencyKey requestDigest : String) (now : ℕ) :
    LifecycleStore × Outcome LifecycleError (LifecycleRecord × Bool) :=
  match store.get taskId with
  | some existing =>
    if existing.idempotencyKey ≠ idempotencyKey ∨ existing.requestDigest ≠ requestDigest then
      (store, .err (.conflict "task or idempotency identifier reused for different content"))
    else (store, .ok (existing, false))
  | none =>
    if store.keyInUse idempotencyKey then
      (store, .err (.conflict "idempotency identifier reused with a different task identifier"))
    else
      let record := acceptedRecord taskId idempotencyKey requestDigest now
      (store.put taskId record, .ok (record, true))

/-- The record is of an ended task and older than the lifetime of such records. -/
def expired (terminalStatusTtlMs now : ℕ) (record : LifecycleRecord) : Bool :=
  terminal record.state && decide (terminalStatusTtlMs < now - record.updatedAtMs)

def status (store : LifecycleStore) (taskId : String) (now : ℕ) :
    LifecycleStore × Outcome LifecycleError LifecycleRecord :=
  let kept : LifecycleStore :=
    if (store.get taskId).any (expired store.terminalStatusTtlMs now) then store.remove taskId
    else store
  (kept, .okOr .unknownTask (kept.get taskId))

/-- Adds an event and drops the oldest events beyond the bound. -/
def pushEvent (maxEvents : ℕ) (events : List LifecycleEvent) (event : LifecycleEvent) :
    List LifecycleEvent :=
  let pushed := events ++ [event]
  if maxEvents < pushed.length then pushed.drop (pushed.length - maxEvents) else pushed

def transitionEvent (taskId : String) (sequence : ℕ) (state : String) (now : ℕ) (detail : Json) :
    LifecycleEvent where
  taskId := taskId
  sequence := sequence
  state := state
  isFinal := terminal state
  observedAtMs := now
  detail := detail

def transition (store : LifecycleStore) (taskId requestedState : String) (detail : Json)
    (now : ℕ) : LifecycleStore × Outcome LifecycleError LifecycleEvent :=
  match store.get taskId with
  | none => (store, .err .unknownTask)
  | some record =>
    let state := canonicalState requestedState
    if legalTransition record.state state = false then
      (store, .err (.conflict ("illegal transition " ++ record.state ++ " -> " ++ state)))
    else
      match (addU64 record.latestSequence 1 : Outcome LifecycleError ℕ) with
      | .ok sequence =>
        let event := transitionEvent taskId sequence state now detail
        let moved := { record with
          events := pushEvent store.maxEvents record.events event
          state := state
          updatedAtMs := now }
        (store.put taskId moved, .ok event)
      | .err error => (store, .err error)
      | .panicked => (store, .panicked)

/-! ### The map behind the store -/

variable (store : LifecycleStore) (taskId : String)

@[simp] lemma get_new (maxEvents terminalStatusTtlMs : ℕ) (taskId : String) :
    (new maxEvents terminalStatusTtlMs).get taskId = none := rfl

lemma get_put (other : String) (record : LifecycleRecord) :
    (store.put taskId record).get other = if other = taskId then some record else store.get other := by
  split_ifs with h
  · subst h
    exact AList.lookup_insert store.records
  · exact AList.lookup_insert_ne h

@[simp] lemma get_put_self (record : LifecycleRecord) :
    (store.put taskId record).get taskId = some record := by
  rw [get_put, if_pos rfl]

lemma get_remove (other : String) :
    (store.remove taskId).get other = if other = taskId then none else store.get other := by
  split_ifs with h
  · subst h
    exact AList.lookup_erase other store.records
  · exact AList.lookup_erase_ne h

@[simp] lemma get_remove_self : (store.remove taskId).get taskId = none := by
  rw [get_remove, if_pos rfl]

/-- A key is in use when some stored record carries it. -/
lemma keyInUse_iff (idempotencyKey : String) :
    store.keyInUse idempotencyKey ↔
      ∃ taskId record, store.get taskId = some record ∧ record.idempotencyKey = idempotencyKey := by
  simp only [keyInUse, List.any_eq_true, beq_iff_eq]
  constructor
  · rintro ⟨⟨taskId, record⟩, hmem, hkey⟩
    exact ⟨taskId, record, AList.mem_lookup_iff.mpr hmem, hkey⟩
  · rintro ⟨taskId, record, hget, hkey⟩
    exact ⟨⟨taskId, record⟩, AList.mem_lookup_iff.mp hget, hkey⟩

/-! ### What each operation can do -/

/-- `submit` answers with the stored record, refuses, or creates a record. -/
lemma submit_cases (idempotencyKey requestDigest : String) (now : ℕ) :
    let run := store.submit taskId idempotencyKey requestDigest now
    let created := acceptedRecord taskId idempotencyKey requestDigest now
    (∃ existing, store.get taskId = some existing ∧ existing.idempotencyKey = idempotencyKey ∧
        existing.requestDigest = requestDigest ∧
        run = (store, .ok (existing, false))) ∨
      (∃ existing, store.get taskId = some existing ∧
        (existing.idempotencyKey ≠ idempotencyKey ∨ existing.requestDigest ≠ requestDigest) ∧
        run = (store, .err (.conflict "task or idempotency identifier reused for different content"))) ∨
      (store.get taskId = none ∧ store.keyInUse idempotencyKey ∧
        run = (store, .err
          (.conflict "idempotency identifier reused with a different task identifier"))) ∨
      (store.get taskId = none ∧ store.keyInUse idempotencyKey = false ∧
        run = (store.put taskId created, .ok (created, true))) := by
  dsimp only
  unfold submit
  cases hget : store.get taskId with
  | some existing =>
    by_cases hsame : existing.idempotencyKey ≠ idempotencyKey ∨
        existing.requestDigest ≠ requestDigest
    · exact .inr (.inl ⟨existing, rfl, hsame, by simp only [if_pos hsame]⟩)
    · have hboth := not_or.mp hsame
      exact .inl ⟨existing, rfl, not_not.mp hboth.1, not_not.mp hboth.2, by
        simp only [if_neg hsame]⟩
  | none =>
    cases hkey : store.keyInUse idempotencyKey with
    | true => exact .inr (.inr (.inl ⟨rfl, rfl, rfl⟩))
    | false => exact .inr (.inr (.inr ⟨rfl, rfl, rfl⟩))

/-- `status` removes an expired record, answers with the stored one, or finds none. -/
lemma status_cases (now : ℕ) :
    (∃ record, store.get taskId = some record ∧
        expired store.terminalStatusTtlMs now record ∧
        store.status taskId now = (store.remove taskId, .err .unknownTask)) ∨
      (∃ record, store.get taskId = some record ∧
        expired store.terminalStatusTtlMs now record = false ∧
        store.status taskId now = (store, .ok record)) ∨
      (store.get taskId = none ∧ store.status taskId now = (store, .err .unknownTask)) := by
  unfold status
  cases hget : store.get taskId with
  | some record =>
    cases hexpired : expired store.terminalStatusTtlMs now record with
    | true =>
      refine .inl ⟨record, rfl, hexpired, ?_⟩
      simp only [Option.any_some, hexpired, ↓reduceIte, get_remove_self, Outcome.okOr_none]
    | false =>
      refine .inr (.inl ⟨record, rfl, hexpired, ?_⟩)
      simp only [Option.any_some, hexpired, Bool.false_eq_true, ↓reduceIte, hget, Outcome.okOr_some]
  | none =>
    refine .inr (.inr ⟨rfl, ?_⟩)
    simp only [Option.any_none, Bool.false_eq_true, ↓reduceIte, hget, Outcome.okOr_none]

/-- A look at a record within its lifetime answers with it and changes nothing. -/
lemma status_of_live {store : LifecycleStore} {taskId : String} {now : ℕ}
    {record : LifecycleRecord} (hget : store.get taskId = some record)
    (hlive : expired store.terminalStatusTtlMs now record = false) :
    store.status taskId now = (store, .ok record) := by
  obtain ⟨_, hother, hexpired, _⟩ | ⟨_, hother, _, heq⟩ | ⟨hnone, _⟩ :=
    store.status_cases taskId now
  · rw [hget] at hother
    obtain rfl := Option.some.inj hother
    rw [hlive] at hexpired
    exact absurd hexpired Bool.false_ne_true
  · rw [hget] at hother
    obtain rfl := Option.some.inj hother
    exact heq
  · rw [hget] at hnone
    exact absurd hnone (Option.some_ne_none record)

/-- `transition` finds no record, refuses, runs out of sequence numbers, or adds an event. -/
lemma transition_cases (requestedState : String) (detail : Json) (now : ℕ) :
    let run := store.transition taskId requestedState detail now
    let target := canonicalState requestedState
    (store.get taskId = none ∧ run = (store, .err .unknownTask)) ∨
      (∃ record, store.get taskId = some record ∧
        legalTransition record.state target = false ∧
        run = (store, .err (.conflict ("illegal transition " ++ record.state ++ " -> " ++ target)))) ∨
      (∃ record, store.get taskId = some record ∧
        legalTransition record.state target ∧
        2 ^ 64 ≤ record.latestSequence + 1 ∧
        run = (store, .panicked)) ∨
      (∃ record event, store.get taskId = some record ∧
        legalTransition record.state target ∧
        record.latestSequence + 1 < 2 ^ 64 ∧
        event = transitionEvent taskId (record.latestSequence + 1) target now detail ∧
        run = (store.put taskId { record with
          events := pushEvent store.maxEvents record.events event
          state := target
          updatedAtMs := now }, .ok event)) := by
  dsimp only
  unfold transition
  cases hget : store.get taskId with
  | none => exact .inl ⟨rfl, rfl⟩
  | some record =>
    cases hlegal : legalTransition record.state (canonicalState requestedState) with
    | false => exact .inr (.inl ⟨record, rfl, hlegal, by simp only [hlegal, ↓reduceIte]⟩)
    | true =>
      by_cases hrange : record.latestSequence + 1 < 2 ^ 64
      · refine .inr (.inr (.inr ⟨record, _, rfl, hlegal, hrange, rfl, ?_⟩))
        simp only [hlegal, Bool.true_eq_false, ↓reduceIte, addU64_of_lt hrange]
      · refine .inr (.inr (.inl ⟨record, rfl, hlegal, not_lt.mp hrange, ?_⟩))
        simp only [hlegal, Bool.true_eq_false, ↓reduceIte, addU64_of_le (not_lt.mp hrange)]

end LifecycleStore

/-- The in-memory store as an implementation of the storage port. -/
def lifecycleStore : Object LifecyclePersistence LifecycleStore
  | .submit taskId idempotencyKey requestDigest now, store =>
    store.submit taskId idempotencyKey requestDigest now
  | .status taskId now, store => store.status taskId now
  | .transition taskId requestedState detail now, store =>
    store.transition taskId requestedState detail now

/-- What a step leaves: the store itself, the store without a record past its lifetime, or the store
with a new record or with a record that has moved. -/
lemma LifecycleStore.step_cases (store : LifecycleStore) (op : Op) :
    (lifecycleStore op store).1 = store ∨
      (∃ taskId now record, op = .status taskId now ∧ store.get taskId = some record ∧
        expired store.terminalStatusTtlMs now record ∧
        (lifecycleStore op store).1 = store.remove taskId) ∨
      (∃ taskId idempotencyKey requestDigest now, store.get taskId = none ∧
        (lifecycleStore op store).1 =
          store.put taskId (acceptedRecord taskId idempotencyKey requestDigest now)) ∨
      ∃ taskId record event target now, store.get taskId = some record ∧
        legalTransition record.state target ∧ event.sequence < 2 ^ 64 ∧
        (lifecycleStore op store).1 = store.put taskId { record with
          events := pushEvent store.maxEvents record.events event
          state := target
          updatedAtMs := now } := by
  cases op with
  | submit taskId idempotencyKey requestDigest now =>
    obtain ⟨_, _, _, _, heq⟩ | ⟨_, _, _, heq⟩ | ⟨_, _, heq⟩ | ⟨hnone, _, heq⟩ :=
      store.submit_cases taskId idempotencyKey requestDigest now
    · exact .inl (congrArg Prod.fst heq)
    · exact .inl (congrArg Prod.fst heq)
    · exact .inl (congrArg Prod.fst heq)
    · exact .inr (.inr (.inl ⟨taskId, _, _, _, hnone, congrArg Prod.fst heq⟩))
  | status taskId now =>
    obtain ⟨record, hget, hexpired, heq⟩ | ⟨_, _, _, heq⟩ | ⟨_, heq⟩ :=
      store.status_cases taskId now
    · exact .inr (.inl ⟨taskId, now, record, rfl, hget, hexpired, congrArg Prod.fst heq⟩)
    · exact .inl (congrArg Prod.fst heq)
    · exact .inl (congrArg Prod.fst heq)
  | transition taskId requestedState detail now =>
    obtain ⟨_, heq⟩ | ⟨_, _, _, heq⟩ | ⟨_, _, _, _, heq⟩ |
      ⟨record, event, hget, hlegal, hrange, rfl, heq⟩ :=
      store.transition_cases taskId requestedState detail now
    · exact .inl (congrArg Prod.fst heq)
    · exact .inl (congrArg Prod.fst heq)
    · exact .inl (congrArg Prod.fst heq)
    · exact .inr (.inr (.inr ⟨taskId, record, _, _, now, hget, hlegal, hrange,
        congrArg Prod.fst heq⟩))

lemma terminalStatusTtlMs_step (op : Op) (store : LifecycleStore) :
    (lifecycleStore op store).1.terminalStatusTtlMs = store.terminalStatusTtlMs := by
  obtain heq | ⟨_, _, _, _, _, _, heq⟩ | ⟨_, _, _, _, _, heq⟩ | ⟨_, _, _, _, _, _, _, _, heq⟩ :=
    store.step_cases op
  · rw [heq]
  all_goals
    rw [heq]
    rfl

namespace LifecycleStore

def eventsAfter (store : LifecycleStore) (taskId : String) (afterSequence : Int64) (now : ℕ) :
    LifecycleStore × Outcome LifecycleError (List LifecycleEvent) :=
  (eventsAfterProg taskId afterSequence now).run lifecycleStore store

end LifecycleStore

end Iicp.Lifecycle
