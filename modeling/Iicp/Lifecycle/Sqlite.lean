import Iicp.Lifecycle.Detail
import Iicp.Lifecycle.Store
import Iicp.Relational.Table

/-!
# The SQLite lifecycle store

`SqliteLifecyclePersistence` of `service_lifecycle_sqlite.rs`. A database is the table of tasks and
the table of events with the constraints of the schema as fields: the two primary keys, the unique
idempotency key, and that every event row belongs to a task row. The statements of the adapter are
the operations on it, and a statement that would break a constraint is an error.

`transaction` is an immediate transaction: what runs inside sees and changes the database alone, and
is undone unless it commits. Opening and configuring a connection is taken to succeed. An unsigned
parameter beyond the signed range of the column is refused when it is bound (`bindU64`).

`Backend` collects what the adapter relies on elsewhere: the order in which the engine visits task
rows, of which only that it visits each once is known, and the JSON encoding of the detail column,
which gives back the details it has encoded.
-/

namespace Iicp.Lifecycle

open Rust Concurrent Relational Outcome LifecycleStore List

/-! ### The schema -/

/-- A row of `lifecycle_tasks`. -/
structure TaskRow where
  (taskId idempotencyKey requestDigest state : String)
  latestSequence : ℕ
  updatedAtMs : ℕ
  deriving DecidableEq, Repr

/-- The row with the columns that a transition sets. -/
def TaskRow.moveTo (row : TaskRow) (state : String) (latestSequence updatedAtMs : ℕ) : TaskRow :=
  { row with state := state, latestSequence := latestSequence, updatedAtMs := updatedAtMs }

def TaskRow.record (row : TaskRow) (events : List LifecycleEvent) : LifecycleRecord where
  taskId := row.taskId
  idempotencyKey := row.idempotencyKey
  requestDigest := row.requestDigest
  state := row.state
  events := events
  updatedAtMs := row.updatedAtMs

variable (row : TaskRow)

open TaskRow

@[simp] lemma TaskRow.moveTo_taskId (state : String) (latestSequence updatedAtMs : ℕ) :
    (row.moveTo state latestSequence updatedAtMs).taskId = row.taskId := rfl

@[simp] lemma TaskRow.moveTo_idempotencyKey (state : String) (latestSequence updatedAtMs : ℕ) :
    (row.moveTo state latestSequence updatedAtMs).idempotencyKey = row.idempotencyKey := rfl

/-- A row of `lifecycle_events`. -/
structure EventRow (Blob : Type) where
  taskId : String
  sequence : ℕ
  state : String
  isFinal : ℤ
  observedAtMs : ℕ
  detailJson : Blob

/-- The two tables with the constraints of the schema. -/
structure Database (Blob : Type) where
  tasks : Table TaskRow String taskId
  events : Table (EventRow Blob) (String × ℕ) fun row ↦ (row.taskId, row.sequence)
  keys : (tasks.rows.map TaskRow.idempotencyKey).Nodup
  owned : ∀ row ∈ events.rows, row.taskId ∈ tasks.rows.map taskId

namespace Database

variable {Blob : Type}

def empty : Database Blob where
  tasks := .empty
  events := .empty
  keys := nodup_nil
  owned := fun _ hrow ↦ absurd hrow not_mem_nil

/-- The events of a task, in no particular order. -/
def eventsOf (db : Database Blob) (taskId : String) : List (EventRow Blob) :=
  db.events.rows.filter fun row ↦ row.taskId = taskId

def insertTask (db : Database Blob) (row : TaskRow) : Outcome LifecycleError (Database Blob) :=
  if hkey : row.idempotencyKey ∈ db.tasks.rows.map TaskRow.idempotencyKey then
    .err (.storage "UNIQUE constraint failed: lifecycle_tasks.idempotency_key")
  else if htask : row.taskId ∈ db.tasks.rows.map taskId then
    .err (.storage "UNIQUE constraint failed: lifecycle_tasks.task_id")
  else .ok { db with
      tasks := db.tasks.insert row htask
      keys := ((Table.mk db.tasks.rows db.keys).insert row hkey).unique
      owned := fun event hevent ↦ by
        rw [Table.insert, map_append]
        exact mem_append_left _ (db.owned event hevent) }

/-- Sets the state, the latest sequence number and the time of a task. -/
def updateTask (db : Database Blob) (taskId state : String) (latestSequence updatedAtMs : ℕ) :
    Database Blob where
  tasks := db.tasks.modify taskId (·.moveTo state latestSequence updatedAtMs) fun row ↦
    row.moveTo_taskId state latestSequence updatedAtMs
  events := db.events
  keys := by
    rw [Table.map_modify db.tasks taskId fun row ↦
      row.moveTo_idempotencyKey state latestSequence updatedAtMs]
    exact db.keys
  owned := by
    rw [Table.map_modify db.tasks taskId fun row ↦
      row.moveTo_taskId state latestSequence updatedAtMs]
    exact db.owned

def deleteTask (db : Database Blob) (taskId : String) : Database Blob where
  tasks := db.tasks.delete fun row ↦ row.taskId = taskId
  events := db.events.delete fun row ↦ row.taskId = taskId
  keys := db.keys.sublist (filter_sublist.map TaskRow.idempotencyKey)
  owned := fun event hevent ↦ by
    obtain ⟨hmem, hother⟩ := mem_filter.mp hevent
    obtain ⟨row, hrow, hsame⟩ := mem_map.mp (db.owned event hmem)
    refine mem_map.mpr ⟨row, mem_filter.mpr ⟨hrow, ?_⟩, hsame⟩
    simpa [hsame] using hother

def insertEvent (db : Database Blob) (row : EventRow Blob) :
    Outcome LifecycleError (Database Blob) :=
  if hfresh : (row.taskId, row.sequence) ∈
      db.events.rows.map fun event ↦ (event.taskId, event.sequence) then
    .err (.storage "UNIQUE constraint failed: lifecycle_events.task_id, lifecycle_events.sequence")
  else if htask : row.taskId ∈ db.tasks.rows.map taskId then .ok { db with
      events := db.events.insert row hfresh
      owned := fun event hevent ↦ by
        rcases mem_append.mp hevent with hold | hnew
        · exact db.owned event hold
        · obtain rfl := mem_singleton.mp hnew
          exact htask }
  else .err (.storage "FOREIGN KEY constraint failed")

/-- Deletes the events of a task with sequence numbers below a cutoff. -/
def deleteEventsBefore (db : Database Blob) (taskId : String) (cutoff : ℕ) : Database Blob :=
  { db with
    events := db.events.delete fun row ↦ row.taskId = taskId ∧ row.sequence < cutoff
    owned := fun event hevent ↦ db.owned event (mem_filter.mp hevent).1 }

/-! ### What the statements do -/

section Statements

variable (db : Database Blob) (deleted : String)

lemma mem_eventsOf (taskId : String) (row : EventRow Blob) :
    row ∈ db.eventsOf taskId ↔ row ∈ db.events.rows ∧ row.taskId = taskId := by
  simp [eventsOf]

lemma eventsOf_of_absent {taskId : String} (habsent : db.tasks.find? taskId = none) :
    db.eventsOf taskId = [] := by
  rw [Table.find?_eq_none_iff] at habsent
  refine eq_nil_iff_forall_not_mem.mpr fun row hrow ↦ ?_
  obtain ⟨hmem, rfl⟩ := (db.mem_eventsOf taskId row).mp hrow
  exact habsent (db.owned row hmem)

/-- Assumes: a row with a new task id and a new key. It is inserted. -/
lemma insertTask_of_fresh (htask : db.tasks.find? row.taskId = none)
    (hkey : row.idempotencyKey ∉ db.tasks.rows.map TaskRow.idempotencyKey) :
    ∃ next, db.insertTask row = .ok next ∧
      next.tasks.rows = db.tasks.rows ++ [row] ∧
      (∀ taskId, next.tasks.find? taskId =
        if taskId = row.taskId then some row else db.tasks.find? taskId) ∧
      ∀ taskId, next.eventsOf taskId = db.eventsOf taskId := by
  have hfresh := (db.tasks.find?_eq_none_iff row.taskId).mp htask
  rw [insertTask, dif_neg hkey, dif_neg hfresh]
  exact ⟨_, rfl, rfl, db.tasks.find?_insert row hfresh, fun _ ↦ rfl⟩

/-- Assumes: an event of a stored task with a new sequence number. It is inserted. -/
lemma insertEvent_of_fresh (row : EventRow Blob) (htask : db.tasks.find? row.taskId ≠ none)
    (hfresh : ∀ event ∈ db.eventsOf row.taskId, event.sequence ≠ row.sequence) :
    ∃ next, db.insertEvent row = .ok next ∧ next.tasks = db.tasks ∧
      ∀ taskId, next.eventsOf taskId =
        if taskId = row.taskId then db.eventsOf taskId ++ [row] else db.eventsOf taskId := by
  have hkey : (row.taskId, row.sequence) ∉
      db.events.rows.map fun event ↦ (event.taskId, event.sequence) := by
    intro hmem
    obtain ⟨event, hevent, hsame⟩ := mem_map.mp hmem
    obtain ⟨hid, hsequence⟩ := Prod.mk.inj hsame
    exact hfresh event ((db.mem_eventsOf _ _).mpr ⟨hevent, hid⟩) hsequence
  have howner : row.taskId ∈ db.tasks.rows.map taskId :=
    not_not.mp ((db.tasks.find?_eq_none_iff row.taskId).not.mp htask)
  rw [insertEvent, dif_neg hkey, dif_pos howner]
  refine ⟨_, rfl, rfl, fun taskId ↦ ?_⟩
  show (db.events.rows ++ [row]).filter _ = _
  rw [filter_append]
  split_ifs with hsame
  · simp [eventsOf, hsame]
  · simp [eventsOf, Ne.symm hsame]

omit db in
/-- An event row is inserted only when its task has no row with its number. -/
lemma insertEvent_eq_ok {db next : Database Blob} {row : EventRow Blob}
    (hinsert : db.insertEvent row = .ok next) :
    ∀ event ∈ db.eventsOf row.taskId, event.sequence ≠ row.sequence := by
  intro event hevent hsame
  obtain ⟨hmem, hid⟩ := (db.mem_eventsOf _ _).mp hevent
  rw [insertEvent, dif_pos (mem_map.mpr ⟨event, hmem, by rw [hid, hsame]⟩)] at hinsert
  nomatch hinsert

lemma find?_updateTask (changed state : String) (latestSequence updatedAtMs : ℕ) (taskId : String) :
    (db.updateTask changed state latestSequence updatedAtMs).tasks.find? taskId =
      if taskId = changed then
        (db.tasks.find? taskId).map (·.moveTo state latestSequence updatedAtMs)
      else db.tasks.find? taskId := by
  rw [updateTask, Table.find?_modify]

lemma find?_deleteTask (taskId : String) :
    (db.deleteTask deleted).tasks.find? taskId =
      if taskId = deleted then none else db.tasks.find? taskId :=
  db.tasks.find?_delete deleted taskId

/-- Deleting a task leaves the events of the other tasks. -/
lemma eventsOf_deleteTask {deleted taskId : String} (hother : taskId ≠ deleted) :
    (db.deleteTask deleted).eventsOf taskId = db.eventsOf taskId := by
  show (db.events.rows.filter _).filter _ = db.events.rows.filter _
  rw [filter_filter]
  apply filter_congr
  intro row _
  by_cases hsame : row.taskId = taskId
  · simp [hsame, hother]
  · simp [hsame]

@[simp] lemma tasks_deleteEventsBefore (cutoff : ℕ) :
    (db.deleteEventsBefore deleted cutoff).tasks = db.tasks := rfl

lemma eventsOf_deleteEventsBefore (cutoff : ℕ) (taskId : String) :
    (db.deleteEventsBefore deleted cutoff).eventsOf taskId =
      if taskId = deleted then (db.eventsOf taskId).filter fun row ↦ cutoff ≤ row.sequence
      else db.eventsOf taskId := by
  show (db.events.rows.filter _).filter _ = _
  split_ifs with hdeleted
  · rw [eventsOf, filter_filter, filter_filter]
    apply filter_congr
    intro row _
    have hcutoff : decide (row.sequence < cutoff) = !decide (cutoff ≤ row.sequence) := by
      rw [← decide_not]
      simp only [not_le]
    by_cases hsame : row.taskId = taskId
    · simp [hsame, hdeleted, hcutoff]
    · simp [hsame]
  · rw [eventsOf, filter_filter]
    apply filter_congr
    intro row _
    by_cases hsame : row.taskId = taskId
    · simp [hsame, hdeleted]
    · simp [hsame]

end Statements

end Database

/-! ### The adapter -/

/-- What the adapter relies on elsewhere: the order in which the engine visits the rows of the task
table for a query by task id and key, and the JSON encoding of the detail column. -/
structure Backend (Blob : Type) where
  scan : (taskId idempotencyKey : String) → List TaskRow → List TaskRow
  scan_perm : ∀ taskId idempotencyKey rows, (scan taskId idempotencyKey rows).Perm rows
  toVec : Json → Blob
  fromSlice : Blob → Except String Json
  /-- The literal that a submission writes into the detail column. -/
  braces : Blob
  braces_eq : braces = toVec (.object [])
  fromSlice_toVec : ∀ given detail, contentFreeDetail given = .ok detail →
    fromSlice (toVec detail) = .ok detail

/-- A backend that visits the rows as they are stored and keeps details as values. -/
def plainBackend : Backend Json where
  scan := fun _ _ ↦ id
  scan_perm := fun _ _ ↦ Perm.refl
  toVec := id
  fromSlice := .ok
  braces := .object []
  braces_eq := rfl
  fromSlice_toVec := fun _ _ _ ↦ rfl

structure SqliteLifecyclePersistence where
  maxEvents : ℕ
  terminalStatusTtlMs : ℕ

/-- An unsigned parameter: the column type is signed. -/
def bindU64 (value : ℕ) : Outcome LifecycleError ℕ :=
  if value < 2 ^ 63 then .ok value
  else .err (.storage "out of range integral type conversion attempted")

lemma bindU64_eq_ok_iff (value bound : ℕ) :
    bindU64 value = .ok bound ↔ value = bound ∧ bound < 2 ^ 63 := by
  unfold bindU64
  split_ifs with hrange
  · constructor
    · intro h
      obtain rfl := Outcome.ok.inj h
      exact ⟨rfl, hrange⟩
    · rintro ⟨rfl, _⟩
      rfl
  · simp only [false_iff, not_and]
    rintro rfl
    exact hrange

/-- Runs a transaction: what it commits stays, with the answer it returns; an error or a panic
before the commit leaves the database as it was. -/
def transaction {Blob α : Type} (db : Database Blob)
    (body : Database Blob → Outcome LifecycleError (Database Blob × Outcome LifecycleError α)) :
    Database Blob × Outcome LifecycleError α :=
  match body db with
  | .ok committed => committed
  | .err error => (db, .err error)
  | .panicked => (db, .panicked)

namespace SqliteLifecyclePersistence

variable {Blob : Type}

/-- The adapter with a bound of at least two events. -/
def openWith (maxEvents terminalStatusTtlMs : ℕ) : SqliteLifecyclePersistence where
  maxEvents := max maxEvents 2
  terminalStatusTtlMs := terminalStatusTtlMs

section Sync

variable (backend : Backend Blob) (store : SqliteLifecyclePersistence) (db : Database Blob)
  {taskId : String} {row : TaskRow}

def readEvent (row : EventRow Blob) : Outcome LifecycleError LifecycleEvent :=
  match backend.fromSlice row.detailJson with
  | .ok detail => .ok
    { taskId := row.taskId
      sequence := row.sequence
      state := row.state
      isFinal := row.isFinal ≠ 0
      observedAtMs := row.observedAtMs
      detail := detail }
  | .error message => .err (.storage message)

/-- The rows of the event query, up to the first that cannot be read. -/
def readEvents : List (EventRow Blob) → Outcome LifecycleError (List LifecycleEvent)
  | [] => .ok []
  | row :: rest => do
    let event ← readEvent backend row
    let events ← readEvents rest
    .ok (event :: events)

def loadRecord (db : Database Blob) (taskId : String) :
    Outcome LifecycleError LifecycleRecord := do
  let task ← .okOr .unknownTask (db.tasks.find? taskId)
  let events ← readEvents backend
    ((db.eventsOf taskId).insertionSort fun first second ↦ first.sequence ≤ second.sequence)
  if events.isEmpty then .err (.storage "task has no lifecycle events")
  else .ok (task.record events)

/-- The statements of a submission that creates a task. -/
def createTask (tx : Database Blob) (taskId idempotencyKey requestDigest : String) (now : ℕ) :
    Outcome LifecycleError (Database Blob × Outcome LifecycleError (LifecycleRecord × Bool)) := do
  let observed ← bindU64 now
  let tx ← tx.insertTask ⟨taskId, idempotencyKey, requestDigest, "accepted", 0, observed⟩
  let tx ← tx.insertEvent ⟨taskId, 0, "accepted", 0, observed, backend.braces⟩
  let record ← loadRecord backend tx taskId
  .ok (tx, .ok (record, true))

def submitSync (db : Database Blob) (taskId idempotencyKey requestDigest : String) (now : ℕ) :
    Database Blob × Outcome LifecycleError (LifecycleRecord × Bool) :=
  transaction db fun tx ↦
    match (backend.scan taskId idempotencyKey tx.tasks.rows).find? fun row ↦
      row.taskId = taskId ∨ row.idempotencyKey = idempotencyKey with
    | some existing =>
      if (existing.taskId, existing.idempotencyKey, existing.requestDigest) ≠
          (taskId, idempotencyKey, requestDigest) then
        .err (.conflict "task or idempotency identifier reused for different content")
      else do
        let record ← loadRecord backend tx taskId
        .ok (tx, .ok (record, false))
    | none => createTask backend tx taskId idempotencyKey requestDigest now

def statusSync (store : SqliteLifecyclePersistence) (db : Database Blob) (taskId : String)
    (now : ℕ) : Database Blob × Outcome LifecycleError LifecycleRecord :=
  transaction db fun tx ↦ do
    let row ← .okOr .unknownTask (tx.tasks.find? taskId)
    if terminal row.state && decide (store.terminalStatusTtlMs < now - row.updatedAtMs) then
      .ok (tx.deleteTask taskId, .err .unknownTask)
    else do
      let record ← loadRecord backend tx taskId
      .ok (tx, .ok record)

/-- The statements of a transition that is legal. -/
def moveTask (store : SqliteLifecyclePersistence) (tx : Database Blob) (taskId state : String)
    (latestSequence : ℕ) (detail : Json) (now : ℕ) :
    Outcome LifecycleError (Database Blob × Outcome LifecycleError LifecycleEvent) := do
  let sequence ← addU64 latestSequence 1
  let sequence ← bindU64 sequence
  let observed ← bindU64 now
  let tx := tx.updateTask taskId state sequence observed
  let tx ← tx.insertEvent
    ⟨taskId, sequence, state, if terminal state then 1 else 0, observed, backend.toVec detail⟩
  let cutoff ← bindU64 (sequence - (store.maxEvents - 1))
  let tx := tx.deleteEventsBefore taskId cutoff
  .ok (tx, .ok (transitionEvent taskId sequence state now detail))

def transitionSync (store : SqliteLifecyclePersistence) (db : Database Blob)
    (taskId requestedState : String) (given : Json) (now : ℕ) :
    Database Blob × Outcome LifecycleError LifecycleEvent :=
  let state := canonicalState requestedState
  match contentFreeDetail given with
  | .ok detail => transaction db fun tx ↦ do
    let current ← .okOr .unknownTask (tx.tasks.find? taskId)
    if legalTransition current.state state = false then
      .err (.conflict ("illegal transition " ++ current.state ++ " -> " ++ state))
    else moveTask backend store tx taskId state current.latestSequence detail now
  | .err error => (db, .err error)
  | .panicked => (db, .panicked)

/-- The adapter as an implementation of the storage port. -/
def sqlitePersistence (store : SqliteLifecyclePersistence) :
    Object LifecyclePersistence (Database Blob)
  | .submit taskId idempotencyKey requestDigest now, db =>
    submitSync backend db taskId idempotencyKey requestDigest now
  | .status taskId now, db => statusSync backend store db taskId now
  | .transition taskId requestedState detail now, db =>
    transitionSync backend store db taskId requestedState detail now

def eventsAfterSync (store : SqliteLifecyclePersistence) (db : Database Blob) (taskId : String)
    (afterSequence : Int64) (now : ℕ) :
    Database Blob × Outcome LifecycleError (List LifecycleEvent) :=
  (eventsAfterProg taskId afterSequence now).run (sqlitePersistence backend store) db

/-! ### Reading back what was written -/

def rowOf (event : LifecycleEvent) : EventRow Blob where
  taskId := event.taskId
  sequence := event.sequence
  state := event.state
  isFinal := if event.isFinal then 1 else 0
  observedAtMs := event.observedAtMs
  detailJson := backend.toVec event.detail

/-- An event whose detail has passed the filter. -/
def Admitted (event : LifecycleEvent) : Prop := ∃ given, contentFreeDetail given = .ok event.detail

variable {events : List LifecycleEvent}

/-- Assumes: events whose details have passed the filter. Their rows are read back as they were. -/
lemma readEvents_rowOf (hevents : ∀ event ∈ events, Admitted event) :
    readEvents backend (events.map (rowOf backend)) = .ok events := by
  induction events with
  | nil => rfl
  | cons event rest ih =>
    obtain ⟨⟨given, hdetail⟩, hrest⟩ := forall_mem_cons.mp hevents
    have hread : readEvent backend (rowOf backend event) = .ok event := by
      rw [readEvent, rowOf, backend.fromSlice_toVec given event.detail hdetail]
      cases event with
      | mk taskId sequence state isFinal => cases isFinal <;> rfl
    rw [map_cons, readEvents, hread, ok_bind, ih hrest]
    rfl

/-- Assumes: a task whose event rows were written from events in order of their numbers. Its record
is read back with those events. -/
lemma loadRecord_of_rows {db : Database Blob} (hrow : db.tasks.find? taskId = some row)
    (hrows : db.eventsOf taskId = events.map (rowOf backend))
    (hevents : ∀ event ∈ events, Admitted event) (hnonempty : events ≠ [])
    (hsorted : events.Pairwise fun first second ↦ first.sequence ≤ second.sequence) :
    loadRecord backend db taskId = .ok (row.record events) := by
  have hordered : ((events.map (rowOf backend)).insertionSort
      fun first second ↦ first.sequence ≤ second.sequence) = events.map (rowOf backend) := by
    refine Pairwise.insertionSort_eq (pairwise_map.mpr ?_)
    exact hsorted
  rw [loadRecord, hrow, okOr_some, ok_bind, hrows, hordered,
    readEvents_rowOf backend hevents, ok_bind, if_neg]
  simpa using hnonempty

/-! ### What each operation can do -/

def durableRecord (taskId idempotencyKey requestDigest : String) (now : ℕ) : LifecycleRecord :=
  { acceptedRecord taskId idempotencyKey requestDigest now with
    events := [{ acceptedEvent taskId now with detail := .object [] }] }

/-- Running a transaction that only reads. -/
lemma transaction_read {α : Type} (read : Outcome LifecycleError α) :
    transaction db (fun tx ↦ read >>= fun value ↦ .ok (tx, .ok value)) = (db, read) := by
  cases read <;> rfl

/-- A submission finds a row with its task id or its key, or no such row. -/
lemma scan_cases (taskId idempotencyKey : String) :
    (∃ row ∈ db.tasks.rows, (row.taskId = taskId ∨ row.idempotencyKey = idempotencyKey) ∧
        ((backend.scan taskId idempotencyKey db.tasks.rows).find? fun row ↦
          row.taskId = taskId ∨ row.idempotencyKey = idempotencyKey) = some row) ∨
      (db.tasks.find? taskId = none ∧
        idempotencyKey ∉ db.tasks.rows.map TaskRow.idempotencyKey ∧
        ((backend.scan taskId idempotencyKey db.tasks.rows).find? fun row ↦
          row.taskId = taskId ∨ row.idempotencyKey = idempotencyKey) = none) := by
  have hperm := backend.scan_perm taskId idempotencyKey db.tasks.rows
  cases hfound : (backend.scan taskId idempotencyKey db.tasks.rows).find? fun row ↦
      row.taskId = taskId ∨ row.idempotencyKey = idempotencyKey with
  | some row =>
    refine .inl ⟨row, hperm.mem_iff.mp (mem_of_find?_eq_some hfound), ?_, rfl⟩
    simpa using find?_some hfound
  | none =>
    have hnone : ∀ row ∈ db.tasks.rows,
        ¬ (row.taskId = taskId ∨ row.idempotencyKey = idempotencyKey) := by
      intro row hrow
      simpa using find?_eq_none.mp hfound row (hperm.mem_iff.mpr hrow)
    refine .inr ⟨?_, ?_, rfl⟩
    · rw [Table.find?_eq_none_iff, mem_map]
      rintro ⟨row, hrow, hsame⟩
      exact hnone row hrow (.inl hsame)
    · rw [mem_map]
      rintro ⟨row, hrow, hsame⟩
      exact hnone row hrow (.inr hsame)

variable {idempotencyKey : String}

/-- A row that a submission finds is the stored submission, or clashes with it. -/
lemma found_row_cases (hrow : row ∈ db.tasks.rows)
    (hmatch : row.taskId = taskId ∨ row.idempotencyKey = idempotencyKey) (requestDigest : String) :
    (db.tasks.find? taskId = some row ∧ row.idempotencyKey = idempotencyKey ∧
        row.requestDigest = requestDigest) ∨
      (row.taskId, row.idempotencyKey, row.requestDigest) ≠
          (taskId, idempotencyKey, requestDigest) ∧
        ((∃ other, db.tasks.find? taskId = some other ∧
            (other.idempotencyKey ≠ idempotencyKey ∨ other.requestDigest ≠ requestDigest)) ∨
          db.tasks.find? taskId = none ∧
            idempotencyKey ∈ db.tasks.rows.map TaskRow.idempotencyKey) := by
  by_cases hsame : (row.taskId, row.idempotencyKey, row.requestDigest) =
      (taskId, idempotencyKey, requestDigest)
  · simp only [Prod.mk.injEq] at hsame
    exact .inl ⟨(db.tasks.find?_eq_some_iff taskId row).mpr ⟨hrow, hsame.1⟩, hsame.2⟩
  · refine .inr ⟨hsame, ?_⟩
    by_cases htask : row.taskId = taskId
    · refine .inl ⟨row, (db.tasks.find?_eq_some_iff taskId row).mpr ⟨hrow, htask⟩, ?_⟩
      by_contra hequal
      push Not at hequal
      exact hsame (by rw [htask, hequal.1, hequal.2])
    · have hkey : row.idempotencyKey = idempotencyKey := hmatch.resolve_left htask
      cases hfind : db.tasks.find? taskId with
      | none => exact .inr ⟨rfl, mem_map.mpr ⟨row, hrow, hkey⟩⟩
      | some other =>
        obtain ⟨hother, hid⟩ := (db.tasks.find?_eq_some_iff taskId other).mp hfind
        refine .inl ⟨other, rfl, .inl fun hclash ↦ htask ?_⟩
        rw [inj_on_of_nodup_map db.keys hrow hother (hkey.trans hclash.symm), hid]

/-- The rows of one task have become these, and those of the other tasks are as before. -/
structure TaskChanged (db next : Database Blob) (taskId : String) (row : TaskRow)
    (rows : List (EventRow Blob)) : Prop where
  find : ∀ other, next.tasks.find? other =
    if other = taskId then some row else db.tasks.find? other
  events : ∀ other, next.eventsOf other = if other = taskId then rows else db.eventsOf other

variable {now : ℕ}

lemma createTask_of_absent {db : Database Blob} (habsent : db.tasks.find? taskId = none)
    (hkey : idempotencyKey ∉ db.tasks.rows.map TaskRow.idempotencyKey) (requestDigest : String)
    (hnow : now < 2 ^ 63) :
    ∃ next, createTask backend db taskId idempotencyKey requestDigest now =
        .ok (next, .ok (durableRecord taskId idempotencyKey requestDigest now, true)) ∧
      TaskChanged db next taskId ⟨taskId, idempotencyKey, requestDigest, "accepted", 0, now⟩
        ((durableRecord taskId idempotencyKey requestDigest now).events.map (rowOf backend)) := by
  obtain ⟨created, hcreated, _, hfind, hevents⟩ := db.insertTask_of_fresh
    ⟨taskId, idempotencyKey, requestDigest, "accepted", 0, now⟩ habsent hkey
  have hempty : created.eventsOf taskId = [] := by
    rw [hevents, db.eventsOf_of_absent habsent]
  obtain ⟨next, hnext, htasks, hrows⟩ := created.insertEvent_of_fresh
    ⟨taskId, 0, "accepted", 0, now, backend.braces⟩ (by simp [hfind]) (by simp [hempty])
  have hchanged : TaskChanged db next taskId
      ⟨taskId, idempotencyKey, requestDigest, "accepted", 0, now⟩
      ((durableRecord taskId idempotencyKey requestDigest now).events.map (rowOf backend)) := by
    refine ⟨fun other ↦ by rw [htasks, hfind], fun other ↦ ?_⟩
    rw [hrows, hevents]
    split_ifs with hsame
    · rw [hsame, db.eventsOf_of_absent habsent, backend.braces_eq]
      rfl
    · rfl
  have hload : loadRecord backend next taskId =
      .ok (durableRecord taskId idempotencyKey requestDigest now) := by
    refine loadRecord_of_rows backend ((hchanged.find taskId).trans (if_pos rfl))
      ((hchanged.events taskId).trans (if_pos rfl)) ?_ (cons_ne_nil _ _)
      (pairwise_singleton _ _)
    intro event hevent
    obtain rfl := mem_singleton.mp hevent
    exact ⟨.null, rfl⟩
  refine ⟨next, ?_, hchanged⟩
  rw [createTask, bindU64, if_pos hnow, ok_bind, hcreated, ok_bind, hnext, ok_bind, hload]
  rfl

/-- `submit_sync` answers with the stored record, refuses, fails on the clock reading, or creates a
record. -/
lemma submitSync_cases (taskId idempotencyKey requestDigest : String) (now : ℕ) :
    let run := submitSync backend db taskId idempotencyKey requestDigest now
    let created := durableRecord taskId idempotencyKey requestDigest now
    (∃ row, db.tasks.find? taskId = some row ∧ row.idempotencyKey = idempotencyKey ∧
        row.requestDigest = requestDigest ∧
        run = (db, loadRecord backend db taskId >>= fun record ↦ .ok (record, false))) ∨
      (((∃ row, db.tasks.find? taskId = some row ∧
            (row.idempotencyKey ≠ idempotencyKey ∨ row.requestDigest ≠ requestDigest)) ∨
          db.tasks.find? taskId = none ∧
            idempotencyKey ∈ db.tasks.rows.map TaskRow.idempotencyKey) ∧
        run = (db, .err
          (.conflict "task or idempotency identifier reused for different content"))) ∨
      (db.tasks.find? taskId = none ∧
        idempotencyKey ∉ db.tasks.rows.map TaskRow.idempotencyKey ∧ 2 ^ 63 ≤ now ∧
        run = (db, .err (.storage "out of range integral type conversion attempted"))) ∨
      (db.tasks.find? taskId = none ∧
        idempotencyKey ∉ db.tasks.rows.map TaskRow.idempotencyKey ∧ now < 2 ^ 63 ∧
        ∃ next, run = (next, .ok (created, true)) ∧
          TaskChanged db next taskId ⟨taskId, idempotencyKey, requestDigest, "accepted", 0, now⟩
            (created.events.map (rowOf backend))) := by
  dsimp only
  obtain ⟨row, hrow, hmatch, hscan⟩ | ⟨habsent, hkey, hscan⟩ :=
    scan_cases backend db taskId idempotencyKey
  · obtain ⟨hfind, hkey, hdigest⟩ | ⟨hdiffers, hclash⟩ :=
      found_row_cases db hrow hmatch requestDigest
    · refine .inl ⟨row, hfind, hkey, hdigest, ?_⟩
      have hid := ((db.tasks.find?_eq_some_iff taskId row).mp hfind).2
      simp only [submitSync, transaction, hscan, hid, hkey, hdigest, ne_eq, not_true_eq_false,
        ↓reduceIte]
      cases loadRecord backend db taskId <;> rfl
    · refine .inr (.inl ⟨hclash, ?_⟩)
      simp only [submitSync, transaction, hscan, if_pos hdiffers]
  · by_cases hnow : now < 2 ^ 63
    · obtain ⟨next, hnext, hchanged⟩ :=
        createTask_of_absent backend habsent hkey requestDigest hnow
      refine .inr (.inr (.inr ⟨habsent, hkey, hnow, next, ?_, hchanged⟩))
      simp only [submitSync, transaction, hscan, hnext]
    · refine .inr (.inr (.inl ⟨habsent, hkey, not_lt.mp hnow, ?_⟩))
      simp only [submitSync, transaction, hscan, createTask, bindU64, if_neg hnow, err_bind]

/-- `status_sync` finds no task, removes an expired one, or reads the record. -/
lemma statusSync_cases (taskId : String) (now : ℕ) :
    let run := statusSync backend store db taskId now
    (db.tasks.find? taskId = none ∧ run = (db, .err .unknownTask)) ∨
      (∃ row, db.tasks.find? taskId = some row ∧
        (terminal row.state && decide (store.terminalStatusTtlMs < now - row.updatedAtMs)) ∧
        run = (db.deleteTask taskId, .err .unknownTask)) ∨
      (∃ row, db.tasks.find? taskId = some row ∧
        (terminal row.state && decide (store.terminalStatusTtlMs < now - row.updatedAtMs)) = false ∧
        run = (db, loadRecord backend db taskId)) := by
  dsimp only
  unfold statusSync
  cases hrow : db.tasks.find? taskId with
  | none => exact .inl ⟨rfl, by simp [transaction, hrow]⟩
  | some row =>
    cases hexpired : terminal row.state &&
        decide (store.terminalStatusTtlMs < now - row.updatedAtMs) with
    | true =>
      refine .inr (.inl ⟨row, rfl, hexpired, ?_⟩)
      simp only [transaction, hrow, okOr_some, ok_bind, hexpired, ↓reduceIte]
    | false =>
      refine .inr (.inr ⟨row, rfl, hexpired, ?_⟩)
      rw [← transaction_read db (loadRecord backend db taskId)]
      simp only [transaction, hrow, okOr_some, ok_bind, hexpired, Bool.false_eq_true, ↓reduceIte]

/-- The statements of a legal transition move the task, add the event and delete the events before
the cutoff. -/
lemma moveTask_of_fresh {db : Database Blob} (hrow : db.tasks.find? taskId = some row)
    (state : String) (detail : Json) (hsequence : row.latestSequence + 1 < 2 ^ 63)
    (hnow : now < 2 ^ 63)
    (hfresh : ∀ event ∈ db.eventsOf taskId, event.sequence ≠ row.latestSequence + 1) :
    let emitted := transitionEvent taskId (row.latestSequence + 1) state now detail
    ∃ next, moveTask backend store db taskId state row.latestSequence detail now =
        .ok (next, .ok emitted) ∧
      TaskChanged db next taskId (row.moveTo state (row.latestSequence + 1) now)
        ((db.eventsOf taskId ++ [rowOf backend emitted]).filter fun event ↦
          row.latestSequence + 1 - (store.maxEvents - 1) ≤ event.sequence) := by
  intro emitted
  have hcutoff : row.latestSequence + 1 - (store.maxEvents - 1) < 2 ^ 63 := by omega
  obtain ⟨inserted, hinserted, htasks, hevents⟩ :=
    (db.updateTask taskId state (row.latestSequence + 1) now).insertEvent_of_fresh
      (rowOf backend emitted)
      (by simp [emitted, rowOf, transitionEvent, Database.find?_updateTask, hrow]) hfresh
  refine ⟨inserted.deleteEventsBefore taskId (row.latestSequence + 1 - (store.maxEvents - 1)),
    ?_, ?_, ?_⟩
  · have hwritten : (⟨taskId, row.latestSequence + 1, state, if terminal state then 1 else 0, now,
        backend.toVec detail⟩ : EventRow Blob) = rowOf backend emitted := rfl
    rw [moveTask, addU64_of_lt (by omega), ok_bind, bindU64, if_pos hsequence, ok_bind, bindU64,
      if_pos hnow, ok_bind]
    dsimp only
    rw [hwritten, hinserted, ok_bind, bindU64, if_pos hcutoff]
    rfl
  · intro other
    rw [Database.tasks_deleteEventsBefore, htasks, Database.find?_updateTask]
    split_ifs with hsame
    · rw [hsame, hrow, Option.map_some]
    · rfl
  · intro other
    have hadded : inserted.eventsOf other = if other = taskId then
        db.eventsOf other ++ [rowOf backend emitted] else db.eventsOf other := hevents other
    rw [Database.eventsOf_deleteEventsBefore, hadded]
    split_ifs with hsame
    · rw [hsame]
    · rfl

/-- The statements of a legal transition succeed only on values in range and with no event row with
the next number. -/
lemma moveTask_eq_ok {store : SqliteLifecyclePersistence} {db : Database Blob} {state : String}
    {latestSequence : ℕ} {detail : Json}
    {result : Database Blob × Outcome LifecycleError LifecycleEvent}
    (hmove : moveTask backend store db taskId state latestSequence detail now = .ok result) :
    latestSequence + 1 < 2 ^ 63 ∧ now < 2 ^ 63 ∧
      ∀ event ∈ db.eventsOf taskId, event.sequence ≠ latestSequence + 1 := by
  obtain ⟨_, hsum, hmove⟩ := (bind_eq_ok_iff _ _ _).mp hmove
  obtain ⟨_, hsequence, hmove⟩ := (bind_eq_ok_iff _ _ _).mp hmove
  obtain ⟨_, hobserved, hmove⟩ := (bind_eq_ok_iff _ _ _).mp hmove
  obtain ⟨_, hinserted, _⟩ := (bind_eq_ok_iff _ _ _).mp hmove
  obtain ⟨rfl, _⟩ := (addU64_eq_ok_iff _ _ _).mp hsum
  obtain ⟨rfl, hrange⟩ := (bindU64_eq_ok_iff _ _).mp hsequence
  obtain ⟨rfl, hnow⟩ := (bindU64_eq_ok_iff _ _).mp hobserved
  exact ⟨hrange, hnow, Database.insertEvent_eq_ok hinserted⟩

/-- `transition_sync` refuses the detail, finds no task, refuses the transition, fails in its
statements, or moves the task. Only the last changes the database or succeeds. -/
lemma transitionSync_cases (taskId requestedState : String) (given : Json) (now : ℕ) :
    let run := transitionSync backend store db taskId requestedState given now
    let target := canonicalState requestedState
    (∃ message, contentFreeDetail given = .err (.conflict message) ∧
        run = (db, .err (.conflict message))) ∨
      (∃ detail, contentFreeDetail given = .ok detail ∧ db.tasks.find? taskId = none ∧
        run = (db, .err .unknownTask)) ∨
      (∃ detail row, contentFreeDetail given = .ok detail ∧ db.tasks.find? taskId = some row ∧
        legalTransition row.state target = false ∧
        run = (db, .err (.conflict ("illegal transition " ++ row.state ++ " -> " ++ target)))) ∨
      (∃ detail row, contentFreeDetail given = .ok detail ∧ db.tasks.find? taskId = some row ∧
        legalTransition row.state target ∧
        (2 ^ 63 ≤ row.latestSequence + 1 ∨ 2 ^ 63 ≤ now ∨
          ∃ event ∈ db.eventsOf taskId, event.sequence = row.latestSequence + 1) ∧
        ∃ reply, (∀ event, reply ≠ .ok event) ∧
          run = (db, reply)) ∨
      (∃ detail row next event, contentFreeDetail given = .ok detail ∧
        db.tasks.find? taskId = some row ∧
        legalTransition row.state target ∧
        row.latestSequence + 1 < 2 ^ 63 ∧ now < 2 ^ 63 ∧
        event = transitionEvent taskId (row.latestSequence + 1) target now detail ∧
        run = (next, .ok event) ∧
        TaskChanged db next taskId (row.moveTo target (row.latestSequence + 1) now)
          ((db.eventsOf taskId ++ [rowOf backend event]).filter fun stored ↦
            row.latestSequence + 1 - (store.maxEvents - 1) ≤ stored.sequence)) := by
  dsimp only
  obtain ⟨fields, hdetail⟩ | ⟨message, hrefused⟩ := contentFreeDetail_cases given
  · cases hrow : db.tasks.find? taskId with
    | none =>
      refine .inr (.inl ⟨_, hdetail, rfl, ?_⟩)
      simp only [transitionSync, hdetail, transaction, hrow, okOr_none, err_bind]
    | some row =>
      cases hlegal : legalTransition row.state (canonicalState requestedState) with
      | false =>
        refine .inr (.inr (.inl ⟨_, row, hdetail, rfl, hlegal, ?_⟩))
        simp only [transitionSync, hdetail, transaction, hrow, okOr_some,
          ok_bind, hlegal, ↓reduceIte]
      | true =>
        have hrun : transitionSync backend store db taskId requestedState given now =
            transaction db fun tx ↦ moveTask backend store tx taskId
              (canonicalState requestedState) row.latestSequence (.object fields) now := by
          simp only [transitionSync, hdetail, transaction, hrow, okOr_some,
            ok_bind, hlegal, Bool.true_eq_false, ↓reduceIte]
        by_cases hgood : row.latestSequence + 1 < 2 ^ 63 ∧ now < 2 ^ 63 ∧
            ∀ event ∈ db.eventsOf taskId, event.sequence ≠ row.latestSequence + 1
        · obtain ⟨hsequence, hnow, hfresh⟩ := hgood
          obtain ⟨next, hnext, hchanged⟩ := moveTask_of_fresh backend store hrow
            (canonicalState requestedState) (.object fields) hsequence hnow hfresh
          refine .inr (.inr (.inr (.inr ⟨_, row, next, _, hdetail, rfl, hlegal, hsequence,
            hnow, rfl, ?_, hchanged⟩)))
          rw [hrun, transaction, hnext]
        · refine .inr (.inr (.inr (.inl ⟨_, row, hdetail, rfl, hlegal, ?_, ?_⟩)))
          · by_contra hbad
            push Not at hbad
            exact hgood hbad
          · rw [hrun, transaction]
            cases hmove : moveTask backend store db taskId (canonicalState requestedState)
                row.latestSequence (.object fields) now with
            | ok => exact absurd (moveTask_eq_ok backend hmove) hgood
            | err error => exact ⟨.err error, by simp, rfl⟩
            | panicked => exact ⟨.panicked, by simp, rfl⟩
  · refine .inl ⟨message, hrefused, ?_⟩
    simp only [transitionSync, hrefused]

end Sync

end SqliteLifecyclePersistence

end Iicp.Lifecycle
