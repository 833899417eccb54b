import Iicp.Lifecycle.SqliteInvariant

/-!
# The SQLite store against the in-memory store

Both stores get the same calls at the same clock readings. Their replies agree when they are of the
same kind, with the same created flags, records and events, where the detail of a durable event is
the content-free form of the in-memory one, and conflicts may differ in their texts (`ReplyAgrees`).

`Mirrors` relates the two stores: each is coherent with its own log, the same tasks are stored with
the same keys and digests, and the histories of a stored task agree event by event. Each operation
keeps the relation and gets agreeing answers (`Mirrors.submit`, `Mirrors.status`,
`Mirrors.transition`), as long as the readings and the sequence numbers fit the signed columns; so
does every run (`sqlite_agrees_with_memory`).
-/

namespace Iicp.Lifecycle

open Rust Concurrent Window LifecycleStore SqliteLifecyclePersistence Database List

/-! ### Agreement of replies -/

/-- A durable event agrees with an in-memory one: all fields are the same, the detail in its
content-free form. -/
structure EventAgrees (memory durable : LifecycleEvent) : Prop where
  taskId : durable.taskId = memory.taskId
  sequence : durable.sequence = memory.sequence
  state : durable.state = memory.state
  isFinal : durable.isFinal = memory.isFinal
  observedAtMs : durable.observedAtMs = memory.observedAtMs
  detail : contentFreeDetail memory.detail = .ok durable.detail

/-- A durable record agrees with an in-memory one, with agreeing events. -/
structure RecordAgrees (memory durable : LifecycleRecord) : Prop where
  taskId : durable.taskId = memory.taskId
  idempotencyKey : durable.idempotencyKey = memory.idempotencyKey
  requestDigest : durable.requestDigest = memory.requestDigest
  state : durable.state = memory.state
  updatedAtMs : durable.updatedAtMs = memory.updatedAtMs
  latestSequence : durable.latestSequence = memory.latestSequence
  events : Forall₂ EventAgrees memory.events durable.events

/-- Errors of the same variant; only the texts of conflicts and storage errors may differ. -/
def ErrorAgrees : LifecycleError → LifecycleError → Prop
  | .conflict _, .conflict _ => True
  | .unknownTask, .unknownTask => True
  | .resumeUnavailable state latest, .resumeUnavailable durableState durableLatest =>
    durableState = state ∧ durableLatest = latest
  | .storage _, .storage _ => True
  | _, _ => False

/-- Outcomes of the same kind with agreeing values or errors. -/
def OutcomeAgrees {α : Type} (agrees : α → α → Prop) :
    Outcome LifecycleError α → Outcome LifecycleError α → Prop
  | .ok memory, .ok durable => agrees memory durable
  | .err memory, .err durable => ErrorAgrees memory durable
  | .panicked, .panicked => True
  | _, _ => False

lemma OutcomeAgrees.cases {α : Type} {agrees : α → α → Prop}
    {memory durable : Outcome LifecycleError α} (houtcome : OutcomeAgrees agrees memory durable) :
    (∃ value counterpart, memory = .ok value ∧ durable = .ok counterpart ∧
        agrees value counterpart) ∨
      (∃ error counterpart, memory = .err error ∧ durable = .err counterpart ∧
        ErrorAgrees error counterpart) ∨
      (memory = .panicked ∧ durable = .panicked) := by
  unfold OutcomeAgrees at houtcome
  split at houtcome
  · exact .inl ⟨_, _, rfl, rfl, houtcome⟩
  · exact .inr (.inl ⟨_, _, rfl, rfl, houtcome⟩)
  · exact .inr (.inr ⟨rfl, rfl⟩)
  · exact houtcome.elim

/-- Agreeing records with the same created flag. -/
def SubmitAgrees (memory durable : LifecycleRecord × Bool) : Prop :=
  RecordAgrees memory.1 durable.1 ∧ durable.2 = memory.2

/-- Replies of the same kind that agree. -/
def ReplyAgrees : Reply → Reply → Prop
  | .submitted memory, .submitted durable => OutcomeAgrees SubmitAgrees memory durable
  | .record memory, .record durable => OutcomeAgrees RecordAgrees memory durable
  | .event memory, .event durable => OutcomeAgrees EventAgrees memory durable
  | .events memory, .events durable => OutcomeAgrees (Forall₂ EventAgrees) memory durable
  | _, _ => False

/-- Answers to an operation that agree. -/
def AnswerAgrees : (op : LifecyclePersistence.Op) → LifecyclePersistence.Res op →
    LifecyclePersistence.Res op → Prop
  | .submit _ _ _ _ => OutcomeAgrees SubmitAgrees
  | .status _ _ => OutcomeAgrees RecordAgrees
  | .transition _ _ _ _ => OutcomeAgrees EventAgrees

lemma RecordAgrees.replay {memory durable : LifecycleRecord} (hrecord : RecordAgrees memory durable)
    (afterSequence : Int64) :
    OutcomeAgrees (Forall₂ EventAgrees) (replay memory afterSequence)
      (replay durable afterSequence) := by
  have hfirst : durable.firstSequence = memory.firstSequence := by
    have hevents := hrecord.events
    unfold LifecycleRecord.firstSequence
    generalize memory.events = events at hevents ⊢
    generalize durable.events = counterparts at hevents ⊢
    cases hevents with
    | nil => rfl
    | cons hevent => exact hevent.sequence
  unfold Lifecycle.replay
  rw [hfirst, hrecord.state, hrecord.latestSequence]
  split_ifs
  · exact ⟨rfl, rfl⟩
  · show Forall₂ EventAgrees (filter _ _) (filter _ _)
    refine rel_filter ?_ hrecord.events
    intro event counterpart hevent
    simp only [hevent.sequence]

/-! ### The relation between the stores -/

section Relation

variable {Blob : Type} (backend : Backend Blob) (store : SqliteLifecyclePersistence)

/-- A task is in neither store, or in both with the same key and digest and with histories that
agree and are at most `count` events long. -/
def Paired (count : ℕ) (memory : LoggedStore) (durable : LoggedDatabase Blob)
    (taskId : String) : Prop :=
  (memory.1.get taskId = none ∧ durable.1.tasks.find? taskId = none) ∨
    ∃ record row, memory.1.get taskId = some record ∧ durable.1.tasks.find? taskId = some row ∧
      row.idempotencyKey = record.idempotencyKey ∧ row.requestDigest = record.requestDigest ∧
      Forall₂ EventAgrees (emitted taskId memory.2) (emitted taskId durable.2) ∧
      (emitted taskId memory.2).length ≤ count

/-- Both stores are coherent with their own logs, have the same settings, and hold the same tasks.
-/
structure Mirrors (count : ℕ) (memory : LoggedStore) (durable : LoggedDatabase Blob) : Prop where
  memory_coherent : Coherent store.maxEvents memory
  durable_coherent : SqlCoherent backend store.maxEvents durable
  ttl_eq : memory.1.terminalStatusTtlMs = store.terminalStatusTtlMs
  paired : ∀ taskId, Paired count memory durable taskId

/-- The rows of a task carry what its in-memory record carries, and the record that is read from
them agrees with it. -/
structure Twin (count : ℕ) (memory : LoggedStore) (durable : LoggedDatabase Blob)
    (taskId : String) (record : LifecycleRecord) (row : TaskRow) : Prop where
  idempotencyKey : row.idempotencyKey = record.idempotencyKey
  requestDigest : row.requestDigest = record.requestDigest
  state : row.state = record.state
  updatedAtMs : row.updatedAtMs = record.updatedAtMs
  latestSequence : row.latestSequence = record.latestSequence
  counted : record.latestSequence + 1 ≤ count
  histories : Forall₂ EventAgrees (emitted taskId memory.2) (emitted taskId durable.2)
  loaded : loadRecord backend durable.1 taskId =
    .ok (row.record ((emitted taskId durable.2).rtake store.maxEvents))
  agrees : RecordAgrees record (row.record ((emitted taskId durable.2).rtake store.maxEvents))

/-- An operation gets agreeing answers and leaves stores that mirror each other. -/
def StepsAlike (count : ℕ) (op : LifecyclePersistence.Op) (memory : LoggedStore)
    (durable : LoggedDatabase Blob) : Prop :=
  AnswerAgrees op (logged lifecycleStore op memory).2
      (logged (sqlitePersistence backend store) op durable).2 ∧
    Mirrors backend store count (logged lifecycleStore op memory).1
      (logged (sqlitePersistence backend store) op durable).1

/-- A program ends with agreeing outcomes in stores that mirror each other. -/
def RunsAlike {α : Type} (agrees : α → α → Prop) (count : ℕ)
    (prog : Prog LifecyclePersistence (Outcome LifecycleError α)) (memory : LoggedStore)
    (durable : LoggedDatabase Blob) : Prop :=
  OutcomeAgrees agrees (prog.run (logged lifecycleStore) memory).2
      (prog.run (logged (sqlitePersistence backend store)) durable).2 ∧
    Mirrors backend store count (prog.run (logged lifecycleStore) memory).1
      (prog.run (logged (sqlitePersistence backend store)) durable).1

variable {backend store} {count larger : ℕ} {memory : LoggedStore} {durable : LoggedDatabase Blob}

/-- A pair with the same stored rows and histories as before. -/
lemma Paired.of_eq {taskId : String} (hpaired : Paired count memory durable taskId)
    (hcount : count ≤ larger) {nextMemory : LoggedStore} {nextDurable : LoggedDatabase Blob}
    (hget : nextMemory.1.get taskId = memory.1.get taskId)
    (hfind : nextDurable.1.tasks.find? taskId = durable.1.tasks.find? taskId)
    (hmemory : emitted taskId nextMemory.2 = emitted taskId memory.2)
    (hdurable : emitted taskId nextDurable.2 = emitted taskId durable.2) :
    Paired larger nextMemory nextDurable taskId := by
  unfold Paired at hpaired ⊢
  rw [hget, hfind, hmemory, hdurable]
  rcases hpaired with hnone | ⟨record, row, hrecord, hrow, hkey, hdigest, hevents, hlength⟩
  · exact .inl hnone
  · exact .inr ⟨record, row, hrecord, hrow, hkey, hdigest, hevents, hlength.trans hcount⟩

namespace Mirrors

lemma mono (hmirrors : Mirrors backend store count memory durable) (hcount : count ≤ larger) :
    Mirrors backend store larger memory durable where
  memory_coherent := hmirrors.memory_coherent
  durable_coherent := hmirrors.durable_coherent
  ttl_eq := hmirrors.ttl_eq
  paired := fun taskId ↦ (hmirrors.paired taskId).of_eq hcount rfl rfl rfl rfl

variable {row : TaskRow} (hmirrors : Mirrors backend store count memory durable)

include hmirrors

lemma keyInUse_iff (idempotencyKey : String) :
    memory.1.keyInUse idempotencyKey ↔
      idempotencyKey ∈ durable.1.tasks.rows.map TaskRow.idempotencyKey := by
  rw [LifecycleStore.keyInUse_iff, mem_map]
  constructor
  · rintro ⟨taskId, record, hget, rfl⟩
    obtain ⟨hnone, _⟩ | ⟨other, row, hother, hrow, hkey, _⟩ := hmirrors.paired taskId
    · rw [hget] at hnone
      exact absurd hnone (Option.some_ne_none record)
    · rw [hget] at hother
      obtain rfl := Option.some.inj hother
      exact ⟨row, ((durable.1.tasks.find?_eq_some_iff taskId row).mp hrow).1, hkey⟩
  · rintro ⟨row, hmem, rfl⟩
    have hrow := (durable.1.tasks.find?_eq_some_iff row.taskId row).mpr ⟨hmem, rfl⟩
    obtain ⟨_, hnone⟩ | ⟨record, _, hget, hother, hkey, _⟩ := hmirrors.paired row.taskId
    · rw [hrow] at hnone
      exact absurd hnone (Option.some_ne_none row)
    · rw [hrow] at hother
      obtain rfl := Option.some.inj hother
      exact ⟨row.taskId, record, hget, hkey.symm⟩

variable {taskId : String}

lemma get_eq_none (habsent : durable.1.tasks.find? taskId = none) : memory.1.get taskId = none := by
  obtain ⟨hnone, _⟩ | ⟨_, row, _, hrow, _⟩ := hmirrors.paired taskId
  · exact hnone
  · rw [habsent] at hrow
    exact absurd hrow.symm (Option.some_ne_none row)

variable (hbound : 0 < store.maxEvents)

include hbound

variable {record : LifecycleRecord}

/-- Assumes: a task that is stored in both. Its rows are the twin of its record. -/
lemma twin
    (hget : memory.1.get taskId = some record) (hrow : durable.1.tasks.find? taskId = some row) :
    Twin backend store count memory durable taskId record row := by
  have htracks := hmirrors.memory_coherent.tracks taskId record hget
  have hsql := hmirrors.durable_coherent taskId row hrow
  obtain ⟨hnone, _⟩ | ⟨_, _, hother, hstored, hkey, hdigest, hlogs, hlength⟩ :=
    hmirrors.paired taskId
  · rw [hget] at hnone
    exact absurd hnone (Option.some_ne_none record)
  rw [hget] at hother
  rw [hrow] at hstored
  obtain rfl := Option.some.inj hother
  obtain rfl := Option.some.inj hstored
  obtain ⟨_, hlast, hstate, htime⟩ := htracks.last
  obtain ⟨_, hcounterpart, hagrees⟩ := forall₂_getLast? hlogs hlast
  obtain ⟨_, hdurableLast, hrowState, hrowTime⟩ := hsql.last
  rw [hcounterpart] at hdurableLast
  obtain rfl := Option.some.inj hdurableLast
  have hlatest := htracks.latestSequence_add_one hbound
  have hrowLatest := hsql.latest
  have hloaded := (hsql.tracks hrow).latestSequence_add_one hbound
  have hlengths := hlogs.length_eq
  have hstates : row.state = record.state := by rw [← hrowState, hagrees.state, hstate]
  have htimes : row.updatedAtMs = record.updatedAtMs := by
    rw [← hrowTime, hagrees.observedAtMs, htime]
  exact
    { idempotencyKey := hkey
      requestDigest := hdigest
      state := hstates
      updatedAtMs := htimes
      latestSequence := by omega
      counted := by omega
      histories := hlogs
      loaded := hsql.loadRecord_eq hbound hrow
      agrees :=
        { taskId := (hsql.tracks hrow).taskId_eq.trans htracks.taskId_eq.symm
          idempotencyKey := hkey
          requestDigest := hdigest
          state := hstates
          updatedAtMs := htimes
          latestSequence := by omega
          events := by
            rw [htracks.window]
            exact forall₂_rtake hlogs store.maxEvents } }

/-- A task with rows has a record, and the rows are the twin of that record. -/
lemma exists_twin (hrow : durable.1.tasks.find? taskId = some row) :
    ∃ record, memory.1.get taskId = some record ∧
      Twin backend store count memory durable taskId record row := by
  obtain ⟨_, hnone⟩ | ⟨record, _, hget, _⟩ := hmirrors.paired taskId
  · rw [hrow] at hnone
    exact absurd hnone (Option.some_ne_none row)
  · exact ⟨record, hget, hmirrors.twin hbound hget hrow⟩

/-- One operation on both stores: coherence is kept by each, so only the tasks have to be paired. -/
lemma of_paired (op : LifecyclePersistence.Op)
    (hpaired : ∀ taskId, Paired larger (logged lifecycleStore op memory).1
      (logged (sqlitePersistence backend store) op durable).1 taskId) :
    Mirrors backend store larger (logged lifecycleStore op memory).1
      (logged (sqlitePersistence backend store) op durable).1 where
  memory_coherent := coherent_invariant hbound op memory hmirrors.memory_coherent
  durable_coherent := sqlCoherent_invariant hbound op durable hmirrors.durable_coherent
  ttl_eq := (terminalStatusTtlMs_step op memory.1).trans hmirrors.ttl_eq
  paired := hpaired

variable {op : LifecyclePersistence.Op}

/-- Assumes: an operation that changes neither store and emits nothing, and answers that agree. -/
lemma of_unchanged {answer durableAnswer : LifecyclePersistence.Res op}
    (hmemory : lifecycleStore op memory.1 = (memory.1, answer))
    (hdurable : sqlitePersistence backend store op durable.1 = (durable.1, durableAnswer))
    (hquiet : ∀ taskId past, emittedBy taskId past ⟨op, answer⟩ = past ∧
      emittedBy taskId past ⟨op, durableAnswer⟩ = past)
    (hanswers : AnswerAgrees op answer durableAnswer) (hcount : count ≤ larger) :
    StepsAlike backend store larger op memory durable := by
  refine ⟨by simpa only [logged, hmemory, hdurable] using hanswers,
    hmirrors.of_paired hbound op fun taskId ↦ (hmirrors.paired taskId).of_eq hcount ?_ ?_ ?_ ?_⟩
  · rw [logged_fst, hmemory]
  · rw [logged_fst, hdurable]
  · rw [logged_log, hmemory, emitted_concat, (hquiet taskId _).1]
  · rw [logged_log, hdurable, emitted_concat, (hquiet taskId _).2]

/-- Assumes: an operation that stores a record and its row, with the same key and digest and with
histories that agree, and that does nothing to the other tasks. -/
lemma of_stored {answer durableAnswer : LifecyclePersistence.Res op} {next : Database Blob}
    (hmemory : lifecycleStore op memory.1 = (memory.1.put taskId record, answer))
    (hdurable : sqlitePersistence backend store op durable.1 = (next, durableAnswer))
    (hfind : ∀ other, next.tasks.find? other =
      if other = taskId then some row else durable.1.tasks.find? other)
    (hkey : row.idempotencyKey = record.idempotencyKey)
    (hdigest : row.requestDigest = record.requestDigest)
    (hother : ∀ other past, other ≠ taskId → emittedBy other past ⟨op, answer⟩ = past ∧
      emittedBy other past ⟨op, durableAnswer⟩ = past) (hhistories : Forall₂ EventAgrees
      (emittedBy taskId (emitted taskId memory.2) ⟨op, answer⟩)
      (emittedBy taskId (emitted taskId durable.2) ⟨op, durableAnswer⟩))
    (hlength : (emittedBy taskId (emitted taskId memory.2) ⟨op, answer⟩).length ≤ count + 1)
    (hanswers : AnswerAgrees op answer durableAnswer) :
    StepsAlike backend store (count + 1) op memory durable := by
  refine ⟨by simpa only [logged, hmemory, hdurable] using hanswers,
    hmirrors.of_paired hbound op fun other ↦ ?_⟩
  by_cases hsame : other = taskId
  · subst hsame
    refine .inr ⟨record, row, ?_, ?_, hkey, hdigest, ?_, ?_⟩
    · rw [logged_fst, hmemory, get_put_self]
    · rw [logged_fst, hdurable, hfind, if_pos rfl]
    · rw [logged_log, logged_log, hmemory, hdurable, emitted_concat, emitted_concat]
      exact hhistories
    · rw [logged_log, hmemory, emitted_concat]
      exact hlength
  · refine (hmirrors.paired other).of_eq (Nat.le_succ count) ?_ ?_ ?_ ?_
    · rw [logged_fst, hmemory, get_put, if_neg hsame]
    · rw [logged_fst, hdurable, hfind, if_neg hsame]
    · rw [logged_log, hmemory, emitted_concat, (hother other _ hsame).1]
    · rw [logged_log, hdurable, emitted_concat, (hother other _ hsame).2]

/-! ### One operation on both stores -/

lemma submit (taskId idempotencyKey requestDigest : String) {now : ℕ} (hnow : now < 2 ^ 63) :
    StepsAlike backend store (count + 1) (.submit taskId idempotencyKey requestDigest now) memory
      durable := by
  obtain ⟨row, hrow, hkey, hdigest, hdurable⟩ | ⟨hclash, hdurable⟩ | ⟨_, _, hlarge, _⟩ |
    ⟨habsent, hkey, _, _, hdurable, hfind, _⟩ :=
    submitSync_cases backend durable.1 taskId idempotencyKey requestDigest now
  · obtain ⟨record, hget, htwin⟩ := hmirrors.exists_twin hbound hrow
    rw [htwin.loaded, Outcome.ok_bind] at hdurable
    have hmemory : memory.1.submit taskId idempotencyKey requestDigest now =
        (memory.1, .ok (record, false)) := by
      unfold LifecycleStore.submit
      rw [hget]
      simp [← htwin.idempotencyKey, ← htwin.requestDigest, hkey, hdigest]
    exact hmirrors.of_unchanged hbound hmemory hdurable (fun _ _ ↦ ⟨rfl, rfl⟩) ⟨htwin.agrees, rfl⟩
      (Nat.le_succ _)
  · have hmemory : ∃ message, memory.1.submit taskId idempotencyKey requestDigest now =
        (memory.1, .err (.conflict message)) := by
      unfold LifecycleStore.submit
      rcases hclash with ⟨row, hrow, hdiffers⟩ | ⟨habsent, htaken⟩
      · obtain ⟨_, hget, htwin⟩ := hmirrors.exists_twin hbound hrow
        rw [htwin.idempotencyKey, htwin.requestDigest] at hdiffers
        rw [hget]
        exact ⟨_, if_pos hdiffers⟩
      · rw [hmirrors.get_eq_none habsent]
        exact ⟨_, if_pos ((hmirrors.keyInUse_iff idempotencyKey).mpr htaken)⟩
    obtain ⟨_, hmemory⟩ := hmemory
    exact hmirrors.of_unchanged hbound hmemory hdurable (fun _ _ ↦ ⟨rfl, rfl⟩) trivial
      (Nat.le_succ _)
  · exact absurd hnow (not_lt.mpr hlarge)
  · let created := acceptedRecord taskId idempotencyKey requestDigest now
    have hmemory : memory.1.submit taskId idempotencyKey requestDigest now =
        (memory.1.put taskId created, .ok (created, true)) := by
      unfold LifecycleStore.submit
      rw [hmirrors.get_eq_none habsent]
      exact if_neg ((hmirrors.keyInUse_iff idempotencyKey).not.mpr hkey)
    have hevents : Forall₂ EventAgrees created.events
        (durableRecord taskId idempotencyKey requestDigest now).events :=
      .cons ⟨rfl, rfl, rfl, rfl, rfl, rfl⟩ .nil
    refine hmirrors.of_stored hbound hmemory hdurable hfind rfl rfl ?_ ?_ ?_
      ⟨⟨rfl, rfl, rfl, rfl, rfl, rfl, hevents⟩, rfl⟩
    · exact fun other past hne ↦ ⟨if_neg hne.symm, if_neg hne.symm⟩
    · simpa only [emittedBy, ↓reduceIte] using hevents
    · simp [emittedBy, created, acceptedRecord]

lemma status (taskId : String) (now : ℕ) :
    StepsAlike backend store count (.status taskId now) memory durable := by
  obtain ⟨habsent, hdurable⟩ | ⟨_, hrow, hexpired, hdurable⟩ | ⟨_, hrow, hlive, hdurable⟩ :=
    statusSync_cases backend store durable.1 taskId now
  · have hmemory : memory.1.status taskId now = (memory.1, .err .unknownTask) := by
      simp [LifecycleStore.status, hmirrors.get_eq_none habsent]
    exact hmirrors.of_unchanged hbound hmemory hdurable (fun _ _ ↦ ⟨rfl, rfl⟩) trivial le_rfl
  · obtain ⟨record, hget, htwin⟩ := hmirrors.exists_twin hbound hrow
    have hmemory : memory.1.status taskId now = (memory.1.remove taskId, .err .unknownTask) := by
      rw [htwin.state, htwin.updatedAtMs, ← hmirrors.ttl_eq] at hexpired
      simp [LifecycleStore.status, hget, expired, hexpired]
    refine ⟨?_, hmirrors.of_paired hbound _ fun other ↦ ?_⟩
    · show OutcomeAgrees _ (memory.1.status taskId now).2
        (statusSync backend store durable.1 taskId now).2
      rw [hmemory, hdurable]
      trivial
    by_cases hsame : other = taskId
    · refine .inl ⟨?_, ?_⟩
      · show (memory.1.status taskId now).1.get other = none
        rw [hmemory, hsame, get_remove_self]
      · show (statusSync backend store durable.1 taskId now).1.tasks.find? other = none
        rw [hdurable, Database.find?_deleteTask, if_pos hsame]
    · refine (hmirrors.paired other).of_eq le_rfl ?_ ?_ ?_ ?_
      · show (memory.1.status taskId now).1.get other = _
        rw [hmemory, get_remove, if_neg hsame]
      · show (statusSync backend store durable.1 taskId now).1.tasks.find? other = _
        rw [hdurable, Database.find?_deleteTask, if_neg hsame]
      · exact emitted_concat other _ _
      · exact emitted_concat other _ _
  · obtain ⟨record, hget, htwin⟩ := hmirrors.exists_twin hbound hrow
    have hmemory : memory.1.status taskId now = (memory.1, .ok record) := by
      rw [htwin.state, htwin.updatedAtMs, ← hmirrors.ttl_eq] at hlive
      simp [LifecycleStore.status, hget, expired, hlive]
    rw [htwin.loaded] at hdurable
    exact hmirrors.of_unchanged hbound hmemory hdurable (fun _ _ ↦ ⟨rfl, rfl⟩) htwin.agrees le_rfl

lemma transition (taskId requestedState : String) {given detail : Json}
    (hdetail : contentFreeDetail given = .ok detail) {now : ℕ} (hnow : now < 2 ^ 63)
    (hcount : count < 2 ^ 63) :
    StepsAlike backend store (count + 1) (.transition taskId requestedState given now) memory
      durable := by
  obtain ⟨_, hrefused, _⟩ | ⟨_, _, habsent, hdurable⟩ | ⟨_, row, _, hrow, hillegal, hdurable⟩ |
    ⟨_, row, _, hrow, _, hfails, _⟩ |
    ⟨_, row, _, event, hkept, hrow, hlegal, _, _, hevent, hdurable, hfind, _⟩ :=
    transitionSync_cases backend store durable.1 taskId requestedState given now
  · rw [hdetail] at hrefused
    nomatch hrefused
  · have hmemory : memory.1.transition taskId requestedState given now =
        (memory.1, .err .unknownTask) := by
      simp [LifecycleStore.transition, hmirrors.get_eq_none habsent]
    exact hmirrors.of_unchanged hbound hmemory hdurable (fun _ _ ↦ ⟨rfl, rfl⟩) trivial
      (Nat.le_succ _)
  · obtain ⟨record, hget, htwin⟩ := hmirrors.exists_twin hbound hrow
    have hmemory : memory.1.transition taskId requestedState given now =
        (memory.1, .err (.conflict ("illegal transition " ++ record.state ++ " -> " ++
          canonicalState requestedState))) := by
      rw [htwin.state] at hillegal
      simp [LifecycleStore.transition, hget, hillegal]
    exact hmirrors.of_unchanged hbound hmemory hdurable (fun _ _ ↦ ⟨rfl, rfl⟩) trivial
      (Nat.le_succ _)
  · obtain ⟨record, hget, htwin⟩ := hmirrors.exists_twin hbound hrow
    have hsmall := htwin.counted
    rw [← htwin.latestSequence] at hsmall
    rcases hfails with hlarge | hlarge | ⟨stored, hstored, hsame⟩
    · omega
    · omega
    · exact absurd hsame ((hmirrors.durable_coherent taskId row hrow).fresh stored hstored)
  · obtain ⟨record, hget, htwin⟩ := hmirrors.exists_twin hbound hrow
    rw [hdetail] at hkept
    obtain rfl := Outcome.ok.inj hkept
    have hsmall := htwin.counted
    have hlength := (hmirrors.memory_coherent.tracks taskId record hget).latestSequence_add_one hbound
    let emitted :=
      transitionEvent taskId (record.latestSequence + 1) (canonicalState requestedState) now given
    have hmemory : memory.1.transition taskId requestedState given now =
        (memory.1.put taskId { record with
          events := pushEvent memory.1.maxEvents record.events emitted
          state := canonicalState requestedState
          updatedAtMs := now }, .ok emitted) := by
      rw [htwin.state] at hlegal
      have hadd : (addU64 record.latestSequence 1 : Outcome LifecycleError ℕ) =
          .ok (record.latestSequence + 1) := addU64_of_lt (by omega)
      simp [LifecycleStore.transition, hget, hlegal, hadd, emitted]
    have hagrees : EventAgrees emitted event := by
      rw [hevent, htwin.latestSequence]
      exact ⟨rfl, rfl, rfl, rfl, rfl, hdetail⟩
    refine hmirrors.of_stored hbound hmemory hdurable hfind htwin.idempotencyKey
      htwin.requestDigest ?_ ?_ ?_ hagrees
    · exact fun other past hne ↦ ⟨if_neg hne.symm, if_neg hne.symm⟩
    · simpa only [emittedBy, ↓reduceIte] using rel_append htwin.histories (.cons hagrees .nil)
    · simp only [emittedBy, ↓reduceIte, length_append, length_singleton]
      omega

/-! ### One call on both stores -/

lemma cancelLook (taskId : String) (third : ℕ) :
    RunsAlike backend store RecordAgrees count (Lifecycle.cancelLook taskId third) memory durable :=
  hmirrors.status hbound taskId third

lemma cancelMove (taskId : String) {second : ℕ} (third : ℕ) (hsecond : second < 2 ^ 63)
    (hcount : count < 2 ^ 63) :
    RunsAlike backend store RecordAgrees (count + 1) (Lifecycle.cancelMove taskId second third)
      memory durable := by
  obtain ⟨hanswer, hnext⟩ := hmirrors.transition hbound taskId "cancelled"
    contentFreeDetail_cancelDetail hsecond hcount
  obtain ⟨_, _, hmemory, hdurable, _⟩ |
    ⟨_, _, hmemory, hdurable, herror⟩ | ⟨hmemory, hdurable⟩ :=
    OutcomeAgrees.cases hanswer
  all_goals simp only [RunsAlike, Lifecycle.cancelMove, Prog.run, hmemory, hdurable]
  · exact hnext.cancelLook hbound taskId third
  · exact ⟨herror, hnext⟩
  · exact ⟨trivial, hnext⟩

lemma cancelProg (taskId : String) (first : ℕ) {second : ℕ} (third : ℕ)
    (hsecond : second < 2 ^ 63) (hcount : count < 2 ^ 63) :
    RunsAlike backend store RecordAgrees (count + 1) (Lifecycle.cancelProg taskId first second third)
      memory durable := by
  obtain ⟨hanswer, hnext⟩ := hmirrors.status hbound taskId first
  obtain ⟨_, _, hmemory, hdurable, hrecord⟩ |
    ⟨_, _, hmemory, hdurable, herror⟩ | ⟨hmemory, hdurable⟩ :=
    OutcomeAgrees.cases hanswer
  all_goals simp only [RunsAlike, Lifecycle.cancelProg, Prog.run, hmemory, hdurable]
  · rw [hrecord.state]
    split_ifs
    · obtain ⟨hlook, hlast⟩ := hnext.cancelLook hbound taskId third
      exact ⟨hlook, hlast.mono (Nat.le_succ _)⟩
    · exact hnext.cancelMove hbound taskId third hsecond hcount
  · exact ⟨herror, hnext.mono (Nat.le_succ _)⟩
  · exact ⟨trivial, hnext.mono (Nat.le_succ _)⟩

lemma eventsAfterProg (taskId : String) (afterSequence : Int64) (now : ℕ) :
    RunsAlike backend store (Forall₂ EventAgrees) count
      (Lifecycle.eventsAfterProg taskId afterSequence now) memory durable := by
  obtain ⟨hanswer, hnext⟩ := hmirrors.status hbound taskId now
  refine ⟨?_, hnext⟩
  obtain ⟨_, _, hmemory, hdurable, hrecord⟩ |
    ⟨_, _, hmemory, hdurable, herror⟩ | ⟨hmemory, hdurable⟩ :=
    OutcomeAgrees.cases hanswer
  all_goals simp only [Lifecycle.eventsAfterProg, Prog.run, hmemory, hdurable]
  · exact hrecord.replay afterSequence
  · exact herror
  · trivial

end Mirrors

end Relation

/-- The clock readings of a call fit the signed columns of the database. -/
def Call.readingsFit : Call → Bool
  | .submit _ _ _ now | .status _ now | .transition _ _ _ now | .eventsAfter _ _ now =>
    decide (now < 2 ^ 63)
  | .cancel _ first second third =>
    decide (first < 2 ^ 63) && decide (second < 2 ^ 63) && decide (third < 2 ^ 63)

/-- The detail of a call, if it has one, is admitted by the content filter. -/
def Call.detailAdmitted : Call → Bool
  | .transition _ _ given _ =>
    match contentFreeDetail given with
    | .ok _ => true
    | _ => false
  | _ => true

section Runs

variable {Blob : Type} {backend : Backend Blob} {store : SqliteLifecyclePersistence}

/-- One call on both stores: the replies agree and the relation is kept. -/
lemma Mirrors.call {count : ℕ} {memory : LoggedStore} {durable : LoggedDatabase Blob}
    (hmirrors : Mirrors backend store count memory durable) (hbound : 0 < store.maxEvents)
    {call : Call} (hreadings : call.readingsFit) (hdetail : call.detailAdmitted)
    (hcount : count < 2 ^ 63) :
    ReplyAgrees (call.prog.run (logged lifecycleStore) memory).2
        (call.prog.run (logged (sqlitePersistence backend store)) durable).2 ∧
      Mirrors backend store (count + 1) (call.prog.run (logged lifecycleStore) memory).1
        (call.prog.run (logged (sqlitePersistence backend store)) durable).1 := by
  cases call with
  | submit taskId idempotencyKey requestDigest =>
    exact hmirrors.submit hbound taskId idempotencyKey requestDigest
      (by simpa [Call.readingsFit] using hreadings)
  | status taskId now =>
    obtain ⟨hreply, hnext⟩ := hmirrors.status hbound taskId now
    exact ⟨hreply, hnext.mono (Nat.le_succ _)⟩
  | transition taskId requestedState given =>
    cases hkept : contentFreeDetail given with
    | ok =>
      exact hmirrors.transition hbound taskId requestedState hkept
        (by simpa [Call.readingsFit] using hreadings) hcount
    | err | panicked => simp [Call.detailAdmitted, hkept] at hdetail
  | cancel taskId first second third =>
    simp only [Call.readingsFit, Bool.and_eq_true, decide_eq_true_eq] at hreadings
    simp only [Call.prog, run_map]
    exact hmirrors.cancelProg hbound taskId first third hreadings.1.2 hcount
  | eventsAfter taskId afterSequence now =>
    simp only [Call.prog, run_map]
    obtain ⟨hreply, hnext⟩ := hmirrors.eventsAfterProg hbound taskId afterSequence now
    exact ⟨hreply, hnext.mono (Nat.le_succ _)⟩

lemma Mirrors.runCalls (hbound : 0 < store.maxEvents) (calls : List Call) :
    ∀ {count : ℕ} {memory : LoggedStore} {durable : LoggedDatabase Blob},
      Mirrors backend store count memory durable →
      (∀ call ∈ calls, call.readingsFit) → (∀ call ∈ calls, call.detailAdmitted) →
      count + calls.length ≤ 2 ^ 63 →
      Forall₂ ReplyAgrees (runCalls (logged lifecycleStore) calls memory).2
        (runCalls (logged (sqlitePersistence backend store)) calls durable).2 := by
  induction calls with
  | nil => intros; exact .nil
  | cons call rest ih =>
    intro count memory durable hmirrors hreadings hdetails hlength
    rw [length_cons] at hlength
    obtain ⟨hreading, hreadings⟩ := forall_mem_cons.mp hreadings
    obtain ⟨hdetail, hdetails⟩ := forall_mem_cons.mp hdetails
    obtain ⟨hreply, hnext⟩ := hmirrors.call hbound hreading hdetail (by omega)
    exact .cons hreply (ih hnext hreadings hdetails (by omega))

end Runs

/-- The two stores under the same calls at the same clock readings. As long as the readings and the
number of calls are within the range of the signed columns and every detail passes the content
filter, the replies agree call by call, whatever the order in which the engine visits rows. -/
theorem sqlite_agrees_with_memory {Blob : Type} (backend : Backend Blob)
    (maxEvents terminalStatusTtlMs : ℕ) (calls : List Call)
    (hreadings : ∀ call ∈ calls, call.readingsFit)
    (hdetails : ∀ call ∈ calls, call.detailAdmitted)
    (hlength : calls.length ≤ 2 ^ 63) :
    Forall₂ ReplyAgrees
      (runCalls lifecycleStore calls (LifecycleStore.new maxEvents terminalStatusTtlMs)).2
      (runCalls (sqlitePersistence backend (openWith maxEvents terminalStatusTtlMs)) calls
        empty).2 := by
  have hbound : 0 < (openWith maxEvents terminalStatusTtlMs).maxEvents :=
    lt_of_lt_of_le Nat.zero_lt_two (le_max_right maxEvents 2)
  have hstart : Mirrors backend (openWith maxEvents terminalStatusTtlMs) 0
      (startState maxEvents terminalStatusTtlMs) (empty, []) :=
    { memory_coherent := coherent_startState maxEvents terminalStatusTtlMs
      durable_coherent := sqlCoherent_empty backend _
      ttl_eq := rfl
      paired := fun _ ↦ .inl ⟨rfl, rfl⟩ }
  have hruns := Mirrors.runCalls hbound calls hstart hreadings hdetails (by omega)
  have hmemory := (runAll_logged lifecycleStore (calls.map Call.prog)
    (startState maxEvents terminalStatusTtlMs)).2
  have hdurable := (runAll_logged (sqlitePersistence backend
    (openWith maxEvents terminalStatusTtlMs)) (calls.map Call.prog) (empty, [])).2
  unfold Lifecycle.runCalls at hruns ⊢
  rw [hmemory, hdurable] at hruns
  exact hruns

/-- A task that is truncated, cancelled, expired and submitted again. -/
theorem sqlite_agrees_with_memory_on_resubmission :
    Forall₂ ReplyAgrees
      (runCalls lifecycleStore [.submit "task" "key" "digest" 1,
        .transition "task" "running" .null 2, .cancel "task" 3 4 5, .eventsAfter "task" 0 6,
        .status "task" 5000, .submit "task" "key" "digest" 5001] (LifecycleStore.new 2 1000)).2
      (runCalls (sqlitePersistence plainBackend (openWith 2 1000)) [.submit "task" "key" "digest" 1,
        .transition "task" "running" .null 2, .cancel "task" 3 4 5, .eventsAfter "task" 0 6,
        .status "task" 5000, .submit "task" "key" "digest" 5001] empty).2 :=
  sqlite_agrees_with_memory plainBackend 2 1000 _ (by decide) (by decide) (by decide)

/-- A submission at a reading beyond the signed range is accepted in memory and fails in the
database. -/
theorem sqlite_refuses_large_reading :
    (runCalls lifecycleStore [.submit "task" "key" "digest" (2 ^ 63)]
        (LifecycleStore.new 8 1000)).2 =
      [.submitted (.ok (acceptedRecord "task" "key" "digest" (2 ^ 63), true))] ∧
    (runCalls (sqlitePersistence plainBackend (openWith 8 1000))
        [.submit "task" "key" "digest" (2 ^ 63)] empty).2 =
      [.submitted (.err (.storage "out of range integral type conversion attempted"))] := by
  decide

end Iicp.Lifecycle
