import Iicp.Lifecycle.StoreInvariant

/-!
# What reads do to later writes

`status` and `events_after` are the reads of the port, and `submit`, `transition` and `cancel` its
writes. A read of a record past its lifetime removes the record, while `submit` and `transition`
look at the map as it is. So the replies of writes may depend on the reads before them.

A run is `quiet` when no read removes a record that a later write refers to: a later submission with
its task id or its key, a later transition of its task, or a later cancellation that looks at it at
a reading within its lifetime, after the clock has gone back. The store of a quiet run differs from
that of its writes alone only in removed records that no later write refers to (`Lags`), so quiet
runs with the same writes give their writes the same replies (`reads_do_not_change_quiet_writes`).
-/

namespace Iicp.Lifecycle

open Rust Concurrent LifecycleStore

def Call.isRead : Call → Bool
  | .status .. => true
  | .eventsAfter .. => true
  | _ => false

variable (calls : List Call)

def writesOf : List Call := calls.filter fun call ↦ !call.isRead

def writeReplies (store : LifecycleStore) : List Reply :=
  ((calls.zip (runCalls lifecycleStore calls store).2).filter fun entry ↦ !entry.1.isRead).map
    Prod.snd

variable (store : LifecycleStore)

def removedBy : Call → Option (String × LifecycleRecord)
  | .status taskId now | .eventsAfter taskId _ now =>
    ((store.get taskId).filter (expired store.terminalStatusTtlMs now)).map (taskId, ·)
  | _ => none

/-- A write refers to a record: it submits its task id or its key, moves its task, or cancels its
task at a first reading within the record's lifetime. -/
def refersTo (terminalStatusTtlMs : ℕ) (stored : String × LifecycleRecord) : Call → Bool
  | .submit taskId idempotencyKey _ _ =>
    taskId == stored.1 || idempotencyKey == stored.2.idempotencyKey
  | .transition taskId _ _ _ => taskId == stored.1
  | .cancel taskId first _ _ => taskId == stored.1 && !expired terminalStatusTtlMs first stored.2
  | _ => false

/-- No read of the run removes a record that a later write refers to. -/
def quiet : List Call → LifecycleStore → Bool
  | [], _ => true
  | call :: rest, store =>
    ((removedBy store call).all fun stored ↦
      rest.all fun later ↦ !refersTo store.terminalStatusTtlMs stored later) &&
      quiet rest (call.prog.run lifecycleStore store).1

/-- `submit` answers for the task as if no record of it were stored. -/
def submitTreatsAsGone (taskId idempotencyKey requestDigest : String) (now : ℕ) : Prop :=
  (store.submit taskId idempotencyKey requestDigest now).2 =
    ((store.remove taskId).submit taskId idempotencyKey requestDigest now).2

/-! ### Two stores that differ in removed records -/

/-- The first store lacks some records of the second one, none of which a write of `rest` refers to;
otherwise the stores are the same. -/
structure Lags (rest : List Call) (behind full : LifecycleStore) : Prop where
  maxEvents_eq : behind.maxEvents = full.maxEvents
  ttl_eq : behind.terminalStatusTtlMs = full.terminalStatusTtlMs
  get_cases : ∀ taskId, behind.get taskId = full.get taskId ∨
    behind.get taskId = none ∧ ∃ record, full.get taskId = some record ∧
      ∀ call ∈ rest, refersTo full.terminalStatusTtlMs (taskId, record) call = false

/-- A program gets the same answer from both stores, and leaves the relation. -/
def AnswersAlike {α : Type} (rest : List Call) (prog : Prog LifecyclePersistence α)
    (behind full : LifecycleStore) : Prop :=
  (prog.run lifecycleStore behind).2 = (prog.run lifecycleStore full).2 ∧
    Lags rest (prog.run lifecycleStore behind).1 (prog.run lifecycleStore full).1

namespace Lags

variable {rest : List Call} {behind full : LifecycleStore} {taskId : String} {call : Call}

lemma refl (rest : List Call) (store : LifecycleStore) : Lags rest store store :=
  ⟨rfl, rfl, fun _ ↦ .inl rfl⟩

lemma tail (hlags : Lags (call :: rest) behind full) : Lags rest behind full := by
  refine { hlags with get_cases := fun taskId ↦ ?_ }
  rcases hlags.get_cases taskId with heq | ⟨hnone, record, hfull, hrefers⟩
  · exact .inl heq
  · exact .inr ⟨hnone, record, hfull, fun later hlater ↦
      hrefers later (List.mem_cons_of_mem call hlater)⟩

section

variable (hlags : Lags rest behind full)

include hlags

lemma put (taskId : String) (record : LifecycleRecord) :
    Lags rest (behind.put taskId record) (full.put taskId record) := by
  refine { hlags with get_cases := fun other ↦ ?_ }
  rw [get_put, get_put]
  split_ifs with h
  · exact .inl rfl
  · exact hlags.get_cases other

lemma remove (taskId : String) : Lags rest (behind.remove taskId) (full.remove taskId) := by
  refine { hlags with get_cases := fun other ↦ ?_ }
  rw [get_remove, get_remove]
  split_ifs with h
  · exact .inl rfl
  · exact hlags.get_cases other

/-- Assumes: a task that the first store lacks. Removing it from the second store closes the gap. -/
lemma remove_full (hnone : behind.get taskId = none) : Lags rest behind (full.remove taskId) := by
  refine { hlags with get_cases := fun other ↦ ?_ }
  rw [get_remove]
  split_ifs with h
  · subst h
    exact .inl hnone
  · exact hlags.get_cases other

/-- Assumes: a record of the first store that no write to come refers to. Removing it from the first
store alone keeps the relation. -/
lemma remove_behind {record : LifecycleRecord} (hget : behind.get taskId = some record)
    (hrefers : ∀ call ∈ rest, refersTo full.terminalStatusTtlMs (taskId, record) call = false) :
    Lags rest (behind.remove taskId) full := by
  refine { hlags with get_cases := fun other ↦ ?_ }
  rw [get_remove]
  split_ifs with h
  · subst h
    refine .inr ⟨rfl, record, ?_, hrefers⟩
    rcases hlags.get_cases other with heq | ⟨hnone, _⟩
    · rw [← heq, hget]
    · rw [hget] at hnone
      exact absurd hnone (Option.some_ne_none record)
  · exact hlags.get_cases other

end

lemma keyInUse_eq {idempotencyKey requestDigest : String} {now : ℕ}
    (hlags : Lags (.submit taskId idempotencyKey requestDigest now :: rest) behind full) :
    behind.keyInUse idempotencyKey = full.keyInUse idempotencyKey := by
  rw [Bool.eq_iff_iff, keyInUse_iff, keyInUse_iff]
  constructor
  · rintro ⟨other, record, hget, hkey⟩
    rcases hlags.get_cases other with heq | ⟨hnone, _⟩
    · exact ⟨other, record, heq ▸ hget, hkey⟩
    · rw [hget] at hnone
      exact absurd hnone (Option.some_ne_none record)
  · rintro ⟨other, record, hget, hkey⟩
    rcases hlags.get_cases other with heq | ⟨_, stored, hstored, hrefers⟩
    · exact ⟨other, record, heq.symm ▸ hget, hkey⟩
    · rw [hget] at hstored
      obtain rfl := Option.some.inj hstored
      have hcall := hrefers _ List.mem_cons_self
      simp [refersTo, hkey] at hcall

lemma get_eq (hlags : Lags (call :: rest) behind full)
    (hcall : ∀ record, refersTo full.terminalStatusTtlMs (taskId, record) call) :
    behind.get taskId = full.get taskId := by
  rcases hlags.get_cases taskId with heq | ⟨_, record, _, hrefers⟩
  · exact heq
  · have hfalse := hrefers call List.mem_cons_self
    rw [hcall record] at hfalse
    exact absurd hfalse.symm Bool.false_ne_true

/-! ### One operation on both stores -/

section

variable (hlags : Lags rest behind full)

include hlags

section

variable (hget : behind.get taskId = full.get taskId)

include hget

lemma submit {idempotencyKey : String}
    (hkey : behind.keyInUse idempotencyKey = full.keyInUse idempotencyKey) (requestDigest : String)
    (now : ℕ) :
    let late := behind.submit taskId idempotencyKey requestDigest now
    let soon := full.submit taskId idempotencyKey requestDigest now
    late.2 = soon.2 ∧ Lags rest late.1 soon.1 := by
  dsimp only
  unfold LifecycleStore.submit
  rw [hget, hkey]
  split
  · split_ifs
    · exact ⟨rfl, hlags⟩
    · exact ⟨rfl, hlags⟩
  · split_ifs
    · exact ⟨rfl, hlags⟩
    · exact ⟨rfl, hlags.put taskId _⟩

/-- Assumes: stores that agree on the task. A look at it gets the same answer, and the stores still
agree on it. -/
lemma status (now : ℕ) :
    (behind.status taskId now).2 = (full.status taskId now).2 ∧
      Lags rest (behind.status taskId now).1 (full.status taskId now).1 ∧
      (behind.status taskId now).1.get taskId = (full.status taskId now).1.get taskId := by
  unfold LifecycleStore.status
  rw [hget, hlags.ttl_eq]
  cases hexpired : (full.get taskId).any (expired full.terminalStatusTtlMs now) with
  | true =>
    simp only [↓reduceIte, get_remove_self, true_and, and_true]
    exact hlags.remove taskId
  | false =>
    simp only [Bool.false_eq_true, ↓reduceIte, hget, true_and, and_true]
    exact hlags

/-- Assumes: stores that agree on the task. A transition of it gets the same answer, and the stores
still agree on it. -/
lemma transition (requestedState : String) (detail : Json) (now : ℕ) :
    let late := behind.transition taskId requestedState detail now
    let soon := full.transition taskId requestedState detail now
    late.2 = soon.2 ∧ Lags rest late.1 soon.1 ∧ late.1.get taskId = soon.1.get taskId := by
  dsimp only
  unfold LifecycleStore.transition
  rw [hget, hlags.maxEvents_eq]
  split
  · exact ⟨rfl, hlags, hget⟩
  · dsimp only
    split_ifs
    · exact ⟨rfl, hlags, hget⟩
    · split
      · refine ⟨rfl, hlags.put taskId _, ?_⟩
        simp only [get_put_self]
      · exact ⟨rfl, hlags, hget⟩
      · exact ⟨rfl, hlags, hget⟩

/-- The last look of a cancellation gets the same answer. -/
lemma cancelLook (third : ℕ) :
    AnswersAlike rest (Lifecycle.cancelLook taskId third) behind full := by
  obtain ⟨hanswer, hnext, _⟩ := hlags.status hget third
  exact ⟨hanswer, hnext⟩

/-- The move of a cancellation and what follows get the same answer. -/
lemma cancelMove (second third : ℕ) :
    AnswersAlike rest (Lifecycle.cancelMove taskId second third) behind full := by
  obtain ⟨hanswer, hnext, hagree⟩ := hlags.transition hget "cancelled" cancelDetail second
  simp only [AnswersAlike, Lifecycle.cancelMove, Prog.run, lifecycleStore]
  rw [hanswer]
  cases (full.transition taskId "cancelled" cancelDetail second).2 with
  | ok => exact hnext.cancelLook hagree third
  | err | panicked => exact ⟨rfl, hnext⟩

/-- Assumes: stores that agree on the task. A cancellation of it gets the same answer. -/
lemma cancelProg (first second third : ℕ) :
    AnswersAlike rest (Lifecycle.cancelProg taskId first second third) behind full := by
  obtain ⟨hanswer, hnext, hagree⟩ := hlags.status hget first
  simp only [AnswersAlike, Lifecycle.cancelProg, Prog.run, lifecycleStore]
  rw [hanswer]
  cases (full.status taskId first).2 with
  | ok =>
    dsimp only
    split_ifs
    · exact hnext.cancelLook hagree third
    · exact hnext.cancelMove hagree second third
  | err | panicked => exact ⟨rfl, hnext⟩

end

/-- Assumes: a record that the first store lacks and that has expired at the first reading of a
cancellation. The cancellation finds no task in either store. -/
lemma cancelProg_expired {record : LifecycleRecord} {first : ℕ} (hnone : behind.get taskId = none)
    (hfull : full.get taskId = some record)
    (hexpired : expired full.terminalStatusTtlMs first record) (second third : ℕ) :
    AnswersAlike rest (Lifecycle.cancelProg taskId first second third) behind full := by
  have hbehind : behind.status taskId first = (behind, .err .unknownTask) := by
    obtain ⟨other, hother, _⟩ | ⟨other, hother, _⟩ | ⟨_, heq⟩ := behind.status_cases taskId first
    · rw [hnone] at hother
      exact absurd hother.symm (Option.some_ne_none other)
    · rw [hnone] at hother
      exact absurd hother.symm (Option.some_ne_none other)
    · exact heq
  have hremoved : full.status taskId first = (full.remove taskId, .err .unknownTask) := by
    obtain ⟨_, _, _, heq⟩ | ⟨_, hother, hlive, _⟩ | ⟨hother, _⟩ :=
      full.status_cases taskId first
    · exact heq
    · rw [hfull] at hother
      obtain rfl := Option.some.inj hother
      rw [hexpired] at hlive
      exact absurd hlive.symm Bool.false_ne_true
    · rw [hfull] at hother
      exact absurd hother (Option.some_ne_none record)
  simp only [AnswersAlike, Lifecycle.cancelProg, Prog.run, lifecycleStore, hbehind, hremoved,
    true_and]
  exact hlags.remove_full hnone

end

/-! ### One call of a run -/

lemma write (hlags : Lags (call :: rest) behind full) (hwrite : call.isRead = false) :
    AnswersAlike rest call.prog behind full := by
  cases call with
  | submit taskId idempotencyKey requestDigest now =>
    have hget : behind.get taskId = full.get taskId :=
      hlags.get_eq fun record ↦ by simp [refersTo]
    obtain ⟨hanswer, hnext⟩ := hlags.tail.submit hget hlags.keyInUse_eq requestDigest now
    exact ⟨congrArg Reply.submitted hanswer, hnext⟩
  | status | eventsAfter => exact absurd hwrite (by simp [Call.isRead])
  | transition taskId requestedState detail now =>
    have hget : behind.get taskId = full.get taskId :=
      hlags.get_eq fun record ↦ by simp [refersTo]
    obtain ⟨hanswer, hnext, _⟩ := hlags.tail.transition hget requestedState detail now
    exact ⟨congrArg Reply.event hanswer, hnext⟩
  | cancel taskId first second third =>
    simp only [AnswersAlike, Call.prog, run_map]
    rcases hlags.get_cases taskId with hget | ⟨hnone, record, hfull, hrefers⟩
    · obtain ⟨hanswer, hnext⟩ := hlags.tail.cancelProg hget first second third
      exact ⟨congrArg Reply.record hanswer, hnext⟩
    · have hexpired : expired full.terminalStatusTtlMs first record := by
        simpa [refersTo] using hrefers _ List.mem_cons_self
      obtain ⟨hanswer, hnext⟩ :=
        hlags.tail.cancelProg_expired hnone hfull hexpired second third
      exact ⟨congrArg Reply.record hanswer, hnext⟩

/-- A look that removes no record a later write refers to keeps the relation. -/
lemma look (hlags : Lags rest behind full) (taskId : String) (now : ℕ)
    (hquiet : ((behind.get taskId).filter (expired behind.terminalStatusTtlMs now)).all
      (fun record ↦ rest.all fun later ↦
        !refersTo behind.terminalStatusTtlMs (taskId, record) later)) :
    Lags rest (behind.status taskId now).1 full := by
  obtain ⟨_, hget, hexpired, heq⟩ | ⟨_, _, _, heq⟩ | ⟨_, heq⟩ :=
    behind.status_cases taskId now
  · rw [heq]
    refine hlags.remove_behind hget fun later hlater ↦ ?_
    rw [hget, Option.filter_some_pos hexpired, Option.all_some, List.all_eq_true] at hquiet
    simpa [hlags.ttl_eq] using hquiet later hlater
  · rw [heq]
    exact hlags
  · rw [heq]
    exact hlags

/-- A read that removes no record a later write refers to keeps the relation. -/
lemma read (hlags : Lags (call :: rest) behind full) (hread : call.isRead)
    (hquiet : ((removedBy behind call).all fun stored ↦
      rest.all fun later ↦ !refersTo behind.terminalStatusTtlMs stored later)) :
    Lags rest (call.prog.run lifecycleStore behind).1 full := by
  cases call with
  | status taskId now =>
    refine hlags.tail.look taskId now ?_
    simpa [removedBy, Option.all_map, Function.comp_def] using hquiet
  | eventsAfter taskId afterSequence now =>
    simp only [Call.prog, run_map]
    refine hlags.tail.look taskId now ?_
    simpa [removedBy, Option.all_map, Function.comp_def] using hquiet
  | submit | transition | cancel => exact absurd hread (by simp [Call.isRead])

end Lags

/-! ### Runs -/

/-- The writes of a quiet run get the replies that they get without the reads. -/
lemma writeReplies_of_quiet :
    ∀ behind full : LifecycleStore, Lags calls behind full → quiet calls behind →
      writeReplies calls behind = (runCalls lifecycleStore (writesOf calls) full).2 := by
  induction calls with
  | nil => intro behind full _ _; rfl
  | cons call rest ih =>
    intro behind full hlags hquiet
    obtain ⟨hstep, hrest⟩ := Bool.and_eq_true_iff.mp hquiet
    cases hread : call.isRead with
    | true =>
      have hnext := ih _ full (hlags.read hread hstep) hrest
      have hreplies : writeReplies (call :: rest) behind =
          writeReplies rest (call.prog.run lifecycleStore behind).1 := by
        simp [writeReplies, runCalls, runAll, hread]
      have hwrites : writesOf (call :: rest) = writesOf rest := by simp [writesOf, hread]
      rw [hreplies, hwrites, hnext]
    | false =>
      obtain ⟨hanswer, hlagsNext⟩ := hlags.write hread
      have hnext := ih _ _ hlagsNext hrest
      have hreplies : writeReplies (call :: rest) behind =
          (call.prog.run lifecycleStore behind).2 ::
            writeReplies rest (call.prog.run lifecycleStore behind).1 := by
        simp [writeReplies, runCalls, runAll, hread]
      have hwrites : writesOf (call :: rest) = call :: writesOf rest := by simp [writesOf, hread]
      rw [hreplies, hwrites, hnext, hanswer]
      rfl

/-! ### What a submission takes for gone -/

lemma submit_of_absent {store : LifecycleStore} {taskId : String}
    (hget : store.get taskId = none) (idempotencyKey requestDigest : String) (now : ℕ) :
    (store.submit taskId idempotencyKey requestDigest now).2 =
      if store.keyInUse idempotencyKey then
        .err (.conflict "idempotency identifier reused with a different task identifier")
      else .ok (acceptedRecord taskId idempotencyKey requestDigest now, true) := by
  unfold LifecycleStore.submit
  rw [hget]
  dsimp only
  split_ifs
  · rfl
  · rfl

/-- Assumes: no record of the task. Removing the task changes nothing about the keys in use. -/
lemma keyInUse_remove_of_absent {store : LifecycleStore} {taskId : String}
    (hget : store.get taskId = none) (idempotencyKey : String) :
    (store.remove taskId).keyInUse idempotencyKey = store.keyInUse idempotencyKey := by
  have hsame : ∀ other, (store.remove taskId).get other = store.get other := by
    intro other
    rw [get_remove]
    split_ifs with h
    · rw [h, hget]
    · rfl
  rw [Bool.eq_iff_iff, keyInUse_iff, keyInUse_iff]
  simp only [hsame]

/-- A submission treats a stored record as present, whatever its age. -/
lemma submitTreatsAsGone_iff (taskId idempotencyKey requestDigest : String) (now : ℕ) :
    submitTreatsAsGone store taskId idempotencyKey requestDigest now ↔
      store.get taskId = none := by
  unfold submitTreatsAsGone
  rw [submit_of_absent (get_remove_self store taskId)]
  constructor
  · intro hsame
    obtain ⟨_, _, _, _, heq⟩ | ⟨_, _, _, heq⟩ | ⟨hget, _⟩ | ⟨hget, _⟩ :=
      store.submit_cases taskId idempotencyKey requestDigest now
    · rw [heq] at hsame
      split_ifs at hsame
      simp at hsame
    · rw [heq] at hsame
      split_ifs at hsame
      simp at hsame
    · exact hget
    · exact hget
  · intro hget
    rw [submit_of_absent hget, keyInUse_remove_of_absent hget]

/-- A look reports an unknown task when there is no record or an expired one. -/
lemma status_unknownTask_iff (taskId : String) (now : ℕ) :
    (store.status taskId now).2 = .err .unknownTask ↔
      ∀ record, store.get taskId = some record →
        expired store.terminalStatusTtlMs now record := by
  obtain ⟨_, hget, hexpired, heq⟩ | ⟨_, hget, hlive, heq⟩ | ⟨hget, heq⟩ :=
    store.status_cases taskId now
  · simp [heq, hget, hexpired]
  · simp [heq, hget, hlive]
  · simp [heq, hget]

/-- Reads and writes of the in-memory store. Runs with the same writes, in each of which no read
removes a record that a later write refers to, give their writes the same replies. A submission
takes a task for gone exactly when `status` would report it as unknown, as long as the stored record
of the task, if there is one, is not expired; otherwise the two differ. -/
theorem reads_do_not_change_quiet_writes (maxEvents terminalStatusTtlMs : ℕ) :
    (∀ left right : List Call, writesOf left = writesOf right →
      quiet left (new maxEvents terminalStatusTtlMs) →
      quiet right (new maxEvents terminalStatusTtlMs) →
      writeReplies left (new maxEvents terminalStatusTtlMs) =
        writeReplies right (new maxEvents terminalStatusTtlMs)) ∧
    ∀ (calls : List Call) (taskId idempotencyKey requestDigest : String) (now : ℕ),
      (submitTreatsAsGone (reached maxEvents terminalStatusTtlMs calls).1 taskId idempotencyKey
          requestDigest now ↔
        ((reached maxEvents terminalStatusTtlMs calls).1.status taskId now).2 =
          .err .unknownTask) ↔
      ((reached maxEvents terminalStatusTtlMs calls).1.get taskId).any
        (expired (reached maxEvents terminalStatusTtlMs calls).1.terminalStatusTtlMs now) =
          false := by
  constructor
  · intro left right hwrites hleft hright
    rw [writeReplies_of_quiet left _ _ (Lags.refl left _) hleft,
      writeReplies_of_quiet right _ _ (Lags.refl right _) hright, hwrites]
  · intro calls taskId idempotencyKey requestDigest now
    rw [submitTreatsAsGone_iff, status_unknownTask_iff]
    cases (reached maxEvents terminalStatusTtlMs calls).1.get taskId with
    | none => simp
    | some => simp

/-- A run with reads of a running task and of an ended one within its lifetime, and the same writes
without the reads. -/
theorem reads_do_not_change_one_task :
    writeReplies [.submit "task" "key" "digest" 5, .status "task" 900, .eventsAfter "task" 0 901,
        .transition "task" "completed" (.object []) 1000, .status "task" 1500,
        .submit "task" "key" "digest" 1600] (new 8 1000) =
      writeReplies [.submit "task" "key" "digest" 5,
        .transition "task" "completed" (.object []) 1000,
        .submit "task" "key" "digest" 1600] (new 8 1000) :=
  (reads_do_not_change_quiet_writes 8 1000).1 _ _ rfl (by decide) (by decide)

/-- A task is submitted and ends, and is submitted again once its record is past its lifetime. The
second submission gets the old record; with a look at the task before it, it creates a new one. -/
theorem look_changes_second_submission :
    writesOf [.submit "task" "key" "digest" 0, .transition "task" "completed" (.object []) 0,
        .status "task" 5000, .submit "task" "key" "digest" 5000] =
      writesOf [.submit "task" "key" "digest" 0, .transition "task" "completed" (.object []) 0,
        .submit "task" "key" "digest" 5000] ∧
    writeReplies [.submit "task" "key" "digest" 0, .transition "task" "completed" (.object []) 0,
        .status "task" 5000, .submit "task" "key" "digest" 5000] (new 8 1000) ≠
      writeReplies [.submit "task" "key" "digest" 0, .transition "task" "completed" (.object []) 0,
        .submit "task" "key" "digest" 5000] (new 8 1000) ∧
    ¬ (submitTreatsAsGone (reached 8 1000 [.submit "task" "key" "digest" 0,
          .transition "task" "completed" (.object []) 0]).1 "task" "key" "digest" 5000 ↔
        ((reached 8 1000 [.submit "task" "key" "digest" 0,
          .transition "task" "completed" (.object []) 0]).1.status "task" 5000).2 =
          .err .unknownTask) := by
  refine ⟨rfl, by decide, ?_⟩
  intro hiff
  have hgone := hiff.mpr (by decide)
  rw [submitTreatsAsGone_iff] at hgone
  exact absurd hgone (by decide)

end Iicp.Lifecycle
