import Iicp.Lifecycle.StoreInvariant

/-!
# Cancelling a task among other clients

`cancel` looks at the task, moves it to the cancelled state unless it has ended, and looks again. It
gives the lock back between these steps, so other clients run in between. Here one client cancels a
task as thread zero of a pool whose other threads make arbitrary calls (`cancelPool`).

A stored record stays stored as long as no look at it comes after its lifetime (`stepLive`), and a
record of an ended task does not change any more (`get_step`). What can go wrong is the window
between the first look and the move: when another client ends the task there, the move is refused
and `cancel` returns that refusal. `cancel_returns_terminal_iff` shows that `cancel` returns a record
in a terminal state under exactly the schedules where this does not happen (`stepClear`).
-/

namespace Iicp.Lifecycle

open Rust Concurrent LifecycleStore Pool

/-- Clients of one store, with the operations run so far. -/
abbrev Clients := Pool LifecyclePersistence LoggedStore Reply

/-- A store reached by some calls, with one client that cancels a task and other clients with a call
each. -/
def cancelPool (maxEvents terminalStatusTtlMs : ℕ) (calls : List Call) (taskId : String)
    (first second third : ℕ) (others : List Call) : Clients where
  state := reached maxEvents terminalStatusTtlMs calls
  threads := (Call.cancel taskId first second third).prog :: others.map Call.prog

/-- The scheduled step does not look at the task after the lifetime of its record. -/
def stepLive (taskId : String) (pool : Clients) (thread : ℕ) : Bool :=
  match (pool.nextOp thread : Option Op) with
  | some (.status task now) =>
    !(task == taskId &&
      (pool.state.1.get taskId).any (expired pool.state.1.terminalStatusTtlMs now))
  | _ => true

/-- A record that can be moved to the cancelled state: the task has not ended, and one more event
has a sequence number. -/
def movable (record : LifecycleRecord) : Bool :=
  !terminal record.state && decide (record.latestSequence + 1 < 2 ^ 64)

/-- If the scheduled step is the canceller's own move, the task can be moved. -/
def stepClear (taskId : String) (pool : Clients) (thread : ℕ) : Bool :=
  if thread = 0 then
    match (pool.nextOp thread : Option Op) with
    | some (.transition _ _ _ _) => (pool.state.1.get taskId).all movable
    | _ => true
  else true

/-- The canceller has ended with a record in a terminal state, and exactly one final event has been
emitted for the task. -/
def CancelSucceeds (taskId : String) (pool : Clients) : Prop :=
  ∃ record, pool.result 0 = some (.record (.ok record)) ∧ terminal record.state = true ∧
    (emitted taskId pool.state.2).countP (·.isFinal) = 1

/-! ### The task under steps of other clients -/

/-- The task stays stored, and if it has ended its record stays as it is. -/
lemma get_step {store : LifecycleStore} {taskId : String} {record : LifecycleRecord}
    (hget : store.get taskId = some record) (op : Op)
    (hlive : ∀ now, op = .status taskId now →
      expired store.terminalStatusTtlMs now record = false) :
    ∃ kept, (lifecycleStore op store).1.get taskId = some kept ∧
      (terminal record.state → kept = record) := by
  have hkept : ∀ {after : LifecycleStore}, after.get taskId = store.get taskId →
      ∃ kept, after.get taskId = some kept ∧ (terminal record.state → kept = record) :=
    fun hsame ↦ ⟨record, hsame.trans hget, fun _ ↦ rfl⟩
  obtain heq | ⟨task, now, other, hop, hother, hexpired, heq⟩ | ⟨task, _, _, _, hnone, heq⟩ |
    ⟨task, other, _, _, _, hother, hlegal, _, heq⟩ := store.step_cases op
  · exact hkept (by rw [heq])
  · have hne : taskId ≠ task := by
      rintro rfl
      rw [hget] at hother
      obtain rfl := Option.some.inj hother
      rw [hlive now hop] at hexpired
      exact Bool.false_ne_true hexpired
    exact hkept (by rw [heq, get_remove, if_neg hne])
  · have hne : taskId ≠ task := by
      rintro rfl
      rw [hget] at hnone
      exact absurd hnone (Option.some_ne_none record)
    exact hkept (by rw [heq, get_put, if_neg hne])
  · by_cases htask : taskId = task
    · subst htask
      rw [hget] at hother
      obtain rfl := Option.some.inj hother
      refine ⟨_, by rw [heq, get_put_self], fun hterminal ↦ ?_⟩
      rw [legalTransition_of_terminal hterminal] at hlegal
      exact absurd hlegal Bool.false_ne_true
    · exact hkept (by rw [heq, get_put, if_neg htask])

section Steps

variable {bound : ℕ} {taskId : String} {record : LifecycleRecord} {pool : Clients}

/-- A live step of any client keeps the task stored, and an ended task as it is. -/
lemma get_poolStep (hget : pool.state.1.get taskId = some record) {thread : ℕ}
    (hlive : stepLive taskId pool thread) :
    ∃ kept, (pool.step (logged lifecycleStore) thread).state.1.get taskId = some kept ∧
      (terminal record.state → kept = record) := by
  obtain heq | ⟨op, _, hthread, heq⟩ := pool.step_cases (logged lifecycleStore) thread
  · rw [heq]
    exact ⟨record, hget, fun _ ↦ rfl⟩
  · rw [heq]
    refine get_step hget op fun now hop ↦ ?_
    have hnext : pool.nextOp thread = some op := by
      rw [nextOp, hthread]
      rfl
    subst hop
    simpa [stepLive, hnext, hget] using hlive

/-- An ended task stays as it is under every live schedule. -/
lemma get_poolRun_of_terminal (hterminal : terminal record.state) (schedule : List ℕ) :
    ∀ pool : Clients, pool.state.1.get taskId = some record →
      pool.throughout (logged lifecycleStore) (stepLive taskId) schedule →
      (pool.run (logged lifecycleStore) schedule).state.1.get taskId = some record := by
  induction schedule with
  | nil => intro pool hget _; exact hget
  | cons thread rest ih =>
    intro pool hget hlive
    obtain ⟨hstep, hrest⟩ := Bool.and_eq_true_iff.mp hlive
    obtain ⟨_, hkept, hsame⟩ := get_poolStep hget hstep
    rw [hsame hterminal] at hkept
    exact ih _ hkept hrest

lemma pool_coherent (hbound : 0 < bound) (hcoherent : Coherent bound pool.state)
    (schedule : List ℕ) : Coherent bound (pool.run (logged lifecycleStore) schedule).state :=
  run_invariant (coherent_invariant hbound) schedule pool hcoherent

/-- The store is coherent and holds the task, which has ended if `ended` is set. -/
def TaskStored (bound : ℕ) (taskId : String) (ended : Bool) (pool : Clients) : Prop :=
  Coherent bound pool.state ∧ ∃ record, pool.state.1.get taskId = some record ∧
    (ended = true → terminal record.state = true)

/-- A live step of any client keeps the task stored, and ended if it was. -/
lemma taskStored_step (hbound : 0 < bound) {ended : Bool}
    (pool : Clients) (thread : ℕ) (hstored : TaskStored bound taskId ended pool)
    (hlive : stepLive taskId pool thread) :
    TaskStored bound taskId ended (pool.step (logged lifecycleStore) thread) := by
  obtain ⟨hcoherent, _, hget, hended⟩ := hstored
  obtain ⟨kept, hkept, hsame⟩ := get_poolStep hget hlive
  refine ⟨pool_coherent hbound hcoherent [thread], kept, hkept, fun h ↦ ?_⟩
  rw [hsame (hended h)]
  exact hended h

end Steps

/-! ### The move of the canceller -/

section Move

variable {bound : ℕ} {taskId : String} {record : LifecycleRecord} {state : LoggedStore}

lemma transition_of_movable (hcoherent : Coherent bound state)
    (hget : state.1.get taskId = some record) (hmovable : movable record) (now : ℕ) :
    ∃ event moved, moved.state = "cancelled" ∧
      state.1.transition taskId "cancelled" cancelDetail now =
        (state.1.put taskId moved, .ok event) := by
  obtain ⟨hrunning, hrange⟩ := Bool.and_eq_true_iff.mp hmovable
  have hrunning : terminal record.state = false := by simpa using hrunning
  have hrange : record.latestSequence + 1 < 2 ^ 64 := of_decide_eq_true hrange
  have hlegal : legalTransition record.state (canonicalState "cancelled") := by
    obtain ⟨event, hlast, hsame, _⟩ := (hcoherent.tracks taskId record hget).last
    rcases (hcoherent.tracks taskId record hget).history.last_state_cases hlast with
      hactive | hended
    · rw [hsame] at hactive
      simp only [activeStates, List.mem_cons, List.not_mem_nil, or_false] at hactive
      rcases hactive with hstate | hstate | hstate | hstate | hstate <;> rw [hstate] <;> decide
    · rw [hsame, hrunning] at hended
      exact absurd hended Bool.false_ne_true
  obtain ⟨hnone, _⟩ | ⟨_, hother, hillegal, _⟩ | ⟨_, hother, _, hfull, _⟩ |
    ⟨_, event, _, _, _, _, heq⟩ := state.1.transition_cases taskId "cancelled" cancelDetail now
  · rw [hget] at hnone
    exact absurd hnone (Option.some_ne_none record)
  · rw [hget] at hother
    obtain rfl := Option.some.inj hother
    rw [hlegal] at hillegal
    exact absurd hillegal.symm Bool.false_ne_true
  · rw [hget] at hother
    obtain rfl := Option.some.inj hother
    omega
  · exact ⟨event, _, rfl, heq⟩

/-- A record that cannot be moved stays: the move is refused or panics. -/
lemma transition_of_not_movable (hget : state.1.get taskId = some record)
    (hmovable : movable record = false) (now : ℕ) (event : LifecycleEvent) :
    (state.1.transition taskId "cancelled" cancelDetail now).2 ≠ .ok event := by
  obtain ⟨_, heq⟩ | ⟨_, _, _, heq⟩ | ⟨_, _, _, _, heq⟩ | ⟨_, _, hother, hlegal, hrange, _, _⟩ :=
    state.1.transition_cases taskId "cancelled" cancelDetail now
  · rw [heq]
    nofun
  · rw [heq]
    nofun
  · rw [heq]
    nofun
  · rw [hget] at hother
    obtain rfl := Option.some.inj hother
    have hended : terminal record.state := by
      by_contra hrunning
      rw [Bool.not_eq_true] at hrunning
      rw [movable, hrunning, decide_eq_true hrange] at hmovable
      exact absurd hmovable (by decide)
    rw [legalTransition_of_terminal hended] at hlegal
    exact absurd hlegal Bool.false_ne_true

end Move

/-! ### The steps of the canceller, last to first -/

section Canceller

variable {bound : ℕ} (hbound : 0 < bound) {taskId : String} {first second third : ℕ}
  (schedule : List ℕ)

/-- A canceller that has ended with a refusal or a panic does not succeed any more. -/
lemma not_cancelSucceeds_of_done {pool : Clients} {result : Outcome LifecycleError LifecycleRecord}
    (hdone : pool.threads[0]? = some (.done (.record result)))
    (hfailed : ∀ record, result ≠ .ok record) (schedule : List ℕ) :
    ¬ CancelSucceeds taskId (pool.run (logged lifecycleStore) schedule) := by
  rintro ⟨record, hresult, _, _⟩
  rw [Pool.result, Pool.run_done (logged lifecycleStore) schedule pool hdone] at hresult
  injection hresult with hresult
  injection hresult with hresult
  exact hfailed record hresult

/-- Steps of other clients are clear. -/
lemma throughout_stepClear_cons (pool : Clients) {thread : ℕ} (hthread : thread ≠ 0)
    (rest : List ℕ) :
    pool.throughout (logged lifecycleStore) (stepClear taskId) (thread :: rest) =
      (pool.step (logged lifecycleStore) thread).throughout (logged lifecycleStore)
        (stepClear taskId) rest := by
  rw [Pool.throughout, stepClear, if_neg hthread, Bool.true_and]

/-- Once the canceller has ended, its remaining steps do nothing. -/
lemma throughout_stepClear_of_done {reply : Reply} :
    ∀ pool : Clients, pool.threads[0]? = some (.done reply) →
      pool.throughout (logged lifecycleStore) (stepClear taskId) schedule := by
  induction schedule with
  | nil => intro pool _; rfl
  | cons thread rest ih =>
    intro pool hdone
    have hnext : (pool.step (logged lifecycleStore) thread).threads[0]? = some (.done reply) :=
      Pool.run_done (logged lifecycleStore) [thread] pool hdone
    by_cases hthread : thread = 0
    · subst hthread
      refine Bool.and_eq_true_iff.mpr ⟨?_, ih _ hnext⟩
      rw [stepClear, if_pos rfl, nextOp, hdone]
      rfl
    · rw [throughout_stepClear_cons pool hthread]
      exact ih _ hnext

/-- Assumes: the store is as required, every look is in time and the canceller still has to do its
steps. Then its success and the clearness of the schedule are related. -/
def Relates (relation : Prop → Prop → Prop) (bound : ℕ) (taskId : String) (ended : Bool)
    (program : Prog LifecyclePersistence Reply) (count : ℕ) (schedule : List ℕ) : Prop :=
  ∀ pool : Clients, pool.threads[0]? = some program → TaskStored bound taskId ended pool →
    pool.throughout (logged lifecycleStore) (stepLive taskId) schedule = true →
    count ≤ schedule.count 0 →
    relation (CancelSucceeds taskId (pool.run (logged lifecycleStore) schedule))
      (pool.throughout (logged lifecycleStore) (stepClear taskId) schedule = true)

include hbound

/-- Only the next step of the canceller has to be looked at. -/
lemma relates_of_acts {relation : Prop → Prop → Prop} {ended : Bool}
    {program : Prog LifecyclePersistence Reply} {count : ℕ}
    (hacts : ∀ (pool : Clients) rest, pool.threads[0]? = some program →
      TaskStored bound taskId ended pool → stepLive taskId pool 0 →
      (pool.step (logged lifecycleStore) 0).throughout (logged lifecycleStore) (stepLive taskId)
        rest → count ≤ rest.count 0 →
      relation (CancelSucceeds taskId (pool.run (logged lifecycleStore) (0 :: rest)))
        (pool.throughout (logged lifecycleStore) (stepClear taskId) (0 :: rest))) :
    Relates relation bound taskId ended program (count + 1) schedule := by
  refine until_acts (fun pool schedule ↦
    relation (CancelSucceeds taskId (pool.run (logged lifecycleStore) schedule))
      (pool.throughout (logged lifecycleStore) (stepClear taskId) schedule))
    (taskStored_step hbound) ?_ hacts schedule
  intro pool thread rest hthread h
  rwa [throughout_stepClear_cons pool hthread]

/-- The last look: the task has ended, so the canceller returns its record. -/
lemma cancelLook_succeeds :
    Relates And bound taskId true ((cancelLook taskId third).map .record) 1 schedule := by
  refine relates_of_acts hbound schedule ?_
  intro pool rest hthread hstored hstep hrest _
  obtain ⟨hcoherent, record, hget, hended⟩ := hstored
  have hterminal := hended rfl
  have hnow : expired pool.state.1.terminalStatusTtlMs third record = false := by
    simpa [stepLive, nextOp, hthread, cancelLook, Prog.map, Prog.nextOp, hget] using hstep
  obtain ⟨_, hnext⟩ := step_logged lifecycleStore hthread (status_of_live hget hnow)
  have hfinal : (pool.run (logged lifecycleStore) (0 :: rest)).state.1.get taskId = some record :=
    get_poolRun_of_terminal hterminal (0 :: rest) pool hget
      (Bool.and_eq_true_iff.mpr ⟨hstep, hrest⟩)
  have htracks := (pool_coherent hbound hcoherent (0 :: rest)).tracks taskId record hfinal
  obtain ⟨_, hlast, hstate, _⟩ := htracks.last
  have hone := htracks.history.countP_isFinal hlast
  rw [hstate, hterminal, if_pos rfl] at hone
  refine ⟨⟨record, ?_, hterminal, hone⟩, Bool.and_eq_true_iff.mpr ⟨?_, ?_⟩⟩
  · rw [Pool.run_cons, Pool.result, Pool.run_done (logged lifecycleStore) rest _ hnext]
    rfl
  · simp [stepClear, nextOp, hthread, cancelLook, Prog.map, Prog.nextOp]
  · exact throughout_stepClear_of_done rest _ hnext

/-- The move: the canceller succeeds exactly when the task can still be moved. -/
lemma cancelMove_succeeds_iff :
    Relates Iff bound taskId false ((cancelMove taskId second third).map .record) 2 schedule := by
  refine relates_of_acts hbound schedule ?_
  intro pool rest hthread hstored hstep hrest hcount
  obtain ⟨hcoherent, record, hget, _⟩ := hstored
  have hclear : stepClear taskId pool 0 = movable record := by
    simp [stepClear, nextOp, hthread, cancelMove, Prog.map, Prog.nextOp, hget]
  rw [Pool.run_cons, Pool.throughout, hclear]
  cases hmovable : movable record with
  | true =>
    obtain ⟨event, moved, hcancelled, heq⟩ := transition_of_movable hcoherent hget hmovable second
    obtain ⟨hstate, hnext⟩ := step_logged lifecycleStore hthread heq
    have hmoved : (pool.step (logged lifecycleStore) 0).state.1.get taskId = some moved := by
      rw [hstate]
      exact get_put_self _ _ _
    obtain ⟨hsucceeds, hclearRest⟩ := cancelLook_succeeds hbound rest _ hnext
      ⟨pool_coherent hbound hcoherent [0], moved, hmoved, fun _ ↦ by rw [hcancelled]; decide⟩
      hrest hcount
    rw [hclearRest]
    exact iff_of_true hsucceeds rfl
  | false =>
    refine iff_of_false ?_ Bool.false_ne_true
    have hrefused := transition_of_not_movable hget hmovable second
    obtain ⟨-, hnext⟩ := pool.step_call (logged lifecycleStore) hthread
    generalize hanswer : (logged lifecycleStore
      (.transition taskId "cancelled" cancelDetail second) pool.state).2 = answer at hnext
    cases answer with
    | ok event => exact absurd hanswer (hrefused event)
    | err | panicked => exact not_cancelSucceeds_of_done hnext (by simp) rest

/-- The first look: the canceller goes on to the last look when the task has ended, and to the move
when it has not. -/
lemma cancelProg_succeeds_iff :
    Relates Iff bound taskId false ((cancelProg taskId first second third).map .record) 3
      schedule := by
  refine relates_of_acts hbound schedule ?_
  intro pool rest hthread hstored hstep hrest hcount
  obtain ⟨hcoherent, record, hget, _⟩ := hstored
  have hnow : expired pool.state.1.terminalStatusTtlMs first record = false := by
    simpa [stepLive, nextOp, hthread, cancelProg, Prog.map, Prog.nextOp, hget] using hstep
  obtain ⟨hstate, hnext⟩ := step_logged lifecycleStore hthread (status_of_live hget hnow)
  have hkept : (pool.step (logged lifecycleStore) 0).state.1.get taskId = some record := by
    rw [hstate]
    exact hget
  have hclear : stepClear taskId pool 0 := by
    simp [stepClear, nextOp, hthread, cancelProg, Prog.map, Prog.nextOp]
  have hnextCoherent := pool_coherent hbound hcoherent [0]
  rw [Pool.run_cons, Pool.throughout, hclear, Bool.true_and]
  cases hterminal : terminal record.state with
  | true =>
    simp only [hterminal, ↓reduceIte] at hnext
    obtain ⟨hsucceeds, hclearRest⟩ := cancelLook_succeeds hbound rest _ hnext
      ⟨hnextCoherent, record, hkept, fun _ ↦ hterminal⟩ hrest (by omega)
    exact iff_of_true hsucceeds hclearRest
  | false =>
    simp only [hterminal, Bool.false_eq_true, ↓reduceIte] at hnext
    exact cancelMove_succeeds_iff hbound rest _ hnext
      ⟨hnextCoherent, record, hkept, fun hfalse ↦ absurd hfalse Bool.false_ne_true⟩ hrest hcount

end Canceller

/-- Assumes: a task that is stored when the canceller and the other clients start, a schedule with
the three steps of the canceller, and no look at the task after the lifetime of its record. The
canceller returns a record in a terminal state, with exactly one final event emitted for the task,
if and only if the task has not ended when the canceller moves it (and one more event has a sequence
number). -/
theorem cancel_returns_terminal_iff (maxEvents terminalStatusTtlMs : ℕ) (calls : List Call)
    (taskId : String) (first second third : ℕ) (others : List Call) (schedule : List ℕ)
    (hexists : ((reached maxEvents terminalStatusTtlMs calls).1.get taskId).isSome)
    (hlive : (cancelPool maxEvents terminalStatusTtlMs calls taskId first second third
      others).throughout (logged lifecycleStore) (stepLive taskId) schedule)
    (hcount : 3 ≤ schedule.count 0) :
    CancelSucceeds taskId
        ((cancelPool maxEvents terminalStatusTtlMs calls taskId first second third others).run
          (logged lifecycleStore) schedule) ↔
      (cancelPool maxEvents terminalStatusTtlMs calls taskId first second third others).throughout
        (logged lifecycleStore) (stepClear taskId) schedule := by
  obtain ⟨record, hget⟩ := Option.isSome_iff_exists.mp hexists
  exact cancelProg_succeeds_iff (show 0 < max maxEvents 2 by omega) schedule _ rfl
    ⟨runCalls_coherent maxEvents terminalStatusTtlMs calls, record, hget, nofun⟩ hlive hcount

/-- The hypotheses and both sides at a run of two clients that cancel one task one after the other.
-/
theorem cancel_returns_terminal_alone :
    CancelSucceeds "task" ((cancelPool 8 1000 [.submit "task" "key" "digest" 5] "task" 10 11 12
        [.cancel "task" 20 21 22]).run (logged lifecycleStore) [0, 0, 0, 1, 1]) :=
  (cancel_returns_terminal_iff 8 1000 [.submit "task" "key" "digest" 5] "task" 10 11 12
    [.cancel "task" 20 21 22] [0, 0, 0, 1, 1] (by decide) (by decide) (by decide)).mpr (by decide)

/-- Two clients cancel one accepted task. Both look first and find it running; the second client
moves it; the first client's move is then refused, and `cancel` returns that refusal. -/
theorem cancel_refused_after_concurrent_cancel :
    ((reached 8 1000 [.submit "task" "key" "digest" 5]).1.get "task").isSome ∧
      (cancelPool 8 1000 [.submit "task" "key" "digest" 5] "task" 10 11 12
        [.cancel "task" 10 11 12]).throughout (logged lifecycleStore) (stepLive "task")
          [0, 1, 1, 1, 0, 0] ∧
      ((cancelPool 8 1000 [.submit "task" "key" "digest" 5] "task" 10 11 12
        [.cancel "task" 10 11 12]).run (logged lifecycleStore) [0, 1, 1, 1, 0, 0]).result 0 =
          some (.record (.err (.conflict "illegal transition cancelled -> cancelled"))) := by
  decide

end Iicp.Lifecycle
