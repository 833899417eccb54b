import Iicp.Concurrent.EventMachine
import Iicp.Lifecycle.Record
import Iicp.Rust.HashMap

/-!
# Backend cancellation

A registry keeps, for each task, a handler that stops the task's backend, whether the handler has
been told to, and evidence of what came of it. The parts are under locks of their own, and a call
takes these locks one after the other. Here every call is a sequence of phases, each of which is what
the call does under one lock (`Phase.run`), and any number of threads run their calls interleaved
(`Cancellation.step`).

The evidence store is bounded and evicts the task that was recorded first, whatever the calls do
(`evolves_step`, `storeSound_moment`). That a handler is told at most once, and that evidence of a
cleanup means that there is no handler (`cancellation_truthful`), needs the calls for one task to be
made one at a time, and a task not to be registered again after its cleanup (`Orderly`); without
this both fail (`cancellation_not_truthful`). `Knows` is what a call knows about its task from phase
to phase.
-/

namespace Iicp.Lifecycle.BackendCancellation

open Concurrent List AList Rust

/-! ### The registry -/

structure BackendCancellationEvidence where
  taskId : String
  outcome : String
  cleanupComplete : Bool
  deriving DecidableEq, Repr

/-- The registry. Handlers are numbered in the order of their registration, and it is recorded which
of them returned true while they were registered. -/
structure BackendCancellationRegistry where
  handlers : HashMap String ℕ
  signalled : Finset String
  evidence : HashMap String BackendCancellationEvidence
  evidenceOrder : List String
  nextHandler : ℕ
  signals : List (String × ℕ)

namespace BackendCancellationRegistry

def initial : BackendCancellationRegistry := ⟨∅, ∅, ∅, [], 0, []⟩

/-- The most tasks with evidence. -/
def evidenceLimit : ℕ := 256

variable (registry : BackendCancellationRegistry)

/-- Drops the evidence of the task that was recorded first, if there is no room for another. -/
def makeRoom : BackendCancellationRegistry :=
  match registry.evidenceOrder with
  | oldest :: rest =>
    if evidenceLimit ≤ registry.evidenceOrder.length then
      { registry with evidence := registry.evidence.erase oldest, evidenceOrder := rest }
    else registry
  | [] => registry

def remember (evidence : BackendCancellationEvidence) : BackendCancellationRegistry :=
  if evidence.taskId ∈ registry.evidence then
    { registry with evidence := registry.evidence.insert evidence.taskId evidence }
  else
    { registry.makeRoom with
      evidence := registry.makeRoom.evidence.insert evidence.taskId evidence
      evidenceOrder := registry.makeRoom.evidenceOrder ++ [evidence.taskId] }

/-- A handler has returned true. -/
def recordSignal (taskId : String) (handler : ℕ) : BackendCancellationRegistry :=
  if registry.handlers.lookup taskId = some handler then
    { registry with signals := registry.signals ++ [(taskId, handler)] }
  else registry

end BackendCancellationRegistry

/-! ### Calls -/

inductive Operation where
  | register
  | complete (outcome : Option String)
  | report (outcome : String)
  | request (state : String)
  deriving DecidableEq, Repr

inductive Answer where
  | done
  | evidence (value : BackendCancellationEvidence)
  | refused (message : String)
  | text (value : String)
  | panicked
  deriving DecidableEq, Repr

/-- What a call does next, each under one lock. A request that ends in another call has a text of its
own to return. -/
inductive Phase where
  | insertHandler
  | clearSignalled
  | removeHandler (outcome reply : Option String)
  | forgetSignalled (outcome reply : Option String)
  | readCurrent (outcome reply : Option String)
  | readCleanup (outcome : String) (reply : Option String)
  | remember (evidence : BackendCancellationEvidence) (reply : Option String)
  | checkSignalled
  | getHandler
  | invoke (handler : ℕ)
  | setSignalled
  deriving DecidableEq, Repr

/-- A thread is between calls, with the answer to the last one, or in a call for a task. -/
inductive Thread where
  | idle (last : Option Answer)
  | running (taskId : String) (phase : Phase)
  deriving DecidableEq, Repr

def knownOutcome (outcome : String) : Bool :=
  ["cancel_requested", "transport_aborted", "backend_acknowledged", "execution_stopped",
    "cancel_unsupported", "already_terminal"].contains outcome

def Operation.start (taskId : String) : Operation → Thread
  | .register => .running taskId .insertHandler
  | .complete outcome => .running taskId (.removeHandler outcome none)
  | .report outcome =>
    if knownOutcome outcome then .running taskId (.readCleanup outcome none)
    else .idle (some (.refused ("unsupported cancellation evidence: " ++ outcome)))
  | .request state =>
    if terminal state then
      .running taskId (.removeHandler (some "already_terminal") (some "already_terminal"))
    else .running taskId .checkSignalled

def finished (evidence : BackendCancellationEvidence) (reply : Option String) : Thread :=
  .idle (some ((reply.map .text).getD (.evidence evidence)))

/-- A request for a task without a handler, or with one that returned false. -/
def unsupported (taskId : String) : Thread :=
  .running taskId (.removeHandler (some "cancel_unsupported") (some "cancel_unsupported"))

/-- What a phase does to the registry, and what comes after it. A handler that is told returns a
truth value or panics. -/
def Phase.run (registry : BackendCancellationRegistry) (taskId : String) (returns : Option Bool) :
    Phase → BackendCancellationRegistry × Thread
  | .insertHandler =>
    ({ registry with
        handlers := registry.handlers.insert taskId registry.nextHandler
        nextHandler := registry.nextHandler + 1 }, .running taskId .clearSignalled)
  | .clearSignalled =>
    ({ registry with signalled := registry.signalled.erase taskId }, .idle (some .done))
  | .removeHandler outcome reply =>
    ({ registry with handlers := registry.handlers.erase taskId },
      .running taskId (.forgetSignalled outcome reply))
  | .forgetSignalled outcome reply =>
    ({ registry with signalled := registry.signalled.erase taskId },
      .running taskId (.readCurrent outcome reply))
  | .readCurrent outcome reply =>
    let current := registry.evidence.lookup taskId
    let evidence : BackendCancellationEvidence :=
      ⟨taskId, (outcome.or (current.map (·.outcome))).getD "cancel_unsupported", true⟩
    if current.isNone && outcome.isNone then (registry, finished evidence reply)
    else (registry, .running taskId (.remember evidence reply))
  | .readCleanup outcome reply =>
    let cleanupComplete := (registry.evidence.lookup taskId).any (·.cleanupComplete)
    (registry, .running taskId (.remember ⟨taskId, outcome, cleanupComplete⟩ reply))
  | .remember evidence reply => (registry.remember evidence, finished evidence reply)
  | .checkSignalled =>
    if taskId ∈ registry.signalled then (registry, .idle (some (.text "cancel_signalled")))
    else (registry, .running taskId .getHandler)
  | .getHandler =>
    match registry.handlers.lookup taskId with
    | none => (registry, unsupported taskId)
    | some handler => (registry, .running taskId (.invoke handler))
  | .invoke handler =>
    match returns with
    | none => (registry, .idle (some .panicked))
    | some false => (registry, unsupported taskId)
    | some true => (registry.recordSignal taskId handler, .running taskId .setSignalled)
  | .setSignalled =>
    ({ registry with signalled := insert taskId registry.signalled },
      .running taskId (.readCleanup "cancel_requested" (some "cancel_signalled")))

/-! ### Threads -/

/-- A registry and the threads that use it. -/
structure Cancellation (ι : Type) where
  registry : BackendCancellationRegistry
  thread : ι → Thread

/-- A thread begins a call, or goes on with the one that it is in. -/
inductive CancellationEvent (ι : Type) where
  | call (thread : ι) (taskId : String) (operation : Operation)
  | advance (thread : ι) (returns : Option Bool)
  deriving DecidableEq

namespace Cancellation

variable {ι : Type} [DecidableEq ι]

def initial : Cancellation ι := ⟨.initial, fun _ ↦ .idle none⟩

def step (system : Cancellation ι) : CancellationEvent ι → Cancellation ι
  | .call thread taskId operation =>
    match system.thread thread with
    | .idle _ => { system with thread := Function.update system.thread thread (operation.start taskId) }
    | .running _ _ => system
  | .advance thread returns =>
    match system.thread thread with
    | .idle _ => system
    | .running taskId phase =>
      let (registry, after) := phase.run system.registry taskId returns
      ⟨registry, Function.update system.thread thread after⟩

def moment (events : List (CancellationEvent ι)) (position : ℕ) : Cancellation ι :=
  stateAt step initial events position

end Cancellation

/-! ### The evidence store -/

open BackendCancellationRegistry

/-- The order lists the tasks with evidence, each once, and there are not too many. -/
structure StoreSound (registry : BackendCancellationRegistry) : Prop where
  keys : registry.evidenceOrder.Perm registry.evidence.keys
  nodup : registry.evidenceOrder.Nodup
  bounded : registry.evidence.size ≤ evidenceLimit

/-- How the order may change: not at all, or by a new task at its end, for which the first one leaves
if there is no room. -/
inductive Evolves (order : List String) : List String → Prop where
  | same : Evolves order order
  | added (taskId : String) (hnew : taskId ∉ order) (hroom : order.length < evidenceLimit) :
      Evolves order (order ++ [taskId])
  | evicted (oldest : String) (rest : List String) (taskId : String) (horder : order = oldest :: rest)
      (hnew : taskId ∉ order) (hfull : order.length = evidenceLimit) :
      Evolves order (rest ++ [taskId])

section Store

variable {registry : BackendCancellationRegistry}

lemma StoreSound.length_le (hstore : StoreSound registry) :
    registry.evidenceOrder.length ≤ evidenceLimit :=
  hstore.keys.length_eq.trans_le hstore.bounded

lemma StoreSound.mem_iff (hstore : StoreSound registry) (taskId : String) :
    taskId ∈ registry.evidenceOrder ↔ taskId ∈ registry.evidence :=
  hstore.keys.mem_iff.trans mem_keys.symm

lemma makeRoom_of_lt (hroom : registry.evidenceOrder.length < evidenceLimit) :
    registry.makeRoom = registry := by
  unfold makeRoom
  cases horder : registry.evidenceOrder with
  | nil => rfl
  | cons =>
    rw [horder] at hroom
    exact if_neg (not_le.mpr hroom)

lemma makeRoom_of_full {oldest : String} {rest : List String}
    (horder : registry.evidenceOrder = oldest :: rest)
    (hfull : registry.evidenceOrder.length = evidenceLimit) :
    registry.makeRoom =
      { registry with evidence := registry.evidence.erase oldest, evidenceOrder := rest } := by
  unfold makeRoom
  rw [horder]
  rw [horder] at hfull
  exact if_pos hfull.ge

/-- Evidence is stored under a task that has some, in a store with room, or in place of the first. -/
lemma remember_cases (hstore : StoreSound registry) (evidence : BackendCancellationEvidence) :
    (evidence.taskId ∈ registry.evidence ∧ registry.remember evidence =
      { registry with evidence := registry.evidence.insert evidence.taskId evidence }) ∨
    (evidence.taskId ∉ registry.evidence ∧
      registry.evidenceOrder.length < evidenceLimit ∧
      registry.remember evidence =
        { registry with
          evidence := registry.evidence.insert evidence.taskId evidence
          evidenceOrder := registry.evidenceOrder ++ [evidence.taskId] }) ∨
    ∃ oldest rest, evidence.taskId ∉ registry.evidence ∧
      registry.evidenceOrder = oldest :: rest ∧
      registry.evidenceOrder.length = evidenceLimit ∧
      registry.remember evidence =
        { registry with
          evidence := (registry.evidence.erase oldest).insert evidence.taskId evidence
          evidenceOrder := rest ++ [evidence.taskId] } := by
  unfold remember
  by_cases hknown : evidence.taskId ∈ registry.evidence
  · exact .inl ⟨hknown, if_pos hknown⟩
  · right
    rw [if_neg hknown]
    rcases hstore.length_le.lt_or_eq with hroom | hfull
    · refine .inl ⟨hknown, hroom, ?_⟩
      rw [makeRoom_of_lt hroom]
    · obtain ⟨oldest, rest, horder⟩ := exists_of_length_succ _ hfull
      refine .inr ⟨oldest, rest, hknown, horder, hfull, ?_⟩
      rw [makeRoom_of_full horder hfull]

/-- The store stays sound when a new task is recorded in a store with room for it. -/
lemma storeSound_insert {evidence : HashMap String BackendCancellationEvidence}
    {order : List String} {taskId : String} (value : BackendCancellationEvidence)
    (hkeys : order.Perm evidence.keys) (hnew : taskId ∉ evidence)
    (hroom : order.length < evidenceLimit) :
    StoreSound { registry with
      evidence := evidence.insert taskId value, evidenceOrder := order ++ [taskId] } := by
  have hnewKey : taskId ∉ evidence.keys := fun hmem ↦ hnew (mem_keys.mpr hmem)
  have hperm : (order ++ [taskId]).Perm (evidence.insert taskId value).keys := by
    rw [keys_insert, erase_of_not_mem hnewKey]
    exact (perm_append_singleton taskId order).trans (hkeys.cons taskId)
  refine ⟨hperm, hperm.nodup_iff.mpr (evidence.insert taskId value).keys_nodup, ?_⟩
  change (evidence.insert taskId value).keys.length ≤ _
  rw [← hperm.length_eq, length_append, length_singleton]
  exact hroom

section

variable (hstore : StoreSound registry)

include hstore

variable (evidence : BackendCancellationEvidence)

lemma storeSound_remember :
    StoreSound (registry.remember evidence) ∧
      Evolves registry.evidenceOrder (registry.remember evidence).evidenceOrder := by
  rcases remember_cases hstore evidence with
    ⟨hknown, heq⟩ | ⟨hnew, hroom, heq⟩ | ⟨oldest, rest, hnew, horder, hfull, heq⟩
  · have hperm : registry.evidenceOrder.Perm
        (registry.evidence.insert evidence.taskId evidence).keys := by
      rw [keys_insert]
      exact hstore.keys.trans (perm_cons_erase (mem_keys.mp hknown))
    rw [heq]
    refine ⟨⟨hperm, hstore.nodup, ?_⟩, .same⟩
    change (registry.evidence.insert evidence.taskId evidence).keys.length ≤ _
    rw [← hperm.length_eq]
    exact hstore.length_le
  · rw [heq]
    exact ⟨storeSound_insert evidence hstore.keys hnew hroom,
      .added _ (fun hmem ↦ hnew ((hstore.mem_iff _).mp hmem)) hroom⟩
  · have hkeys : rest.Perm (registry.evidence.erase oldest).keys := by
      have herase := hstore.keys.erase oldest
      rwa [horder, erase_cons_head, ← keys_erase] at herase
    have hnewKey : evidence.taskId ∉ registry.evidence.erase oldest :=
      fun hmem ↦ hnew (mem_erase.mp hmem).2
    rw [heq]
    refine ⟨storeSound_insert evidence hkeys hnewKey ?_,
      .evicted oldest rest _ horder (fun hmem ↦ hnew ((hstore.mem_iff _).mp hmem)) hfull⟩
    rw [horder, length_cons] at hfull
    omega

/-- Evidence of another task is as before, unless it was evicted. -/
lemma lookup_remember_ne {evidence : BackendCancellationEvidence} {taskId : String}
    (hother : taskId ≠ evidence.taskId) {value : BackendCancellationEvidence}
    (hvalue : (registry.remember evidence).evidence.lookup taskId = some value) :
    registry.evidence.lookup taskId = some value := by
  rcases remember_cases hstore evidence with ⟨_, heq⟩ | ⟨_, _, heq⟩ | ⟨oldest, rest, _, _, _, heq⟩
  · rwa [heq, lookup_insert_ne hother] at hvalue
  · rwa [heq, lookup_insert_ne hother] at hvalue
  · rw [heq, lookup_insert_ne hother] at hvalue
    by_cases hevicted : taskId = oldest
    · rw [hevicted, lookup_erase] at hvalue
      nomatch hvalue
    · rwa [lookup_erase_ne hevicted] at hvalue

lemma lookup_remember_self :
    (registry.remember evidence).evidence.lookup evidence.taskId = some evidence := by
  rcases remember_cases hstore evidence with ⟨_, heq⟩ | ⟨_, _, heq⟩ | ⟨oldest, rest, _, _, _, heq⟩ <;>
    rw [heq, lookup_insert]

end

lemma remember_rest (registry : BackendCancellationRegistry)
    (evidence : BackendCancellationEvidence) :
    (registry.remember evidence).handlers = registry.handlers ∧
      (registry.remember evidence).signalled = registry.signalled ∧
      (registry.remember evidence).nextHandler = registry.nextHandler ∧
      (registry.remember evidence).signals = registry.signals := by
  unfold remember makeRoom
  cases registry.evidenceOrder <;> simp only <;> split_ifs <;> exact ⟨rfl, rfl, rfl, rfl⟩

end Store

/-- No phase but the storing of evidence touches the store. -/
lemma store_run (registry : BackendCancellationRegistry) (taskId : String) (returns : Option Bool)
    (phase : Phase) :
    let after := (phase.run registry taskId returns).1
    (∃ evidence reply, phase = .remember evidence reply ∧ after = registry.remember evidence) ∨
      (after.evidence = registry.evidence ∧ after.evidenceOrder = registry.evidenceOrder) := by
  dsimp only
  cases phase with
  | remember evidence reply => exact .inl ⟨evidence, reply, rfl, rfl⟩
  | readCurrent | checkSignalled =>
    right
    rw [Phase.run]
    split_ifs <;> exact ⟨rfl, rfl⟩
  | getHandler =>
    right
    rw [Phase.run]
    cases registry.handlers.lookup taskId <;> exact ⟨rfl, rfl⟩
  | invoke =>
    right
    match returns with
    | none | some false => exact ⟨rfl, rfl⟩
    | some true =>
      rw [Phase.run, recordSignal]
      split_ifs <;> exact ⟨rfl, rfl⟩
  | _ => exact .inr ⟨rfl, rfl⟩

/-- Every phase keeps the store sound and lets the order evolve. -/
lemma storeSound_run {registry : BackendCancellationRegistry} (hstore : StoreSound registry)
    (taskId : String) (returns : Option Bool) (phase : Phase) :
    let after := (phase.run registry taskId returns).1
    StoreSound after ∧ Evolves registry.evidenceOrder after.evidenceOrder := by
  dsimp only
  rcases store_run registry taskId returns phase with
    ⟨evidence, reply, _, heq⟩ | ⟨hevidence, horder⟩
  · rw [heq]
    exact storeSound_remember hstore evidence
  · refine ⟨⟨?_, ?_, ?_⟩, ?_⟩
    · rw [hevidence, horder]
      exact hstore.keys
    · rw [horder]
      exact hstore.nodup
    · rw [hevidence]
      exact hstore.bounded
    · rw [horder]
      exact .same

section Runs

variable {ι : Type} [DecidableEq ι] {system : Cancellation ι}

/-- Every step keeps the store sound and lets the order evolve. -/
lemma evolves_step (hstore : StoreSound system.registry) (event : CancellationEvent ι) :
    StoreSound (system.step event).registry ∧
      Evolves system.registry.evidenceOrder (system.step event).registry.evidenceOrder := by
  cases event with
  | call thread =>
    rw [Cancellation.step]
    cases system.thread thread <;> exact ⟨hstore, .same⟩
  | advance thread returns =>
    rw [Cancellation.step]
    cases system.thread thread with
    | idle => exact ⟨hstore, .same⟩
    | running taskId phase =>
      exact storeSound_run hstore taskId returns phase

lemma storeSound_initial : StoreSound initial :=
  ⟨Perm.refl [], nodup_nil, Nat.zero_le _⟩

/-- The store is sound at every moment, whatever the calls are. -/
theorem storeSound_moment (events : List (CancellationEvent ι)) (position : ℕ) :
    StoreSound (Cancellation.moment events position).registry := by
  let sound : Cancellation ι → Prop := fun system ↦ StoreSound system.registry
  have hinitial : sound .initial := storeSound_initial
  exact always_of_good hinitial (fun _ event _ hstore ↦ (evolves_step hstore event).1) position

end Runs

/-! ### What a call knows about its task -/

section Knowledge

variable (registry : BackendCancellationRegistry) (taskId : String)

/-- A handler that has been told is marked. -/
def Settled : Prop :=
  ∀ handler, registry.handlers.lookup taskId = some handler →
    (taskId, handler) ∈ registry.signals → taskId ∈ registry.signalled

/-- The evidence of a task does not say that it was cleaned up. -/
def NotCleaned : Prop :=
  ∀ evidence, registry.evidence.lookup taskId = some evidence → evidence.cleanupComplete = false

/-- What a call for a task knows when it is in a phase and no other call for the task is running. -/
def Knows : Phase → Prop
  | .insertHandler => NotCleaned registry taskId
  | .clearSignalled => ∀ handler, registry.handlers.lookup taskId = some handler →
      (taskId, handler) ∉ registry.signals
  | .removeHandler _ _ => True
  | .forgetSignalled _ _ => registry.handlers.lookup taskId = none
  | .readCurrent _ _ => registry.handlers.lookup taskId = none
  | .readCleanup _ _ => Settled registry taskId
  | .remember evidence _ => evidence.taskId = taskId ∧ Settled registry taskId ∧
      (evidence.cleanupComplete = true → registry.handlers.lookup taskId = none)
  | .checkSignalled => Settled registry taskId
  | .getHandler => Settled registry taskId ∧ taskId ∉ registry.signalled
  | .invoke handler => registry.handlers.lookup taskId = some handler ∧
      (taskId, handler) ∉ registry.signals
  | .setSignalled => True

/-- What is known about a task after a phase of a call for it. -/
def After : Thread → Prop
  | .idle _ => Settled registry taskId
  | .running task phase => task = taskId ∧ Knows registry taskId phase

end Knowledge

/-- The properties of the registry, with what makes them inductive. -/
structure Sound (registry : BackendCancellationRegistry) : Prop where
  store : StoreSound registry
  once : registry.signals.Nodup
  told : ∀ signal ∈ registry.signals, signal.2 < registry.nextHandler
  numbered : ∀ taskId handler, registry.handlers.lookup taskId = some handler →
    handler < registry.nextHandler
  truthful : ∀ taskId evidence, registry.evidence.lookup taskId = some evidence →
    evidence.cleanupComplete = true → registry.handlers.lookup taskId = none

/-- A phase of a call leaves the other tasks alone, up to evidence that is evicted. -/
structure Frame (taskId : String) (before after : BackendCancellationRegistry) : Prop where
  handlers : ∀ other ≠ taskId, after.handlers.lookup other = before.handlers.lookup other
  signalled : ∀ other ≠ taskId, (other ∈ after.signalled ↔ other ∈ before.signalled)
  signals : ∀ other ≠ taskId, ∀ handler,
    ((other, handler) ∈ after.signals ↔ (other, handler) ∈ before.signals)
  evidence : ∀ other ≠ taskId, ∀ value, after.evidence.lookup other = some value →
    before.evidence.lookup other = some value

section Phases

variable {registry after : BackendCancellationRegistry} {taskId : String}

lemma Frame.refl (taskId : String) (registry : BackendCancellationRegistry) :
    Frame taskId registry registry :=
  ⟨fun _ _ ↦ rfl, fun _ _ ↦ Iff.rfl, fun _ _ _ ↦ Iff.rfl, fun _ _ _ hvalue ↦ hvalue⟩

lemma settled_of_none (hnone : registry.handlers.lookup taskId = none) :
    Settled registry taskId := by
  intro handler hhandler
  rw [hnone] at hhandler
  nomatch hhandler

lemma Frame.settled (hframe : Frame taskId registry after) {other : String}
    (hother : other ≠ taskId) (hsettled : Settled registry other) : Settled after other := by
  intro handler hhandler hsignal
  rw [hframe.handlers other hother] at hhandler
  rw [hframe.signals other hother] at hsignal
  exact (hframe.signalled other hother).mpr (hsettled handler hhandler hsignal)

/-- What calls for other tasks know stays true. -/
lemma Frame.knows (hframe : Frame taskId registry after) {other : String}
    (hother : other ≠ taskId) {phase : Phase} (hknows : Knows registry other phase) :
    Knows after other phase := by
  have hhandlers := hframe.handlers other hother
  cases phase with
  | insertHandler =>
    intro evidence hevidence
    exact hknows evidence (hframe.evidence other hother evidence hevidence)
  | clearSignalled =>
    intro handler hhandler hsignal
    rw [hhandlers] at hhandler
    exact hknows handler hhandler ((hframe.signals other hother handler).mp hsignal)
  | removeHandler => trivial
  | forgetSignalled | readCurrent => exact hhandlers.trans hknows
  | readCleanup | checkSignalled => exact hframe.settled hother hknows
  | remember =>
    refine ⟨hknows.1, hframe.settled hother hknows.2.1, fun hcleanup ↦ ?_⟩
    exact hhandlers.trans (hknows.2.2 hcleanup)
  | getHandler =>
    refine ⟨hframe.settled hother hknows.1, fun hsignalled ↦ ?_⟩
    exact hknows.2 ((hframe.signalled other hother).mp hsignalled)
  | invoke handler =>
    refine ⟨hhandlers.trans hknows.1, fun hsignal ↦ ?_⟩
    exact hknows.2 ((hframe.signals other hother handler).mp hsignal)
  | setSignalled => trivial

/-- A phase that changes the marks of its task only. -/
lemma frame_signalled {marked : Finset String}
    (hmarked : ∀ other ≠ taskId, (other ∈ marked ↔ other ∈ registry.signalled)) :
    Frame taskId registry { registry with signalled := marked } :=
  ⟨fun _ _ ↦ rfl, hmarked, fun _ _ _ ↦ Iff.rfl, fun _ _ _ hvalue ↦ hvalue⟩

/-- A phase that changes the handler of its task only. -/
lemma frame_handlers {handlers : HashMap String ℕ} (next : ℕ)
    (hhandlers : ∀ other ≠ taskId, handlers.lookup other = registry.handlers.lookup other) :
    Frame taskId registry { registry with handlers := handlers, nextHandler := next } :=
  ⟨hhandlers, fun _ _ ↦ Iff.rfl, fun _ _ _ ↦ Iff.rfl, fun _ _ _ hvalue ↦ hvalue⟩

section

variable (hsound : Sound registry)

include hsound

lemma sound_insertHandler (hknows : NotCleaned registry taskId) :
    Sound { registry with
      handlers := registry.handlers.insert taskId registry.nextHandler
      nextHandler := registry.nextHandler + 1 } where
  store := ⟨hsound.store.keys, hsound.store.nodup, hsound.store.bounded⟩
  once := hsound.once
  told signal hsignal := Nat.lt_succ_of_lt (hsound.told signal hsignal)
  numbered task handler hhandler := by
    by_cases htask : task = taskId
    · rw [htask, lookup_insert] at hhandler
      rw [← Option.some.inj hhandler]
      exact Nat.lt_succ_self _
    · rw [lookup_insert_ne htask] at hhandler
      exact Nat.lt_succ_of_lt (hsound.numbered task handler hhandler)
  truthful task evidence hevidence hcleanup := by
    by_cases htask : task = taskId
    · subst htask
      rw [hknows evidence hevidence] at hcleanup
      nomatch hcleanup
    · rw [lookup_insert_ne htask]
      exact hsound.truthful task evidence hevidence hcleanup

lemma sound_removeHandler (taskId : String) :
    Sound { registry with handlers := registry.handlers.erase taskId } where
  store := ⟨hsound.store.keys, hsound.store.nodup, hsound.store.bounded⟩
  once := hsound.once
  told := hsound.told
  numbered task handler hhandler := by
    by_cases htask : task = taskId
    · rw [htask, lookup_erase] at hhandler
      nomatch hhandler
    · rw [lookup_erase_ne htask] at hhandler
      exact hsound.numbered task handler hhandler
  truthful task evidence hevidence hcleanup := by
    by_cases htask : task = taskId
    · rw [htask, lookup_erase]
    · rw [lookup_erase_ne htask]
      exact hsound.truthful task evidence hevidence hcleanup

lemma sound_signalled (marked : Finset String) : Sound { registry with signalled := marked } :=
  ⟨⟨hsound.store.keys, hsound.store.nodup, hsound.store.bounded⟩, hsound.once, hsound.told,
    hsound.numbered, hsound.truthful⟩

lemma sound_remember {evidence : BackendCancellationEvidence} (htruth : evidence.cleanupComplete →
      registry.handlers.lookup evidence.taskId = none) : Sound (registry.remember evidence) := by
  obtain ⟨hhandlers, _, hnext, hsignals⟩ := remember_rest registry evidence
  refine ⟨(storeSound_remember hsound.store evidence).1, ?_, ?_, ?_, ?_⟩
  · rw [hsignals]
    exact hsound.once
  · rw [hsignals, hnext]
    exact hsound.told
  · rw [hhandlers, hnext]
    exact hsound.numbered
  · rw [hhandlers]
    intro task value hvalue hcleanup
    by_cases htask : task = evidence.taskId
    · rw [htask, lookup_remember_self hsound.store evidence] at hvalue
      obtain rfl := Option.some.inj hvalue
      rw [htask]
      exact htruth hcleanup
    · exact hsound.truthful task value (lookup_remember_ne hsound.store htask hvalue) hcleanup

lemma frame_remember (evidence : BackendCancellationEvidence) :
    Frame evidence.taskId registry (registry.remember evidence) := by
  obtain ⟨hhandlers, hsignalled, _, hsignals⟩ := remember_rest registry evidence
  refine ⟨fun _ _ ↦ by rw [hhandlers], fun _ _ ↦ by rw [hsignalled], fun _ _ _ ↦ by rw [hsignals],
    fun other hother value hvalue ↦ ?_⟩
  exact lookup_remember_ne hsound.store hother hvalue

end

lemma settled_remember (hsettled : Settled registry taskId)
    (evidence : BackendCancellationEvidence) : Settled (registry.remember evidence) taskId := by
  obtain ⟨hhandlers, hsignalled, _, hsignals⟩ := remember_rest registry evidence
  intro handler hhandler hsignal
  rw [hhandlers] at hhandler
  rw [hsignals] at hsignal
  rw [hsignalled]
  exact hsettled handler hhandler hsignal

/-- Assumes: the handler of the task, which was not told before. It is told. -/
lemma sound_recordSignal (hsound : Sound registry) {handler : ℕ}
    (hhandler : registry.handlers.lookup taskId = some handler)
    (hnot : (taskId, handler) ∉ registry.signals) :
    Sound (registry.recordSignal taskId handler) ∧
      Frame taskId registry (registry.recordSignal taskId handler) := by
  rw [recordSignal, if_pos hhandler]
  constructor
  · refine ⟨⟨hsound.store.keys, hsound.store.nodup, hsound.store.bounded⟩, ?_, ?_, hsound.numbered,
      hsound.truthful⟩
    · exact (nodup_append_comm.mp (nodup_cons.mpr ⟨hnot, hsound.once⟩))
    · intro signal hsignal
      rcases mem_append.mp hsignal with hold | hnew
      · exact hsound.told signal hold
      · rw [mem_singleton.mp hnew]
        exact hsound.numbered taskId handler hhandler
  · refine ⟨fun _ _ ↦ rfl, fun _ _ ↦ Iff.rfl, fun other hother value ↦ ?_, fun _ _ _ hvalue ↦ hvalue⟩
    rw [mem_append, mem_singleton, Prod.mk.injEq, or_iff_left]
    exact fun hsame ↦ hother hsame.1

/-- A phase keeps the registry sound, leaves other tasks alone, and hands on what is known about its
task. -/
lemma sound_run (hsound : Sound registry) {phase : Phase} (hknows : Knows registry taskId phase)
    (returns : Option Bool) :
    let after := phase.run registry taskId returns
    Sound after.1 ∧ Frame taskId registry after.1 ∧ After after.1 taskId after.2 := by
  dsimp only
  cases phase with
  | insertHandler =>
    refine ⟨sound_insertHandler hsound hknows,
      frame_handlers _ fun other hother ↦ lookup_insert_ne hother, rfl, ?_⟩
    intro handler hhandler hsignal
    change (registry.handlers.insert taskId registry.nextHandler).lookup taskId = _ at hhandler
    rw [lookup_insert] at hhandler
    obtain rfl := Option.some.inj hhandler
    exact lt_irrefl _ (hsound.told _ hsignal)
  | clearSignalled =>
    refine ⟨sound_signalled hsound _, frame_signalled fun other hother ↦ ?_, ?_⟩
    · rw [Finset.mem_erase, and_iff_right hother]
    · intro handler hhandler hsignal
      exact absurd hsignal (hknows handler hhandler)
  | removeHandler =>
    exact ⟨sound_removeHandler hsound taskId,
      frame_handlers _ fun other hother ↦ lookup_erase_ne hother, rfl,
      lookup_erase taskId registry.handlers⟩
  | forgetSignalled =>
    refine ⟨sound_signalled hsound _, frame_signalled fun other hother ↦ ?_, rfl, hknows⟩
    rw [Finset.mem_erase, and_iff_right hother]
  | readCurrent =>
    have hsettled := settled_of_none hknows
    rw [Phase.run]
    split_ifs
    · exact ⟨hsound, Frame.refl _ _, hsettled⟩
    · exact ⟨hsound, Frame.refl _ _, rfl, rfl, hsettled, fun _ ↦ hknows⟩
  | readCleanup =>
    refine ⟨hsound, Frame.refl _ _, rfl, rfl, hknows, fun hcleanup ↦ ?_⟩
    change (registry.evidence.lookup taskId).any (·.cleanupComplete) at hcleanup
    cases hevidence : registry.evidence.lookup taskId with
    | none =>
      rw [hevidence] at hcleanup
      nomatch hcleanup
    | some evidence =>
      rw [hevidence] at hcleanup
      exact hsound.truthful taskId evidence hevidence hcleanup
  | remember evidence =>
    obtain ⟨rfl, hsettled, htruth⟩ := hknows
    exact ⟨sound_remember hsound htruth, frame_remember hsound evidence,
      settled_remember hsettled evidence⟩
  | checkSignalled =>
    rw [Phase.run]
    split_ifs with hmarked
    · exact ⟨hsound, Frame.refl _ _, hknows⟩
    · exact ⟨hsound, Frame.refl _ _, rfl, hknows, hmarked⟩
  | getHandler =>
    rw [Phase.run]
    cases hhandler : registry.handlers.lookup taskId with
    | none => exact ⟨hsound, Frame.refl _ _, rfl, trivial⟩
    | some handler =>
      exact ⟨hsound, Frame.refl _ _, rfl, hhandler, fun hsignal ↦
        hknows.2 (hknows.1 handler hhandler hsignal)⟩
  | invoke =>
    match returns with
    | none =>
      refine ⟨hsound, Frame.refl _ _, fun other hother hsignal ↦ ?_⟩
      obtain rfl := Option.some.inj (hknows.1.symm.trans hother)
      exact absurd hsignal hknows.2
    | some false => exact ⟨hsound, Frame.refl _ _, rfl, trivial⟩
    | some true =>
      obtain ⟨hnext, hframe⟩ := sound_recordSignal hsound hknows.1 hknows.2
      exact ⟨hnext, hframe, rfl, trivial⟩
  | setSignalled =>
    refine ⟨sound_signalled hsound _, frame_signalled fun other hother ↦ ?_, rfl, ?_⟩
    · rw [Finset.mem_insert, or_iff_right hother]
    · intro handler _ _
      exact Finset.mem_insert_self taskId registry.signalled

end Phases

/-! ### Orderly runs -/

section Orderly

variable {ι : Type} [DecidableEq ι] {system : Cancellation ι} {taskId : String} {phase : Phase}
  {thread : ι}

/-- A call for a task begins when no other call for the task is running, and a task whose evidence
says that it was cleaned up is not registered. -/
def Orderly (system : Cancellation ι) : CancellationEvent ι → Prop
  | .call _ taskId operation => (∀ thread phase, system.thread thread ≠ .running taskId phase) ∧
      (operation = .register → NotCleaned system.registry taskId)
  | .advance _ _ => True

/-- The registry is sound, calls for one task do not overlap, and each call knows its part. -/
structure Exclusive (system : Cancellation ι) : Prop where
  sound : Sound system.registry
  alone : ∀ first second taskId phase other, system.thread first = .running taskId phase →
    system.thread second = .running taskId other → first = second
  knows : ∀ thread taskId phase, system.thread thread = .running taskId phase →
    Knows system.registry taskId phase
  settled : ∀ taskId, (∀ thread phase, system.thread thread ≠ .running taskId phase) →
    Settled system.registry taskId

omit [DecidableEq ι] in
lemma exclusive_initial : Exclusive (Cancellation.initial : Cancellation ι) where
  sound := by
    refine ⟨storeSound_initial, nodup_nil, nofun, ?_, ?_⟩
    · intro taskId handler hhandler
      rw [Cancellation.initial, initial, lookup_empty] at hhandler
      nomatch hhandler
    · intro taskId evidence hevidence
      rw [Cancellation.initial, initial, lookup_empty] at hevidence
      nomatch hevidence
  alone := nofun
  knows := nofun
  settled := fun _ _ _ _ hsignal ↦ nomatch hsignal

variable {registry : BackendCancellationRegistry}

lemma after_start {operation : Operation} (hsettled : Settled registry taskId)
    (hnew : operation = .register → NotCleaned registry taskId) :
    After registry taskId (operation.start taskId) := by
  cases operation with
  | register => exact ⟨rfl, hnew rfl⟩
  | complete => exact ⟨rfl, trivial⟩
  | report =>
    rw [Operation.start]
    split_ifs
    · exact ⟨rfl, hsettled⟩
    · exact hsettled
  | request =>
    rw [Operation.start]
    split_ifs
    · exact ⟨rfl, trivial⟩
    · exact ⟨rfl, hsettled⟩

/-- A running thread is the one that has made a step, or one that was running before. -/
lemma running_update {threads : ι → Thread} {other : ι} {next : Thread}
    (hother : Function.update threads thread next other = .running taskId phase) :
    (other = thread ∧ next = .running taskId phase) ∨
      (other ≠ thread ∧ threads other = .running taskId phase) := by
  by_cases hsame : other = thread
  · rw [hsame, Function.update_self] at hother
    exact .inl ⟨hsame, hother⟩
  · rw [Function.update_of_ne hsame] at hother
    exact .inr ⟨hsame, hother⟩

/-- A thread begins a call for a task or goes on with one, and no other thread is in a call for the
task. -/
lemma Exclusive.update (hsystem : Exclusive system)
    {next : Thread} (hsound : Sound registry) (hframe : Frame taskId system.registry registry)
    (hafter : After registry taskId next)
    (hself : ∀ task later, system.thread thread = .running task later → task = taskId)
    (hothers : ∀ other task later, other ≠ thread → system.thread other = .running task later →
      task ≠ taskId) : Exclusive ⟨registry, Function.update system.thread thread next⟩ := by
  have hnext : ∀ task later, next = .running task later → task = taskId ∧
      Knows registry taskId later := by
    rintro task later rfl
    exact hafter
  refine ⟨hsound, ?_, ?_, ?_⟩
  · intro first second task one other hfirst hsecond
    rcases running_update hfirst with ⟨hone, hstart⟩ | ⟨hne, hbefore⟩
    · rcases running_update hsecond with ⟨htwo, _⟩ | ⟨hne, hbefore⟩
      · exact hone.trans htwo.symm
      · exact absurd (hnext task one hstart).1 (hothers second task other hne hbefore)
    · rcases running_update hsecond with ⟨_, hstart⟩ | ⟨_, hother⟩
      · exact absurd (hnext task other hstart).1 (hothers first task one hne hbefore)
      · exact hsystem.alone first second task one other hbefore hother
  · intro other task later hother
    rcases running_update hother with ⟨_, hstart⟩ | ⟨hne, hbefore⟩
    · obtain ⟨rfl, hphase⟩ := hnext task later hstart
      exact hphase
    · exact hframe.knows (hothers other task later hne hbefore)
        (hsystem.knows other task later hbefore)
  · intro task hnone
    by_cases htask : task = taskId
    · subst htask
      cases next with
      | idle => exact hafter
      | running later phase =>
        obtain ⟨rfl, _⟩ := hafter
        exact absurd (Function.update_self ..) (hnone thread phase)
    · refine hframe.settled htask (hsystem.settled task fun other later hother ↦ ?_)
      have hne : other ≠ thread := by
        rintro rfl
        exact htask (hself task later hother)
      exact hnone other later ((Function.update_of_ne hne _ _).trans hother)

lemma exclusive_step (hsystem : Exclusive system) {event : CancellationEvent ι}
    (horderly : Orderly system event) : Exclusive (system.step event) := by
  cases event with
  | call thread taskId =>
    rw [Cancellation.step]
    cases hthread : system.thread thread with
    | idle =>
      obtain ⟨hfree, hnew⟩ := horderly
      refine hsystem.update hsystem.sound (Frame.refl _ _)
        (after_start (hsystem.settled taskId hfree) hnew) ?_ ?_
      · intro task later hrunning
        exact nomatch hthread.symm.trans hrunning
      · rintro other task later _ hother rfl
        exact hfree other later hother
    | running => exact hsystem
  | advance thread returns =>
    rw [Cancellation.step]
    cases hthread : system.thread thread with
    | idle => exact hsystem
    | running taskId phase =>
      obtain ⟨hsound, hframe, hafter⟩ :=
        sound_run hsystem.sound (hsystem.knows thread taskId phase hthread) returns
      refine hsystem.update hsound hframe hafter ?_ ?_
      · intro task later hrunning
        exact (Thread.running.inj (hthread.symm.trans hrunning)).1.symm
      · rintro other task later hne hother rfl
        exact hne (hsystem.alone other thread task later phase hother hthread)

end Orderly

/-! ### The theorem -/

/-- No handler returns true from two invocations while it is registered. -/
def TellsOnce (registry : BackendCancellationRegistry) : Prop := registry.signals.Nodup

/-- Evidence of a cleanup means that the task has no handler. -/
def Truthful (registry : BackendCancellationRegistry) : Prop :=
  ∀ taskId evidence, registry.evidence.lookup taskId = some evidence →
    evidence.cleanupComplete = true → registry.handlers.lookup taskId = none

/-- Assumes: a run in which the calls for a task are made one at a time, and no task is registered
whose evidence says that it was cleaned up. At every moment of the run each registered handler has
returned true at most once, evidence of a cleanup means that there is no handler, the evidence store
is bounded and listed by its order, and a step evicts at most the task that was recorded first. -/
theorem cancellation_truthful {ι : Type} [DecidableEq ι] (events : List (CancellationEvent ι))
    (horderly : ∀ position event, events[position]? = some event →
      Orderly (Cancellation.moment events position) event) (position : ℕ) :
    TellsOnce (Cancellation.moment events position).registry ∧
      Truthful (Cancellation.moment events position).registry ∧
      StoreSound (Cancellation.moment events position).registry ∧
      Evolves (Cancellation.moment events position).registry.evidenceOrder
        (Cancellation.moment events (position + 1)).registry.evidenceOrder := by
  have hexclusive : Exclusive (Cancellation.moment events position) := by
    refine always_of_good exclusive_initial ?_ position
    intro earlier event hevent hsystem
    exact exclusive_step hsystem (horderly earlier event hevent)
  refine ⟨hexclusive.sound.once, hexclusive.sound.truthful, hexclusive.sound.store, ?_⟩
  unfold Cancellation.moment
  cases hevent : events[position]? with
  | none =>
    rw [stateAt_succ_of_none Cancellation.step hevent]
    exact .same
  | some event =>
    rw [stateAt_succ Cancellation.step hevent]
    exact (evolves_step hexclusive.sound.store event).2

def registerTask (thread : Bool) : List (CancellationEvent Bool) :=
  [.call thread "task" .register, .advance thread none, .advance thread none]

/-- Two threads request the same cancellation: both look at the mark, both get the handler, and both
tell it. -/
def twoRequests : List (CancellationEvent Bool) :=
  registerTask false ++
    [.call false "task" (.request "running"), .call true "task" (.request "running"),
      .advance false none, .advance true none, .advance false none, .advance true none,
      .advance false (some true), .advance true (some true)]

def reusedTask : List (CancellationEvent Bool) :=
  registerTask false ++
    [.call false "task" (.request "completed"), .advance false none, .advance false none,
      .advance false none, .advance false none] ++
    registerTask false

/-- The handler is told twice, and a task with a handler has evidence of its cleanup. -/
theorem cancellation_not_truthful :
    (let registry := (Cancellation.moment twoRequests 11).registry
     registry.handlers.lookup "task" = some 0 ∧ registry.signals = [("task", 0), ("task", 0)] ∧
      ¬ TellsOnce registry) ∧
    (let registry := (Cancellation.moment reusedTask 11).registry
     registry.handlers.lookup "task" = some 1 ∧
      registry.evidence.lookup "task" = some ⟨"task", "already_terminal", true⟩ ∧
      ¬ Truthful registry) := by
  have htwice : (Cancellation.moment twoRequests 11).registry.signals =
      [("task", 0), ("task", 0)] := by decide +kernel
  have hhandler : (Cancellation.moment reusedTask 11).registry.handlers.lookup "task" = some 1 := by
    decide +kernel
  have hevidence : (Cancellation.moment reusedTask 11).registry.evidence.lookup "task" =
      some ⟨"task", "already_terminal", true⟩ := by decide +kernel
  refine ⟨⟨by decide +kernel, htwice, ?_⟩, hhandler, hevidence, ?_⟩
  · rw [TellsOnce, htwice]
    decide
  · intro htruthful
    have hnone := htruthful _ _ hevidence rfl
    rw [hhandler] at hnone
    nomatch hnone

/-- A task is registered, and its cancellation requested by another thread. -/
def oneRequest : List (CancellationEvent Bool) :=
  registerTask false ++
    [.call true "task" (.request "running"), .advance true none, .advance true none,
      .advance true (some true), .advance true none, .advance true none, .advance true none]

theorem cancellation_truthful_one_request :
    (Cancellation.moment oneRequest 10).registry.signals = [("task", 0)] ∧
      TellsOnce (Cancellation.moment oneRequest 10).registry ∧
      Truthful (Cancellation.moment oneRequest 10).registry := by
  have hidle : ∀ thread : Bool, ∃ last, (Cancellation.moment oneRequest 3).thread thread =
      .idle last := by
    intro thread
    cases thread with
    | false => exact ⟨some .done, by decide +kernel⟩
    | true => exact ⟨none, by decide +kernel⟩
  have htruthful := cancellation_truthful oneRequest (by
    intro position event hevent
    obtain ⟨hrange, rfl⟩ := List.getElem?_eq_some_iff.mp hevent
    have hbound : position < 10 := hrange
    interval_cases position
    · exact ⟨nofun, fun _ evidence hevidence ↦ nomatch hevidence⟩
    · trivial
    · trivial
    · refine ⟨fun thread phase hrunning ↦ ?_, nofun⟩
      obtain ⟨_, hlast⟩ := hidle thread
      exact nomatch hlast.symm.trans hrunning
    all_goals trivial) 10
  exact ⟨by decide +kernel, htruthful.1, htruthful.2.1⟩

end Iicp.Lifecycle.BackendCancellation
