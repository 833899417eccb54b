import Iicp.Concurrent.AtomicObject
import Iicp.Rust.Json
import Iicp.Rust.Outcome

/-!
# Lifecycle records, states and the storage port

The data of `service_lifecycle.rs`: events, records, snapshots and errors, the terminal states and
the legal transitions between states. States are strings, as in the source: a caller may request any
string, and a snapshot may carry any.

`LifecyclePersistence` is the storage port. Its three operations that take the lock once are
`submit`, `status` and `transition`; each carries the clock reading that `now_ms` returns when it
runs. `cancel` and `events_after` are programs over these operations (`cancelProg`,
`eventsAfterProg`): they release the lock between their steps. `Call` is one call of the port, with
the readings its steps take.
-/

namespace Iicp.Lifecycle

open Rust Concurrent

def profileName : String := "urn:iicp:profile:service-lifecycle:v1"

structure LifecycleEvent where
  taskId : String
  sequence : ℕ
  state : String
  isFinal : Bool
  observedAtMs : ℕ
  detail : Json
  deriving DecidableEq, Repr

structure LifecycleRecord where
  (taskId idempotencyKey requestDigest state : String)
  events : List LifecycleEvent
  updatedAtMs : ℕ
  deriving DecidableEq, Repr

structure LifecycleSnapshot where
  profile : String
  records : List LifecycleRecord
  deriving DecidableEq, Repr

variable (record : LifecycleRecord)

/-- The sequence number of the last retained event, and zero without events. -/
def LifecycleRecord.latestSequence : ℕ :=
  match record.events.getLast? with
  | some event => event.sequence
  | none => 0

/-- The sequence number of the first retained event, and zero without events. -/
def LifecycleRecord.firstSequence : ℕ :=
  match record.events.head? with
  | some event => event.sequence
  | none => 0

inductive LifecycleError where
  | conflict (message : String)
  | unknownTask
  | resumeUnavailable (state : String) (latestSequence : ℕ)
  | storage (message : String)
  deriving DecidableEq, Repr

/-! ### States -/

/-- The states no transition leaves. -/
def terminal (state : String) : Bool :=
  ["rejected", "completed", "failed", "cancelled", "expired"].contains state

def legalTransition (source target : String) : Bool :=
  match source with
  | "submitted" => ["accepted", "rejected", "expired"].contains target
  | "accepted" =>
    ["queued", "running", "completed", "cancelled", "failed", "expired"].contains target
  | "queued" => ["running", "waiting", "cancelled", "failed", "expired"].contains target
  | "running" =>
    ["waiting", "streaming", "completed", "cancelled", "failed", "expired"].contains target
  | "waiting" => ["queued", "running", "cancelled", "failed", "expired"].contains target
  | "streaming" =>
    ["streaming", "waiting", "completed", "cancelled", "failed", "expired"].contains target
  | _ => false

/-- The deprecated name of the expired state is replaced by the current one. -/
def canonicalState (requestedState : String) : String :=
  if requestedState = "timed_out" then "expired" else requestedState

lemma legalTransition_of_terminal {source : String} (hterminal : terminal source)
    (target : String) : legalTransition source target = false := by
  simp only [terminal, List.contains_eq_mem, List.mem_cons, List.not_mem_nil, or_false,
    decide_eq_true_eq] at hterminal
  rcases hterminal with rfl | rfl | rfl | rfl | rfl <;> rfl

/-- The states of a running task: those that a task can be in before it ends. -/
def activeStates : List String := ["accepted", "queued", "running", "waiting", "streaming"]

/-- A transition out of a running state ends the task or leads to a running state. -/
lemma legalTransition_active {source target : String} (hsource : source ∈ activeStates)
    (hlegal : legalTransition source target) : target ∈ activeStates ∨ terminal target := by
  simp only [activeStates, List.mem_cons, List.not_mem_nil, or_false] at hsource
  rcases hsource with rfl | rfl | rfl | rfl | rfl <;>
    simp only [legalTransition, List.contains_eq_mem, List.mem_cons, List.not_mem_nil, or_false,
      decide_eq_true_eq] at hlegal <;>
    rcases hlegal with rfl | rfl | rfl | rfl | rfl | rfl <;> decide

/-! ### The storage port -/

/-- The operations of the port that take the lock once, with the clock reading they use. -/
inductive Op where
  | submit (taskId idempotencyKey requestDigest : String) (now : ℕ)
  | status (taskId : String) (now : ℕ)
  | transition (taskId requestedState : String) (detail : Json) (now : ℕ)

def Op.Res : Op → Type
  | .submit .. => Outcome LifecycleError (LifecycleRecord × Bool)
  | .status .. => Outcome LifecycleError LifecycleRecord
  | .transition .. => Outcome LifecycleError LifecycleEvent

/-- The storage port of the lifecycle profile. -/
def LifecyclePersistence : Interface where
  Op := Op
  Res := Op.Res

def cancelDetail : Json := .object [("outcome", .string "cancelled")]

variable (taskId : String)

/-- The last step of `cancel`: look at the task and return what is there. -/
def cancelLook (third : ℕ) :
    Prog LifecyclePersistence (Outcome LifecycleError LifecycleRecord) :=
  .call (.status taskId third) .done

/-- The second step of `cancel`: move the task to the cancelled state, and look again if that went
through. -/
def cancelMove (second third : ℕ) :
    Prog LifecyclePersistence (Outcome LifecycleError LifecycleRecord) :=
  .call (.transition taskId "cancelled" cancelDetail second) fun moved ↦
    match (moved : Outcome LifecycleError LifecycleEvent) with
    | .ok _ => cancelLook taskId third
    | .err error => .done (.err error)
    | .panicked => .done .panicked

/-- `cancel`: look at the task, move it to the cancelled state unless it has ended, look again. The
three steps take the lock separately, at the readings `first`, `second` and `third`. -/
def cancelProg (first second third : ℕ) :
    Prog LifecyclePersistence (Outcome LifecycleError LifecycleRecord) :=
  .call (.status taskId first) fun current ↦
    match (current : Outcome LifecycleError LifecycleRecord) with
    | .ok record =>
      if terminal record.state then cancelLook taskId third else cancelMove taskId second third
    | .err error => .done (.err error)
    | .panicked => .done .panicked

/-- The part of `events_after` that runs on the record it has read: refuse a cursor that is not
negative and lies before the retained events, else the retained events past the cursor. -/
def replay (afterSequence : Int64) :
    Outcome LifecycleError (List LifecycleEvent) :=
  if 0 ≤ afterSequence.toInt ∧
      saturatingAddU64 afterSequence.toInt.toNat 1 < record.firstSequence then
    .err (.resumeUnavailable record.state record.latestSequence)
  else .ok (record.events.filter fun event ↦ afterSequence.toInt < asI64 event.sequence)

/-- `events_after`: look at the task, then replay from its record. -/
def eventsAfterProg (afterSequence : Int64) (now : ℕ) :
    Prog LifecyclePersistence (Outcome LifecycleError (List LifecycleEvent)) :=
  .call (.status taskId now) fun current ↦
    .done ((current : Outcome LifecycleError LifecycleRecord) >>= (replay · afterSequence))

/-! ### Calls and replies -/

/-- One call of the port, with the clock readings of its steps. -/
inductive Call where
  | submit (taskId idempotencyKey requestDigest : String) (now : ℕ)
  | status (taskId : String) (now : ℕ)
  | transition (taskId requestedState : String) (detail : Json) (now : ℕ)
  | cancel (taskId : String) (first second third : ℕ)
  | eventsAfter (taskId : String) (afterSequence : Int64) (now : ℕ)

inductive Reply where
  | submitted (result : Outcome LifecycleError (LifecycleRecord × Bool))
  | record (result : Outcome LifecycleError LifecycleRecord)
  | event (result : Outcome LifecycleError LifecycleEvent)
  | events (result : Outcome LifecycleError (List LifecycleEvent))
  deriving DecidableEq, Repr

def Call.prog : Call → Prog LifecyclePersistence Reply
  | .submit taskId idempotencyKey requestDigest now =>
    .call (.submit taskId idempotencyKey requestDigest now) fun result ↦ .done (.submitted result)
  | .status taskId now => .call (.status taskId now) fun result ↦ .done (.record result)
  | .transition taskId requestedState detail now =>
    .call (.transition taskId requestedState detail now) fun result ↦ .done (.event result)
  | .cancel taskId first second third => (cancelProg taskId first second third).map .record
  | .eventsAfter taskId afterSequence now =>
    (eventsAfterProg taskId afterSequence now).map .events

/-- Runs calls one after the other on an implementation of the port and collects the replies. -/
def runCalls {σ : Type} (store : Object LifecyclePersistence σ) (calls : List Call) (state : σ) :
    σ × List Reply :=
  runAll store (calls.map Call.prog) state

end Iicp.Lifecycle
