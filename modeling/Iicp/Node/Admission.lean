import Iicp.Confidentiality.Envelope
import Iicp.Http.Pinning

/-!
# Admission of a task over HTTP

`taskEndpoint` is the route for tasks from the body to the call of the operator's handler.
A request whose body is not too long passes seven gates on the way: the rate of its origin, the
policy on tool intents, the drain of the backend, a free slot, the replay of its nonce, the repetition
of its task id, and, after its envelope has been opened, the demand for an encrypted answer. A gate
either refuses with an answer or lets the request pass, and leaves a state in both cases (`Serve`).

What a request meets from outside, the clocks and the load left by other tasks, is in
`Surroundings`. `taskEndpoint_invokes_iff` says exactly when the handler is called.
-/

namespace Iicp.Node

open Rust Confidentiality Http

/-! ### The request -/

/-- A task as the handler sees it. -/
structure TaskRequest where
  taskId : String
  intent : String
  payload : Json
  iicpConf : Option Envelope
  cxResponseEncryption : Option String
  (constraints auth : Option Json)
  (nonce sourceNodeId : Option String)
  trace : Option Json
  deriving DecidableEq

def requiredText : Option Json → Option String
  | some (.string text) => some text
  | _ => none

/-- An optional text: nothing and null are no text, and another value is an error. -/
def optionalText : Option Json → Option (Option String)
  | none | some .null => some none
  | some (.string text) => some (some text)
  | _ => none

def optionalMap : Option Json → Option (Option Envelope)
  | none | some .null => some none
  | some (.object fields) => some (some fields)
  | _ => none

def optionalValue : Option Json → Option Json
  | none | some .null => none
  | some value => some value

/-- The request whose fields are read by `part`. Only the body's own fields are read: the trace is
set from a header. -/
def TaskRequest.fromParts (part : String → Option Json) : Option TaskRequest := do
  let taskId ← requiredText (part "task_id")
  let intent ← requiredText (part "intent")
  let iicpConf ← optionalMap (part "iicp_conf")
  let cxResponseEncryption ← optionalText (part "cx_response_encryption")
  let nonce ← optionalText (part "nonce")
  let sourceNodeId ← optionalText (part "source_node_id")
  some ⟨taskId, intent, (part "payload").getD .null, iicpConf, cxResponseEncryption,
    optionalValue (part "constraints"), optionalValue (part "auth"), nonce, sourceNodeId, none⟩

/-- The names of the fields in the order of their declaration, which is the order of a body that is
an array. -/
def TaskRequest.fieldNames : List String :=
  ["task_id", "intent", "payload", "iicp_conf", "cx_response_encryption", "constraints", "auth",
    "nonce", "source_node_id"]

/-- Reads the request from a parsed body: an object, or an array with every field in order. -/
def TaskRequest.deserialize : Json → Option TaskRequest
  | .object fields => fromParts (Json.getField fields)
  | .array items =>
    if items.length = fieldNames.length then fromParts fun name ↦ (fieldNames.zip items).lookup name
    else none
  | _ => none

/-! ### The state of a node -/

/-- What the node knows about the stability of its backend. -/
structure BackendStabilityObservation where
  backendState : String
  reasonClass : String
  drainUntilS : Option ℤ
  deriving DecidableEq

/-- A window of the day with its share of the capacity. -/
structure Window where
  start : String
  stop : String
  share : Float

/-- The task ids of the last minutes, with the instants at which they are forgotten. -/
structure IdempotencyGuard where
  ttl : ℕ
  seen : List (String × ℕ)

/-- The parts of the node's state that the task routes use. Instants are in nanoseconds. -/
structure AppState where
  allowToolExecution : Bool
  backendStability : BackendStabilityObservation
  maxConcurrent : ℕ
  availability : List Window
  activeJobs : ℕ
  nonceCache : List (String × ℕ)
  idempotency : IdempotencyGuard
  enableIdempotency : Bool
  taskRateLimit : ℕ
  taskRateBuckets : List (String × ℕ × ℕ)
  cxPrivateKey : Option Key

/-- One look at the load while a request waits for a slot: the time of day, and the active jobs that
other tasks have left. -/
structure Poll where
  hhmm : String
  activeJobs : ℕ

/-- What a request meets from outside while it is admitted. The wall clock is read twice for a
draining backend. -/
structure Surroundings where
  rateInstant : ℕ
  drainingS : ℤ
  retryS : ℤ
  hhmm : String
  polls : List Poll
  nonceInstant : ℕ
  idempotencyInstant : ℕ

structure Headers where
  (origin traceparent : Option String)

structure Refusal where
  status : ℕ
  retryAfter : Option String
  body : Json
  deriving DecidableEq

/-- What the handler is called with, and the secret that the answer is sealed under. -/
structure Invocation where
  request : TaskRequest
  sharedSecret : Option Key
  responseRequired : Bool
  deriving DecidableEq

/-! ### Steps that may refuse -/

/-- A step of the route: it gives a value or refuses, and leaves a state in either case. -/
def Serve (α : Type) := AppState → Outcome Refusal α × AppState

namespace Serve

variable {α β : Type} (first : Serve α) (next : α → Serve β) (state : AppState)

instance : Monad Serve where
  pure value := fun state ↦ (.ok value, state)
  bind first next := fun state ↦
    match first state with
    | (.ok value, later) => next value later
    | (.err refusal, later) => (.err refusal, later)
    | (.panicked, later) => (.panicked, later)

variable (refusal : Refusal)

def refuse : Serve α := fun state ↦ (.err refusal, state)

/-- Gives back the slot of the request and answers with a refusal. -/
def release : Serve α := fun state ↦
  (.err refusal, { state with activeJobs := state.activeJobs - 1 })

@[simp] lemma pure_apply (value : α) (state : AppState) :
    (pure value : Serve α) state = (.ok value, state) := rfl

lemma bind_apply :
    (first >>= next) state = match first state with
      | (.ok value, later) => next value later
      | (.err refusal, later) => (.err refusal, later)
      | (.panicked, later) => (.panicked, later) := rfl

/-- A sequence of steps gives a value exactly when each of them does. -/
lemma bind_eq_ok_iff (result : β) :
    ((first >>= next) state).1 = .ok result ↔
      ∃ value, (first state).1 = .ok value ∧
        (next value (first state).2).1 = .ok result := by
  rw [bind_apply]
  rcases first state with ⟨value | refusal | _, later⟩ <;> simp

/-- After a gate comes the rest of the route, in the state that the gate leaves. -/
lemma gate_bind_eq_ok_iff (gate : Serve Unit) (rest : Serve β) (state : AppState) (result : β) :
    ((gate >>= fun _ ↦ rest) state).1 = .ok result ↔
      (gate state).1 = .ok () ∧ (rest (gate state).2).1 = .ok result := by
  rw [bind_eq_ok_iff]
  exact ⟨fun ⟨(), h⟩ ↦ h, fun h ↦ ⟨(), h⟩⟩

/-- A sequence refuses if its first step does, or if its rest does. -/
lemma bind_eq_err_iff :
    ((first >>= next) state).1 = .err refusal ↔
      (first state).1 = .err refusal ∨
        ∃ value, (first state).1 = .ok value ∧ (next value (first state).2).1 = .err refusal := by
  rw [bind_apply]
  rcases first state with ⟨value | refusal | _, later⟩ <;> simp

/-- After a step that gives a value the sequence goes on. -/
lemma bind_of_ok {first : Serve α} {next : α → Serve β} {state : AppState} {value : α}
    (hgives : (first state).1 = .ok value) : (first >>= next) state = next value (first state).2 := by
  rw [bind_apply]
  rcases hfirst : first state with ⟨found | refusal | _, later⟩ <;> simp_all

/-- A step that gives no value leaves the last state. -/
lemma bind_state_of_not_ok {first : Serve α} {next : α → Serve β} {state : AppState}
    (hrefuses : ∀ value, (first state).1 ≠ .ok value) :
    ((first >>= next) state).2 = (first state).2 := by
  rw [bind_apply]
  rcases hfirst : first state with ⟨found | refusal | _, later⟩ <;> simp_all

end Serve

/-- The body of an answer with an error, and the fields besides its code and message. -/
def errorBody (code message : String) (more : List (String × Json)) : Json :=
  .object [("error", .object ([("code", .string code), ("message", .string message)] ++ more))]

/-! ### The gates -/

def taskRateWindow : ℕ := 60 * 10 ^ 9

/-- Counts a task of an origin in its window: the new windows, and whether the task is within the
limit. The count is an unsigned 32-bit integer. -/
def taskRateStep (buckets : List (String × ℕ × ℕ)) (limit : ℕ) (origin : String) (now : ℕ) :
    Outcome Refusal (List (String × ℕ × ℕ) × Bool) :=
  let (start, count) := (buckets.lookup origin).getD (now, 0)
  let (start, count) := if taskRateWindow ≤ now - start then (now, 0) else (start, count)
  if 2 ^ 32 ≤ count + 1 then .panicked
  else
    let updated := (origin, start, count + 1) :: buckets.filter (·.1 ≠ origin)
    let kept := if 4096 < updated.length then
      updated.filter fun entry ↦ now - entry.2.1 < taskRateWindow else updated
    .ok (kept, decide (count + 1 ≤ limit))

/-- The limit on the rate of an origin; a request without an origin is not counted. -/
def rateGate (world : Surroundings) (headers : Headers) : Serve Unit := fun state ↦
  match headers.origin with
  | some origin =>
    if 0 < state.taskRateLimit then
      match taskRateStep state.taskRateBuckets state.taskRateLimit origin world.rateInstant with
      | .ok (buckets, true) => (.ok (), { state with taskRateBuckets := buckets })
      | .ok (buckets, false) =>
        (.err ⟨429, some "60", errorBody "IICP-E023" "per-origin task rate limit exceeded" []⟩,
          { state with taskRateBuckets := buckets })
      | .err refusal => (.err refusal, state)
      | .panicked => (.panicked, state)
    else (.ok (), state)
  | none => (.ok (), state)

/-- The domain of an intent: its fourth part. -/
def intentDomain (intent : String) : String :=
  String.ofList (((intent.toList.splitOn ':')[3]?).getD [])

def permitsIntent (allowToolExecution : Bool) (intent : String) : Bool :=
  allowToolExecution || intentDomain intent != "tool"

def policyGate (intent : String) : Serve Unit := fun state ↦
  if permitsIntent state.allowToolExecution intent then (.ok (), state)
  else Serve.refuse ⟨403, none, errorBody "tool_execution_denied"
    "Tool-execution intents are not permitted by this node's CIP policy" []⟩ state

/-- The seconds until a drain is over; the difference is a signed 64-bit integer. -/
def retryAfterSAt {ε : Type} (stability : BackendStabilityObservation) (now : ℤ) :
    Outcome ε (Option ℤ) :=
  match stability.drainUntilS with
  | none => .ok none
  | some drainUntil => do
    let remaining ← addI64 drainUntil (-now)
    .ok (if remaining ≤ 0 then none else some (max remaining 1))

/-- Whether the backend drains. The clock is read only if its state says so. -/
def isDraining {ε : Type} (stability : BackendStabilityObservation) (now : ℤ) : Outcome ε Bool :=
  if stability.backendState = "draining" then do
    let retry ← retryAfterSAt stability now
    .ok retry.isSome
  else .ok false

variable (stability : BackendStabilityObservation)

def drainingRefusal (retry : ℤ) : Refusal :=
  ⟨503, some (toString retry), errorBody "IICP-E024" "backend temporarily draining"
    [("reason", .string stability.reasonClass), ("retry_after_ms", .ofI64 (Int64.ofInt (retry * 1000)))]⟩

def drainAnswer (world : Surroundings) :
    Outcome Refusal Unit := do
  if ← isDraining stability world.drainingS then
    match ← retryAfterSAt stability world.retryS with
    | some retry =>
      if 2 ^ 63 ≤ retry * 1000 then .panicked else .err (drainingRefusal stability retry)
    | none => .ok ()
  else .ok ()

def drainGate (world : Surroundings) : Serve Unit := fun state ↦
  (drainAnswer state.backendStability world, state)

/-- The share of the capacity at a time of day. -/
def shareAt (windows : List Window) (current : String) : Float :=
  if windows.isEmpty then 1.0
  else
    let covers := fun (window : Window) ↦
      if window.start ≤ window.stop then window.start ≤ current ∧ current ≤ window.stop
      else window.start ≤ current ∨ current ≤ window.stop
    ((windows.find? fun window ↦ covers window).map Window.share).getD 0.5

/-- The capacity at a time of day; the product is truncated to an unsigned 64-bit integer. -/
def effectiveAt (windows : List Window) (baseMax : ℕ) (current : String) : ℕ :=
  if baseMax = 0 then 0
  else
    let share := shareAt windows current
    if share ≤ 0.0 then 0
    else max 1 (Float.ofNat baseMax * share).toUInt64.toNat

def isQueueEligible (qos : String) : Bool := qos == "realtime" || qos == "interactive"

/-- Looks for a slot again and again while the request may wait: whether it gets one, and the jobs
that are then active. -/
def pollSlots (windows : List Window) (maxConcurrent : ℕ) : List Poll → ℕ → Bool × ℕ
  | [], activeJobs => (false, activeJobs)
  | poll :: rest, _ =>
    if poll.activeJobs < effectiveAt windows maxConcurrent poll.hhmm then
      (true, poll.activeJobs + 1)
    else pollSlots windows maxConcurrent rest poll.activeJobs

/-- Tries to claim a slot: whether there is one, and the jobs that are then active. -/
def admitSlot (state : AppState) (world : Surroundings) (qos : String) : Bool × ℕ :=
  if state.activeJobs < effectiveAt state.availability state.maxConcurrent world.hhmm then
    (true, state.activeJobs + 1)
  else if !isQueueEligible qos then (false, state.activeJobs)
  else pollSlots state.availability state.maxConcurrent world.polls state.activeJobs

def qosClass (request : TaskRequest) : String :=
  ((request.constraints.bind fun value ↦ (value.field "qos_class").asStr)).getD "best_effort"

def slotGate (world : Surroundings) (qos : String) : Serve Unit := fun state ↦
  let (admitted, activeJobs) := admitSlot state world qos
  if admitted then (.ok (), { state with activeJobs := activeJobs })
  else Serve.refuse ⟨429, some "2", errorBody "IICP-E021" "capacity_exceeded"
    [("qos_class", .string qos), ("retry_after_ms", .ofU64 2000)]⟩
    { state with activeJobs := activeJobs }

/-- How long a nonce is remembered, in seconds. -/
def nonceTtlSecs : ℕ := 300

def freshNonces (cache : List (String × ℕ)) (now : ℕ) : List (String × ℕ) :=
  cache.filter fun entry ↦ (now - entry.2) / 10 ^ 9 < nonceTtlSecs

/-- The replay of a nonce. A request without a nonce is not checked. -/
def nonceGate (world : Surroundings) (nonce : Option String) : Serve Unit := fun state ↦
  match nonce with
  | none => (.ok (), state)
  | some nonce =>
    let cache := freshNonces state.nonceCache world.nonceInstant
    if nonce ∈ cache.map Prod.fst then
      Serve.release ⟨409, none, errorBody "IICP-E011" "replay_detected" []⟩
        { state with nonceCache := cache }
    else (.ok (), { state with nonceCache := (nonce, world.nonceInstant) :: cache })

/-- Registers a task id: whether it is new. An empty id is always new. -/
def checkAndRegister (idempotency : IdempotencyGuard) (taskId : String) (now : ℕ) :
    Bool × IdempotencyGuard :=
  if taskId = "" then (true, idempotency)
  else
    let seen := idempotency.seen.filter fun entry ↦ now < entry.2
    if taskId ∈ seen.map Prod.fst then (false, { idempotency with seen := seen })
    else (true, { idempotency with seen := (taskId, now + idempotency.ttl) :: seen })

def idempotencyGate (world : Surroundings) (taskId : String) : Serve Unit := fun state ↦
  if !state.enableIdempotency then (.ok (), state)
  else
    match checkAndRegister state.idempotency taskId world.idempotencyInstant with
    | (true, guard) => (.ok (), { state with idempotency := guard })
    | (false, guard) => Serve.release ⟨409, none, errorBody "IICP-E010" "duplicate_task" []⟩
        { state with idempotency := guard }

variable (crates : Crates)

/-- Opens the envelope of a request without a payload: the request with its payload, and the secret
that the answer shares with it. -/
def openConf (cxPrivateKey : Option Key) (request : TaskRequest) :
    Outcome IicpError (TaskRequest × Option Key) :=
  match request.payload, request.iicpConf with
  | .null, some conf => do
    let privateKey ← Outcome.okOr (.node "node has no CX private key") cxPrivateKey
    let (payload, sharedSecret) ← decryptPayloadWithContext crates conf privateKey
    .ok ({ request with payload := payload }, some sharedSecret)
  | _, _ => .ok (request, none)

def errorText : IicpError → String
  | .node message => message

def openGate (request : TaskRequest) : Serve (TaskRequest × Option Key) :=
  fun state ↦
    match openConf crates state.cxPrivateKey request with
    | .ok opened => (.ok opened, state)
    | .err error => Serve.release ⟨400, none,
        errorBody "IICP-CX-02" ("iicp_conf decrypt failed: " ++ errorText error) []⟩ state
    | .panicked => (.panicked, state)

def responseRequired (request : TaskRequest) : Bool :=
  request.cxResponseEncryption == some "required"

def responseGate (request : TaskRequest) (sharedSecret : Option Key) : Serve Unit := fun state ↦
  if responseRequired request && sharedSecret.isNone then
    Serve.release ⟨400, none, errorBody "IICP-CX-03"
      "encrypted response requested without an encrypted request" []⟩ state
  else (.ok (), state)

def withTrace (headers : Headers) (request : TaskRequest) : TaskRequest :=
  match headers.traceparent with
  | some traceparent =>
    { request with trace := some (.object [("traceparent", .string traceparent)]) }
  | none => request

/-- The last part of the route: the envelope is opened, and the demand for an encrypted answer is
checked against it. -/
def openTask (headers : Headers) (request : TaskRequest) : Serve Invocation := do
  let (opened, sharedSecret) ← openGate crates request
  let traced := withTrace headers opened
  responseGate traced sharedSecret
  pure ⟨traced, sharedSecret, responseRequired traced⟩

/-- The body of a request: its length in bytes, and the value that it encodes, if it is JSON. -/
structure HttpBody where
  length : ℕ
  value : Option Json

def readRequestBody (body : HttpBody) : Serve (Option Json) :=
  if maxHttpTaskBodyBytes < body.length then
    Serve.refuse ⟨413, none, errorBody "request_too_large" ("encoded task request exceeds " ++
      toString maxHttpTaskBodyBytes ++ " bytes") []⟩
  else pure body.value

/-- The route for tasks from the body that has been read. -/
def admitTask (world : Surroundings) (headers : Headers) (body : Option Json) :
    Serve Invocation :=
  match body.bind TaskRequest.deserialize with
  | none => Serve.refuse ⟨400, none, errorBody "invalid_http_body" "invalid JSON body" []⟩
  | some request => do
    rateGate world headers
    policyGate request.intent
    drainGate world
    slotGate world (qosClass request)
    nonceGate world request.nonce
    idempotencyGate world request.taskId
    openTask crates headers request

/-- The route for tasks, from the body to the call of the handler. -/
def taskEndpoint (world : Surroundings) (headers : Headers) (body : HttpBody) :
    Serve Invocation := do
  admitTask crates world headers (← readRequestBody body)

/-! ### What each gate lets pass, and what it leaves unchanged -/

section Gates

variable (world : Surroundings) (headers : Headers) (state : AppState) (request : TaskRequest)

lemma rateGate_state : ∃ buckets,
    (rateGate world headers state).2 = { state with taskRateBuckets := buckets } := by
  unfold rateGate
  split
  · split_ifs
    · split
      · exact ⟨_, rfl⟩
      · exact ⟨_, rfl⟩
      · exact ⟨_, rfl⟩
      · exact ⟨_, rfl⟩
    · exact ⟨_, rfl⟩
  · exact ⟨_, rfl⟩

lemma policyGate_passes_iff (intent : String) : (policyGate intent state).1 = .ok () ↔
    permitsIntent state.allowToolExecution intent := by
  unfold policyGate
  split_ifs with h <;> simp [h, Serve.refuse]

lemma policyGate_state (intent : String) : (policyGate intent state).2 = state := by
  unfold policyGate
  split_ifs <;> rfl

lemma slotGate_passes_iff (qos : String) : (slotGate world qos state).1 = .ok () ↔
    (admitSlot state world qos).1 := by
  unfold slotGate
  rcases admitSlot state world qos with ⟨_ | _, jobs⟩ <;> simp [Serve.refuse]

lemma slotGate_state (qos : String) :
    (slotGate world qos state).2 = { state with activeJobs := (admitSlot state world qos).2 } := by
  unfold slotGate
  rcases admitSlot state world qos with ⟨_ | _, jobs⟩ <;> rfl

def NonceFresh : Prop :=
  ∀ nonce ∈ request.nonce, nonce ∉ (freshNonces state.nonceCache world.nonceInstant).map Prod.fst

lemma nonceGate_passes_iff : (nonceGate world request.nonce state).1 = .ok () ↔
    NonceFresh world state request := by
  unfold nonceGate NonceFresh
  cases request.nonce with
  | none => simp
  | some =>
    dsimp only
    split_ifs with h <;> simpa [Serve.release] using h

lemma nonceGate_state (nonce : Option String) : ∃ cache jobs,
    (nonceGate world nonce state).2 = { state with nonceCache := cache, activeJobs := jobs } := by
  unfold nonceGate
  cases nonce with
  | none => exact ⟨_, _, rfl⟩
  | some =>
    dsimp only
    split_ifs <;> exact ⟨_, _, rfl⟩

/-- A task id that the node does not remember, or does not check. -/
def TaskIdFresh : Prop :=
  state.enableIdempotency = true →
    (checkAndRegister state.idempotency request.taskId world.idempotencyInstant).1 = true

lemma idempotencyGate_passes_iff : (idempotencyGate world request.taskId state).1 = .ok () ↔
    TaskIdFresh world state request := by
  unfold idempotencyGate TaskIdFresh
  cases state.enableIdempotency with
  | false => simp
  | true =>
    rcases checkAndRegister state.idempotency request.taskId world.idempotencyInstant with
      ⟨_ | _, guard⟩ <;> simp [Serve.release]

lemma idempotencyGate_state (taskId : String) : ∃ guard jobs,
    (idempotencyGate world taskId state).2 =
      { state with idempotency := guard, activeJobs := jobs } := by
  unfold idempotencyGate
  split_ifs
  · exact ⟨_, _, rfl⟩
  · rcases checkAndRegister state.idempotency taskId world.idempotencyInstant with
      ⟨_ | _, guard⟩ <;> exact ⟨_, _, rfl⟩

lemma openGate_passes_iff (crates : Crates) (opened : TaskRequest × Option Key) :
    (openGate crates request state).1 = .ok opened ↔
      openConf crates state.cxPrivateKey request = .ok opened := by
  unfold openGate
  rcases openConf crates state.cxPrivateKey request with _ | _ | _ <;> simp [Serve.release]

lemma responseGate_passes_iff (sharedSecret : Option Key) :
    (responseGate request sharedSecret state).1 = .ok () ↔
      (responseRequired request → sharedSecret.isSome) := by
  unfold responseGate
  cases responseRequired request <;> cases sharedSecret <;> simp [Serve.release]

/-- The gates that stand before the envelope is opened, besides the rate of the origin: the policy,
the drain, a slot, the nonce and the task id. -/
def Admissible : Prop :=
  permitsIntent state.allowToolExecution request.intent = true ∧
  drainAnswer state.backendStability world = .ok () ∧
  (admitSlot state world (qosClass request)).1 = true ∧
  NonceFresh world state request ∧ TaskIdFresh world state request

end Gates

/-- The trace does not change what is demanded of the answer. -/
@[simp] lemma responseRequired_withTrace (headers : Headers) (request : TaskRequest) :
    responseRequired (withTrace headers request) = responseRequired request := by
  unfold withTrace
  split <;> rfl

/-- What the last part of the route calls the handler with. -/
def Opens (cxPrivateKey : Option Key) (headers : Headers) (request : TaskRequest)
    (invocation : Invocation) : Prop :=
  ∃ opened sharedSecret, openConf crates cxPrivateKey request = .ok (opened, sharedSecret) ∧
    (responseRequired opened = true → sharedSecret.isSome = true) ∧
    invocation = ⟨withTrace headers opened, sharedSecret, responseRequired opened⟩

lemma openTask_invokes_iff (headers : Headers) (request : TaskRequest)
    (state : AppState) (invocation : Invocation) :
    (openTask crates headers request state).1 = .ok invocation ↔
      Opens crates state.cxPrivateKey headers request invocation := by
  rw [openTask, Serve.bind_eq_ok_iff, Opens, Prod.exists]
  simp only [openGate_passes_iff, Serve.gate_bind_eq_ok_iff, responseGate_passes_iff,
    responseRequired_withTrace, Serve.pure_apply, Outcome.ok.injEq]
  simp only [eq_comm]

/-- Every gate has to let the request pass, and its envelope, if it has one, has to open. -/
lemma admitTask_invokes_iff (world : Surroundings) (headers : Headers)
    {body : Option Json} {request : TaskRequest}
    (hbody : body.bind TaskRequest.deserialize = some request)
    (state : AppState) (invocation : Invocation) :
    (admitTask crates world headers body state).1 = .ok invocation ↔
      (rateGate world headers state).1 = .ok () ∧ Admissible world state request ∧
      Opens crates state.cxPrivateKey headers request invocation := by
  rw [admitTask, hbody]
  simp only [Serve.gate_bind_eq_ok_iff, policyGate_passes_iff, policyGate_state, drainGate,
    slotGate_passes_iff, nonceGate_passes_iff, idempotencyGate_passes_iff]
  obtain ⟨buckets, hrate⟩ := rateGate_state world headers state
  rw [hrate, slotGate_state]
  generalize (admitSlot _ world (qosClass request)).2 = jobs
  obtain ⟨cache, afterNonce, hnonce⟩ := nonceGate_state world
    { state with taskRateBuckets := buckets, activeJobs := jobs } request.nonce
  rw [hnonce]
  obtain ⟨_, _, hid⟩ := idempotencyGate_state world { state with
    taskRateBuckets := buckets, activeJobs := afterNonce, nonceCache := cache } request.taskId
  rw [hid, openTask_invokes_iff]
  constructor
  · rintro ⟨hpass, hpolicy, hdrain, hslot, hfresh, hnew, hopens⟩
    exact ⟨hpass, ⟨hpolicy, hdrain, hslot, hfresh, hnew⟩, hopens⟩
  · rintro ⟨hpass, ⟨hpolicy, hdrain, hslot, hfresh, hnew⟩, hopens⟩
    exact ⟨hpass, hpolicy, hdrain, hslot, hfresh, hnew, hopens⟩

lemma taskEndpoint_of_long (world : Surroundings) (headers : Headers) {body : HttpBody}
    (hlong : maxHttpTaskBodyBytes < body.length) (state : AppState) :
    taskEndpoint crates world headers body state = Serve.refuse ⟨413, none,
      errorBody "request_too_large" ("encoded task request exceeds " ++
        toString maxHttpTaskBodyBytes ++ " bytes") []⟩ state := by
  rw [taskEndpoint, readRequestBody, if_pos hlong]
  rfl

lemma taskEndpoint_of_short (world : Surroundings) (headers : Headers) {body : HttpBody}
    (hshort : body.length ≤ maxHttpTaskBodyBytes) (state : AppState) :
    taskEndpoint crates world headers body state =
      admitTask crates world headers body.value state := by
  rw [taskEndpoint, readRequestBody, if_neg hshort.not_gt]
  rfl

/-- The handler is called exactly when the body is not too long and encodes a request, every gate
lets it pass, and its envelope, if it has one, opens. -/
lemma taskEndpoint_invokes_iff (world : Surroundings) (headers : Headers)
    (body : HttpBody) (state : AppState) (invocation : Invocation) :
    (taskEndpoint crates world headers body state).1 = .ok invocation ↔
      body.length ≤ maxHttpTaskBodyBytes ∧
        ∃ request, body.value.bind TaskRequest.deserialize = some request ∧
          (rateGate world headers state).1 = .ok () ∧ Admissible world state request ∧
            Opens crates state.cxPrivateKey headers request invocation := by
  by_cases hshort : body.length ≤ maxHttpTaskBodyBytes
  swap
  · rw [taskEndpoint_of_long crates world headers (not_le.mp hshort)]
    exact iff_of_false nofun fun h ↦ hshort h.1
  rw [taskEndpoint_of_short crates world headers hshort, and_iff_right hshort]
  cases hbody : body.value.bind TaskRequest.deserialize with
  | none =>
    rw [admitTask, hbody]
    exact iff_of_false nofun fun ⟨_, hnone, _⟩ ↦ nomatch hnone
  | some request => simp [admitTask_invokes_iff crates world headers hbody]

end Iicp.Node
