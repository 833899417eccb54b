import Iicp.Native.Cbor
import Iicp.Native.ResponseSequence

/-!
# Streamed calls: what the server sends and what the client accepts

`onStreamCall` is the server's side of a streamed call: it numbers the events of a handler, replaces
errors and unknown statuses, stops at the first event that is not partial, adds a closing event when
the handler gave none, and answers with one event when the concurrency gate is full. Each event is
written as one RESPONSE frame. On the client's side, `acceptFrames` decodes the frames and checks
them with the response sequence of the call.

The server passes on an event name that the handler chose, and the client refuses one that its table
does not pair with the status; `stream_accepted_iff` is the exact condition.
-/

namespace Iicp.Native

open Rust Outcome

/-! ### Events of a handler -/

structure TcpStreamEvent where
  status : String
  result : Option Json
  (errorCode errorMessage : Option String)
  tokensUsed : Option UInt64
  event : Option String

structure TcpTask where
  taskId : String
  intent : String
  payload : Json

abbrev StreamItem := Except String TcpStreamEvent

def errorEvent (code message : String) : TcpStreamEvent :=
  ⟨"error", none, some code, some message, none, none⟩

def capacityExceeded : TcpStreamEvent :=
  errorEvent "capacity_exceeded" "node concurrency capacity reached"

def invalidStatus : TcpStreamEvent :=
  errorEvent "invalid_stream_status" "streaming handler emitted an invalid status"

def backendError : TcpStreamEvent := errorEvent "backend_error" "streaming handler raised exception"

/-- The event that closes a stream without an end of its own. -/
def streamIncomplete : TcpStreamEvent :=
  errorEvent "stream_incomplete" "stream ended without a terminal response"

def knownStatus (status : String) : Bool :=
  status == "partial" || status == "success" || status == "error" || status == "timeout"

def eventOf : StreamItem → TcpStreamEvent
  | .ok event => if knownStatus event.status then event else invalidStatus
  | .error _ => backendError

def defaultEventName (status : String) : String :=
  if status = "partial" then "partial"
  else if status = "success" then "completed"
  else if status = "timeout" then "timed_out"
  else "failed"

namespace TcpStreamEvent

variable (event : TcpStreamEvent)

def eventName : String :=
  event.event.getD (defaultEventName event.status)

def isFinal : Bool := event.status != "partial"

def hasError : Bool := event.errorCode.isSome || event.errorMessage.isSome

end TcpStreamEvent

/-! ### Response bodies -/

def lifecycleMap (taskId : String) (sequence : ℕ) (event : TcpStreamEvent) : CborValue :=
  .map [(.ofU64 1, .text taskId), (.ofU64 2, .ofU64 (UInt64.ofNat sequence)),
    (.ofU64 3, .text event.eventName), (.ofU64 4, .bool event.isFinal)]

def errorMap (event : TcpStreamEvent) : CborValue :=
  .map [(.ofU64 1, .text (event.errorCode.getD "stream_error")),
    (.ofU64 2, .text (event.errorMessage.getD "stream failed"))]

def lifecycleBody (sessionId callId taskId : String) (sequence : ℕ) (event : TcpStreamEvent) :
    CborValue :=
  .map ([(.ofU64 1, .ofU64 framingVersion.toUInt64), (.ofU64 2, .text sessionId),
      (.ofU64 3, .text callId), (.ofU64 4, .text event.status), (.ofU64 12, .bool event.isFinal),
      (.ofU64 13, lifecycleMap taskId sequence event)] ++
    (event.result.map fun result ↦ (CborValue.ofU64 5, jsonToCbor result)).toList ++
    (if event.hasError then [(.ofU64 6, errorMap event)] else []) ++
    (event.tokensUsed.map fun tokens ↦ (CborValue.ofU64 7, CborValue.ofU64 tokens)).toList)

inductive IicpTcpClientError where
  | io (message : String)
  | protocol (message : String)
  | server (code : ℤ) (message : String)
  deriving DecidableEq, Repr

/-- The largest sequence number, which stands for an absent one. -/
def u64Max : UInt64 := 0xffffffffffffffff

def optionalText : Option String → Json
  | some value => .string value
  | none => .null

def errorJson (error : CborValue) : Json :=
  .object [("code", optionalText ((cborMapGet error 1).bind cborToStr)),
    ("message", optionalText ((cborMapGet error 2).bind cborToStr))]

/-- Reads a response from its body; absent fields have their defaults. -/
def decodeLifecycleResponse (body : CborValue) : Outcome IicpTcpClientError NativeResponseFrame := do
  let lifecycle ← Outcome.okOr (.protocol "missing_lifecycle") (cborMapGet body 13)
  .ok {
    sessionId := textAt body 2
    callId := textAt body 3
    status := textAt body 4
    isFinal := boolAt body 12
    lifecycle := {
      taskId := textAt lifecycle 1
      sequence := (u64At lifecycle 2).getD u64Max
      event := textAt lifecycle 3
      isFinal := boolAt lifecycle 4 }
    result := ((cborMapGet body 5).map cborToJson).getD .null
    error := ((cborMapGet body 6).map errorJson).getD .null
    tokensUsed := u64At body 7 }

/-- The response that the client reads from the body of an event. -/
def responseOf (sessionId callId taskId : String) (sequence : ℕ) (event : TcpStreamEvent) :
    NativeResponseFrame where
  sessionId := sessionId
  callId := callId
  status := event.status
  isFinal := event.isFinal
  lifecycle := ⟨taskId, UInt64.ofNat sequence, event.eventName, event.isFinal⟩
  result := (event.result.map fun result ↦ cborToJson (jsonToCbor result)).getD .null
  error := if event.hasError then
      .object [("code", .string (event.errorCode.getD "stream_error")),
        ("message", .string (event.errorMessage.getD "stream failed"))]
    else .null
  tokensUsed := event.tokensUsed

lemma cborMapGet_lifecycleBody (sessionId callId taskId : String) (sequence : ℕ)
    (event : TcpStreamEvent) :
    let get := cborMapGet (lifecycleBody sessionId callId taskId sequence event)
    get 2 = some (.text sessionId) ∧ get 3 = some (.text callId) ∧
      get 4 = some (.text event.status) ∧ get 12 = some (.bool event.isFinal) ∧
      get 13 = some (lifecycleMap taskId sequence event) ∧ get 5 = event.result.map jsonToCbor ∧
      get 6 = (if event.hasError then some (errorMap event) else none) ∧
      get 7 = event.tokensUsed.map .ofU64 := by
  unfold lifecycleBody
  cases event.result <;> cases event.hasError <;> cases event.tokensUsed <;>
    simp [cborMapGet_cons, cborMapGet_nil]

lemma cborMapGet_lifecycleMap (taskId : String) (sequence : ℕ) (event : TcpStreamEvent) :
    let get := cborMapGet (lifecycleMap taskId sequence event)
    get 1 = some (.text taskId) ∧ get 2 = (some (UInt64.ofNat sequence)).map .ofU64 ∧
      get 3 = some (.text event.eventName) ∧ get 4 = some (.bool event.isFinal) := by
  simp [lifecycleMap, cborMapGet_cons]

lemma errorJson_errorMap (event : TcpStreamEvent) :
    errorJson (errorMap event) =
      .object [("code", .string (event.errorCode.getD "stream_error")),
        ("message", .string (event.errorMessage.getD "stream failed"))] := by
  simp [errorJson, errorMap, cborMapGet_cons, cborToStr, optionalText]

/-- The client reads back every field of the body that the server built. -/
lemma decodeLifecycleResponse_lifecycleBody (sessionId callId taskId : String) (sequence : ℕ)
    (event : TcpStreamEvent) :
    decodeLifecycleResponse (lifecycleBody sessionId callId taskId sequence event) =
      .ok (responseOf sessionId callId taskId sequence event) := by
  obtain ⟨hsession, hcall, hstatus, hfinal, hlifecycle, hresult, herror, htokens⟩ :=
    cborMapGet_lifecycleBody sessionId callId taskId sequence event
  obtain ⟨htask, hsequence, hname, hlast⟩ := cborMapGet_lifecycleMap taskId sequence event
  have herrorJson : ((if event.hasError then some (errorMap event) else none).map
      errorJson).getD .null = if event.hasError then errorJson (errorMap event) else .null := by
    cases event.hasError <;> rfl
  rw [decodeLifecycleResponse, hlifecycle, Outcome.okOr_some, Outcome.ok_bind,
    textAt_of_get hsession, textAt_of_get hcall, textAt_of_get hstatus, boolAt_of_get hfinal,
    hresult, herror, herrorJson, errorJson_errorMap, u64At_of_get htokens, textAt_of_get htask,
    u64At_of_get hsequence, textAt_of_get hname, boolAt_of_get hlast, Option.map_map,
    Option.getD_some]
  rfl

/-! ### The server -/

/-- What a call wrote to the socket, frame by frame, and what it returned. -/
structure Sent (α : Type) where
  frames : List (List UInt8)
  result : Outcome String α

namespace Sent

variable {α β γ : Type}

/-- Sequencing: what is written stays written when a later step fails. -/
protected def bind (first : Sent α) (next : α → Sent β) : Sent β :=
  match first.result with
  | .ok value => ⟨first.frames ++ (next value).frames, (next value).result⟩
  | .err error => ⟨first.frames, .err error⟩
  | .panicked => ⟨first.frames, .panicked⟩

instance : Monad Sent where
  pure value := ⟨[], .ok value⟩
  bind := Sent.bind

/-- A step that writes nothing. -/
def lift (call : Outcome String α) : Sent α := ⟨[], call⟩

def write (frame : List UInt8) : Sent Unit := ⟨[frame], .ok ()⟩

@[simp] lemma lift_ok_bind (value : α) (next : α → Sent β) :
    (lift (.ok value) >>= next) = next value := rfl

@[simp] lemma lift_panicked_bind (next : α → Sent β) :
    (lift .panicked >>= next) = ⟨[], .panicked⟩ := rfl

@[simp] lemma write_bind (frame : List UInt8) (next : Unit → Sent β) :
    (write frame >>= next) = ⟨frame :: (next ()).frames, (next ()).result⟩ := rfl

lemma bind_assoc (first : Sent α) (second : α → Sent β) (third : β → Sent γ) :
    (first >>= second >>= third) = first >>= fun value ↦ second value >>= third := by
  obtain ⟨_, value | _ | _⟩ := first
  · simp only [bind, Sent.bind]
    cases (second value).result with
    | ok => simp only [List.append_assoc]
    | err => rfl
    | panicked => rfl
  · rfl
  · rfl

end Sent

/-- A cap on the calls that run at the same time. -/
structure ConcurrencyGate where
  maxConcurrent : ℕ
  active : ℕ

/-- Takes a slot of the gate, or reports its capacity when it is full. -/
def ConcurrencyGate.acquire (gate : ConcurrencyGate) : Except ℕ ConcurrencyGate :=
  if gate.maxConcurrent ≤ gate.active then .error gate.maxConcurrent
  else .ok { gate with active := gate.active + 1 }

/-- The parts of a server that a streamed call uses. -/
structure IicpTcpServer where
  streamingHandler : Option (TcpTask → List StreamItem)
  concurrencyGate : Option ConcurrencyGate

/-- Whether a call gets a slot; without a gate every call does. -/
def IicpTcpServer.acquired (server : IicpTcpServer) : Bool :=
  match server.concurrencyGate with
  | some gate => gate.acquire.isOk
  | none => true

section Server

variable (codec : CborCodec) (sessionId callId taskId : String) {response : NativeResponseFrame}
  {state : NativeResponseSequence} {event : TcpStreamEvent} {sequence : ℕ} {bytes : List UInt8}

def encodeLifecycleResponse (sequence : ℕ) (event : TcpStreamEvent) : List UInt8 :=
  codec.encodeCbor (lifecycleBody sessionId callId taskId sequence event)

def sendEvent (sequence : ℕ) (event : TcpStreamEvent) : Sent Unit := do
  let payload := encodeLifecycleResponse codec sessionId callId taskId sequence event
  let frame ← Sent.lift (tryEncodeFrame MsgType.response.toU8 payload 0)
  Sent.write frame

/-- The loop over the items of the handler, from a sequence number on: the number of the next
frame, and whether an event that ends the stream was sent. -/
def forwardItems : ℕ → List StreamItem → Sent (ℕ × Bool)
  | sequence, [] => pure (sequence, false)
  | sequence, item :: rest => do
    sendEvent codec sessionId callId taskId sequence (eventOf item)
    let next ← Sent.lift (addU64 sequence 1)
    if (eventOf item).isFinal then pure (next, true) else forwardItems next rest

/-- Sends the events of the items, and a closing event if none of them ended the stream. -/
def completeStream (sequence : ℕ) (items : List StreamItem) : Sent Bool := do
  let (next, terminalSent) ← forwardItems codec sessionId callId taskId sequence items
  if !terminalSent then sendEvent codec sessionId callId taskId next streamIncomplete
  pure true

def onStreamCall (server : IicpTcpServer) (intent : String) (payload : Json) : Sent Bool :=
  match server.streamingHandler with
  | none => Sent.lift .panicked
  | some handler => do
    let items := handler ⟨taskId, intent, payload⟩
    if !server.acquired then do
      sendEvent codec sessionId callId taskId 0 capacityExceeded
      pure true
    else completeStream codec sessionId callId taskId 0 items

def frameOf (sequence : ℕ) (event : TcpStreamEvent) : List UInt8 :=
  let payload := encodeLifecycleResponse codec sessionId callId taskId sequence event
  frameHeader MsgType.response.toU8 0 0 payload.length ++ payload

lemma sendEvent_of_carries (h : codec.Carries (lifecycleBody sessionId callId taskId sequence event)) :
    sendEvent codec sessionId callId taskId sequence event =
      Sent.write (frameOf codec sessionId callId taskId sequence event) := by
  rw [sendEvent, encodeLifecycleResponse, tryEncodeFrame_of_le _ _ h.1]
  rfl

lemma completeStream_nil (sequence : ℕ) :
    completeStream codec sessionId callId taskId sequence [] =
      (sendEvent codec sessionId callId taskId sequence streamIncomplete >>= fun _ ↦ pure true) :=
  rfl

lemma completeStream_cons (sequence : ℕ) (item : StreamItem) (rest : List StreamItem) :
    completeStream codec sessionId callId taskId sequence (item :: rest) =
      (sendEvent codec sessionId callId taskId sequence (eventOf item) >>= fun _ ↦
        Sent.lift (addU64 sequence 1) >>= fun next ↦
          if (eventOf item).isFinal then pure true
          else completeStream codec sessionId callId taskId next rest) := by
  rw [completeStream, forwardItems, Sent.bind_assoc]
  congr 1
  funext _
  rw [Sent.bind_assoc]
  congr 1
  funext next
  cases (eventOf item).isFinal <;> rfl

/-! ### The client -/

def receiveResponse (bytes : List UInt8) : Outcome IicpTcpClientError NativeResponseFrame := do
  let (frame, _) ← (decodeFrame bytes).mapErr .protocol
  let body ← (codec.decodeCbor frame.payload).mapErr .protocol
  decodeLifecycleResponse body

/-- Reads and checks the responses of a call, one after the other. -/
def acceptFrames : NativeResponseSequence → List (List UInt8) →
    Outcome IicpTcpClientError (NativeResponseSequence × List NativeResponseFrame)
  | state, [] => .ok (state, [])
  | state, bytes :: rest => do
    let response ← receiveResponse codec bytes
    let next ← (state.accept response).mapErr fun error ↦ .protocol error.code
    let (final, later) ← acceptFrames next rest
    .ok (final, response :: later)

def OnlyLastFinal (responses : List NativeResponseFrame) : Prop :=
  ∃ earlier last, responses = earlier ++ [last] ∧ last.isFinal = true ∧
    ∀ response ∈ earlier, response.isFinal = false

/-- The client accepts all the frames, finds the sequence complete, and exactly the last response
is final. -/
def Accepted (state : NativeResponseSequence) (frames : List (List UInt8)) : Prop :=
  ∃ final responses, acceptFrames codec state frames = .ok (final, responses) ∧
    final.finish = .ok () ∧ OnlyLastFinal responses

/-- The client reads from a frame what the server put into it. -/
lemma receiveResponse_sent
    (h : codec.Carries (lifecycleBody sessionId callId taskId sequence event)) :
    receiveResponse codec (frameOf codec sessionId callId taskId sequence event) =
      .ok (responseOf sessionId callId taskId sequence event) := by
  set payload := encodeLifecycleResponse codec sessionId callId taskId sequence event with hpayload
  have hdecode : decodeFrame (frameOf codec sessionId callId taskId sequence event) =
      .ok (⟨framingVersion, MsgType.response.toU8, 0, payload⟩, frameHeaderLen + payload.length) := by
    rw [decodeFrame_eq_ok_iff]
    exact ⟨rfl, h.1, rfl, 0, [], by rw [List.append_nil]; rfl⟩
  have hbody : codec.decodeCbor payload =
      .ok (lifecycleBody sessionId callId taskId sequence event) := h.2
  rw [receiveResponse, hdecode, mapErr_ok, Outcome.ok_bind]
  dsimp only
  rw [hbody, mapErr_ok, Outcome.ok_bind, decodeLifecycleResponse_lifecycleBody]

/-! ### Both sides together -/

/-- The client's state when it waits for the response with a number. -/
def expecting (sequence : ℕ) : NativeResponseSequence :=
  ⟨sessionId, callId, taskId, sequence, false⟩

lemma placed_responseOf (h : sequence < 2 ^ 64) (event : TcpStreamEvent) :
    (expecting sessionId callId taskId sequence).Placed
      (responseOf sessionId callId taskId sequence event) :=
  ⟨rfl, rfl, rfl, rfl, UInt64.toNat_ofNat_of_lt' h, rfl, rfl⟩

/-- Assumes: a first frame that carries a response at its place. What acceptance of all the frames
amounts to. -/
lemma acceptFrames_cons_iff (hbytes : receiveResponse codec bytes = .ok response)
    (hplaced : state.Placed response) (rest : List (List UInt8)) (final : NativeResponseSequence)
    (responses : List NativeResponseFrame) :
    acceptFrames codec state (bytes :: rest) = .ok (final, responses) ↔
      (statusMatches response.status response.lifecycle.event ∧
        state.nextSequence + 1 < 2 ^ 64) ∧
      ∃ later, responses = response :: later ∧
        acceptFrames codec { state with
          nextSequence := state.nextSequence + 1, terminalSeen := response.isFinal } rest =
            .ok (final, later) := by
  rw [acceptFrames, hbytes, Outcome.ok_bind, bind_eq_ok_iff]
  constructor
  · rintro ⟨_, hnext, hrest⟩
    rw [mapErr_eq_ok_iff, NativeResponseSequence.accept_eq_ok_iff hplaced] at hnext
    obtain ⟨hstatus, hroom, rfl⟩ := hnext
    obtain ⟨⟨_, later⟩, hlater, heq⟩ := (bind_eq_ok_iff _ _ _).mp hrest
    obtain ⟨rfl, rfl⟩ := Prod.mk.inj (Outcome.ok.inj heq)
    exact ⟨⟨hstatus, hroom⟩, later, rfl, hlater⟩
  · rintro ⟨⟨hstatus, hroom⟩, _, rfl, hlater⟩
    refine ⟨{ state with
      nextSequence := state.nextSequence + 1, terminalSeen := response.isFinal }, ?_, ?_⟩
    · rw [mapErr_eq_ok_iff, NativeResponseSequence.accept_eq_ok_iff hplaced]
      exact ⟨hstatus, hroom, rfl⟩
    · rw [hlater, Outcome.ok_bind]

lemma onlyLastFinal_singleton (response : NativeResponseFrame) :
    OnlyLastFinal [response] ↔ response.isFinal := by
  constructor
  · rintro ⟨_, _, heq, hlast, _⟩
    rw [List.singleton_eq_append_iff] at heq
    rcases heq with ⟨_, hcons⟩ | ⟨_, hnil⟩
    · obtain rfl := (List.cons.inj hcons).1
      exact hlast
    · nomatch hnil
  · intro h
    exact ⟨[], response, rfl, h, nofun⟩

lemma onlyLastFinal_cons (h : response.isFinal = false) (later : List NativeResponseFrame) :
    OnlyLastFinal (response :: later) ↔ OnlyLastFinal later := by
  constructor
  · rintro ⟨earlier, last, heq, hlast, hearlier⟩
    cases earlier with
    | nil =>
      obtain rfl := (List.cons.inj heq).1
      rw [h] at hlast
      nomatch hlast
    | cons first earlier =>
      refine ⟨earlier, last, (List.cons.inj heq).2, hlast, ?_⟩
      intro other hother
      exact hearlier other (List.mem_cons_of_mem _ hother)
  · rintro ⟨earlier, last, rfl, hlast, hearlier⟩
    refine ⟨response :: earlier, last, rfl, hlast, ?_⟩
    intro other hother
    rcases List.mem_cons.mp hother with rfl | hother
    · exact h
    · exact hearlier other hother

/-- Accepting one frame more, when it carries a response at its place that is not final. -/
lemma accepted_cons_iff (hbytes : receiveResponse codec bytes = .ok response)
    (hplaced : state.Placed response) (hnotFinal : response.isFinal = false)
    (rest : List (List UInt8)) :
    Accepted codec state (bytes :: rest) ↔
      (statusMatches response.status response.lifecycle.event ∧
        state.nextSequence + 1 < 2 ^ 64) ∧
        Accepted codec { state with nextSequence := state.nextSequence + 1 } rest := by
  have hstate : { state with
      nextSequence := state.nextSequence + 1, terminalSeen := response.isFinal } =
        { state with nextSequence := state.nextSequence + 1 } := by
    rw [hnotFinal, ← hplaced.notEnded]
  have hcons := acceptFrames_cons_iff codec hbytes hplaced rest
  rw [hstate] at hcons
  constructor
  · rintro ⟨final, _, haccept, hfinish, hlast⟩
    obtain ⟨hchecks, later, rfl, hlater⟩ := (hcons _ _).mp haccept
    exact ⟨hchecks, final, later, hlater, hfinish, (onlyLastFinal_cons hnotFinal later).mp hlast⟩
  · rintro ⟨hchecks, final, later, hlater, hfinish, hlast⟩
    exact ⟨final, response :: later, (hcons _ _).mpr ⟨hchecks, later, rfl, hlater⟩, hfinish,
      (onlyLastFinal_cons hnotFinal later).mpr hlast⟩

/-- Accepting one last frame, when it carries a response at its place that is final. -/
lemma accepted_singleton_iff (hbytes : receiveResponse codec bytes = .ok response)
    (hplaced : state.Placed response) (hfinal : response.isFinal) :
    Accepted codec state [bytes] ↔
      statusMatches response.status response.lifecycle.event ∧
        state.nextSequence + 1 < 2 ^ 64 := by
  have hcons := acceptFrames_cons_iff codec hbytes hplaced []
  constructor
  · rintro ⟨_, _, haccept, _, _⟩
    exact ((hcons _ _).mp haccept).1
  · intro hchecks
    refine ⟨_, [response], (hcons _ _).mpr ⟨hchecks, [], rfl, rfl⟩, ?_, ?_⟩
    · exact if_pos hfinal
    · exact (onlyLastFinal_singleton response).mpr hfinal

/-- The events that the server sends for the items of a handler: one for each item up to the first
that ends the stream, and a closing event when there is no such item. -/
def streamEvents : List StreamItem → List TcpStreamEvent
  | [] => [streamIncomplete]
  | item :: rest =>
    if (eventOf item).isFinal then [eventOf item] else eventOf item :: streamEvents rest

/-- The responses of these events, numbered from a number on, fit a frame and are read back. -/
def CarriedFrom (sequence : ℕ) (events : List TcpStreamEvent) : Prop :=
  ∀ position event, events[position]? = some event →
    codec.Carries (lifecycleBody sessionId callId taskId (sequence + position) event)

/-- No event has a name of its own that the client does not pair with the event's status. -/
def NamesAgree (events : List TcpStreamEvent) : Prop :=
  ∀ event ∈ events, ∀ name, event.event = some name → statusMatches event.status name = true

lemma statusMatches_default {status : String} (h : knownStatus status) :
    statusMatches status (defaultEventName status) := by
  simp only [knownStatus, Bool.or_eq_true, beq_iff_eq] at h
  rcases h with ((rfl | rfl) | rfl) | rfl <;> decide

lemma knownStatus_eventOf (item : StreamItem) : knownStatus (eventOf item).status := by
  cases item with
  | error => rfl
  | ok event =>
    by_cases h : knownStatus event.status
    · simp only [eventOf, if_pos h]
      exact h
    · simp only [eventOf, if_neg h]
      decide

/-- An event of a known status is sent under a name of its status, unless the handler chose
another. -/
lemma statusMatches_eventName_iff (h : knownStatus event.status) :
    statusMatches event.status event.eventName ↔
      ∀ name, event.event = some name → statusMatches event.status name := by
  unfold TcpStreamEvent.eventName
  cases event.event with
  | none => exact iff_of_true (statusMatches_default h) nofun
  | some chosen =>
    constructor
    · intro hchosen name hname
      obtain rfl := Option.some.inj hname
      exact hchosen
    · intro hall
      exact hall chosen rfl

lemma namesAgree_cons_iff (event : TcpStreamEvent) (rest : List TcpStreamEvent)
    (h : knownStatus event.status) :
    NamesAgree (event :: rest) ↔
      statusMatches event.status event.eventName ∧ NamesAgree rest := by
  rw [statusMatches_eventName_iff h]
  exact List.forall_mem_cons

lemma namesAgree_singleton_iff (event : TcpStreamEvent) (h : knownStatus event.status) :
    NamesAgree [event] ↔ statusMatches event.status event.eventName := by
  rw [namesAgree_cons_iff event [] h, and_iff_left]
  intro other hother
  nomatch hother

lemma carriedFrom_cons_iff (sequence : ℕ) (event : TcpStreamEvent) (rest : List TcpStreamEvent) :
    CarriedFrom codec sessionId callId taskId sequence (event :: rest) ↔
      codec.Carries (lifecycleBody sessionId callId taskId sequence event) ∧
        CarriedFrom codec sessionId callId taskId (sequence + 1) rest := by
  constructor
  · intro h
    refine ⟨h 0 event rfl, ?_⟩
    intro position other hother
    rw [Nat.add_assoc, Nat.add_comm 1]
    exact h (position + 1) other hother
  · rintro ⟨hfirst, hrest⟩ position other hother
    cases position with
    | zero =>
      obtain rfl := Option.some.inj hother
      exact hfirst
    | succ position =>
      rw [Nat.add_comm position, ← Nat.add_assoc]
      exact hrest position other hother

/-- The client accepts the frame of an event that ends its stream as the last one exactly when its
name agrees and there is a number after it. -/
lemma lastFrame_accepted_iff (hsequence : sequence < 2 ^ 64)
    (hknown : knownStatus event.status) (hfinal : event.isFinal)
    (hfit : codec.Carries (lifecycleBody sessionId callId taskId sequence event)) :
    Accepted codec (expecting sessionId callId taskId sequence)
        [frameOf codec sessionId callId taskId sequence event] ↔
      NamesAgree [event] ∧ sequence + 1 < 2 ^ 64 := by
  rw [namesAgree_singleton_iff _ hknown]
  exact accepted_singleton_iff codec (receiveResponse_sent codec _ _ _ hfit)
    (placed_responseOf sessionId callId taskId hsequence event) hfinal

/-- The client accepts the frames of the rest of a stream exactly when the names agree and the
numbers do not run out. -/
lemma completeStream_accepted_iff (items : List StreamItem) (hsequence : sequence < 2 ^ 64)
    (hfits : CarriedFrom codec sessionId callId taskId sequence (streamEvents items)) :
    Accepted codec (expecting sessionId callId taskId sequence)
        (completeStream codec sessionId callId taskId sequence items).frames ↔
      NamesAgree (streamEvents items) ∧ sequence + (streamEvents items).length < 2 ^ 64 := by
  induction items generalizing sequence with
  | nil =>
    have hfit := ((carriedFrom_cons_iff _ _ _ _ _ _ _).mp hfits).1
    rw [completeStream_nil, sendEvent_of_carries _ _ _ _ hfit, Sent.write_bind]
    exact lastFrame_accepted_iff codec sessionId callId taskId hsequence rfl rfl hfit
  | cons item rest ih =>
    have hknown := knownStatus_eventOf item
    rw [completeStream_cons]
    by_cases hfinal : (eventOf item).isFinal
    · rw [streamEvents, if_pos hfinal] at hfits ⊢
      have hfit := ((carriedFrom_cons_iff _ _ _ _ _ _ _).mp hfits).1
      have hnothing : (Sent.lift (addU64 sequence 1) >>= fun next ↦
          if (eventOf item).isFinal then pure true
          else completeStream codec sessionId callId taskId next rest).frames = [] := by
        by_cases hroom : sequence + 1 < 2 ^ 64
        · rw [addU64_of_lt hroom, Sent.lift_ok_bind, if_pos hfinal]
          rfl
        · rw [addU64_of_le (not_lt.mp hroom), Sent.lift_panicked_bind]
      rw [sendEvent_of_carries _ _ _ _ hfit, Sent.write_bind, hnothing]
      exact lastFrame_accepted_iff codec sessionId callId taskId hsequence hknown hfinal hfit
    · rw [streamEvents, if_neg hfinal] at hfits ⊢
      obtain ⟨hfit, hfitsRest⟩ := (carriedFrom_cons_iff _ _ _ _ _ _ _).mp hfits
      rw [sendEvent_of_carries _ _ _ _ hfit, Sent.write_bind,
        accepted_cons_iff codec (receiveResponse_sent codec _ _ _ hfit)
          (placed_responseOf sessionId callId taskId hsequence (eventOf item))
          (Bool.eq_false_iff.mpr hfinal), namesAgree_cons_iff _ _ hknown, List.length_cons]
      by_cases hroom : sequence + 1 < 2 ^ 64
      · have hrest := ih hroom hfitsRest
        rw [addU64_of_lt hroom, Sent.lift_ok_bind, if_neg hfinal]
        refine (and_congr_right' hrest).trans ?_
        constructor
        · rintro ⟨⟨hname, _⟩, hnames, hcount⟩
          exact ⟨⟨hname, hnames⟩, by omega⟩
        · rintro ⟨⟨hname, hnames⟩, hcount⟩
          exact ⟨⟨hname, hroom⟩, hnames, by omega⟩
      · constructor
        · intro h
          exact absurd h.1.2 hroom
        · intro h
          exact absurd (lt_of_le_of_lt (by omega) h.2) hroom

/-- The events that the server sends in answer to a call. -/
def answeredEvents (server : IicpTcpServer) (items : List StreamItem) : List TcpStreamEvent :=
  if server.acquired then streamEvents items else [capacityExceeded]

end Server

/-- The client accepts the answer to a streamed call exactly when no event that the server sends has
a name of its own that the client does not pair with its status, and fewer than `2 ^ 64` events are
sent. Assumes: a server with a streaming handler, and responses that fit a frame and that the library
reads back. -/
theorem stream_accepted_iff (codec : CborCodec) (sessionId callId taskId : String)
    (server : IicpTcpServer) (handler : TcpTask → List StreamItem)
    (hhandler : server.streamingHandler = some handler) (intent : String) (payload : Json)
    (hfits : CarriedFrom codec sessionId callId taskId 0
      (answeredEvents server (handler ⟨taskId, intent, payload⟩))) :
    Accepted codec (.new sessionId callId taskId)
        (onStreamCall codec sessionId callId taskId server intent payload).frames ↔
      NamesAgree (answeredEvents server (handler ⟨taskId, intent, payload⟩)) ∧
        (answeredEvents server (handler ⟨taskId, intent, payload⟩)).length < 2 ^ 64 := by
  rw [onStreamCall, hhandler]
  dsimp only
  by_cases hacquired : server.acquired
  · rw [answeredEvents, if_pos hacquired] at hfits ⊢
    rw [hacquired, Bool.not_true, if_neg Bool.false_ne_true]
    have hstream := completeStream_accepted_iff codec sessionId callId taskId _ (by decide) hfits
    rwa [Nat.zero_add] at hstream
  · rw [answeredEvents, if_neg hacquired] at hfits ⊢
    have hfit := ((carriedFrom_cons_iff _ _ _ _ _ _ _).mp hfits).1
    rw [Bool.eq_false_iff.mpr hacquired, Bool.not_false, if_pos rfl, sendEvent_of_carries _ _ _ _ hfit,
      Sent.write_bind]
    have hlast := lastFrame_accepted_iff codec sessionId callId taskId (by decide) rfl rfl hfit
    rwa [Nat.zero_add] at hlast

/-! ### Two streams -/

/-- A server without a gate whose handler gives the same events for every task. -/
def fixedServer (events : List TcpStreamEvent) : IicpTcpServer :=
  ⟨some fun _ ↦ events.map .ok, none⟩

def partialEvent : TcpStreamEvent := ⟨"partial", none, none, none, some 1, none⟩

/-- A last event under a name of its status. -/
def completedEvent : TcpStreamEvent := ⟨"success", none, none, none, none, some "completed"⟩

def renamedEvent : TcpStreamEvent := ⟨"success", none, none, none, none, some "done"⟩

def sampleResponses : List (CborValue × List UInt8) :=
  [(lifecycleBody "s" "c" "t" 0 partialEvent, [0xa7, 0x01, 0x01, 0x02, 0x61, 0x73, 0x03, 0x61, 0x63,
        0x04, 0x67, 0x70, 0x61, 0x72, 0x74, 0x69, 0x61, 0x6c, 0x0c, 0xf4,
        0x0d, 0xa4, 0x01, 0x61, 0x74, 0x02, 0x00,
        0x03, 0x67, 0x70, 0x61, 0x72, 0x74, 0x69, 0x61, 0x6c, 0x04, 0xf4, 0x07, 0x01]),
    (lifecycleBody "s" "c" "t" 1 completedEvent,
      [0xa6, 0x01, 0x01, 0x02, 0x61, 0x73, 0x03, 0x61, 0x63,
        0x04, 0x67, 0x73, 0x75, 0x63, 0x63, 0x65, 0x73, 0x73, 0x0c, 0xf5,
        0x0d, 0xa4, 0x01, 0x61, 0x74, 0x02, 0x01,
        0x03, 0x69, 0x63, 0x6f, 0x6d, 0x70, 0x6c, 0x65, 0x74, 0x65, 0x64, 0x04, 0xf5]),
    (lifecycleBody "s" "c" "t" 0 renamedEvent,
      [0xa6, 0x01, 0x01, 0x02, 0x61, 0x73, 0x03, 0x61, 0x63,
        0x04, 0x67, 0x73, 0x75, 0x63, 0x63, 0x65, 0x73, 0x73, 0x0c, 0xf5,
        0x0d, 0xa4, 0x01, 0x61, 0x74, 0x02, 0x00,
        0x03, 0x64, 0x64, 0x6f, 0x6e, 0x65, 0x04, 0xf5])]

def nameIn (body : CborValue) : String := textAt ((cborMapGet body 13).getD .null) 3

/-- The library on these responses, which differ in the name of their event. -/
def sampleCodec : CborCodec where
  encodeCbor body :=
    ((sampleResponses.find? fun entry ↦ nameIn entry.1 = nameIn body).map Prod.snd).getD []
  decodeCbor bytes :=
    okOr "cbor decode" ((sampleResponses.find? fun entry ↦ entry.2 = bytes).map Prod.fst)

lemma carried_partial_completed :
    CarriedFrom sampleCodec "s" "c" "t" 0 [partialEvent, completedEvent] := by
  rw [carriedFrom_cons_iff, carriedFrom_cons_iff]
  exact ⟨⟨by decide +kernel, rfl⟩, ⟨by decide +kernel, rfl⟩, nofun⟩

lemma carried_renamed : CarriedFrom sampleCodec "s" "c" "t" 0 [renamedEvent] := by
  rw [carriedFrom_cons_iff]
  exact ⟨⟨by decide +kernel, rfl⟩, nofun⟩

theorem stream_accepted_partial_completed :
    CarriedFrom sampleCodec "s" "c" "t" 0 [partialEvent, completedEvent] ∧
      Accepted sampleCodec (.new "s" "c" "t")
        (onStreamCall sampleCodec "s" "c" "t" (fixedServer [partialEvent, completedEvent]) "i"
          .null).frames := by
  refine ⟨carried_partial_completed, ?_⟩
  apply (stream_accepted_iff sampleCodec "s" "c" "t" (fixedServer [partialEvent, completedEvent]) _
    rfl "i" .null carried_partial_completed).mpr
  refine ⟨?_, by decide⟩
  exact (namesAgree_cons_iff _ _ (by decide)).mpr
    ⟨by decide, (namesAgree_singleton_iff _ (by decide)).mpr (by decide)⟩

/-- The client refuses a stream of one successful event that the handler named otherwise. -/
theorem renamed_event_refused :
    CarriedFrom sampleCodec "s" "c" "t" 0
        (answeredEvents (fixedServer [renamedEvent]) [.ok renamedEvent]) ∧
      ¬ Accepted sampleCodec (.new "s" "c" "t")
        (onStreamCall sampleCodec "s" "c" "t" (fixedServer [renamedEvent]) "i" .null).frames := by
  refine ⟨carried_renamed, ?_⟩
  intro haccepted
  obtain ⟨hnames, _⟩ := (completeStream_accepted_iff sampleCodec "s" "c" "t" [.ok renamedEvent]
    (by decide) carried_renamed).mp haccepted
  have hsent : renamedEvent ∈ streamEvents [.ok renamedEvent] :=
    List.mem_singleton_self renamedEvent
  exact absurd (hnames renamedEvent hsent "done" rfl) (by decide)

end Iicp.Native
