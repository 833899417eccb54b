import Iicp.Node.Registration

/-!
# The token of a node on two tasks

A registration gives the node a new token, and the directory takes back the one before. The node
keeps its token in a slot that all tasks share. The heartbeat loop has a copy of its own from the
time when it starts, and the two payloads that the loop and the relay worker have captured carry a
copy too.

The registrations of the loop and of the relay worker overlap, so the model splits each of them into
a start, which reads the token, and an end, which writes it. `loopStart_loopDone` and
`bindStart_bindDone` say that a registration without other steps in between is the step of the node
that stands for it. `last` is the registration that has completed last, on either task, and
`token_fresh_iff` says which messages carry its token.
-/

namespace Iicp.Node

open Concurrent Option Rust

/-! ### Registrations with a start and an end -/

/-- The registrations of the heartbeat loop. -/
inductive LoopRegistration where
  | drift (live : List String)
  | rotate (publicAvailable : Bool)
  | recover (check : RecoveryCheck)
  /-- After a heartbeat that the directory answers with 401, 404 or 410. -/
  | unknown
  deriving DecidableEq

/-- The step of the node that is this registration as a whole. -/
def LoopRegistration.event (registration : LoopRegistration) (response : Option Json) :
    RegistrationEvent :=
  match registration with
  | .drift live => .drift live response
  | .rotate publicAvailable => .rotate publicAvailable response
  | .recover check => .recover check response
  | .unknown => .unknown response

namespace IicpNode

variable (config : NodeConfig) (node : IicpNode) (registration : LoopRegistration)

/-- What the loop does before it sends: a recovery check counts its failures, and may end the
process. -/
def loopBefore : IicpNode :=
  match registration with
  | .recover check =>
    let counted := { node with recoveryFailures := node.recoveryCount check }
    match node.recoveryAction config check with
    | .restartSelf => if config.recoverySupervised then { counted with exited := true } else counted
    | _ => counted
  | _ => node

variable (payload : RegisterPayload)

/-- The payload that the loop sends, if the registration is due. -/
def loopPayload :
    Option RegisterPayload :=
  match registration with
  | .drift live =>
    if node.driftDue config live then some (node.driftPayload config live payload) else none
  | .rotate publicAvailable =>
    match node.endpointOverride with
    | none => none
    | some endpoint =>
      if node.rotationDue publicAvailable endpoint then
        some { payload with endpoint := endpoint, currentNodeToken := some node.token }
      else none
  | .recover check =>
    match node.recoveryAction config check with
    | .reregister => some (node.recoveryPayload payload)
    | _ => none
  | .unknown => some payload

variable (credentials : RegistrationCredentials)

/-- What the loop does when the directory has accepted a payload. -/
def loopAccepted : IicpNode :=
  let accepted := { node.accept payload credentials with token := credentials.nodeToken }
  match registration with
  | .drift live => { accepted with registeredModels := live }
  | .rotate _ => { accepted with registeredEndpoint := payload.endpoint }
  | .recover _ => { accepted with registeredEndpoint := payload.endpoint, recoveryFailures := 0 }
  | .unknown => accepted

/-- What the relay worker does when the directory has accepted a payload. The token of the loop
stays. -/
def bindAccepted : IicpNode :=
  { node.accept payload credentials with registeredEndpoint := payload.endpoint }

end IicpNode

inductive RegistrationTask where
  | startup
  | heartbeat
  | relay
  deriving DecidableEq, Repr

inductive TokenEvent where
  | setEndpoint (endpoint : String)
  /-- The loop sends a heartbeat. -/
  | heartbeat
  | loopStart (registration : LoopRegistration)
  | loopDone (response : Option Json)
  | bindStart (host : String) (port : ℕ) (worker : String)
  | bindDone (response : Option Json)
  | unbind
  deriving DecidableEq

/-- A node with the registrations that wait for an answer, at most one on each task, and with the
task and the token of the registration that has completed last. -/
structure TokenRun where
  node : IicpNode
  loopCall : Option (LoopRegistration × RegisterPayload)
  relayCall : Option RegisterPayload
  last : Option (RegistrationTask × String)
  deriving DecidableEq

/-- Which events do not know of a registration on a task, with its token. The loop does not know of
those of the relay worker, and the payload that it has captured is older than all but the first. An
empty token is not put into a payload. -/
def TokenEvent.Misses (event : TokenEvent) (task : RegistrationTask) (token : String) : Prop :=
  match event with
  | .loopStart .unknown => task ≠ .startup ∨ token = ""
  | .loopStart (.drift _) => task = .relay ∨ token = ""
  | .bindStart _ _ _ => token = ""
  | _ => task = .relay

namespace TokenRun

/-- A node registers once and starts its tasks. A registration that has failed leaves the loop with
the empty token, and is made up for by the loop. -/
def serving (config : NodeConfig) (seed endpoint : String) (response : Option Json) : TokenRun :=
  let registered := ((IicpNode.fresh config seed).setEndpoint endpoint).register config response
  let token := ((reregister response).map RegistrationCredentials.nodeToken).getD ""
  { node := (registered.serve config token).startRelay config
    loopCall := none
    relayCall := none
    last := (reregister response).map fun credentials ↦ (.startup, credentials.nodeToken) }

variable (config : NodeConfig) (run : TokenRun)

def loopStart (registration : LoopRegistration) : TokenRun :=
  match run.loopCall, run.node.hbRegisterPayload with
  | none, some payload =>
    { run with
      node := run.node.loopBefore config registration
      loopCall :=
        (run.node.loopPayload config registration payload).map fun sent ↦ (registration, sent) }
  | _, _ => run

def loopDone (response : Option Json) : TokenRun :=
  match run.loopCall with
  | none => run
  | some (registration, payload) =>
    match reregister response with
    | none => { run with loopCall := none }
    | some credentials =>
      { run with
        node := run.node.loopAccepted registration payload credentials
        loopCall := none
        last := some (.heartbeat, credentials.nodeToken) }

def bindStart (host : String) (port : ℕ) (worker : String) : TokenRun :=
  match run.relayCall, run.node.relayRegisterPayload with
  | none, some payload =>
    { run with
      node := { run.node with runtimeRelayBound := true }
      relayCall := some (run.node.relayPayload host port worker payload) }
  | _, _ => run

def bindDone (response : Option Json) : TokenRun :=
  match run.relayCall with
  | none => run
  | some payload =>
    match reregister response with
    | none => { run with relayCall := none }
    | some credentials =>
      { run with
        node := run.node.bindAccepted payload credentials
        relayCall := none
        last := some (.relay, credentials.nodeToken) }

variable (event : TokenEvent)

/-- A step of one of the tasks. A task that waits for an answer does nothing else, and a process
that has ended does nothing at all. -/
def step : TokenRun :=
  if run.node.exited then run
  else
    match event with
    | .setEndpoint endpoint => { run with node := run.node.setEndpoint endpoint }
    | .heartbeat => run
    | .loopStart registration => run.loopStart config registration
    | .loopDone response => run.loopDone response
    | .bindStart host port worker => run.bindStart host port worker
    | .bindDone response => run.bindDone response
    | .unbind => { run with node := { run.node with runtimeRelayBound := false } }

/-- What the message of an event carries as the token of the node, if the event sends one. -/
def carried : Option (Option String) :=
  if run.node.exited then none
  else
    match event with
    | .heartbeat =>
      match run.loopCall, run.node.hbRegisterPayload with
      | none, some _ => some (some run.node.token)
      | _, _ => none
    | .loopStart registration =>
      match run.loopCall, run.node.hbRegisterPayload with
      | none, some payload =>
        (run.node.loopPayload config registration payload).map RegisterPayload.currentNodeToken
      | _, _ => none
    | .bindStart host port worker =>
      match run.relayCall, run.node.relayRegisterPayload with
      | none, some payload =>
        some (run.node.relayPayload host port worker payload).currentNodeToken
      | _, _ => none
    | _ => none

/-- The token with which an event completes a registration. -/
def issued : Option String :=
  if run.node.exited then none
  else
    match event with
    | .loopDone response =>
      run.loopCall.bind fun _ ↦ (reregister response).map RegistrationCredentials.nodeToken
    | .bindDone response =>
      run.relayCall.bind fun _ ↦ (reregister response).map RegistrationCredentials.nodeToken
    | _ => none

/-! ### Freshness -/

/-- The message of an event carries the token of the registration that has completed last, if there
is a message and such a registration. -/
def Fresh : Prop :=
  ∀ token ∈ run.carried config event, ∀ registration ∈ run.last, token = some registration.2

/-- The event sends a message that does not know of the registration that has completed last. -/
def Outdated : Prop :=
  (run.carried config event).isSome = true ∧
    ∃ registration ∈ run.last, event.Misses registration.1 registration.2

/-- The token of a registration that completes is none that the loop or its payload has kept, since
the directory has taken those back. -/
def IssuesNew : Prop :=
  ∀ token ∈ run.issued event, token ≠ run.node.token ∧
    ∀ payload ∈ run.node.hbRegisterPayload, payload.currentNodeToken ≠ some token

end TokenRun

open IicpNode TokenRun

/-! ### A registration without other steps in between -/

section Atomic

variable {config : NodeConfig} {run : TokenRun}

lemma loopPayload_of_exits (node : IicpNode) (hrunning : node.exited = false)
    (registration : LoopRegistration) (payload : RegisterPayload)
    (hexits : (node.loopBefore config registration).exited) :
    node.loopPayload config registration payload = none := by
  cases registration with
  | recover check =>
    cases haction : node.recoveryAction config check with
    | reregister => simp [loopBefore, haction, hrunning] at hexits
    | _ => simp only [loopPayload, haction]
  | _ => exact absurd hexits (by simp [loopBefore, hrunning])

/-- A registration of the loop whose answer comes at once. -/
lemma node_loopDone_loopStart {payload : RegisterPayload} (hidle : run.loopCall = none)
    (hpayload : run.node.hbRegisterPayload = some payload) (registration : LoopRegistration)
    (response : Option Json) :
    ((run.loopStart config registration).loopDone response).node =
      match run.node.loopPayload config registration payload, reregister response with
      | some sent, some credentials =>
        (run.node.loopBefore config registration).loopAccepted registration sent credentials
      | _, _ => run.node.loopBefore config registration := by
  unfold loopStart
  rw [hidle, hpayload]
  dsimp only
  cases run.node.loopPayload config registration payload with
  | none => rfl
  | some =>
    dsimp only [loopDone, map_some]
    cases reregister response <;> rfl

/-- The whole registration as the node makes it in one step. -/
lemma loopAccepted_eq_step {payload : RegisterPayload} (hrunning : run.node.exited = false)
    (hpayload : run.node.hbRegisterPayload = some payload) (registration : LoopRegistration)
    (response : Option Json) :
    (match run.node.loopPayload config registration payload, reregister response with
      | some sent, some credentials =>
        (run.node.loopBefore config registration).loopAccepted registration sent credentials
      | _, _ => run.node.loopBefore config registration) =
      run.node.step config (registration.event response) := by
  rw [IicpNode.step, hrunning, if_neg Bool.false_ne_true]
  cases registration with
  | drift =>
    simp only [LoopRegistration.event, withPayload, hpayload, drift, loopPayload]
    split_ifs <;> cases reregister response <;> rfl
  | rotate =>
    simp only [LoopRegistration.event, withPayload, hpayload, rotate, loopPayload]
    cases run.node.endpointOverride with
    | none => rfl
    | some =>
      dsimp only
      split_ifs <;> cases reregister response <;> rfl
  | recover check =>
    simp only [LoopRegistration.event, withPayload, hpayload, recover, loopPayload, loopBefore]
    cases run.node.recoveryAction config check with
    | reregister => cases reregister response <;> rfl
    | _ => rfl
  | unknown =>
    simp only [LoopRegistration.event, withPayload, hpayload, afterUnknown, loopPayload]
    cases reregister response <;> rfl

/-- A registration of the loop with no other step between its start and its end is the step of the
node that stands for it. -/
theorem loopStart_loopDone (registration : LoopRegistration) (response : Option Json)
    (hrunning : run.node.exited = false) (hidle : run.loopCall = none) :
    ((run.step config (.loopStart registration)).step config (.loopDone response)).node =
      run.node.step config (registration.event response) := by
  have hstart : run.step config (.loopStart registration) = run.loopStart config registration := by
    rw [TokenRun.step, hrunning]
    rfl
  rw [hstart]
  cases hpayload : run.node.hbRegisterPayload with
  | none =>
    have hnothing : run.loopStart config registration = run := by
      rw [loopStart, hidle, hpayload]
    rw [hnothing, TokenRun.step, IicpNode.step, hrunning]
    simp only [loopDone, hidle, hpayload]
    cases registration <;> rfl
  | some payload =>
    rw [← loopAccepted_eq_step hrunning hpayload, ← node_loopDone_loopStart hidle hpayload]
    have hnode : (run.loopStart config registration).node =
        run.node.loopBefore config registration := by
      rw [loopStart, hidle, hpayload]
    rw [TokenRun.step, hnode]
    cases hexits : (run.node.loopBefore config registration).exited with
    | false => rfl
    | true =>
      rw [if_pos rfl, node_loopDone_loopStart hidle hpayload,
        loopPayload_of_exits run.node hrunning registration payload hexits]
      exact hnode

/-- The same for a registration of the relay worker. -/
theorem bindStart_bindDone (host : String) (port : ℕ) (worker : String) (response : Option Json)
    (hrunning : run.node.exited = false) (hidle : run.relayCall = none) :
    ((run.step config (.bindStart host port worker)).step config (.bindDone response)).node =
      run.node.step config (.bind host port worker response) := by
  have hstart : run.step config (.bindStart host port worker) = run.bindStart host port worker := by
    rw [TokenRun.step, hrunning]
    rfl
  rw [hstart, IicpNode.step, hrunning]
  unfold bindStart
  rw [hidle]
  cases hpayload : run.node.relayRegisterPayload with
  | none => simp [TokenRun.step, bindDone, withPayload, hrunning, hidle]
  | some =>
    simp only [TokenRun.step, bindDone, withPayload, IicpNode.bind, hrunning]
    cases reregister response <;> rfl

end Atomic

/-! ### The copies of the token -/

/-- The copies of the token are the same, and so is the registration that has completed last. -/
structure SameTokens (run next : TokenRun) : Prop where
  runtimeToken : next.node.runtimeToken = run.node.runtimeToken
  token : next.node.token = run.node.token
  hbRegisterPayload : next.node.hbRegisterPayload = run.node.hbRegisterPayload
  relayRegisterPayload : next.node.relayRegisterPayload = run.node.relayRegisterPayload
  last : next.last = run.last

/-- An event leaves the copies alone, or completes a registration of one of the two tasks. Only the
loop has a copy of its own to replace. -/
inductive Renewal (run : TokenRun) (event : TokenEvent) : TokenRun → Prop where
  | same (next : TokenRun) (htokens : SameTokens run next) : Renewal run event next
  | byLoop (next : TokenRun) (issued : String) (hissued : run.issued event = some issued)
      (hslot : next.node.runtimeToken = issued) (htoken : next.node.token = issued)
      (hloop : next.node.hbRegisterPayload = run.node.hbRegisterPayload)
      (hrelay : next.node.relayRegisterPayload = run.node.relayRegisterPayload)
      (hlast : next.last = some (.heartbeat, issued)) : Renewal run event next
  | byRelay (next : TokenRun) (issued : String) (hissued : run.issued event = some issued)
      (hslot : next.node.runtimeToken = issued) (htoken : next.node.token = run.node.token)
      (hloop : next.node.hbRegisterPayload = run.node.hbRegisterPayload)
      (hrelay : next.node.relayRegisterPayload = run.node.relayRegisterPayload)
      (hlast : next.last = some (.relay, issued)) : Renewal run event next

section Renewals

variable {config : NodeConfig} {run : TokenRun}

lemma sameTokens_loopStart (registration : LoopRegistration) :
    SameTokens run (run.loopStart config registration) := by
  unfold loopStart
  split
  · cases registration with
    | recover =>
      simp only [loopBefore]
      split
      · split_ifs <;> exact ⟨rfl, rfl, rfl, rfl, rfl⟩
      · exact ⟨rfl, rfl, rfl, rfl, rfl⟩
    | _ => exact ⟨rfl, rfl, rfl, rfl, rfl⟩
  · exact ⟨rfl, rfl, rfl, rfl, rfl⟩

lemma renewal_loopDone (hrunning : run.node.exited = false) (response : Option Json) :
    Renewal run (.loopDone response) (run.loopDone response) := by
  unfold loopDone
  cases hcall : run.loopCall with
  | none => exact .same _ ⟨rfl, rfl, rfl, rfl, rfl⟩
  | some call =>
    obtain ⟨registration, _⟩ := call
    cases hanswer : reregister response with
    | none => exact .same _ ⟨rfl, rfl, rfl, rfl, rfl⟩
    | some credentials =>
      have hissued : run.issued (.loopDone response) = some credentials.nodeToken := by
        simp [issued, hrunning, hcall, hanswer]
      cases registration <;> exact .byLoop _ _ hissued rfl rfl rfl rfl rfl

lemma renewal_bindDone (hrunning : run.node.exited = false) (response : Option Json) :
    Renewal run (.bindDone response) (run.bindDone response) := by
  unfold bindDone
  cases hcall : run.relayCall with
  | none => exact .same _ ⟨rfl, rfl, rfl, rfl, rfl⟩
  | some =>
    cases hanswer : reregister response with
    | none => exact .same _ ⟨rfl, rfl, rfl, rfl, rfl⟩
    | some credentials =>
      have hissued : run.issued (.bindDone response) = some credentials.nodeToken := by
        simp [issued, hrunning, hcall, hanswer]
      exact .byRelay _ _ hissued rfl rfl rfl rfl rfl

lemma renewal_step (config : NodeConfig) (run : TokenRun) (event : TokenEvent) :
    Renewal run event (run.step config event) := by
  unfold TokenRun.step
  by_cases hexited : run.node.exited
  · rw [if_pos hexited]
    exact .same _ ⟨rfl, rfl, rfl, rfl, rfl⟩
  rw [if_neg hexited]
  have hrunning : run.node.exited = false := Bool.eq_false_iff.mpr hexited
  cases event with
  | setEndpoint | heartbeat | unbind => exact .same _ ⟨rfl, rfl, rfl, rfl, rfl⟩
  | loopStart registration => exact .same _ (sameTokens_loopStart registration)
  | loopDone response => exact renewal_loopDone hrunning response
  | bindStart =>
    refine .same _ ?_
    dsimp only [bindStart]
    split <;> exact ⟨rfl, rfl, rfl, rfl, rfl⟩
  | bindDone response => exact renewal_bindDone hrunning response

end Renewals

/-- Which copies are those of the registration that has completed last. -/
structure Held (run : TokenRun) : Prop where
  slot : ∀ task token, run.last = some (task, token) → run.node.runtimeToken = token
  loop : ∀ task token, run.last = some (task, token) → task ≠ .relay → run.node.token = token
  captured : ∀ token, run.last = some (.startup, token) → token ≠ "" →
    ∀ payload ∈ run.node.hbRegisterPayload, payload.currentNodeToken = some token

/-- Which copies are not, as long as no token is issued again. -/
structure Apart (run : TokenRun) : Prop where
  loop : ∀ token, run.last = some (.relay, token) → run.node.token ≠ token
  captured : ∀ task token, run.last = some (task, token) → task ≠ .startup →
    ∀ payload ∈ run.node.hbRegisterPayload, payload.currentNodeToken ≠ some token

/-- The captured payloads have no empty token. -/
structure Proper (run : TokenRun) : Prop where
  loop : ∀ payload ∈ run.node.hbRegisterPayload, payload.currentNodeToken ≠ some ""
  relay : ∀ payload ∈ run.node.relayRegisterPayload, payload.currentNodeToken ≠ some ""

section Invariants

variable {run next : TokenRun} {event : TokenEvent}

lemma Held.of_renewal (hheld : Held run) (hrenewal : Renewal run event next) : Held next := by
  cases hrenewal with
  | same htokens =>
    refine ⟨?_, ?_, ?_⟩
    · rw [htokens.last, htokens.runtimeToken]
      exact hheld.slot
    · rw [htokens.last, htokens.token]
      exact hheld.loop
    · rw [htokens.last, htokens.hbRegisterPayload]
      exact hheld.captured
  | byLoop issued hissued hslot htoken hloop hrelay hlast =>
    refine ⟨?_, ?_, ?_⟩ <;> rw [hlast]
    · rintro task token ⟨⟩
      exact hslot
    · rintro task token ⟨⟩ -
      exact htoken
    · rintro token ⟨⟩
  | byRelay issued hissued hslot htoken hloop hrelay hlast =>
    refine ⟨?_, ?_, ?_⟩ <;> rw [hlast]
    · rintro task token ⟨⟩
      exact hslot
    · rintro _ token ⟨⟩ htask
      exact absurd rfl htask
    · rintro _ ⟨⟩

lemma Apart.of_renewal (hapart : Apart run) (hnew : run.IssuesNew event)
    (hrenewal : Renewal run event next) : Apart next := by
  cases hrenewal with
  | same htokens =>
    refine ⟨?_, ?_⟩
    · rw [htokens.last, htokens.token]
      exact hapart.loop
    · rw [htokens.last, htokens.hbRegisterPayload]
      exact hapart.captured
  | byLoop issued hissued hslot htoken hloop hrelay hlast =>
    refine ⟨?_, ?_⟩ <;> rw [hlast]
    · rintro token ⟨⟩
    · rintro task token ⟨⟩ -
      rw [hloop]
      exact (hnew _ hissued).2
  | byRelay issued hissued hslot htoken hloop hrelay hlast =>
    refine ⟨?_, ?_⟩ <;> rw [hlast]
    · rintro token ⟨⟩
      rw [htoken]
      exact (hnew _ hissued).1.symm
    · rintro _ _ ⟨⟩ -
      rw [hloop]
      exact (hnew _ hissued).2

lemma Proper.of_renewal (hproper : Proper run) (hrenewal : Renewal run event next) :
    Proper next := by
  have hpayloads : next.node.hbRegisterPayload = run.node.hbRegisterPayload ∧
      next.node.relayRegisterPayload = run.node.relayRegisterPayload := by
    cases hrenewal with
    | same htokens => exact ⟨htokens.hbRegisterPayload, htokens.relayRegisterPayload⟩
    | byLoop _ _ _ _ hloop hrelay | byRelay _ _ _ _ hloop hrelay => exact ⟨hloop, hrelay⟩
  refine ⟨?_, ?_⟩
  · rw [hpayloads.1]
    exact hproper.loop
  · rw [hpayloads.2]
    exact hproper.relay

end Invariants

/-! ### The start -/

section Start

variable (config : NodeConfig) (seed endpoint : String) (response : Option Json)

lemma currentNodeToken_attach (token : String) (payload : RegisterPayload) :
    (attachCurrentNodeToken token payload).currentNodeToken =
      if token = "" then payload.currentNodeToken else some token := by
  unfold attachCurrentNodeToken
  split_ifs <;> rfl

lemma currentNodeToken_buildRegisterPayload (node : IicpNode) :
    (node.buildRegisterPayload config).currentNodeToken =
      if node.runtimeToken = "" then none else some node.runtimeToken :=
  currentNodeToken_attach _ _

lemma currentNodeToken_build_ne_empty (node : IicpNode) :
    (node.buildRegisterPayload config).currentNodeToken ≠ some "" := by
  rw [currentNodeToken_buildRegisterPayload]
  split_ifs with hempty
  · exact (some_ne_none _).symm
  · exact fun hsome ↦ hempty (some.inj hsome)

lemma held_serving : Held (.serving config seed endpoint response) := by
  unfold serving
  cases hanswer : reregister response with
  | none => exact ⟨nofun, nofun, nofun⟩
  | some =>
    refine ⟨?_, ?_, ?_⟩
    · rintro task token ⟨⟩
      simp [startRelay, serve, register, accept, hanswer]
    · rintro _ token ⟨⟩ -
      rfl
    · rintro _ ⟨⟩ hnonempty _ ⟨⟩
      rw [currentNodeToken_buildRegisterPayload]
      simp [register, accept, hanswer, hnonempty]

lemma apart_serving : Apart (.serving config seed endpoint response) := by
  unfold serving
  cases reregister response with
  | none => exact ⟨nofun, nofun⟩
  | some =>
    refine ⟨?_, ?_⟩
    · rintro token ⟨⟩
    · rintro _ _ ⟨⟩ htask
      exact absurd rfl htask

lemma proper_serving : Proper (.serving config seed endpoint response) := by
  refine ⟨?_, ?_⟩
  · rintro payload ⟨⟩
    exact currentNodeToken_build_ne_empty config _
  · rintro _ ⟨⟩
    exact currentNodeToken_build_ne_empty config _

end Start

/-! ### Messages -/

section Messages

variable {config : NodeConfig} {run : TokenRun} {event : TokenEvent}

/-- What the messages carry, in terms of the copies that they read. -/
inductive Reads (run : TokenRun) : TokenEvent → Option String → Prop where
  | heartbeat : Reads run .heartbeat (some run.node.token)
  | drift (live : List String) (payload : RegisterPayload)
      (hpayload : run.node.hbRegisterPayload = some payload) :
      Reads run (.loopStart (.drift live))
        (if run.node.token = "" then payload.currentNodeToken else some run.node.token)
  | rotate (publicAvailable : Bool) :
      Reads run (.loopStart (.rotate publicAvailable)) (some run.node.token)
  | recover (check : RecoveryCheck) :
      Reads run (.loopStart (.recover check)) (some run.node.token)
  | unknown (payload : RegisterPayload) (hpayload : run.node.hbRegisterPayload = some payload) :
      Reads run (.loopStart .unknown) payload.currentNodeToken
  | bind (host : String) (port : ℕ) (worker : String) (payload : RegisterPayload)
      (hpayload : run.node.relayRegisterPayload = some payload) :
      Reads run (.bindStart host port worker)
        (if run.node.runtimeToken = "" then payload.currentNodeToken
          else some run.node.runtimeToken)

lemma reads_loopStart {payload : RegisterPayload}
    (hpayload : run.node.hbRegisterPayload = some payload) (registration : LoopRegistration)
    {sent : RegisterPayload}
    (hsent : run.node.loopPayload config registration payload = some sent) :
    Reads run (.loopStart registration) sent.currentNodeToken := by
  cases registration with
  | drift live =>
    rw [loopPayload, ite_none_right_eq_some] at hsent
    rw [← some.inj hsent.2, driftPayload, currentNodeToken_attach]
    exact .drift live payload hpayload
  | rotate publicAvailable =>
    unfold loopPayload at hsent
    cases hoverride : run.node.endpointOverride with
    | none => simp [hoverride] at hsent
    | some =>
      simp only [hoverride, ite_none_right_eq_some] at hsent
      rw [← some.inj hsent.2]
      exact .rotate publicAvailable
  | recover check =>
    unfold loopPayload at hsent
    cases haction : run.node.recoveryAction config check with
    | reregister =>
      simp only [haction] at hsent
      rw [← some.inj hsent]
      exact .recover check
    | _ => simp [haction] at hsent
  | unknown =>
    rw [← some.inj hsent]
    exact .unknown payload hpayload

lemma reads_of_carried {token : Option String} (hcarried : run.carried config event = some token) :
    Reads run event token := by
  unfold carried at hcarried
  split_ifs at hcarried
  cases event with
  | heartbeat =>
    simp only at hcarried
    split at hcarried
    · rw [← some.inj hcarried]
      exact .heartbeat
    · nomatch hcarried
  | loopStart registration =>
    simp only at hcarried
    split at hcarried
    case h_1 payload _ hpayload =>
      obtain ⟨_, hsent, rfl⟩ := map_eq_some_iff.mp hcarried
      exact reads_loopStart hpayload registration hsent
    case h_2 => nomatch hcarried
  | bindStart host port worker =>
    simp only at hcarried
    split at hcarried
    case h_1 payload _ hpayload =>
      rw [← some.inj hcarried, relayPayload, currentNodeToken_attach]
      exact .bind host port worker payload hpayload
    case h_2 => nomatch hcarried
  | _ => nomatch hcarried

section Read

variable {task : RegistrationTask} {issued : String} {token : Option String}

/-- A message that knows of the last registration carries its token. -/
lemma eq_of_reads (hheld : Held run) (hlast : run.last = some (task, issued))
    (hreads : Reads run event token) (hfine : ¬ event.Misses task issued) :
    token = some issued := by
  cases hreads with
  | heartbeat | rotate | recover => rw [hheld.loop task issued hlast hfine]
  | drift =>
    obtain ⟨htask, hnonempty⟩ := not_or.mp hfine
    rw [hheld.loop task issued hlast htask, if_neg hnonempty]
  | unknown payload hpayload =>
    obtain ⟨htask, hnonempty⟩ := not_or.mp hfine
    obtain rfl : task = .startup := not_not.mp htask
    exact hheld.captured issued hlast hnonempty payload hpayload
  | bind =>
    have hnonempty : issued ≠ "" := hfine
    rw [hheld.slot task issued hlast, if_neg hnonempty]

/-- A message that does not know of it carries another token, or none. -/
lemma ne_of_reads (hheld : Held run) (hapart : Apart run) (hproper : Proper run)
    (hlast : run.last = some (task, issued)) (hreads : Reads run event token)
    (hmisses : event.Misses task issued) : token ≠ some issued := by
  have hother : task = .relay → some run.node.token ≠ some issued := by
    rintro rfl hsame
    exact hapart.loop issued hlast (some.inj hsame)
  cases hreads with
  | heartbeat | rotate | recover => exact hother hmisses
  | drift live payload hpayload =>
    by_cases hempty : run.node.token = ""
    · rw [if_pos hempty]
      obtain rfl | rfl := hmisses
      · exact hapart.captured _ issued hlast nofun payload hpayload
      · exact hproper.loop payload hpayload
    · rw [if_neg hempty]
      obtain htask | rfl := hmisses
      · exact hother htask
      · exact fun hsame ↦ hempty (some.inj hsame)
  | unknown payload hpayload =>
    obtain htask | rfl := hmisses
    · exact hapart.captured task issued hlast htask payload hpayload
    · exact hproper.loop payload hpayload
  | bind host port worker payload hpayload =>
    obtain rfl : issued = "" := hmisses
    rw [hheld.slot task _ hlast, if_pos rfl]
    exact hproper.relay payload hpayload

end Read

lemma fresh_of_not_outdated (hheld : Held run) (hfine : ¬ run.Outdated config event) :
    run.Fresh config event := by
  rintro _ hcarried ⟨task, issued⟩ hlast
  have hsent : (run.carried config event).isSome := isSome_of_mem hcarried
  exact eq_of_reads hheld hlast (reads_of_carried hcarried)
    fun hmisses ↦ hfine ⟨hsent, (task, issued), hlast, hmisses⟩

lemma not_fresh_of_outdated (hheld : Held run) (hapart : Apart run) (hproper : Proper run)
    (houtdated : run.Outdated config event) : ¬ run.Fresh config event := by
  obtain ⟨hsent, ⟨task, issued⟩, hlast, hmisses⟩ := houtdated
  obtain ⟨token, hcarried⟩ := isSome_iff_exists.mp hsent
  exact fun hfresh ↦ ne_of_reads hheld hapart hproper hlast (reads_of_carried hcarried) hmisses
    (hfresh token hcarried (task, issued) hlast)

end Messages

/-! ### The theorem -/

/-- In every run of the heartbeat loop with the relay worker, whatever tokens the directory issues,
a message that is not outdated carries the token of the registration that has completed last. If no
token is issued that the node still has a copy of, these are the only messages that do. -/
theorem token_fresh_iff (config : NodeConfig) (seed endpoint : String) (response : Option Json)
    (events : List TokenEvent) :
    let moment := stateAt (TokenRun.step config) (.serving config seed endpoint response) events
    (∀ position event, events[position]? = some event →
        ¬ (moment position).Outdated config event → (moment position).Fresh config event) ∧
      ((∀ position event, events[position]? = some event → (moment position).IssuesNew event) →
        ∀ position event, events[position]? = some event →
          ((moment position).Fresh config event ↔ ¬ (moment position).Outdated config event)) := by
  intro moment
  have hheld : ∀ position, Held (moment position) := fun position ↦
    always_of_good (held_serving config seed endpoint response)
      (fun _ event _ hbefore ↦ hbefore.of_renewal (renewal_step config _ event)) position
  have hproper : ∀ position, Proper (moment position) := fun position ↦
    always_of_good (proper_serving config seed endpoint response)
      (fun _ event _ hbefore ↦ hbefore.of_renewal (renewal_step config _ event)) position
  refine ⟨fun position event _ ↦ fresh_of_not_outdated (hheld position), fun hnew ↦ ?_⟩
  have hapart : ∀ position, Apart (moment position) := fun position ↦
    always_of_good (apart_serving config seed endpoint response) (fun earlier event hevent hbefore ↦
        hbefore.of_renewal (hnew earlier event hevent) (renewal_step config _ event)) position
  intro position event _
  constructor
  · intro hfresh houtdated
    exact not_fresh_of_outdated (hheld position) (hapart position) (hproper position) houtdated hfresh
  · exact fresh_of_not_outdated (hheld position)

def issuing (token : String) : Option Json := some (.object [("node_token", .string token)])

def boundBetween : List TokenEvent :=
  [.heartbeat, .bindStart "relay.example" 9484 "w1", .bindDone (issuing "tok2"), .heartbeat]

/-- The loop registers a new endpoint, and then the directory has lost the node. -/
def lostAfterRotation : List TokenEvent :=
  [.setEndpoint "https://new.example", .heartbeat, .loopStart (.rotate true),
    .loopDone (issuing "tok2"), .heartbeat, .loopStart .unknown]

/-- The heartbeat after the registration of the relay worker carries the token that this
registration has replaced. So does the payload that the loop has captured, after a registration of
the loop itself. -/
theorem replaced_token_sent :
    let bound := stateAt (TokenRun.step tunnelConfig)
      (.serving tunnelConfig "" "" (issuing "tok1")) boundBetween 3
    let lost := stateAt (TokenRun.step tunnelConfig)
      (.serving tunnelConfig "" "" (issuing "tok1")) lostAfterRotation 5
    bound.last = some (.relay, "tok2") ∧
      bound.carried tunnelConfig .heartbeat = some (some "tok1") ∧
      ¬ bound.Fresh tunnelConfig .heartbeat ∧
      lost.last = some (.heartbeat, "tok2") ∧
      lost.carried tunnelConfig (.loopStart .unknown) = some (some "tok1") ∧
      ¬ lost.Fresh tunnelConfig (.loopStart .unknown) := by
  intro bound lost
  have hbound : bound.last = some (.relay, "tok2") := by rfl
  have hheartbeat : bound.carried tunnelConfig .heartbeat = some (some "tok1") := by rfl
  have hlost : lost.last = some (.heartbeat, "tok2") := by rfl
  have hcaptured : lost.carried tunnelConfig (.loopStart .unknown) = some (some "tok1") := by rfl
  refine ⟨hbound, hheartbeat, fun hfresh ↦ ?_, hlost, hcaptured, fun hfresh ↦ ?_⟩
  · exact absurd (hfresh _ hheartbeat _ hbound) (by decide)
  · exact absurd (hfresh _ hcaptured _ hlost) (by decide)

end Iicp.Node
