import Iicp.Client.Dispatch
import Iicp.Proxy.Cip

/-!
# Running a task of the proxy

`runTask` turns a chat request into a task. With the gates of cooperative inference enabled it
discovers workers and asks the gates. A remote decision limits the task to the eligible workers, and
an error ends it. A local decision has no set of workers, and the task is then submitted without a
limit, to any node that the directory delivers: there is no local executor behind the proxy.

The eligible workers are known to the submission by their ids only: it asks the directory again, and
the record that it sends the prompt to is the one that is delivered then. `cip_gates_bind_iff` says
for which requests the gates bind.
-/

namespace Iicp.Proxy

open Rust ProxyRequest Client

/-! ### Backends -/

inductive ProxyDispatchError where
  | iicp (error : IicpError)
  | cip (error : CipError)
  deriving DecidableEq, Repr

/-- What the proxy needs of the client. -/
structure ProxyBackend where
  submit : (intent : String) → (payload : Json) →
    Interaction CallState Event ProxyDispatchError TaskResponse
  discover : (intent : String) →
    Interaction CallState Event ProxyDispatchError (List CipWorkerCandidate)
  cipTrustScope : Option CipTrustScope
  submitToCandidates : (intent : String) → (payload : Json) → (allowedNodeIds : List String) →
    Interaction CallState Event ProxyDispatchError TaskResponse

/-- The request of the proxy: the id is given later, and nothing limits the route. -/
def proxyTask (intent : String) (payload : Json) : TaskRequest where
  taskId := ""
  intent := intent
  payload := payload
  constraints := none
  routeConstraints := none
  auth := none
  sourceNodeId := none
  routingPolicy := none

def CipWorkerCandidate.ofNode (node : Node) : CipWorkerCandidate where
  nodeId := node.nodeId
  allowRemoteInference := (node.cipPolicy.map (·.allowRemoteInference)).getD false
  reputationScore := node.score
  restrictedEligibility := node.restrictedEligibility

/-- That no allowed node was found is reported as an error of the gates. -/
def candidatesError : IicpError → ProxyDispatchError
  | .noNodes _ => .cip (.noEligibleWorkers "IICP-E022")
  | other => .iicp other

open Interaction

section Backend

variable (world : World) (client : IicpClient)

def discoverWorkers (intent : String) :
    Interaction CallState Event ProxyDispatchError (List CipWorkerCandidate) := do
  match ← Interaction.attempt (discover world client.config intent .default) with
  | .ok list => pure (list.nodes.map .ofNode)
  | .error _ => pure []

def clientBackend : ProxyBackend where
  submit := fun intent payload ↦
    Interaction.mapErr .iicp (submitInternal world client (proxyTask intent payload) none none)
  discover := discoverWorkers world client
  cipTrustScope := client.config.restrictedDirectory.map fun context ↦
    ⟨context.domainId, context.authorityId, context.minimumMembershipGeneration⟩
  submitToCandidates := fun intent payload allowedNodeIds ↦
    Interaction.mapErr candidatesError
      (submitInternal world client (proxyTask intent payload) none (some allowedNodeIds))

end Backend

/-! ### A task -/

inductive ProxyOutcome where
  | ok (response : TaskResponse)
  | err (status : ℕ) (code : String)
  deriving DecidableEq

def proxyIntent : String := "urn:iicp:intent:llm:chat:v1"

/-- The payload of a request: messages, model, and the extra fields that are there. -/
def taskPayload (messages : Json) (model : String) (body : Json) : List (String × Json) :=
  ["temperature", "max_tokens", "cip", "billing", "qos"].foldl (fun fields key ↦
    match body.get key with
    | some value => Json.insertField key value fields
    | none => fields) [("messages", messages), ("model", .string model)]

def cipOutcome : CipError → ProxyOutcome
  | .insufficientCredits code => .err 402 code
  | .noEligibleWorkers code => .err 503 code

/-- What the gates say about a task: its set of workers, and its fields with the envelope. -/
def applyPlan (plan : CipDispatchPlan) (fields : List (String × Json)) : List (String × Json) :=
  match plan.envelope.bind Json.asObject with
  | some envelope => Json.insertField "cip" (.object envelope) fields
  | none => fields

def outcomeOf : Except ProxyDispatchError TaskResponse → ProxyOutcome
  | .ok response =>
    if response.status = "success" ∨ response.status = "completed" then .ok response
    else .err 502 (((response.error.bind (Json.get · "code")).bind Json.asStr).getD "proxy_error")
  | .error (.cip error) => cipOutcome error
  | .error (.iicp (.noNodes _)) => .err 502 "IICP-E033"
  | .error (.iicp error) =>
    let code := error.display
    if startsWith code "SDK-" || startsWith code "IICP-" then .err 502 (beforeFirst ':' code)
    else .err 500 "proxy_error"

section Run

variable (unixTime : List Event → ℕ) (config : CipConfig) (backend : ProxyBackend)
  (fields : List (String × Json))

/-- Sends a task to the allowed workers, or without a limit. -/
def sendTask :
    Option (List String) → Interaction CallState Event ProxyDispatchError TaskResponse
  | some ids => backend.submitToCandidates proxyIntent (.object fields) ids
  | none => backend.submit proxyIntent (.object fields)

/-- Submits a task, and turns the answer into an outcome. -/
def submitTask (allowed : Option (List String)) :
    Interaction CallState Event ProxyDispatchError ProxyOutcome := do
  let submitted ← Interaction.attempt (sendTask backend fields allowed)
  pure (outcomeOf submitted)

/-- Does with a task what the gates have decided. -/
def runPlanned : Except CipError CipDispatchPlan →
    Interaction CallState Event ProxyDispatchError ProxyOutcome
  | .error error => pure (cipOutcome error)
  | .ok plan => submitTask backend (applyPlan plan fields) plan.allowedNodeIds

def runTask (messages : Json) (model : String) (body : Json) :
    Interaction CallState Event ProxyDispatchError ProxyOutcome :=
  let fields := taskPayload messages model body
  if config.enabled then do
    let nodes ← backend.discover proxyIntent
    let now ← Interaction.look unixTime
    runPlanned backend fields ((mk nodes body backend.cipTrustScope now).plan config)
  else submitTask backend fields none

end Run

/-! ### Local decisions -/

/-- The gates decide that the request is to run locally. -/
def LocalGates (config : CipConfig) (request : ProxyRequest) : Prop :=
  qosOf request.body = some "realtime" ∨ (validateCipRequestFields request.body).isSome = true ∨
    tooExpensive config 1 = true ∨ overBudget config 0 1 = true ∨
    (lowBalance (balanceOf request.body) 1 = true ∧ config.strategy = .localFirst) ∨
    (lowBalance (balanceOf request.body) 1 = false ∧
      (tooSensitive config (sensitivityOf request.body) = true ∨
        (tooFew (eligibleWorkers request.nodes config request.trustScope request.now)
          (replicasOf request.body) = true ∧ config.strategy = .localFirst)))

variable {config : CipConfig} (payload : Json)

/-- The plan has no set of workers when the gates decide that the request is to run locally. -/
lemma plan_unlimited_iff (henabled : config.enabled) (request : ProxyRequest) :
    (∃ plan, request.plan config = .ok plan ∧ plan.allowedNodeIds = none) ↔
      LocalGates config request := by
  unfold plan computeCipEnvelope LocalGates
  by_cases hqos : qosOf request.body = some "realtime"
  · rw [if_pos (.inr hqos)]
    simp [hqos, CipDispatchPlan.localPlan]
  · rw [if_neg (by simp [henabled, hqos])]
    by_cases hfields : (validateCipRequestFields request.body).isSome
    · rw [if_pos hfields]
      simp [hfields, CipDispatchPlan.localPlan]
    · rw [if_neg hfields, planOf_unlimited_iff henabled]
      simp [hqos, hfields]

lemma isRemote_of_unlimited {request : ProxyRequest} {plan : CipDispatchPlan}
    (hplan : request.plan config = .ok plan) (hallowed : plan.allowedNodeIds = none) :
    request.isRemote config = false := by
  simp [isRemote, hplan, hallowed]

/-! ### What is sent -/

section Sent

variable (config : CipConfig) (world : World) (client : IicpClient) (state : CallState)
  (messages : Json) (model : String) (request : ProxyRequest)

/-- A client as a backend, with the workers that it discovers and its trust scope. -/
def workersBackend (workers : List CipWorkerCandidate) (trustScope : Option CipTrustScope) :
    ProxyBackend :=
  { clientBackend world client with
    discover := fun _ ↦ pure workers
    cipTrustScope := trustScope }

def taskEvents : List Event :=
  (runTask (fun _ ↦ request.now) config
    (workersBackend world client request.nodes request.trustScope) messages model request.body state
    []).2.2

/-- The gates bind what is sent: nothing is sent unless the decision is remote, and then each record
that it is sent to allows remote inference, has the reputation, is a trusted peer and is in the
scope. -/
def GatesBind : Prop :=
  (request.isRemote config = false → ∀ post,
    Event.posted post ∉ taskEvents config world client state messages model request) ∧
  (request.isRemote config = true → ∀ post,
    Event.posted post ∈ taskEvents config world client state messages model request →
      Usable config request.trustScope request.now (.ofNode post.node))

/-- For a remote decision, the records that the directory delivers in the call under the ids of
eligible workers are usable themselves, except under the given ids. -/
def TruthfulExcept (wrong : Set String) : Prop :=
  request.isRemote config = true → ∀ node,
    Sourced world client.config proxyIntent
      (taskEvents config world client state messages model request) node →
    node.nodeId ∈ usableIds request.nodes config request.trustScope request.now →
    node.nodeId ∉ wrong → Usable config request.trustScope request.now (.ofNode node)

variable {config request}

/-- A submission records what sending the task records. -/
lemma submitTask_log (backend : ProxyBackend) (fields : List (String × Json))
    (allowed : Option (List String)) (log : List Event) :
    (submitTask backend fields allowed state log).2.2 =
      (sendTask backend fields allowed state log).2.2 := by
  rw [submitTask, bind_apply]
  unfold Interaction.bind attempt
  rcases sendTask backend fields allowed state log with ⟨_ | _ | _, after, events⟩ <;> rfl

/-- A backend that submits as a client does sends a task by a call, which is limited to the allowed
workers. -/
lemma sendTask_log {backend : ProxyBackend}
    (hsubmit : backend.submit = (clientBackend world client).submit)
    (hcandidates : backend.submitToCandidates = (clientBackend world client).submitToCandidates)
    (fields : List (String × Json)) (allowed : Option (List String)) (log : List Event) :
    (sendTask backend fields allowed state log).2.2 =
      (submitInternal world client (proxyTask proxyIntent (.object fields)) none allowed state
        log).2.2 := by
  cases allowed with
  | none => rw [sendTask, hsubmit, clientBackend, mapErr_log]
  | some => rw [sendTask, hcandidates, clientBackend, mapErr_log]

variable (henabled : config.enabled = true)

include henabled

lemma runTask_of_discovered {now : ℕ} {backend : ProxyBackend} {workers : List CipWorkerCandidate}
    {body : Json} {log : List Event}
    (hworkers : (backend.discover proxyIntent state log).1 = .ok workers) :
    runTask (fun _ ↦ now) config backend messages model body state log =
      runPlanned backend (taskPayload messages model body)
        ((mk workers body backend.cipTrustScope now).plan config)
        (backend.discover proxyIntent state log).2.1
        (backend.discover proxyIntent state log).2.2 := by
  rw [runTask, if_pos henabled, bind_of_delivers hworkers, bind_of_ok rfl]

lemma taskEvents_eq :
    taskEvents config world client state messages model request =
      (runPlanned (workersBackend world client request.nodes request.trustScope)
        (taskPayload messages model request.body) (request.plan config) state []).2.2 := by
  have hdiscover : (workersBackend world client request.nodes request.trustScope).discover
      proxyIntent state [] = (.ok request.nodes, state, []) := rfl
  rw [taskEvents, runTask_of_discovered state messages model henabled
    (congrArg Prod.fst hdiscover), hdiscover]
  rfl

/-- The events are those of the call that the plan leads to. -/
lemma taskEvents_of_plan {plan : CipDispatchPlan} (hplan : request.plan config = .ok plan) :
    taskEvents config world client state messages model request =
      callEvents world client state
        (proxyTask proxyIntent (.object (applyPlan plan (taskPayload messages model request.body))))
        none plan.allowedNodeIds := by
  rw [taskEvents_eq world client state messages model henabled, hplan, runPlanned, submitTask_log,
    @sendTask_log world client state (workersBackend world client request.nodes request.trustScope)
      rfl rfl, callEvents]

/-- A task of a client that is to run locally is submitted without a limit. -/
lemma runTask_of_local {now : ℕ} {workers : List CipWorkerCandidate} {body : Json}
    {after : CallState} {log : List Event}
    (hworkers : (discoverWorkers world client proxyIntent state log).1 = .ok workers)
    (hafter : (discoverWorkers world client proxyIntent state log).2.1 = after)
    (hplan : (mk workers body (clientBackend world client).cipTrustScope now).plan
      config = .ok .localPlan) :
    (runTask (fun _ ↦ now) config (clientBackend world client) messages model body state log).2.2 =
      (submitInternal world client
        (proxyTask proxyIntent (.object (taskPayload messages model body))) none none after
        (discoverWorkers world client proxyIntent state log).2.2).2.2 := by
  have hdiscover : (clientBackend world client).discover = discoverWorkers world client := rfl
  have hfields : applyPlan .localPlan (taskPayload messages model body) =
      taskPayload messages model body := rfl
  have hallowed : CipDispatchPlan.localPlan.allowedNodeIds = none := rfl
  rw [← hdiscover] at hworkers hafter ⊢
  rw [runTask_of_discovered state messages model henabled hworkers, hplan, runPlanned,
    submitTask_log, sendTask_log world client _ rfl rfl, hfields, hallowed, hafter]

lemma gatesBind_of_not_local {wrong : Set String} (hlocal : ¬ LocalGates config request)
    (htruthful : TruthfulExcept config world client state messages model request wrong)
    (hright : request.isRemote config → ∀ worker ∈ request.nodes,
      Usable config request.trustScope request.now worker → worker.nodeId ∉ wrong) :
    GatesBind config world client state messages model request := by
  rw [← plan_unlimited_iff henabled] at hlocal
  refine ⟨fun hremote post hpost ↦ ?_, fun hremote post hpost ↦ ?_⟩
  · cases hplan : request.plan config with
    | error =>
      rw [taskEvents_eq world client state messages model henabled, hplan] at hpost
      nomatch hpost
    | ok plan =>
      rw [isRemote, hplan] at hremote
      exact hlocal ⟨plan, hplan, Option.isSome_eq_false_iff.mp hremote |> Option.isNone_iff_eq_none.mp⟩
  · obtain ⟨allowed, plan, hplan, hallowed⟩ := (isRemote_iff_allowed config request).mp hremote
    obtain ⟨-, rfl⟩ := (computeCipEnvelope_allowed_iff allowed).mp ⟨plan, hplan, hallowed⟩
    rw [taskEvents_of_plan world client state messages model henabled hplan] at hpost
    obtain ⟨hsourced, _, hgood⟩ := posted_good hpost
    have hid := (mem_eligibleWorkers_iff _ _ _ _ _).mp (hgood.eligible.inAllowed _ hallowed)
    rw [← taskEvents_of_plan world client state messages model henabled hplan] at hsourced
    obtain ⟨worker, hworker, hsame, husable⟩ := hid
    exact htruthful hremote post.node hsourced ⟨worker, hworker, hsame, husable⟩
      (hsame ▸ hright hremote worker hworker husable)

end Sent

/-! ### A node that is sent every task -/

section Keyless

variable (nodeId : String)

def keylessListed : Json :=
  .object
    [("available", .bool true), ("endpoint", .string "https://node.example.com"), ("load", .ofU64 0),
      ("node_id", .string nodeId), ("region", .string "eu"), ("score", .ofU64 1)]

def keylessNode : Node := { sampleNode with nodeId := nodeId, cxPublicKey := none }

def keylessList : Json := .object [("count", .ofU64 1), ("nodes", .array [keylessListed nodeId])]

/-- Surroundings that allow tasks that are not sealed, and in which the directory lists the provider
without a key. -/
def plaintextWorld : World :=
  { sampleWorld with
    env := fun name ↦ if name = "IICP_CX_ALLOW_PLAINTEXT" then some "1" else none
    discoveryAnswer := fun _ ↦ .answered 200 (some (keylessList nodeId)) }

def listingClient : IicpClient := ⟨sampleConfig, none⟩

def plaintextTask (payload : Json) : TaskRequest :=
  { proxyTask proxyIntent payload with taskId := sampleWorld.uuid [] }

/-- The post of a payload to the provider without a key. -/
def plaintextPost (payload : Json) : Posted :=
  ⟨keylessNode nodeId, (keylessNode nodeId).endpoint ++ "/v1/task",
    .object (plaintextTask payload).fields, none⟩

lemma proxyIntent_valid : validateIntent proxyIntent = .ok () := validateIntent_chat

variable {nodeId}

/-- What the directory is asked for a task, and what it delivers. -/
lemma routeSource_keyless (payload : Json) (log : List Event) :
    ∃ url, routeSource (plaintextWorld nodeId) listingClient.config
      (proxyTask proxyIntent payload).intent
      (projectRouteOptions (plaintextTask payload) listingClient.config) ⟨none⟩ log =
        (.ok ⟨[keylessNode nodeId], 1, none, none, none⟩, ⟨none⟩,
          .discovery url none (.answered 200 (some (keylessList nodeId))) :: log) := by
  exact ⟨_, (routeSource_of_lists _ (.inl rfl) proxyIntent_valid ⟨none⟩ log).trans rfl⟩

/-- A task that is not limited to other nodes is sent to the provider, whatever its payload is. -/
lemma posted_keyless (payload : Json) {allowed : Option (List String)} {log : List Event}
    (hallowed : ∀ ids, allowed = some ids → nodeId ∈ ids) :
    Event.posted (plaintextPost nodeId payload) ∈
      (submitInternal (plaintextWorld nodeId) listingClient (proxyTask proxyIntent payload) none
        allowed ⟨none⟩ log).2.2 := by
  obtain ⟨_, hroute⟩ := routeSource_keyless payload log
  have hids : (allowed.any fun ids ↦ !ids.contains nodeId) = false := by
    cases allowed with
    | none => rfl
    | some ids => simpa using hallowed ids rfl
  have hkept : keptNodes (plaintextWorld nodeId) allowed [keylessNode nodeId] =
      .ok [keylessNode nodeId] := by
    have hworld : isSsrfSafe (plaintextWorld nodeId) = isSsrfSafe (plaintextWorld "") := rfl
    have hsafe : isSsrfSafe (plaintextWorld "") sampleNode.endpoint = true := by decide +kernel
    have hkeeps : keepsNode (plaintextWorld nodeId) allowed (keylessNode nodeId) = .ok true := by
      simp only [keepsNode, keylessNode, hids, hworld, hsafe]
      rfl
    simp [keptNodes, hkeeps]
  exact posted_of_submitInternal rfl (by decide) proxyIntent_valid rfl rfl
    (congrArg Prod.fst hroute) hkept rfl rfl fun _ _ ↦ rfl

lemma sourced_keyless (payload : Json) {allowed : Option (List String)} {node : Node}
    (hsourced : Sourced (plaintextWorld nodeId) sampleConfig proxyIntent
      (callEvents (plaintextWorld nodeId) listingClient ⟨none⟩ (proxyTask proxyIntent payload) none
        allowed) node) : node.nodeId = nodeId := by
  obtain ⟨url, hroute⟩ := @routeSource_keyless nodeId payload []
  have hasked : ∀ event ∈ callEvents (plaintextWorld nodeId) listingClient ⟨none⟩
      (proxyTask proxyIntent payload) none allowed, ¬ event.Tries (fun _ ↦ True) →
      event = .discovery url none (.answered 200 (some (keylessList nodeId))) := by
    intro event hevent hnot
    have hnamed : (proxyTask proxyIntent payload).named ((plaintextWorld nodeId).uuid []) =
        plaintextTask payload := rfl
    have hmem := mem_routeSource_of_mem hnamed hevent hnot
    rw [hroute] at hmem
    exact List.mem_singleton.mp hmem
  rcases hsourced with ⟨_, _, _, _, hevent, -⟩ |
    ⟨-, _, _, _, _, list, listed, hevent, hlist, hmem, hnode, -⟩
  · nomatch hasked _ hevent (by simp [Event.Tries])
  · obtain ⟨-, -, hanswer⟩ := Event.discovery.inj (hasked _ hevent (by simp [Event.Tries]))
    obtain ⟨-, hbody⟩ := HttpAnswer.answered.inj hanswer
    rw [Option.some.inj hbody] at hlist
    obtain rfl : (⟨[keylessNode nodeId], 1, none, none, none⟩ : NodeList) = list :=
      Option.some.inj hlist
    rw [hnode, List.mem_singleton.mp hmem]
    rfl

end Keyless

/-! ### The gates -/

/-- Assumes: cooperative inference is enabled. For a request, the gates bind what is sent in all
surroundings in which the directory is truthful about the eligible workers except under some ids,
and for every client, exactly when no gate decides that the request is to run locally, and for a
remote decision no eligible worker has one of these ids. A request that is to run locally is
submitted without a limit, and a remote one by the ids alone. -/
theorem cip_gates_bind_iff (config : CipConfig) (henabled : config.enabled) (messages : Json)
    (model : String) (request : ProxyRequest) (wrong : Set String) :
    (∀ world client state,
        TruthfulExcept config world client state messages model request wrong →
        GatesBind config world client state messages model request) ↔
      ¬ LocalGates config request ∧ (request.isRemote config → ∀ worker ∈ request.nodes,
        Usable config request.trustScope request.now worker → worker.nodeId ∉ wrong) := by
  refine ⟨fun hbind ↦ ⟨fun hlocal ↦ ?_, fun hremote worker hworker husable hwrong ↦ ?_⟩, ?_⟩
  · obtain ⟨_, hplan, hallowed⟩ := (plan_unlimited_iff henabled request).mpr hlocal
    have hnot := isRemote_of_unlimited hplan hallowed
    have hsent := (hbind (plaintextWorld "node-00000001") listingClient ⟨none⟩
      fun hremote ↦ absurd hremote (by simp [hnot])).1 hnot
    rw [taskEvents_of_plan _ _ _ _ _ henabled hplan, hallowed, callEvents] at hsent
    exact hsent _ (posted_keyless _ (by simp))
  · obtain ⟨allowed, plan, hplan, hallowed⟩ := (isRemote_iff_allowed config request).mp hremote
    obtain ⟨-, rfl⟩ := (computeCipEnvelope_allowed_iff allowed).mp ⟨plan, hplan, hallowed⟩
    have hid := (mem_eligibleWorkers_iff _ _ _ _ _).mpr ⟨worker, hworker, rfl, husable⟩
    have hbound := (hbind (plaintextWorld worker.nodeId) listingClient ⟨none⟩ ?_).2 hremote
      (plaintextPost worker.nodeId
        (.object (applyPlan plan (taskPayload messages model request.body)))) ?_
    · exact absurd hbound.allows Bool.false_ne_true
    · intro _ node hsourced _ hnot
      rw [taskEvents_of_plan _ _ _ _ _ henabled hplan] at hsourced
      exact absurd (sourced_keyless _ hsourced ▸ hwrong) hnot
    · rw [taskEvents_of_plan _ _ _ _ _ henabled hplan, hallowed, callEvents]
      refine posted_keyless _ ?_
      rintro _ ⟨⟩
      exact hid
  · rintro ⟨hlocal, hright⟩ world client state htruthful
    exact gatesBind_of_not_local world client state messages model henabled hlocal htruthful hright

def guardedConfig : CipConfig := { CipConfig.default with enabled := true, strategy := .remoteFirst }

/-- With one worker, a plain request is bound by the gates if the directory is truthful. -/
theorem one_worker_bound :
    guardedConfig.enabled ∧
      ∀ world client state, TruthfulExcept guardedConfig world client state (.array []) "iicp"
          sampleProxyRequest ∅ →
        GatesBind guardedConfig world client state (.array []) "iicp" sampleProxyRequest :=
  ⟨rfl, (cip_gates_bind_iff guardedConfig rfl (.array []) "iicp" _ _).mpr ⟨by
    unfold LocalGates
    decide +kernel, by simp⟩⟩

def sensitiveMessages : Json :=
  .array [.object [("content", .string "private"), ("role", .string "user")]]

def sensitiveBody : Json :=
  .object [("messages", sensitiveMessages), ("model", .string "iicp"),
    ("sensitivity", .string "high")]

/-- A sensitive prompt is sent to a provider, though the configuration does not send such prompts
and the decision about the request is not remote. -/
theorem sensitive_prompt_sent :
    guardedConfig.enabled ∧ guardedConfig.sendSensitivePrompts = false ∧
      sensitivityOf sensitiveBody = some "high" ∧
      (discoverWorkers (plaintextWorld "node-00000001") listingClient proxyIntent ⟨none⟩ []).1 =
        .ok [⟨"node-00000001", false, 1, none⟩] ∧
      (mk [⟨"node-00000001", false, 1, none⟩] sensitiveBody none 1800000000).isRemote
        guardedConfig = false ∧
      Event.posted (plaintextPost "node-00000001" (.object
        [("messages", sensitiveMessages), ("model", .string "iicp")])) ∈
          (runTask (fun _ ↦ 1800000000) guardedConfig
            (clientBackend (plaintextWorld "node-00000001") listingClient) sensitiveMessages "iicp"
            sensitiveBody ⟨none⟩ []).2.2 := by
  have hworkers : (discoverWorkers (plaintextWorld "node-00000001") listingClient proxyIntent ⟨none⟩
      []).1 = .ok [⟨"node-00000001", false, 1, none⟩] := by
    rw [discoverWorkers, discover_of_valid _ proxyIntent_valid]
    decide +kernel
  have hstate : (discoverWorkers (plaintextWorld "node-00000001") listingClient proxyIntent ⟨none⟩
      []).2.1 = ⟨none⟩ := by
    rw [discoverWorkers, discover_of_valid _ proxyIntent_valid]
    decide +kernel
  have hplan : (mk [⟨"node-00000001", false, 1, none⟩] sensitiveBody none
      1800000000).plan guardedConfig = .ok .localPlan := by decide +kernel
  have hrun := @runTask_of_local guardedConfig (plaintextWorld "node-00000001") listingClient ⟨none⟩
    sensitiveMessages "iicp" rfl 1800000000 _ sensitiveBody _ [] hworkers hstate hplan
  refine ⟨rfl, rfl, by decide, hworkers, isRemote_of_unlimited hplan rfl, ?_⟩
  rw [hrun]
  exact posted_keyless (.object (taskPayload sensitiveMessages "iicp" sensitiveBody)) nofun

end Iicp.Proxy
