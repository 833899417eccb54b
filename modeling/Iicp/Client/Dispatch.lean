import Iicp.Client.Provenance
import Iicp.Client.Submit

/-!
# What a client sends to nodes

The events of a call split into two parts: first the directory is asked, then nodes are tried
(`submitInternal_guarantees`). Every task that is posted goes to a node that the directory delivered
in the first part and that passed every filter, and its body is sealed if the node has a key.

`every_post_eligible_and_sealed` states this for all posts of a call, whatever the directory and the
providers answer, the random draws are, and the ranker decides.
-/

namespace Iicp.Client

open Rust Event Outcome List Interaction
open Confidentiality (CxPublicKey Envelope Key encryptPayloadWithContext)

section Dispatch

variable (world : World) (client : IicpClient)

/-! ### What a post must satisfy -/

/-- The body carries the payload only inside an envelope that was sealed for the key. -/
def SealedFor (request : TaskRequest) (key : CxPublicKey) (payload body : Json) : Prop :=
  ∃ before later envelope secret encryptedResponse,
    encryptPayloadWithContext world.crates payload key request.taskId request.intent
      (world.ephemeral before) (world.nonce later) = .ok (envelope, secret) ∧
    body = sealedBody { request with payload := .null } envelope encryptedResponse

/-- The body of a post, by whether the node has a key. -/
def BodyFor (request : TaskRequest) (node : Node) (payload body : Json) : Prop :=
  match node.cxPublicKey with
  | some key => SealedFor world request key payload body
  | none => body = .object { request with payload }.fields

structure Eligible (request : TaskRequest) (allowed : Option (List String)) (node : Node) : Prop where
  inAllowed : ∀ ids, allowed = some ids → node.nodeId ∈ ids
  safe : isSsrfSafe world node.endpoint = true
  available : node.available = true
  notRejected : nodeRejectionReason node (effectivePolicy client request)
    (allowPlaintext world client request) = none

/-- A post to an eligible node with the body for it. -/
structure GoodPost (request : TaskRequest) (identity : Option RuntimeIdentityDispatch)
    (allowed : Option (List String)) (post : Posted) : Prop where
  eligible : Eligible world client request allowed post.node
  url : post.url = post.node.endpoint ++ "/v1/task"
  body : ∃ candidateIndex payload,
    candidatePayload identity request post.node candidateIndex = .ok payload ∧
      BodyFor world request post.node payload post.body

/-- An event of trying nodes, whose posts satisfy a condition. -/
def Event.Tries (good : Posted → Prop) : Event → Prop
  | .posted post => good post
  | .consumerToken _ _ => True
  | _ => False

variable {world client} {allowed : Option (List String)} {request : TaskRequest} {node : Node}

variable {event : Event}

lemma Event.Tries.mono {first second : Posted → Prop} (h : event.Tries first)
    (hgood : ∀ post, first post → second post) : event.Tries second := by
  cases event with
  | posted post => exact hgood post h
  | consumerToken => trivial
  | _ => exact h.elim

/-! ### Sealed bodies -/

/-- A sealed body does not depend on the payload of the request. -/
lemma sealedBody_payload (request : TaskRequest) (payload : Json) (envelope : Envelope)
    (encryptedResponse : Bool) :
    sealedBody { request with payload } envelope encryptedResponse =
      sealedBody request envelope encryptedResponse := by
  have hfields : Json.removeField "payload" { request with payload }.fields =
      Json.removeField "payload" request.fields := by
    rw [TaskRequest.fields, TaskRequest.fields, Json.removeField_present, Json.removeField_present]
    rfl
  unfold sealedBody
  rw [hfields]

lemma providerBody_guarantees (request : TaskRequest) (node : Node) (payload : Json) :
    Guarantees (fun added ↦ added = []) (fun found _ ↦ BodyFor world request node payload found.1)
      (providerBody world request node payload) := by
  unfold providerBody BodyFor
  cases node.cxPublicKey with
  | none => exact guarantees_pure _ rfl rfl
  | some =>
    refine guarantees_look_bind fun before ↦ ?_
    refine guarantees_look_bind fun later ↦ ?_
    refine guarantees_ofOutcome_bind rfl fun found hfound ↦ ?_
    obtain ⟨envelope, secret⟩ := found
    rw [mapErr_eq_ok_iff] at hfound
    exact guarantees_pure _ rfl ⟨before, later, envelope, secret, _, hfound,
      (sealedBody_payload request .null envelope _).symm⟩

/-! ### Trying nodes -/

lemma consumerToken_guarantees (request : TaskRequest) (node : Node) :
    Guarantees (fun added ↦ ∀ event ∈ added, event = .consumerToken node.nodeId request.intent)
      (fun _ _ ↦ True) (consumerToken world client request node) := by
  have hacquire : Guarantees
      (fun added ↦ ∀ event ∈ added, event = .consumerToken node.nodeId request.intent)
      (fun _ _ ↦ True) (acquireConsumerToken world client request node) := by
    unfold acquireConsumerToken
    split_ifs
    · exact guarantees_pure _ (by simp) trivial
    · refine guarantees_ask_bind fun answer ↦ ?_
      exact guarantees_ofOutcome _ (by simp) fun _ _ ↦ trivial
    · refine guarantees_ask_bind fun answer ↦ ?_
      exact guarantees_ofOutcome _ (by simp) fun _ _ ↦ trivial
  refine hacquire.bind (fun token added hadded _ ↦ ?_) fun _ h ↦ h
  refine guarantees_ofOutcome_bind (by simpa using hadded) fun _ _ ↦ ?_
  exact guarantees_pure _ (by simpa using hadded) trivial

/-- There is an attempt, and every attempt posts the same to the same node. -/
lemma postTask_guarantees (post : Posted)
    (finish : TaskResponse → Outcome IicpError TaskResponse) (left : ℕ) :
    Guarantees (fun added ↦ .posted post ∈ added ∧ ∀ event ∈ added, event = .posted post)
      (fun _ _ ↦ True) (postTask world post finish left) := by
  induction left with
  | zero =>
    rw [postTask]
    refine guarantees_ask_bind fun answer ↦ ?_
    cases answer with
    | ok =>
      refine guarantees_ofOutcome_bind (by simp) fun _ _ ↦ ?_
      exact guarantees_pure _ (by simp) trivial
    | error =>
      dsimp only
      split
      · exact guarantees_fail _ (by simp)
      · exact guarantees_pure _ (by simp) trivial
  | succ left ih =>
    rw [postTask]
    refine guarantees_ask_bind fun answer ↦ ?_
    cases answer with
    | ok =>
      refine guarantees_ofOutcome_bind (by simp) fun _ _ ↦ ?_
      exact guarantees_pure _ (by simp) trivial
    | error =>
      dsimp only
      split
      · exact guarantees_fail _ (by simp)
      · exact guarantees_pure _ (by simp) trivial
      · refine ih.mono (fun more hmore ↦ ⟨by simp, ?_⟩) fun _ _ _ h ↦ h
        rw [forall_mem_append]
        exact ⟨hmore.2, by simp⟩

/-- Events of trying the nodes of a list. -/
def TriesOnly (world : World) (client : IicpClient) (request : TaskRequest)
    (identity : Option RuntimeIdentityDispatch) (allowed : Option (List String))
    (listed : List Node) (added : List Event) : Prop :=
  ∀ event ∈ added, event.Tries fun post ↦
    post.node ∈ listed ∧ GoodPost world client request identity allowed post

lemma tryNode_guarantees (request : TaskRequest) (identity : Option RuntimeIdentityDispatch)
    (receipt : ReceiptContext) (candidateIndex : ℕ) {listed : List Node}
    (hnode : node ∈ listed ∧ Eligible world client request allowed node) :
    Guarantees (TriesOnly world client request identity allowed listed)
      (fun _ _ ↦ True) (tryNode world client request identity receipt node candidateIndex) := by
  refine guarantees_ofOutcome_bind (by simp [TriesOnly]) fun payload hpayload ↦ ?_
  have htoken : ∀ added : List Event,
      (∀ event ∈ added, event = .consumerToken node.nodeId request.intent) →
      TriesOnly world client request identity allowed listed added := by
    intro added hadded event hevent
    rw [hadded event hevent]
    trivial
  refine (consumerToken_guarantees request node).bind (fun token added hadded _ ↦ ?_) htoken
  refine (providerBody_guarantees request node payload).bind ?_ ?_
  · rintro ⟨_, _⟩ _ rfl hbody
    refine (postTask_guarantees _ _ _).mono (fun more hmore ↦ ?_) fun _ _ _ h ↦ h
    simp only [append_nil, TriesOnly, forall_mem_append]
    refine ⟨fun event hevent ↦ ?_, htoken added hadded⟩
    rw [hmore.2 event hevent]
    exact ⟨hnode.1, hnode.2, rfl, candidateIndex, payload, hpayload, hbody⟩
  · rintro _ rfl
    exact htoken added hadded

lemma tryNodes_guarantees (request : TaskRequest) (identity : Option RuntimeIdentityDispatch)
    (receipt : ReceiptContext) {nodes listed : List Node}
    (hnodes : ∀ node ∈ nodes, node ∈ listed ∧ Eligible world client request allowed node)
    (candidateIndex : ℕ) (lastErr : Option IicpError) :
    Guarantees (TriesOnly world client request identity allowed listed) (fun _ _ ↦ True)
      (tryNodes world client request identity receipt nodes candidateIndex lastErr) := by
  induction nodes generalizing candidateIndex lastErr with
  | nil =>
    rw [tryNodes]
    exact guarantees_fail _ (by simp [TriesOnly])
  | cons node rest ih =>
    rw [forall_mem_cons] at hnodes
    rw [tryNodes]
    refine (tryNode_guarantees request identity receipt candidateIndex hnodes.1).bind ?_ fun _ h ↦ h
    intro result added hadded _
    cases result with
    | ok => exact guarantees_pure _ (by simpa using hadded) trivial
    | error error =>
      refine (ih hnodes.2 (candidateIndex + 1) (some error)).mono (fun more hmore ↦ ?_)
        fun _ _ _ h ↦ h
      exact forall_mem_append.mpr ⟨hmore, hadded⟩

/-! ### Filtering nodes -/

lemma keepsNode_eq_true (h : keepsNode world allowed node = .ok true) :
    (∀ ids, allowed = some ids → node.nodeId ∈ ids) ∧ isSsrfSafe world node.endpoint ∧
      node.available := by
  unfold keepsNode at h
  split_ifs at h with hallowed hsafe
  · simp at h
  · simp [bind_eq_ok_iff] at h
  · refine ⟨?_, by simpa using hsafe, ok.inj h⟩
    rintro _ rfl
    simpa using hallowed

lemma mem_keptNodes {nodes kept : List Node} (h : keptNodes world allowed nodes = .ok kept)
    (hnode : node ∈ kept) : node ∈ nodes ∧ keepsNode world allowed node = .ok true := by
  induction nodes generalizing kept with
  | nil =>
    obtain rfl := ok.inj h
    nomatch hnode
  | cons first rest ih =>
    rw [keptNodes] at h
    simp only [bind_eq_ok_iff, ok.injEq] at h
    obtain ⟨keeps, hkeeps, others, hothers, rfl⟩ := h
    have hrest : node ∈ others → node ∈ first :: rest ∧ keepsNode world allowed node = .ok true :=
      fun hmem ↦ ⟨mem_cons_of_mem _ (ih hothers hmem).1, (ih hothers hmem).2⟩
    cases keeps with
    | false => exact hrest (by simpa using hnode)
    | true =>
      rcases mem_cons.mp (by simpa using hnode) with rfl | hmem
      · exact ⟨mem_cons_self, hkeeps⟩
      · exact hrest hmem

lemma mem_eligibleNodes {nodes eligible : List Node}
    (h : eligibleNodes world client request nodes = .ok eligible) (hnode : node ∈ eligible) :
    node ∈ nodes ∧ nodeRejectionReason node (effectivePolicy client request)
      (allowPlaintext world client request) = none := by
  simp only [eligibleNodes, bind_eq_ok_iff, require_eq_ok_iff, exists_const] at h
  obtain ⟨_, -, -, -, heligible⟩ := h
  obtain rfl := ok.inj heligible
  simpa [filterNodesForRoutingPolicy] using hnode

lemma chooseCandidates_guarantees (request : TaskRequest) (eligible : List Node) :
    Guarantees (fun added ↦ added = []) (fun found _ ↦ ∀ node ∈ found.1, node ∈ eligible)
      (chooseCandidates world client request eligible) := by
  refine guarantees_look_bind fun before ↦ ?_
  refine guarantees_look_bind fun later ↦ ?_
  refine guarantees_ofOutcome_bind rfl fun builtIn hbuiltIn ↦ ?_
  have hbuilt : ∀ node ∈ builtIn, node ∈ eligible :=
    fun node hnode ↦ mem_builtInCandidates hbuiltIn hnode
  cases client.candidateRanker with
  | none => exact guarantees_pure _ rfl hbuilt
  | some =>
    refine guarantees_ofOutcome_bind rfl fun applied happlied ↦ ?_
    rw [mapErr_eq_ok_iff] at happlied
    exact guarantees_pure _ rfl fun node hnode ↦
      mem_applyCandidateRanker happlied hbuilt hnode

/-! ### A whole call -/

/-- Submitting to the nodes of a list posts to eligible nodes of the list only. -/
lemma submitListed_guarantees (request : TaskRequest) (identity : Option RuntimeIdentityDispatch)
    (allowed : Option (List String)) (list : NodeList) :
    Guarantees (TriesOnly world client request identity allowed list.nodes)
      (fun _ _ ↦ True) (submitListed world client request identity allowed list) := by
  have hnone : TriesOnly world client request identity allowed list.nodes [] := by simp [TriesOnly]
  refine guarantees_ofOutcome_bind hnone fun kept hkept ↦ ?_
  refine guarantees_ofOutcome_bind hnone fun _ _ ↦ ?_
  refine guarantees_ofOutcome_bind hnone fun eligible heligible ↦ ?_
  refine (chooseCandidates_guarantees request eligible).bind ?_ fun _ h ↦ h ▸ hnone
  rintro ⟨candidates, _⟩ _ rfl hcandidates
  refine guarantees_ofOutcome_bind hnone fun _ _ ↦ ?_
  have hlisted : ∀ node ∈ candidates,
      node ∈ list.nodes ∧ Eligible world client request allowed node := by
    intro node hnode
    obtain ⟨hmem, hreason⟩ := mem_eligibleNodes heligible (hcandidates node hnode)
    obtain ⟨hlist, hkeeps⟩ := mem_keptNodes hkept hmem
    obtain ⟨hallowed, hsafe, havailable⟩ := keepsNode_eq_true hkeeps
    exact ⟨hlist, hallowed, hsafe, havailable, hreason⟩
  refine (tryNodes_guarantees request identity _ hlisted 0 none).mono (fun added hadded ↦ ?_)
    fun _ _ _ h ↦ h
  rwa [append_nil]

variable (world client) in
/-- The events of a call: the directory is asked, and then nodes that it has delivered are tried. -/
def CallEvents (request : TaskRequest) (identity : Option RuntimeIdentityDispatch)
    (allowed : Option (List String)) (added : List Event) : Prop :=
  ∃ tried asked before, added = tried ++ asked ∧
    OnlyAsks world client.config (UsesLists client.config) asked ∧
    ∀ event ∈ tried, event.Tries fun post ↦
      Sourced world client.config request.intent asked post.node ∧
        GoodPost world client (request.named (world.uuid before)) identity allowed post

lemma submitInternal_guarantees (request : TaskRequest)
    (identity : Option RuntimeIdentityDispatch) (allowed : Option (List String)) :
    Guarantees (CallEvents world client request identity allowed) (fun _ _ ↦ True)
      (submitInternal world client request identity allowed) := by
  have hasked : ∀ added, OnlyAsks world client.config (UsesLists client.config) added →
      CallEvents world client request identity allowed added :=
    fun added hadded ↦ ⟨[], added, [], rfl, hadded, by simp⟩
  refine guarantees_ofOutcome_bind (hasked _ (onlyAsks_nil _)) fun _ _ ↦ ?_
  refine guarantees_look_bind fun before ↦ ?_
  refine (routeSource_guarantees _ _).bind (fun list asked honly hsourced ↦ ?_) hasked
  refine (submitListed_guarantees _ _ _ _).mono (fun tried htried ↦ ?_) fun _ _ _ h ↦ h
  refine ⟨tried, asked, before, rfl, honly, fun event hevent ↦ ?_⟩
  exact (htried event hevent).mono fun post hpost ↦ ⟨hsourced _ hpost.1, hpost.2⟩

variable (world client) in
def callEvents (state : CallState) (request : TaskRequest)
    (identity : Option RuntimeIdentityDispatch) (allowed : Option (List String)) : List Event :=
  (submitInternal world client request identity allowed state []).2.2

lemma callEvents_split (state : CallState) (request : TaskRequest)
    (identity : Option RuntimeIdentityDispatch) (allowed : Option (List String)) :
    CallEvents world client request identity allowed
      (callEvents world client state request identity allowed) := by
  obtain ⟨_, hlog, hadded, -⟩ :=
    @submitInternal_guarantees world client request identity allowed state []
  rw [append_nil] at hlog
  rw [callEvents, hlog]
  exact hadded

variable {identity : Option RuntimeIdentityDispatch} {state : CallState} {secret : Option Key}
  {named : TaskRequest} {log : List Event} {list : NodeList} {payload body : Json}

/-- A post of a call is a good post to a node that the directory delivered in this call. -/
lemma posted_good {post : Posted}
    (hpost : posted post ∈ callEvents world client state request identity allowed) :
    Sourced world client.config request.intent
        (callEvents world client state request identity allowed) post.node ∧
      ∃ before, GoodPost world client (request.named (world.uuid before)) identity allowed post := by
  obtain ⟨_, _, before, hsplit, honly, htried⟩ :=
    @callEvents_split world client state request identity allowed
  rw [hsplit] at hpost ⊢
  rcases mem_append.mp hpost with hmem | hmem
  · obtain ⟨hsourced, hgood⟩ := htried _ hmem
    exact ⟨hsourced.mono (by simp), before, hgood⟩
  · exact (honly _ hmem).elim

/-- What is not an event of trying nodes is one of asking the directory. -/
lemma asks_of_mem (h : event ∈ callEvents world client state request identity allowed)
    (hnot : ¬ event.Tries fun _ ↦ True) :
    event.Asks world client.config (UsesLists client.config) := by
  obtain ⟨_, _, _, hsplit, honly, htried⟩ :=
    @callEvents_split world client state request identity allowed
  rw [hsplit] at h
  rcases mem_append.mp h with hmem | hmem
  · exact absurd ((htried _ hmem).mono fun _ _ ↦ trivial) hnot
  · exact honly _ hmem

/-- What is not an event of trying nodes happens while the nodes are sought. -/
lemma mem_routeSource_of_mem (hnamed : request.named (world.uuid []) = named)
    (h : event ∈ callEvents world client state request identity allowed)
    (hnot : ¬ event.Tries fun _ ↦ True) :
    event ∈ (routeSource world client.config request.intent
      (projectRouteOptions named client.config) state []).2.2 := by
  subst hnamed
  rw [callEvents, submitInternal] at h
  cases hvalid : validateIntent request.intent with
  | ok _ =>
    rw [hvalid, bind_of_ok rfl, bind_of_ok rfl, bind_apply, Interaction.bind] at h
    rcases hroute : routeSource world client.config request.intent
      (projectRouteOptions (request.named (world.uuid [])) client.config) state [] with
      ⟨_ | _ | _, after, asked⟩ <;> rw [hroute] at h
    · obtain ⟨_, hlog, htried, -⟩ := submitListed_guarantees _ _ _ _ after asked
      rw [hlog] at h
      rcases mem_append.mp h with hmem | hmem
      · exact absurd ((htried event hmem).mono fun _ _ ↦ trivial) hnot
      · exact hmem
    · exact h
    · exact h
  | err | panicked =>
    rw [hvalid] at h
    cases h

/-! ### A call that posts -/

lemma chooseCandidates_single (hranker : client.candidateRanker = none) (request : TaskRequest)
    (node : Node) (state : CallState) (log : List Event) :
    chooseCandidates world client request [node] state log = (.ok ([node], none), state, log) := by
  have hbuiltIn : (builtInCandidates client.config [node] (world.randomUnit log)
      (world.randomBelow log) : Outcome IicpError _) = .ok [node] := if_pos (.inr le_rfl)
  simp [chooseCandidates, hranker, hbuiltIn, bind_apply, Interaction.bind,
    look, ofOutcome, pure_apply]

variable {config : ClientConfig} {intent : String}

lemma discover_of_valid (opts : DiscoverOptions) (hvalid : validateIntent intent = .ok ()) :
    discover world config intent opts = discoverChecked world config intent opts := by
  funext state log
  rw [discover, hvalid]
  exact bind_of_ok rfl

/-- A client that asks for lists discovers its nodes. -/
lemma routeSource_of_lists (opts : DiscoverOptions)
    (hmode : config.routeDiscoveryMode = "legacy" ∨
      (config.profileRequest.isSome ∧ config.restrictedDirectory.isNone))
    (hvalid : validateIntent intent = .ok ()) (state : CallState) (log : List Event) :
    routeSource world config intent opts state log =
      discoverChecked world config intent opts state log := by
  rw [routeSource, if_pos hmode, discover_of_valid opts hvalid]

variable (htoken : client.config.nodeToken = none)
  (hmode : client.config.consumerAuthMode ≠ "required")

include htoken hmode

lemma consumerToken_of_anonymous (request : TaskRequest) (node : Node) (state : CallState)
    (log : List Event) :
    consumerToken world client request node state log = (.ok none, state, log) := by
  have hacquire : acquireConsumerToken world client request node = pure none :=
    if_pos (.inr htoken)
  have hrequire : (client.config.consumerAuthMode == "required") = false := by simpa using hmode
  rw [consumerToken, hacquire]
  simp [bind_apply, Interaction.bind, pure_apply, ofOutcome, require, hrequire]

/-- A node that is tried is posted to, once there is a body for it. -/
lemma posted_of_tryNode {receipt : ReceiptContext} {candidateIndex : ℕ}
    (hpayload : candidatePayload identity request node candidateIndex = .ok payload)
    (hbody : providerBody world request node payload state log = (.ok (body, secret), state, log)) :
    posted ⟨node, node.endpoint ++ "/v1/task", body, none⟩ ∈
      (tryNode world client request identity receipt node candidateIndex state log).2.2 := by
  rw [tryNode, hpayload, bind_of_ok rfl,
    bind_of_ok (consumerToken_of_anonymous htoken hmode request node state log),
    bind_of_ok hbody]
  obtain ⟨_, hlog, hadded, -⟩ := @postTask_guarantees world
    ⟨node, node.endpoint ++ "/v1/task", body, none⟩
    (finishResponse world client request receipt node candidateIndex secret) (maxRetries - 1) state
    log
  rw [hlog]
  exact mem_append_left _ hadded.1

/-- If one node passes every filter, then it is posted to. -/
lemma posted_of_submitListed (hranker : client.candidateRanker = none)
    (hkept : keptNodes world allowed list.nodes = .ok [node])
    (heligible : eligibleNodes world client request [node] = .ok [node])
    (hpayload : candidatePayload identity request node 0 = .ok payload)
    (hbody : providerBody world request node payload state log = (.ok (body, secret), state, log)) :
    posted ⟨node, node.endpoint ++ "/v1/task", body, none⟩ ∈
      (submitListed world client request identity allowed list state log).2.2 := by
  have hsome : require (!(allowed.isSome && [node].isEmpty))
      (IicpError.noNodes request.intent) = .ok () := by simp [require]
  rw [submitListed, hkept, bind_of_ok rfl, hsome, bind_of_ok rfl, heligible, bind_of_ok rfl,
    bind_of_ok (chooseCandidates_single hranker request node state log)]
  change _ ∈ (tryNodes world client request identity ⟨1, none, list.profileNegotiation⟩ [node] 0
    none state log).2.2
  rw [tryNodes]
  refine mem_bind (posted_of_tryNode htoken hmode hpayload hbody) fun result ↦ ?_
  cases result with
  | ok => exact addsOnly_pure _
  | error => exact addsOnly_fail _

/-- With a valid intent, if the directory delivers one node that passes every filter, then the call
posts to it. -/
lemma posted_of_submitInternal (hvalid : validateIntent request.intent = .ok ())
    (hnamed : request.named (world.uuid log) = named) (hranker : client.candidateRanker = none)
    (hroute : (routeSource world client.config request.intent
      (projectRouteOptions named client.config) state log).1 = .ok list)
    (hkept : keptNodes world allowed list.nodes = .ok [node])
    (heligible : eligibleNodes world client named [node] = .ok [node])
    (hpayload : candidatePayload identity named node 0 = .ok payload)
    (hbody : ∀ state log, providerBody world named node payload state log =
      (.ok (body, secret), state, log)) :
    posted ⟨node, node.endpoint ++ "/v1/task", body, none⟩ ∈
      (submitInternal world client request identity allowed state log).2.2 := by
  subst hnamed
  rw [submitInternal, hvalid, bind_of_ok rfl, bind_of_ok rfl, bind_of_delivers hroute]
  exact posted_of_submitListed htoken hmode hranker hkept heligible hpayload (hbody _ _)

end Dispatch

/-- Every task that a call posts goes to a node that the directory delivered in this call, that is
in the allowed set, safe to connect to, available, and not refused by the policy. For a node with a
key the body carries the payload only inside an envelope that was sealed for this key, and a node
without a key is posted to only when plaintext is allowed. -/
theorem every_post_eligible_and_sealed (world : World) (client : IicpClient) (state : CallState)
    (request : TaskRequest) (identity : Option RuntimeIdentityDispatch)
    (allowed : Option (List String)) (post : Posted)
    (hpost : posted post ∈ callEvents world client state request identity allowed) :
    Sourced world client.config request.intent
        (callEvents world client state request identity allowed) post.node ∧
      post.url = post.node.endpoint ++ "/v1/task" ∧
      (∀ ids, allowed = some ids → post.node.nodeId ∈ ids) ∧
      isSsrfSafe world post.node.endpoint ∧ post.node.available ∧
      nodeRejectionReason post.node (effectivePolicy client request)
        (allowPlaintext world client request) = none ∧
      (∀ key, post.node.cxPublicKey = some key → ∃ before candidateIndex payload,
        candidatePayload identity (request.named (world.uuid before)) post.node candidateIndex =
            .ok payload ∧
          SealedFor world (request.named (world.uuid before)) key payload post.body) ∧
      (post.node.cxPublicKey = none → cxPlaintextFallbackAllowed world ∨
        (effectivePolicy client request).requireEncryption = false) := by
  obtain ⟨hsourced, before, hgood⟩ := posted_good hpost
  obtain ⟨heligible, hurl, candidateIndex, payload, hpayload, hbody⟩ := hgood
  obtain ⟨hallowed, hsafe, havailable, hreason⟩ := heligible
  refine ⟨hsourced, hurl, hallowed, hsafe, havailable, hreason, fun key hkey ↦ ?_, fun hkeyless ↦ ?_⟩
  · rw [BodyFor, hkey] at hbody
    exact ⟨before, candidateIndex, payload, hpayload, hbody⟩
  · rcases plaintext_allowed_of_keyless hreason hkeyless with hplaintext | hrequire
    · rw [allowPlaintext, Bool.or_eq_true, Bool.not_eq_true'] at hplaintext
      exact hplaintext
    · exact .inr hrequire

/-! ### A sample call -/

open Confidentiality

def sampleListed : Json :=
  .object [("available", .bool true),
      ("cx_public_key", .object [("algorithm", .string "X25519"), ("encoding", .string "base64url"),
          ("features", .array [.string "response_encryption_v1"]),
          ("key", .string "pOCSkrZRwni5dyxWn1-puxPZBrRqtoyd-dwrRAn4ogk"),
          ("key_id", .string "cx-1a92f23852dc908d")]),
      ("endpoint", .string "https://node.example.com"), ("load", .ofU64 0),
      ("node_id", .string "node-00000001"), ("region", .string "eu"), ("score", .ofU64 1)]

def sampleNode : Node where
  nodeId := "node-00000001"
  endpoint := "https://node.example.com"
  score := 1
  load := 0
  available := true
  region := "eu"
  models := none
  cipPolicy := none
  healthLabel := none
  exposureMode := none
  cxPublicKey := some vectorAdvertised
  transport := []
  directoryObservedReachable := none
  routeEvidence := none
  routingHint := none
  browserUsable := none
  latencyEvidence := none
  healthReasons := none
  trustProgress := none
  sdkRelease := none
  nodePolicyManifest := none
  dispatchTicketIdPrefix := none
  restrictedEligibility := none

/-- Surroundings in which the directory lists the sample provider, which does not answer. -/
def sampleWorld : World where
  env := fun _ ↦ none
  unicodeLowercase := id
  showF64 := fun _ ↦ "0"
  serdeError := fun _ ↦ "invalid type"
  digest := fun _ ↦ ""
  crates := vectorCrates
  tickets := ⟨fun _ ↦ none, fun _ ↦ none, fun _ _ _ ↦ false, fun _ ↦ none⟩
  secret := fun _ _ ↦ none
  uuid := fun _ ↦ "00000000-0000-4000-8000-000000000001"
  unixTime := fun _ ↦ 1800000000
  timestamp := fun _ ↦ 1800000000
  randomUnit := fun _ ↦ 0
  randomBelow := fun _ _ ↦ 0
  ephemeral := fun _ ↦ vectorEphemeral
  nonce := fun _ ↦ vectorNonce
  discoveryAnswer := fun _ ↦ .answered 200 (some (.object
    [("count", .ofU64 1), ("nodes", .array [sampleListed])]))
  ticketAnswer := fun _ ↦ .failed "connection refused" false
  keyAnswer := fun _ ↦ .failed "connection refused" false
  tokenAnswer := fun _ ↦ .ok none
  providerAnswer := fun _ ↦ .error (.http "connection refused")

def sampleConfig : ClientConfig where
  directoryUrl := "https://directory.example.test/api"
  timeoutMs := 30000
  region := none
  nodeToken := none
  consumerAuthMode := "optional"
  routingEpsilon := 0
  routingStrategy := "deterministic"
  routingTopK := 3
  routingSoftmaxTau := 1
  routingPolicy := .default
  routeDiscoveryMode := "legacy"
  profileRequest := none
  restrictedDirectory := none

def sampleRequest : TaskRequest where
  taskId := "t1"
  intent := chatIntent
  payload := vectorPayload
  constraints := none
  routeConstraints := none
  auth := none
  sourceNodeId := none
  routingPolicy := none

def sampleBody : Json :=
  sealedBody sampleRequest
    (requestEnvelope vectorCrates vectorAdvertised.keyId (vectorPublicKey vectorEphemeral)
      vectorNonce (requestAad "t1" chatIntent) (vectorCiphertext "t1")
      (utf8Bytes "\x7b\"q\":1\x7d").length) true

/-- The post of the sample task to a node with the key of the sample provider. -/
def samplePost (node : Node) : Posted := ⟨node, node.endpoint ++ "/v1/task", sampleBody, none⟩

lemma sampleRequest_valid : validateIntent sampleRequest.intent = .ok () := validateIntent_chat

lemma sampleRequest_named (uuid : String) : sampleRequest.named uuid = sampleRequest := rfl

section Sample

variable {world : World} {node : Node} (hcrates : world.crates = vectorCrates)
  (hephemeral : ∀ log, world.ephemeral log = vectorEphemeral)
  (hnonce : ∀ log, world.nonce log = vectorNonce)
  (hkey : node.cxPublicKey = some vectorAdvertised)

include hcrates hephemeral hnonce hkey

/-- The sample task is sealed for a node with the key of the sample provider. -/
lemma providerBody_sample (state : CallState) (log : List Event) :
    providerBody world sampleRequest node vectorPayload state log =
      (.ok (sampleBody, some vectorSecret), state, log) := by
  have hsealed := encryptPayload_sealed (vectorCrates_request (.inl rfl) :
    RequestLaws vectorCrates vectorPayload vectorAdvertised "t1" chatIntent _ _ _ _ _ _)
  unfold providerBody
  rw [hkey]
  dsimp only
  rw [bind_of_ok rfl, bind_of_ok rfl, hephemeral, hnonce, hcrates]
  change ((ofOutcome (mapErr liftCx (encryptPayloadWithContext vectorCrates
    vectorPayload vectorAdvertised "t1" chatIntent vectorEphemeral vectorNonce))) >>= _) state log = _
  rw [hsealed]
  rw [bind_of_ok rfl]
  have hencrypted : requiresEncryptedResponse node := by
    rw [requiresEncryptedResponse, hkey]
    decide
  dsimp only
  rw [hencrypted]
  rfl

/-- If a list has one such node, and it passes every filter, then the sample task is posted to it. -/
lemma sample_posted {config : ClientConfig} (list : NodeList) (htoken : config.nodeToken = none)
    (hmode : config.consumerAuthMode ≠ "required")
    (hroute : (routeSource world config sampleRequest.intent
      (projectRouteOptions sampleRequest config) ⟨none⟩ []).1 = .ok list)
    (hkept : keptNodes world none list.nodes = .ok [node])
    (heligible : eligibleNodes world ⟨config, none⟩ sampleRequest [node] = .ok [node]) :
    posted (samplePost node) ∈ callEvents world ⟨config, none⟩ ⟨none⟩ sampleRequest none none :=
  posted_of_submitInternal htoken hmode sampleRequest_valid (sampleRequest_named _) rfl hroute hkept
    heligible rfl (providerBody_sample hcrates hephemeral hnonce hkey)

end Sample

/-- The sample provider is sent the sealed sample task by a client that asks for lists. -/
theorem sample_post_sealed :
    posted (samplePost sampleNode) ∈
        callEvents sampleWorld ⟨sampleConfig, none⟩ ⟨none⟩ sampleRequest none none ∧
      ∃ before candidateIndex payload,
        candidatePayload none (sampleRequest.named (sampleWorld.uuid before)) sampleNode
            candidateIndex = .ok payload ∧
          SealedFor sampleWorld (sampleRequest.named (sampleWorld.uuid before)) vectorAdvertised
            payload sampleBody := by
  have hpost : posted (samplePost sampleNode) ∈
      callEvents sampleWorld ⟨sampleConfig, none⟩ ⟨none⟩ sampleRequest none none := by
    refine sample_posted rfl (fun _ ↦ rfl) (fun _ ↦ rfl) rfl ⟨[sampleNode], 1, none, none, none⟩ rfl
      (by decide) ?_ (by decide +kernel) (by decide +kernel)
    rw [routeSource_of_lists _ (.inl rfl) sampleRequest_valid]
    decide +kernel
  obtain ⟨-, -, -, -, -, -, hsealed, -⟩ := every_post_eligible_and_sealed sampleWorld
    ⟨sampleConfig, none⟩ ⟨none⟩ sampleRequest none none (samplePost sampleNode) hpost
  exact ⟨hpost, hsealed vectorAdvertised rfl⟩

end Iicp.Client
