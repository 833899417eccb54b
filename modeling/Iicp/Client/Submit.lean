import Iicp.Client.Discovery
import Iicp.Client.RoutingPolicy

/-!
# Submitting a task

`submitInternal` finds nodes, keeps those that are safe to connect to, available and allowed,
applies the routing policy, chooses at most three nodes and tries them in order, each up to three
times. The payload is sealed for a node that advertises a key. A node without a key is sent the
payload as it is, which the policy must have allowed.

The payload may be composed for each node that is tried; what composes it is a parameter.
-/

namespace Iicp.Client

open Rust Outcome Interaction
open Confidentiality (CxPublicKey Envelope Key encryptPayloadWithContext decryptResponse)

/-- Composes the payload for a node: the request, the node, and how many were tried before. -/
abbrev RuntimeIdentityDispatch := TaskRequest → Node → ℕ → Except IicpError Json

section Submit

variable (world : World) (client : IicpClient)

/-! ### Which nodes are kept -/

def isSsrfSafe (url : String) : Bool :=
  let lower := toLowercase url world.unicodeLowercase
  match (stripStart lower "https://").or (stripStart lower "http://") with
  | none => false
  | some rest =>
    let host := hostOf rest
    if host = "" then false
    else if ((world.env "IICP_PROXY_ALLOW_LOOPBACK_NODES").map trim).any fun value ↦
        ["1", "true", "yes"].contains value then true
    else if ["localhost", "0.0.0.0", "::1", "::"].contains host then false
    else if [".local", ".internal", ".lan", ".test", ".invalid", ".localhost"].any (endsWith host)
      then false
    else if !containsText host "." && !containsText host ":" then false
    else
      match parseIpAddr host with
      | some (.v4 ip) =>
        !(ip.isLoopback || ip.isPrivate || ip.isLinkLocal || ip.isBroadcast || ip.isUnspecified ||
          (ip.a == 100 && 64 ≤ ip.b && ip.b ≤ 127))
      | some (.v6 ip) => !(ip.isLoopback || ip.isMulticast || ip.isUnspecified)
      | none => true

/-- Whether the environment allows to send a payload that is not sealed. -/
def cxPlaintextFallbackAllowed : Bool :=
  (world.env "IICP_CX_ALLOW_PLAINTEXT").any fun value ↦
    ["1", "true", "yes", "on"].contains (toAsciiLowercase (trim value))

/-- Whether a node is kept. An unsafe endpoint is reported with the start of the node id. -/
def keepsNode (allowed : Option (List String)) (node : Node) : Outcome IicpError Bool :=
  if allowed.any fun ids ↦ !ids.contains node.nodeId then .ok false
  else if !isSsrfSafe world node.endpoint then do
    let _short ← nodeShortId node.nodeId
    .ok false
  else .ok node.available

def keptNodes (allowed : Option (List String)) : List Node → Outcome IicpError (List Node)
  | [] => .ok []
  | node :: rest => do
    let keeps ← keepsNode world allowed node
    let kept ← keptNodes allowed rest
    .ok (if keeps then node :: kept else kept)

variable (request : TaskRequest)

def effectivePolicy : EffectiveRoutingPolicy :=
  resolvedPolicy (request.routingPolicy.getD client.config.routingPolicy)

def allowPlaintext : Bool :=
  cxPlaintextFallbackAllowed world || !(effectivePolicy client request).requireEncryption

/-- Reports the nodes that are skipped because they have no key. -/
def reportKeyless (plaintext : Bool) : List Node → Outcome IicpError Unit
  | [] => .ok ()
  | node :: rest => do
    let _short ← if node.cxPublicKey.isNone && !plaintext then nodeShortId node.nodeId else .ok ""
    reportKeyless plaintext rest

def eligibleNodes (nodes : List Node) : Outcome IicpError (List Node) := do
  let policy := effectivePolicy client request
  let plaintext := allowPlaintext world client request
  let decision := filterNodesForRoutingPolicy nodes policy plaintext
  reportKeyless plaintext nodes
  require
    (!(decision.eligible.isEmpty && 0 < decision.skippedKeyless &&
      decision.rejectedReasons.length == decision.skippedKeyless))
    (.node ("IICP-CX confidentiality required: " ++ toString decision.skippedKeyless ++
      " discovered node(s) advertised no encryption key; refusing plaintext fallback"))
  require (!decision.eligible.isEmpty)
    (.policyRefused routingPolicyRefusalCode
      (routingPolicyRefusalMessage request.intent decision policy))
  .ok decision.eligible

/-- The nodes that are tried, and what a ranker decided about them. -/
def chooseCandidates (eligible : List Node) :
    Interaction CallState Event IicpError (List Node × Option RankerDecision) := do
  let randomUnit ← look world.randomUnit
  let randomBelow ← look world.randomBelow
  let builtIn ← ofOutcome
    (builtInCandidates client.config eligible randomUnit randomBelow)
  match client.candidateRanker with
  | none => pure (builtIn, none)
  | some ranker => do
    let applied ← ofOutcome (mapErr
      (IicpError.policyRefused "IICP-CANDIDATE-RANKER-REFUSED")
      (applyCandidateRanker world.digest ranker request eligible builtIn maxRetries))
    pure (applied.candidates, applied.decision)

/-! ### Trying a node -/

variable (identity : Option RuntimeIdentityDispatch)

def candidatePayload (request : TaskRequest)
    (node : Node) (candidateIndex : ℕ) : Outcome IicpError Json :=
  match identity with
  | some compose => ofExcept id (compose request node candidateIndex)
  | none => .ok request.payload

variable (node : Node)

/-- The token that the directory gives the client for a node. Only a restricted client passes an
error on. -/
def acquireConsumerToken :
    Interaction CallState Event IicpError (Option String) :=
  if client.config.consumerAuthMode = "disabled" ∨ client.config.nodeToken = none then pure none
  else do
    let answer ← ask world.tokenAnswer fun _ ↦ .consumerToken node.nodeId request.intent
    ofOutcome (if client.config.restrictedDirectory.isSome then
      ofExcept id answer else .ok answer.toOption.join)

/-- The token that identifies the client to a node, if there is one. -/
def consumerToken :
    Interaction CallState Event IicpError (Option String) := do
  let token ← acquireConsumerToken world client request node
  ofOutcome (require
    (!(client.config.consumerAuthMode == "required" && token.isNone))
    (.policyRefused "IICP-CONSUMER-AUTH-REQUIRED"
      "Consumer authentication is required but no directory-issued token is available"))
  pure token

/-- The node seals its answers. -/
def requiresEncryptedResponse : Bool :=
  node.cxPublicKey.any fun key ↦ key.features.contains "response_encryption_v1"

def sealedBody (envelope : Envelope) (encryptedResponse : Bool) : Json :=
  let fields := Json.insertField "iicp_conf" (.object envelope)
    (Json.removeField "payload" request.fields)
  .object (if encryptedResponse then
    Json.insertField "cx_response_encryption" (.string "required") fields else fields)

def liftCx : Confidentiality.IicpError → IicpError
  | .node message => .node message

/-- The body for a node, and the secret under which its answer is sealed. -/
def providerBody (payload : Json) :
    Interaction CallState Event IicpError (Json × Option Key) :=
  match node.cxPublicKey with
  | some key => do
    let ephemeral ← look world.ephemeral
    let nonce ← look world.nonce
    let (envelope, secret) ← ofOutcome (mapErr liftCx
      (encryptPayloadWithContext world.crates payload key request.taskId request.intent ephemeral
        nonce))
    pure (sealedBody request envelope (requiresEncryptedResponse node), some secret)
  | none => pure (.object { request with payload }.fields, none)

/-- What the receipt of a task says besides the node. -/
structure ReceiptContext where
  eligibleCandidateCount : ℕ
  rankerDecision : Option RankerDecision
  profileNegotiation : Option ProfileNegotiation

variable (receipt : ReceiptContext)

def selectionProfile (candidateIndex : ℕ) : String :=
  match receipt.rankerDecision with
  | some decision => rankerReceiptProfile decision candidateIndex
  | none =>
    if receipt.profileNegotiation.isSome ∨ client.config.routeDiscoveryMode = "legacy" then
      client.config.routingStrategy
    else "directory_ticket_v1"

def openResponse (secret : Option Key) (response : TaskResponse) :
    Outcome IicpError TaskResponse := do
  let envelope ← okOr (.node "node advertised response encryption but returned plaintext")
    response.iicpConfResp
  let secret ← okOr (.node "missing CX response context") secret
  let opened ← mapErr liftCx
    (decryptResponse world.crates.toCrates envelope secret.bytes request.taskId)
  okOr (.node ("encrypted response decode failed: " ++ world.serdeError opened))
    (TaskResponse.fromValue opened)

/-- The answer of a node as the client returns it. -/
def finishResponse (node : Node)
    (candidateIndex : ℕ) (secret : Option Key) (response : TaskResponse) :
    Outcome IicpError TaskResponse := do
  let response ←
    if requiresEncryptedResponse node then openResponse world request secret response
    else .ok response
  let short ← nodeShortId node.nodeId
  .ok { response with
    generatedByAi := true
    dispatchTicketIdPrefix := node.dispatchTicketIdPrefix
    routingReceipt := some
      { receiptVersion := "iicp-routing-receipt-v1"
        selectionProfile := selectionProfile client receipt candidateIndex
        eligibleCandidateCount := receipt.eligibleCandidateCount
        selectedNodeIdPrefix := short
        profileNegotiation := receipt.profileNegotiation
        redaction := "prompt_response_endpoint_token_excluded" } }

inductive AfterError where
  | nextNode
  | giveUp
  | sameNode
  deriving DecidableEq, Repr

def afterError : IicpError → AfterError
  | .endpointRefused _ => .nextNode
  | .http _ => .nextNode
  | error => if error.isTransient then .sameNode else .giveUp

/-- Posts a body to a node, again after an error that may pass while attempts are left. -/
def postTask (post : Posted) (finish : TaskResponse → Outcome IicpError TaskResponse) :
    (left : ℕ) → Interaction CallState Event IicpError (Except IicpError TaskResponse)
  | 0 => do
    match ← ask world.providerAnswer fun _ ↦ .posted post with
    | .ok response => do
      let response ← ofOutcome (finish response)
      pure (.ok response)
    | .error error =>
      match afterError error with
      | .giveUp => fail error
      | _ => pure (.error error)
  | left + 1 => do
    match ← ask world.providerAnswer fun _ ↦ .posted post with
    | .ok response => do
      let response ← ofOutcome (finish response)
      pure (.ok response)
    | .error error =>
      match afterError error with
      | .giveUp => fail error
      | .nextNode => pure (.error error)
      | .sameNode => postTask post finish left

def tryNode (node : Node) (candidateIndex : ℕ) :
    Interaction CallState Event IicpError (Except IicpError TaskResponse) := do
  let payload ← ofOutcome (candidatePayload identity request node candidateIndex)
  let token ← consumerToken world client request node
  let (body, secret) ← providerBody world request node payload
  postTask world ⟨node, node.endpoint ++ "/v1/task", body, token⟩
    (finishResponse world client request receipt node candidateIndex secret) (maxRetries - 1)

def tryNodes (request : TaskRequest) (identity : Option RuntimeIdentityDispatch)
    (receipt : ReceiptContext) :
    List Node → (candidateIndex : ℕ) → (lastErr : Option IicpError) →
      Interaction CallState Event IicpError TaskResponse
  | [], _, lastErr => fail (lastErr.getD (.noNodes request.intent))
  | node :: rest, candidateIndex, _ => do
    match ← tryNode world client request identity receipt node candidateIndex with
    | .ok response => pure response
    | .error error => tryNodes request identity receipt rest (candidateIndex + 1) (some error)

/-! ### Submitting -/

def submitListed
    (allowed : Option (List String)) (list : NodeList) :
    Interaction CallState Event IicpError TaskResponse := do
  let nodes ← ofOutcome (keptNodes world allowed list.nodes)
  ofOutcome (require (!(allowed.isSome && nodes.isEmpty))
    (.noNodes request.intent))
  let eligible ← ofOutcome (eligibleNodes world client request nodes)
  let (candidates, rankerDecision) ← chooseCandidates world client request eligible
  ofOutcome (require (!candidates.isEmpty) (.noNodes request.intent))
  tryNodes world client request identity
    ⟨eligible.length, rankerDecision, list.profileNegotiation⟩ candidates 0 none

/-- A request without a task id is given one. -/
def TaskRequest.named (uuid : String) : TaskRequest :=
  { request with taskId := if request.taskId = "" then uuid else request.taskId }

/-- Submits a request: the nodes may be limited to a set of ids. -/
def submitInternal
    (allowed : Option (List String)) : Interaction CallState Event IicpError TaskResponse := do
  ofOutcome (validateIntent request.intent)
  let uuid ← look world.uuid
  let list ← routeSource world client.config request.intent
    (projectRouteOptions (request.named uuid) client.config)
  submitListed world client (request.named uuid) identity allowed list

end Submit

end Iicp.Client
