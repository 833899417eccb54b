import Iicp.Confidentiality.Sealing
import Iicp.Config.Runtime
import Iicp.Rust.Serde

/-!
# What a client sends and receives

The configuration of a client, the nodes that a directory lists, the request for a task and the
answer to it. `Node.fromValue`, `NodeList.fromValue` and `TaskResponse.fromValue` read the JSON that
arrives, `TaskRequest.fields` is the JSON that leaves.

The eligibility of a node and the ticket that it came with are set by the client and never read:
`Node.fromValue_local`.
-/

namespace Iicp.Client

open Rust Json
open Confidentiality (CxPublicKey Envelope)

/-! ### Configuration -/

structure RestrictedDirectoryContext where
  (domainId authorityId subjectId subjectKind : String)
  minimumMembershipGeneration : ℕ
  membershipCredential : Config.SecretRef
  deriving DecidableEq, Repr

structure RestrictedEligibility where
  domainId : String
  authorityId : String
  membershipGeneration : ℕ
  membershipExpiresAt : ℕ
  deriving DecidableEq, Repr

inductive RoutingProfile where
  | standard
  | sensitive
  | euRestricted
  | strictPolicy
  | debugOverride
  deriving DecidableEq, Repr

/-- Which nodes may receive a prompt: a profile, and what differs from it. -/
structure RoutingPolicy where
  profile : RoutingProfile
  allowedRegions : List String
  (requireEncryption requirePolicyManifest requireNoPayloadRetention : Option Bool)
  (allowRemoteExecutor knownOperatorOnly : Option Bool)
  requiredManifestIdentityLevel : Option String
  deriving DecidableEq, Repr

def RoutingPolicy.default : RoutingPolicy :=
  ⟨.standard, [], none, none, none, none, none, none⟩

structure ProfileRequest where
  (profileId profileVersion profileFixtureSha256 : String)
  required : Bool
  deriving DecidableEq, Repr

structure ClientConfig where
  directoryUrl : String
  timeoutMs : ℕ
  (region nodeToken : Option String)
  consumerAuthMode : String
  routingEpsilon : Float
  routingStrategy : String
  routingTopK : ℕ
  routingSoftmaxTau : Float
  routingPolicy : RoutingPolicy
  routeDiscoveryMode : String
  profileRequest : Option ProfileRequest
  restrictedDirectory : Option RestrictedDirectoryContext
  deriving DecidableEq

/-! ### Nodes -/

structure ProfileNegotiation where
  requested : Bool
  (status reason : Option String)
  dispatchAllowed : Option Bool
  deriving DecidableEq, Repr

structure CipPolicy where
  allowRemoteInference : Bool
  deriving DecidableEq, Repr

structure Node where
  nodeId : String
  endpoint : String
  score : Float
  load : Float
  available : Bool
  region : String
  models : Option (List String)
  cipPolicy : Option CipPolicy
  (healthLabel exposureMode : Option String)
  cxPublicKey : Option CxPublicKey
  transport : List String
  directoryObservedReachable : Option Bool
  (routeEvidence routingHint : Option String)
  browserUsable : Option Bool
  latencyEvidence : Option Json
  healthReasons : Option (List Json)
  (trustProgress sdkRelease nodePolicyManifest : Option Json)
  dispatchTicketIdPrefix : Option String
  restrictedEligibility : Option RestrictedEligibility
  deriving DecidableEq

structure NodeList where
  nodes : List Node
  count : ℕ
  profileNegotiation : Option ProfileNegotiation
  diversityEvidence : Option Json
  restrictedEligibility : Option RestrictedEligibility
  deriving DecidableEq

variable (value : Json)

def CxPublicKey.fromValue : Option CxPublicKey := do
  let parts ← structParts
    [plain "algorithm", withDefault "encoding", plain "key", plain "key_id", withDefault "features"]
    value
  let algorithm ← required asStr (parts "algorithm")
  let encoding ← optional asStr (parts "encoding")
  let key ← required asStr (parts "key")
  let keyId ← required asStr (parts "key_id")
  let features ← defaulted (readList asStr) [] (parts "features")
  some ⟨algorithm, encoding, key, keyId, features⟩

def CipPolicy.fromValue : Option CipPolicy := do
  let parts ← structParts [plain "allow_remote_inference"] value
  let allowRemoteInference ← required asBool (parts "allow_remote_inference")
  some ⟨allowRemoteInference⟩

def ProfileNegotiation.fromValue : Option ProfileNegotiation := do
  let parts ← structParts
    [plain "requested", plain "status", plain "reason", plain "dispatch_allowed"] value
  let requested ← required asBool (parts "requested")
  let status ← optional asStr (parts "status")
  let reason ← optional asStr (parts "reason")
  let dispatchAllowed ← optional asBool (parts "dispatch_allowed")
  some ⟨requested, status, reason, dispatchAllowed⟩

/-- A node as it is listed. The key has a second, older name. -/
structure NodeWire where
  nodeId : String
  endpoint : String
  score : Float
  load : Float
  available : Bool
  region : String
  models : Option (List String)
  cipPolicy : Option CipPolicy
  (healthLabel exposureMode : Option String)
  (cxPublicKey publicKey : Option CxPublicKey)
  transport : List String
  directoryObservedReachable : Option Bool
  (routeEvidence routingHint : Option String)
  browserUsable : Option Bool
  latencyEvidence : Option Json
  healthReasons : Option (List Json)
  (trustProgress sdkRelease nodePolicyManifest : Option Json)
  deriving DecidableEq

def NodeWire.rules : List FieldRule :=
  ["node_id", "endpoint", "score"].map plain ++ [withDefault "load"] ++
    ["available", "region", "models", "cip_policy"].map plain ++
    ["health_label", "exposure_mode", "cx_public_key", "public_key", "transport",
      "directory_observed_reachable", "route_evidence", "routing_hint", "browser_usable",
      "latency_evidence", "health_reasons", "trust_progress", "sdk_release",
      "node_policy_manifest"].map withDefault

def NodeWire.fromValue (value : Json) : Option NodeWire := do
  let parts ← structParts NodeWire.rules value
  let nodeId ← required asStr (parts "node_id")
  let endpoint ← required asStr (parts "endpoint")
  let score ← required asF64 (parts "score")
  let load ← defaulted asF64 0 (parts "load")
  let available ← required asBool (parts "available")
  let region ← required asStr (parts "region")
  let models ← optional (readList asStr) (parts "models")
  let cipPolicy ← optional CipPolicy.fromValue (parts "cip_policy")
  let healthLabel ← optional asStr (parts "health_label")
  let exposureMode ← optional asStr (parts "exposure_mode")
  let cxPublicKey ← optional CxPublicKey.fromValue (parts "cx_public_key")
  let publicKey ← optional CxPublicKey.fromValue (parts "public_key")
  let transport ← defaulted (readList asStr) [] (parts "transport")
  let directoryObservedReachable ← optional asBool (parts "directory_observed_reachable")
  let routeEvidence ← optional asStr (parts "route_evidence")
  let routingHint ← optional asStr (parts "routing_hint")
  let browserUsable ← optional asBool (parts "browser_usable")
  let latencyEvidence ← optional some (parts "latency_evidence")
  let healthReasons ← optional (readList some) (parts "health_reasons")
  let trustProgress ← optional some (parts "trust_progress")
  let sdkRelease ← optional some (parts "sdk_release")
  let nodePolicyManifest ← optional some (parts "node_policy_manifest")
  some
    { nodeId, endpoint, score, load, available, region, models, cipPolicy, healthLabel,
      exposureMode, cxPublicKey, publicKey, transport, directoryObservedReachable, routeEvidence,
      routingHint, browserUsable, latencyEvidence, healthReasons, trustProgress, sdkRelease,
      nodePolicyManifest }

/-- The node that is listed. What the client itself says about a node is not there yet. -/
def Node.ofWire (wire : NodeWire) : Node where
  nodeId := wire.nodeId
  endpoint := wire.endpoint
  score := wire.score
  load := wire.load
  available := wire.available
  region := wire.region
  models := wire.models
  cipPolicy := wire.cipPolicy
  healthLabel := wire.healthLabel
  exposureMode := wire.exposureMode
  cxPublicKey := wire.cxPublicKey.or wire.publicKey
  transport := wire.transport
  directoryObservedReachable := wire.directoryObservedReachable
  routeEvidence := wire.routeEvidence
  routingHint := wire.routingHint
  browserUsable := wire.browserUsable
  latencyEvidence := wire.latencyEvidence
  healthReasons := wire.healthReasons
  trustProgress := wire.trustProgress
  sdkRelease := wire.sdkRelease
  nodePolicyManifest := wire.nodePolicyManifest
  dispatchTicketIdPrefix := none
  restrictedEligibility := none

lemma NodeWire.fromValue_nodeId {value : Json} {wire : NodeWire} (h : fromValue value = some wire) :
    ∃ parts, structParts rules value = some parts ∧
      required asStr (parts "node_id") = some wire.nodeId := by
  obtain ⟨parts, hparts, h⟩ := Option.bind_eq_some_iff.mp h
  obtain ⟨_, hnodeId, h⟩ := Option.bind_eq_some_iff.mp h
  iterate 21 obtain ⟨_, -, h⟩ := Option.bind_eq_some_iff.mp h
  obtain rfl := Option.some.inj h
  exact ⟨parts, hparts, hnodeId⟩

def Node.fromValue (value : Json) : Option Node := (NodeWire.fromValue value).map Node.ofWire

def NodeList.fromValue (value : Json) : Option NodeList := do
  let parts ← structParts
    [plain "nodes", plain "count", withDefault "profile_negotiation",
      withDefault "diversity_evidence"] value
  let nodes ← required (readList Node.fromValue) (parts "nodes")
  let count ← required (readUnsigned 32) (parts "count")
  let profileNegotiation ← optional ProfileNegotiation.fromValue (parts "profile_negotiation")
  let diversityEvidence ← optional some (parts "diversity_evidence")
  some ⟨nodes, count, profileNegotiation, diversityEvidence, none⟩

/-- What the client itself says about a node is not read from the list. -/
lemma Node.fromValue_local {value : Json} {node : Node} (h : Node.fromValue value = some node) :
    node.restrictedEligibility = none ∧ node.dispatchTicketIdPrefix = none := by
  obtain ⟨_, -, rfl⟩ := Option.map_eq_some_iff.mp h
  exact ⟨rfl, rfl⟩

/-! ### Requests -/

structure DiscoverOptions where
  (region qos model : Option String)
  minReputation : Option Float
  limit : Option ℕ
  browserUsableOnly : Option Bool
  profileRequest : Option ProfileRequest
  deriving DecidableEq

def DiscoverOptions.default : DiscoverOptions := ⟨none, none, none, none, none, none, none⟩

/-- Which nodes a request asks for. The fields are those of a discovery. -/
abbrev RouteConstraints := DiscoverOptions

structure TaskConstraints where
  (timeoutMs maxTokens : Option ℕ)
  (model qos region : Option String)
  minReputation : Option Float
  deriving DecidableEq

structure TaskRequest where
  taskId : String
  intent : String
  payload : Json
  constraints : Option TaskConstraints
  routeConstraints : Option RouteConstraints
  (auth sourceNodeId : Option String)
  routingPolicy : Option RoutingPolicy
  deriving DecidableEq

def TaskConstraints.fields (constraints : TaskConstraints) : List (String × Json) :=
  present
    [("max_tokens", constraints.maxTokens.map .ofU64),
      ("model", constraints.model.map .string),
      ("qos", constraints.qos.map .string),
      ("timeout_ms", constraints.timeoutMs.map .ofU64)]

/-- The fields of a request that are sent to a provider. -/
def TaskRequest.fields (request : TaskRequest) : List (String × Json) :=
  present
    [("auth", request.auth.map fun token ↦ .object [("token", .string token)]),
      ("constraints", request.constraints.map fun constraints ↦ .object constraints.fields),
      ("intent", some (.string request.intent)),
      ("payload", some request.payload),
      ("source_node_id", request.sourceNodeId.map .string),
      ("task_id", some (.string request.taskId))]

/-- The criteria of a request, whichever way the nodes are found. -/
def projectRouteOptions (request : TaskRequest) (config : ClientConfig) : DiscoverOptions where
  region := ((request.routeConstraints.bind (·.region)).or
    (request.constraints.bind (·.region))).or config.region
  qos := (request.routeConstraints.bind (·.qos)).or (request.constraints.bind (·.qos))
  model := (request.routeConstraints.bind (·.model)).or (request.constraints.bind (·.model))
  minReputation := (request.routeConstraints.bind (·.minReputation)).or
    (request.constraints.bind (·.minReputation))
  limit := (request.routeConstraints.bind (·.limit)).or (some 10)
  browserUsableOnly := request.routeConstraints.bind (·.browserUsableOnly)
  profileRequest := (request.routeConstraints.bind (·.profileRequest)).or config.profileRequest

/-! ### Answers -/

structure TaskMetrics where
  latencyMs : Option Float
  tokensUsed : Option ℕ
  nodeId : Option String
  deriving DecidableEq

structure RoutingReceipt where
  receiptVersion : String
  selectionProfile : String
  eligibleCandidateCount : ℕ
  selectedNodeIdPrefix : String
  profileNegotiation : Option ProfileNegotiation
  redaction : String
  deriving DecidableEq

structure TaskResponse where
  taskId : String
  status : String
  result : Option Json
  iicpConfResp : Option Envelope
  metrics : Option TaskMetrics
  error : Option Json
  generatedByAi : Bool
  dispatchTicketIdPrefix : Option String
  routingReceipt : Option RoutingReceipt
  deriving DecidableEq

def TaskMetrics.fromValue : Option TaskMetrics := do
  let parts ← structParts [plain "latency_ms", plain "tokens_used", plain "node_id"] value
  let latencyMs ← optional asF64 (parts "latency_ms")
  let tokensUsed ← optional (readUnsigned 32) (parts "tokens_used")
  let nodeId ← optional asStr (parts "node_id")
  some ⟨latencyMs, tokensUsed, nodeId⟩

def RoutingReceipt.fromValue (value : Json) : Option RoutingReceipt := do
  let parts ← structParts
    (["receipt_version", "selection_profile", "eligible_candidate_count",
      "selected_node_id_prefix", "profile_negotiation", "redaction"].map plain) value
  let receiptVersion ← required asStr (parts "receipt_version")
  let selectionProfile ← required asStr (parts "selection_profile")
  let eligibleCandidateCount ← required (readUnsigned 64) (parts "eligible_candidate_count")
  let selectedNodeIdPrefix ← required asStr (parts "selected_node_id_prefix")
  let profileNegotiation ← optional ProfileNegotiation.fromValue (parts "profile_negotiation")
  let redaction ← required asStr (parts "redaction")
  some ⟨receiptVersion, selectionProfile, eligibleCandidateCount, selectedNodeIdPrefix,
    profileNegotiation, redaction⟩

def TaskResponse.fromValue (value : Json) : Option TaskResponse := do
  let parts ← structParts
    [plain "task_id", plain "status", plain "result", withDefault "iicp_conf_resp",
      plain "metrics", withDefault "error", withDefault "generated_by_ai",
      withDefault "dispatch_ticket_id_prefix", withDefault "routing_receipt"] value
  let taskId ← required asStr (parts "task_id")
  let status ← required asStr (parts "status")
  let result ← optional some (parts "result")
  let iicpConfResp ← optional asObject (parts "iicp_conf_resp")
  let metrics ← optional TaskMetrics.fromValue (parts "metrics")
  let error ← optional some (parts "error")
  let generatedByAi ← defaulted asBool false (parts "generated_by_ai")
  let dispatchTicketIdPrefix ← optional asStr (parts "dispatch_ticket_id_prefix")
  let routingReceipt ← optional RoutingReceipt.fromValue (parts "routing_receipt")
  some ⟨taskId, status, result, iicpConfResp, metrics, error, generatedByAi,
    dispatchTicketIdPrefix, routingReceipt⟩

end Iicp.Client
