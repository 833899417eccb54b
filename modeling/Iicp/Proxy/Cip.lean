import Iicp.Client.Types

/-!
# The gates of cooperative inference

A proxy that takes part in cooperative inference decides for each request whether it may go to
remote workers. `decideDispatch` is the sequence of gates: cost, session budget, balance,
sensitivity, number of workers. `computeCipEnvelope` finds the eligible workers and asks the gates;
its plan has the set of eligible workers exactly when the decision is remote.

The gate of the session budget takes what the session has spent as an argument, and
`computeCipEnvelope` always passes zero. So the budget bounds the first request alone
(`session_budget_bounds_iff`).
-/

namespace Iicp.Proxy

open Rust Json
open Client (RestrictedEligibility)

/-! ### Configuration and workers -/

inductive CipError where
  | insufficientCredits (code : String)
  | noEligibleWorkers (code : String)
  deriving DecidableEq, Repr

inductive CipStrategy where
  | localFirst
  | remoteFirst
  | balanced
  deriving DecidableEq, Repr

structure CipConfig where
  enabled : Bool
  strategy : CipStrategy
  maxCreditsPerTask : Float
  sessionCreditBudget : Option Float
  sendSensitivePrompts : Bool
  trustedPeers : List String
  minReputation : Float
  deriving DecidableEq

def CipConfig.default : CipConfig where
  enabled := false
  strategy := .localFirst
  maxCreditsPerTask := 10
  sessionCreditBudget := none
  sendSensitivePrompts := false
  trustedPeers := []
  minReputation := 0

/-- A worker with what a restricted directory has confirmed. -/
structure CipWorkerCandidate where
  nodeId : String
  allowRemoteInference : Bool
  reputationScore : Float
  restrictedEligibility : Option RestrictedEligibility
  deriving DecidableEq

/-- The trust boundary of a restricted request. -/
structure CipTrustScope where
  domainId : String
  authorityId : String
  minimumMembershipGeneration : ℕ
  deriving DecidableEq, Repr

inductive DispatchResult where
  | localRun
  | remote
  | error (code : String)
  deriving DecidableEq, Repr

/-- What is done with a request. The allowed nodes are there only for remote dispatch. -/
structure CipDispatchPlan where
  envelope : Option Json
  allowedNodeIds : Option (List String)
  deriving DecidableEq

def CipDispatchPlan.localPlan : CipDispatchPlan := ⟨none, none⟩

/-! ### The fields of a request -/

def validCipPolicies : List String := ["best_of_n", "majority_vote", "map_reduce"]

/-- The code for fields of a request that are not valid. -/
def validateCipRequestFields (body : Json) : Option String :=
  match (body.get "cip").bind asObject with
  | none => none
  | some cip =>
    let policy := (getField cip "policy").bind asStr
    let replicas := (getField cip "replicas").bind asI64
    if policy.any fun name ↦ !validCipPolicies.contains name then some "IICP-E028"
    else if (getField cip "replicas").isSome ∧ ¬ replicas.any fun count ↦ 1 ≤ count ∧ count ≤ 10
      then some "IICP-E028"
    else if (getField cip "replicas").isSome ∧ policy = some "majority_vote" ∧
        (replicas.getD 0) % 2 = 0 then some "IICP-E025"
    else
      match getField cip "quorum" with
      | none => none
      | some quorum =>
        if quorum.asI64.all fun count ↦ count < 1 then some "IICP-E028"
        else if quorum.asI64.getD 0 > replicas.getD 1 then some "IICP-E028"
        else none

def replicasOf (body : Json) : ℤ :=
  ((((body.get "cip").bind (get · "replicas")).bind asI64)).getD 1

def sensitivityOf (body : Json) : Option String := (body.get "sensitivity").bind asStr

/-! ### The gates -/

/-- Local-first runs locally; the other strategies report the error. -/
def blockedRemote (config : CipConfig) (code : String) : DispatchResult :=
  if config.strategy = .localFirst then .localRun else .error code

def tooExpensive (config : CipConfig) (estimatedCredits : Float) : Bool :=
  config.maxCreditsPerTask < estimatedCredits

/-- With the task the session would spend more than its budget. -/
def overBudget (config : CipConfig) (sessionSpent estimatedCredits : Float) : Bool :=
  config.sessionCreditBudget.any fun budget ↦ budget < sessionSpent + estimatedCredits

def lowBalance (consumerBalance : Option Float) (estimatedCredits : Float) : Bool :=
  consumerBalance.any fun balance ↦ balance < estimatedCredits

/-- The prompt is sensitive, and such prompts are not sent. -/
def tooSensitive (config : CipConfig) (sensitivity : Option String) : Bool :=
  sensitivity == some "high" && !config.sendSensitivePrompts

def tooFew (ids : List String) (replicas : ℤ) : Bool := (ids.length : ℤ) < max replicas 1

def decideDispatch (estimatedCredits : Float) (sensitivity : Option String)
    (eligibleWorkers : List String) (config : CipConfig) (replicas : ℤ)
    (consumerBalance : Option Float) (sessionSpent : Float) : DispatchResult :=
  if !config.enabled then .localRun
  else if tooExpensive config estimatedCredits then .localRun
  else if overBudget config sessionSpent estimatedCredits then .localRun
  else if lowBalance consumerBalance estimatedCredits then blockedRemote config "IICP-E036"
  else if tooSensitive config sensitivity then .localRun
  else if tooFew eligibleWorkers replicas then
    if config.strategy = .localFirst then .localRun else .error "IICP-E022"
  else .remote

variable (decision : DispatchResult)

def buildCipEnvelope (parentTaskId sessionKey : String) : Option Json :=
  if decision ≠ .remote then none
  else some (.object
    [("cip_parent_task_id", .string parentTaskId), ("cip_role", .string "worker"),
      ("cip_session_key", .string sessionKey)])

/-- The proof of a worker is inside the trust scope. -/
def CipTrustScope.admits (scope : CipTrustScope) (now : ℕ) (candidate : CipWorkerCandidate) : Bool :=
  candidate.restrictedEligibility.any fun proof ↦
    proof.domainId == scope.domainId && proof.authorityId == scope.authorityId &&
      scope.minimumMembershipGeneration ≤ proof.membershipGeneration &&
      now < proof.membershipExpiresAt

def eligible (config : CipConfig) (trustScope : Option CipTrustScope) (now : ℕ)
    (candidate : CipWorkerCandidate) : Bool :=
  candidate.allowRemoteInference && candidate.nodeId != "" &&
    decide (config.minReputation ≤ candidate.reputationScore) &&
    trustScope.all fun scope ↦ scope.admits now candidate

/-- The ids of the eligible workers, of which only trusted peers are kept if there are any. -/
def eligibleWorkers (nodes : List CipWorkerCandidate) (config : CipConfig)
    (trustScope : Option CipTrustScope) (now : ℕ) : List String :=
  let ids := (nodes.filter (eligible config trustScope now)).map (·.nodeId)
  if config.trustedPeers.isEmpty then ids else ids.filter config.trustedPeers.contains

def planOf (taskId : String) (ids : List String) :
    Except CipError CipDispatchPlan :=
  if decision = .error "IICP-E036" then .error (.insufficientCredits "IICP-E036")
  else if decision = .error "IICP-E022" then .error (.noEligibleWorkers "IICP-E022")
  else .ok
    { envelope := buildCipEnvelope decision taskId ("cip-sess-" ++ taskId)
      allowedNodeIds := if decision = .remote then some ids else none }

/-- Decides what is done with a request. The estimate is always one credit, and what the session has
spent is always nothing. -/
def computeCipEnvelope (nodes : List CipWorkerCandidate) (body : Json) (config : CipConfig)
    (trustScope : Option CipTrustScope) (taskId : String) (qos : Option String)
    (consumerBalance : Option Float) (now : ℕ) : Except CipError CipDispatchPlan :=
  if !config.enabled ∨ qos = some "realtime" then .ok .localPlan
  else if (validateCipRequestFields body).isSome then .ok .localPlan
  else
    let ids := eligibleWorkers nodes config trustScope now
    planOf (decideDispatch 1 (sensitivityOf body) ids config (replicasOf body) consumerBalance 0)
      taskId ids

/-! ### What the gates decide -/

section Gates

variable {estimatedCredits sessionSpent : Float} {sensitivity : Option String} {ids : List String}
  {config : CipConfig} {replicas : ℤ} {consumerBalance : Option Float} {taskId : String}

/-- The plan has a set of workers when every gate is passed. -/
lemma planOf_allowed_iff (allowed : List String) :
    (∃ plan, planOf (decideDispatch estimatedCredits sensitivity ids config replicas consumerBalance
        sessionSpent) taskId ids = .ok plan ∧ plan.allowedNodeIds = some allowed) ↔
      (config.enabled ∧ tooExpensive config estimatedCredits = false ∧
        overBudget config sessionSpent estimatedCredits = false ∧
        lowBalance consumerBalance estimatedCredits = false ∧
        tooSensitive config sensitivity = false ∧ tooFew ids replicas = false) ∧ allowed = ids := by
  unfold decideDispatch blockedRemote
  split_ifs <;> simp_all [planOf]
  exact eq_comm

/-- The plan is local when a gate before the balance is not passed, when a later gate is not passed
that has no error, and under local-first when a gate with an error is not passed. -/
lemma planOf_unlimited_iff (henabled : config.enabled) :
    (∃ plan, planOf (decideDispatch estimatedCredits sensitivity ids config replicas consumerBalance
        sessionSpent) taskId ids = .ok plan ∧ plan.allowedNodeIds = none) ↔
      tooExpensive config estimatedCredits ∨
      overBudget config sessionSpent estimatedCredits ∨
      (lowBalance consumerBalance estimatedCredits ∧ config.strategy = .localFirst) ∨
      (lowBalance consumerBalance estimatedCredits = false ∧
        (tooSensitive config sensitivity ∨
          (tooFew ids replicas ∧ config.strategy = .localFirst))) := by
  unfold decideDispatch blockedRemote
  split_ifs <;> simp_all [planOf]

end Gates

section Envelope

variable {nodes : List CipWorkerCandidate} {body : Json} {config : CipConfig}
  {trustScope : Option CipTrustScope} {taskId : String} {qos : Option String}
  {consumerBalance : Option Float} {now : ℕ}

/-- A request goes to remote workers when the fields are valid and every gate is passed, and then to
the eligible workers. -/
lemma computeCipEnvelope_allowed_iff (allowed : List String) :
    (∃ plan, computeCipEnvelope nodes body config trustScope taskId qos consumerBalance now =
        .ok plan ∧ plan.allowedNodeIds = some allowed) ↔
      (config.enabled ∧ qos ≠ some "realtime" ∧ validateCipRequestFields body = none ∧
        tooExpensive config 1 = false ∧ overBudget config 0 1 = false ∧
        lowBalance consumerBalance 1 = false ∧ tooSensitive config (sensitivityOf body) = false ∧
        tooFew (eligibleWorkers nodes config trustScope now) (replicasOf body) = false) ∧
      allowed = eligibleWorkers nodes config trustScope now := by
  unfold computeCipEnvelope
  split_ifs with hskip hinvalid
  · rw [Bool.not_eq_true'] at hskip
    constructor
    · rintro ⟨plan, hplan, hallowed⟩
      obtain rfl := Except.ok.inj hplan
      nomatch hallowed
    · rintro ⟨⟨henabled, hqos, -⟩, -⟩
      rcases hskip with hdisabled | hrealtime
      · rw [henabled] at hdisabled
        nomatch hdisabled
      · exact absurd hrealtime hqos
  · constructor
    · rintro ⟨_, hplan, hallowed⟩
      obtain rfl := Except.ok.inj hplan
      nomatch hallowed
    · rintro ⟨⟨-, -, hvalid, -⟩, -⟩
      rw [hvalid] at hinvalid
      nomatch hinvalid
  · rw [Bool.not_eq_true', not_or, Bool.not_eq_false] at hskip
    rw [Option.not_isSome_iff_eq_none] at hinvalid
    rw [planOf_allowed_iff]
    simp only [hskip, hinvalid, ne_eq, not_false_eq_true, true_and]

end Envelope

/-! ### What a session spends -/

def qosOf (body : Json) : Option String := (body.get "qos").bind asStr

def balanceOf (body : Json) : Option Float :=
  ((body.get "billing").bind (get · "consumer_balance")).bind asF64

/-- A request to the proxy, with the workers that are discovered for it, the trust scope and the
time. -/
structure ProxyRequest where
  nodes : List CipWorkerCandidate
  body : Json
  trustScope : Option CipTrustScope
  now : ℕ

def ProxyRequest.plan (config : CipConfig) (request : ProxyRequest) :
    Except CipError CipDispatchPlan :=
  computeCipEnvelope request.nodes request.body config request.trustScope "cip-task"
    (qosOf request.body) (balanceOf request.body) request.now

def ProxyRequest.isRemote (config : CipConfig) (request : ProxyRequest) : Bool :=
  match request.plan config with
  | .ok plan => plan.allowedNodeIds.isSome
  | .error _ => false

/-- A remote dispatch is charged with its number of replicas. -/
def charged (config : CipConfig) (request : ProxyRequest) : ℕ :=
  if request.isRemote config then (replicasOf request.body).toNat else 0

def totalCharged (config : CipConfig) (requests : List ProxyRequest) : ℕ :=
  (requests.map (charged config)).sum

/-- A configuration under which some request can go to remote workers: the gates that look at the
configuration alone are passed, there is a score that is good enough, and the trusted peers, if
there are any, have a name. -/
def CanGoRemote (config : CipConfig) : Prop :=
  config.enabled = true ∧ tooExpensive config 1 = false ∧ overBudget config 0 1 = false ∧
    (∃ score : Float, config.minReputation ≤ score) ∧
    (config.trustedPeers = [] ∨ ∃ peer ∈ config.trustedPeers, peer ≠ "")

lemma isRemote_iff_allowed (config : CipConfig) (request : ProxyRequest) :
    request.isRemote config ↔
      ∃ allowed plan, request.plan config = .ok plan ∧ plan.allowedNodeIds = some allowed := by
  unfold ProxyRequest.isRemote
  cases request.plan config with
  | error => simp
  | ok => simp [Option.isSome_iff_exists]

/-- The decision is remote when the fields are valid and every gate is passed. -/
lemma isRemote_iff (config : CipConfig) (request : ProxyRequest) :
    request.isRemote config ↔
      config.enabled ∧ qosOf request.body ≠ some "realtime" ∧
        validateCipRequestFields request.body = none ∧ tooExpensive config 1 = false ∧
        overBudget config 0 1 = false ∧ lowBalance (balanceOf request.body) 1 = false ∧
        tooSensitive config (sensitivityOf request.body) = false ∧
        tooFew (eligibleWorkers request.nodes config request.trustScope request.now)
          (replicasOf request.body) = false := by
  rw [isRemote_iff_allowed]
  constructor
  · rintro ⟨allowed, hallowed⟩
    exact ((computeCipEnvelope_allowed_iff allowed).mp hallowed).1
  · intro hgates
    exact ⟨_, (computeCipEnvelope_allowed_iff _).mpr ⟨hgates, rfl⟩⟩

/-- A worker that may be given a request: it allows remote inference, has a good score and a name, is
in the scope, and is a trusted peer if there are any. -/
structure Usable (config : CipConfig) (trustScope : Option CipTrustScope) (now : ℕ)
    (worker : CipWorkerCandidate) : Prop where
  allows : worker.allowRemoteInference = true
  reputable : config.minReputation ≤ worker.reputationScore
  inScope : ∀ scope, trustScope = some scope → scope.admits now worker = true
  named : worker.nodeId ≠ ""
  trusted : config.trustedPeers = [] ∨ worker.nodeId ∈ config.trustedPeers

def usableIds (nodes : List CipWorkerCandidate) (config : CipConfig)
    (trustScope : Option CipTrustScope) (now : ℕ) : Set String :=
  {id | ∃ worker ∈ nodes, worker.nodeId = id ∧ Usable config trustScope now worker}

section Usable

variable (nodes : List CipWorkerCandidate) (config : CipConfig) (trustScope : Option CipTrustScope)
  (now : ℕ)

lemma usable_iff (worker : CipWorkerCandidate) : Usable config trustScope now worker ↔
    (eligible config trustScope now worker &&
      (config.trustedPeers.isEmpty || config.trustedPeers.contains worker.nodeId)) = true := by
  simp only [eligible, Bool.and_eq_true, bne_iff_ne, decide_eq_true_eq, Option.all_eq_true,
    Bool.or_eq_true, List.isEmpty_iff, List.contains_iff_mem]
  constructor
  · rintro ⟨hallows, hscore, hscope, hname, hpeers⟩
    exact ⟨⟨⟨⟨hallows, hname⟩, hscore⟩, hscope⟩, hpeers⟩
  · rintro ⟨⟨⟨⟨hallows, hname⟩, hscore⟩, hscope⟩, hpeers⟩
    exact ⟨hallows, hscore, hscope, hname, hpeers⟩

/-- The eligible workers are the usable ones, in the order of their discovery. -/
lemma eligibleWorkers_eq : eligibleWorkers nodes config trustScope now =
    (nodes.filter fun worker ↦ eligible config trustScope now worker &&
      (config.trustedPeers.isEmpty || config.trustedPeers.contains worker.nodeId)).map
        (·.nodeId) := by
  unfold eligibleWorkers
  cases config.trustedPeers.isEmpty with
  | true => simp
  | false => simp [List.filter_map, List.filter_filter, Bool.and_comm, Function.comp_def]

lemma mem_eligibleWorkers_iff (nodeId : String) :
    nodeId ∈ eligibleWorkers nodes config trustScope now ↔
      nodeId ∈ usableIds nodes config trustScope now := by
  simp only [eligibleWorkers_eq, List.mem_map, List.mem_filter, ← usable_iff, usableIds,
    Set.mem_ofPred_eq]
  exact exists_congr fun worker ↦ by tauto

lemma nodup_eligibleWorkers_iff :
    (eligibleWorkers nodes config trustScope now).Nodup ↔
      nodes.Pairwise fun first second ↦ Usable config trustScope now first →
        Usable config trustScope now second → first.nodeId ≠ second.nodeId := by
  simp only [eligibleWorkers_eq, List.Nodup, List.pairwise_map, List.pairwise_filter, ← usable_iff]

lemma ncard_usableIds : (usableIds nodes config trustScope now).ncard =
    (eligibleWorkers nodes config trustScope now).toFinset.card := by
  rw [← Set.ncard_coe_finset]
  congr 1
  ext nodeId
  rw [Finset.mem_coe, List.mem_toFinset, mem_eligibleWorkers_iff]

end Usable

/-- Under a configuration by which no request can go to remote workers, none does. -/
lemma canGoRemote_of_isRemote {config : CipConfig} {request : ProxyRequest}
    (h : request.isRemote config) : CanGoRemote config := by
  obtain ⟨henabled, -, -, hcost, hbudget, -, -, hfew⟩ := (isRemote_iff config request).mp h
  have hsome : 0 < (eligibleWorkers request.nodes config request.trustScope request.now).length := by
    simp only [tooFew, decide_eq_false_iff_not, not_lt] at hfew
    have hone : (1 : ℤ) ≤ max (replicasOf request.body) 1 := le_max_right _ _
    omega
  obtain ⟨nodeId, hmem⟩ := List.exists_mem_of_length_pos hsome
  obtain ⟨worker, -, -, husable⟩ := (mem_eligibleWorkers_iff _ _ _ _ _).mp hmem
  exact ⟨henabled, hcost, hbudget, ⟨worker.reputationScore, husable.reputable⟩,
    husable.trusted.imp id fun hpeer ↦ ⟨worker.nodeId, hpeer, husable.named⟩⟩

/-- If some request can go to remote workers, then one with a single replica can. -/
lemma exists_remote_of_canGoRemote {config : CipConfig} (h : CanGoRemote config) :
    ∃ request : ProxyRequest, request.isRemote config ∧ replicasOf request.body = 1 := by
  obtain ⟨henabled, hcost, hbudget, ⟨score, hscore⟩, hpeers⟩ := h
  obtain ⟨peer, hname, hpeer⟩ : ∃ peer, peer ≠ "" ∧
      (config.trustedPeers = [] ∨ peer ∈ config.trustedPeers) := by
    rcases hpeers with hnone | ⟨peer, hmem, hname⟩
    · exact ⟨"worker", by decide, .inl hnone⟩
    · exact ⟨peer, hname, .inr hmem⟩
  let request : ProxyRequest := ⟨[⟨peer, true, score, none⟩], .object [], none, 0⟩
  have hmem : peer ∈ eligibleWorkers request.nodes config request.trustScope request.now :=
    (mem_eligibleWorkers_iff _ _ _ _ _).mpr
      ⟨⟨peer, true, score, none⟩, List.mem_singleton.mpr rfl, rfl, rfl, hscore, by
        rintro _ ⟨⟩, hname, hpeer⟩
  have hqos : qosOf (.object []) ≠ some "realtime" := by decide
  refine ⟨request, (isRemote_iff config request).mpr
    ⟨henabled, hqos, rfl, hcost, hbudget, rfl, rfl, ?_⟩, rfl⟩
  have hpos := List.length_pos_of_mem hmem
  have hone : replicasOf request.body = 1 := rfl
  simp only [tooFew, hone, max_self, decide_eq_false_iff_not, not_lt]
  omega

/-- Assumes: a session budget that is a natural number. The budget bounds what is charged for every
sequence of requests exactly when no request can go to remote workers. -/
theorem session_budget_bounds_iff (config : CipConfig) (budget : ℕ)
    (hbudget : config.sessionCreditBudget = some (Float.ofNat budget)) :
    (∀ requests : List ProxyRequest, totalCharged config requests ≤ budget) ↔
      ¬ (config.enabled ∧ tooExpensive config 1 = false ∧ ¬ Float.ofNat budget < 0 + 1 ∧
        (∃ score : Float, config.minReputation ≤ score) ∧
        (config.trustedPeers = [] ∨ ∃ peer ∈ config.trustedPeers, peer ≠ "")) := by
  have hgate : overBudget config 0 1 = false ↔ ¬ Float.ofNat budget < 0 + 1 := by
    rw [overBudget, hbudget]
    simp
  rw [← hgate]
  change _ ↔ ¬ CanGoRemote config
  constructor
  · intro hbounded hcan
    obtain ⟨request, hremote, hone⟩ := exists_remote_of_canGoRemote hcan
    have htotal : totalCharged config (List.replicate (budget + 1) request) = budget + 1 := by
      simp [totalCharged, charged, hremote, hone]
    have hle := hbounded (List.replicate (budget + 1) request)
    omega
  · intro hcannot requests
    have hnone : ∀ request ∈ requests, charged config request = 0 :=
      fun request _ ↦ if_neg fun hremote ↦ hcannot (canGoRemote_of_isRemote hremote)
    have hzero : totalCharged config requests = 0 := by
      rw [totalCharged, List.map_congr_left hnone]
      simp
    omega

/-- Gates with a session budget of so many credits. -/
def budgetConfig (credits : ℕ) : CipConfig :=
  { CipConfig.default with enabled := true, sessionCreditBudget := some (Float.ofNat credits) }

/-- A budget of nothing is kept. -/
theorem no_budget_kept :
    (budgetConfig 0).sessionCreditBudget = some (Float.ofNat 0) ∧
      ∀ requests, totalCharged (budgetConfig 0) requests ≤ 0 :=
  ⟨rfl, (session_budget_bounds_iff (budgetConfig 0) 0 rfl).mpr fun h ↦ h.2.2.1 (by decide +kernel)⟩

def sampleProxyRequest : ProxyRequest := ⟨[⟨"node-00000001", true, 1, none⟩], .object [], none, 0⟩

/-- Two requests are charged with two credits under a budget of one. -/
theorem two_requests_over_budget :
    (budgetConfig 1).sessionCreditBudget = some (Float.ofNat 1) ∧
      totalCharged (budgetConfig 1) [sampleProxyRequest, sampleProxyRequest] = 2 :=
  ⟨rfl, by decide +kernel⟩

/-! ### Remote plans -/

def cipField (body : Json) (name : String) : Option Json := (body.get "cip").bind (get · name)

/-- What the check of a request gives. It does not look at a policy that is not a text. -/
structure ValidFields (body : Json) : Prop where
  policy : ∀ name, cipField body "policy" = some (.string name) → name ∈ validCipPolicies
  replicas : 1 ≤ replicasOf body ∧ replicasOf body ≤ 10
  odd : cipField body "policy" = some (.string "majority_vote") → replicasOf body % 2 = 1
  quorum : ∀ quorum ∈ cipField body "quorum",
    ∃ count, quorum.asI64 = some count ∧ 1 ≤ count ∧ count ≤ replicasOf body

/-- What a plan with a set of workers should satisfy. -/
structure WellFormedPlan (nodes : List CipWorkerCandidate) (body : Json) (config : CipConfig)
    (trustScope : Option CipTrustScope) (now : ℕ) (ids : List String) : Prop
    extends ValidFields body where
  text : ∀ policy ∈ cipField body "policy", ∃ name, policy = .string name
  members : ∀ id ∈ ids, ∃ worker ∈ nodes, worker.nodeId = id ∧ Usable config trustScope now worker
  enough : replicasOf body ≤ ids.toFinset.card

lemma validFields_of_none {body : Json} (h : validateCipRequestFields body = none) :
    ValidFields body := by
  have hfield : ∀ name, cipField body name =
      ((body.get "cip").bind asObject).bind (getField · name) := by
    intro name
    rw [Option.bind_assoc]
    rfl
  have hreplicas : replicasOf body = ((cipField body "replicas").bind asI64).getD 1 := rfl
  rw [validateCipRequestFields] at h
  generalize (body.get "cip").bind asObject = cip at h hfield
  cases cip with
  | none => constructor <;> simp [hreplicas, hfield]
  | some =>
    simp only [Option.bind_some] at hfield
    dsimp only at h
    rw [← hfield "policy", ← hfield "quorum", ← hfield "replicas"] at h
    split_ifs at h with hpolicy hrange hodd
    constructor
    case policy =>
      intro name hname
      simpa [hname, asStr] using hpolicy
    case quorum =>
      intro quorum hquorum
      rw [hquorum] at h
      dsimp only at h
      split_ifs at h with hlow hhigh
      cases hcount : quorum.asI64 with
      | none => simp [hcount] at hlow
      | some count =>
        rw [hcount] at hlow hhigh
        exact ⟨count, rfl, by simpa using hlow, not_lt.mp hhigh⟩
    all_goals
      rw [hreplicas]
      cases hvalue : cipField body "replicas" with
      | none => simp
      | some value => cases hcount : value.asI64 <;> simp_all [asStr]

/-- A plan with a set of workers is well formed exactly when its policy is not something else than a
text, and usable workers are discovered under as many ids as there are replicas. They are if no two
of them have the same id. -/
theorem remote_plan_well_formed_iff {nodes : List CipWorkerCandidate} {body : Json}
    {config : CipConfig} {trustScope : Option CipTrustScope} {taskId : String} {qos : Option String}
    {consumerBalance : Option Float} {now : ℕ} {plan : CipDispatchPlan} {ids : List String}
    (hplan : computeCipEnvelope nodes body config trustScope taskId qos consumerBalance now =
      .ok plan) (hids : plan.allowedNodeIds = some ids) :
    (WellFormedPlan nodes body config trustScope now ids ↔
        (∀ policy ∈ cipField body "policy", ∃ name, policy = .string name) ∧
          replicasOf body ≤ (usableIds nodes config trustScope now).ncard) ∧
      ((nodes.Pairwise fun first second ↦ Usable config trustScope now first →
          Usable config trustScope now second → first.nodeId ≠ second.nodeId) →
        replicasOf body ≤ (usableIds nodes config trustScope now).ncard) := by
  obtain ⟨⟨-, -, hvalid, -, -, -, -, hfew⟩, rfl⟩ :=
    (computeCipEnvelope_allowed_iff ids).mp ⟨plan, hplan, hids⟩
  rw [ncard_usableIds, ← nodup_eligibleWorkers_iff]
  refine ⟨⟨fun hplan ↦ ⟨hplan.text, hplan.enough⟩, fun ⟨htext, henough⟩ ↦ ?_⟩, fun hdistinct ↦ ?_⟩
  · exact ⟨validFields_of_none hvalid, htext,
      fun id hid ↦ (mem_eligibleWorkers_iff _ _ _ _ _).mp hid, henough⟩
  · simp only [tooFew, decide_eq_false_iff_not, not_lt] at hfew
    rw [List.toFinset_card_of_nodup hdistinct]
    exact (le_max_left _ _).trans hfew

/-- A request for two replicas for which some workers are discovered. -/
def replicatedRequest (names : List String) : ProxyRequest :=
  ⟨names.map (⟨·, true, 1, none⟩), .object [("cip", .object [("replicas", ofU64 2)])], none, 0⟩

def openConfig : CipConfig := { CipConfig.default with enabled := true }

theorem two_workers_well_formed :
    let request := replicatedRequest ["node-a", "node-b"]
    WellFormedPlan request.nodes request.body openConfig none 0 ["node-a", "node-b"] := by
  have hplan : (replicatedRequest ["node-a", "node-b"]).plan openConfig =
      .ok ⟨buildCipEnvelope .remote "cip-task" "cip-sess-cip-task", some ["node-a", "node-b"]⟩ := by
    decide +kernel
  have hnone : cipField (replicatedRequest ["node-a", "node-b"]).body "policy" = none := rfl
  obtain ⟨hformed, henough⟩ := remote_plan_well_formed_iff hplan rfl
  exact hformed.mpr ⟨by simp [hnone], henough (by simp [replicatedRequest])⟩

/-- A worker that is discovered twice counts as two. -/
theorem doubled_worker_planned :
    let request := replicatedRequest ["node-a", "node-a"]
    ((request.plan openConfig).toOption.bind CipDispatchPlan.allowedNodeIds) =
        some ["node-a", "node-a"] ∧
      replicasOf request.body = 2 ∧ ["node-a", "node-a"].toFinset.card = 1 := by
  decide +kernel

end Iicp.Proxy
