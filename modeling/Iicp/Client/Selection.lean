import Iicp.Client.Types

/-!
# The order in which nodes are tried

Of the nodes that may receive a prompt, at most three are tried. The built-in strategies put one
node first by a random draw, or keep the order of the list. A ranker of the user may then put
another one first: it sees a redacted view of the nodes and answers with a reference, which must be
one of those that it was given.

Whatever the draws and the ranker, no node is added: `mem_builtInCandidates` and
`mem_applyCandidateRanker`.
-/

namespace Iicp.Client

open Rust Outcome

def maxRetries : ℕ := 3

/-! ### Built-in strategies -/

/-- The larger of two floats; a value that is not a number does not count. -/
def maxF64 (first second : Float) : Float :=
  if first.isNaN then second else if second.isNaN then first
  else if first < second then second else first

def clampF64 (value low high : Float) : Float :=
  if value < low then low else if high < value then high else value

/-- The position at which so much weight is used up. -/
def pickWeighted (remaining : Float) : List Float → Option ℕ
  | [] => none
  | weight :: rest =>
    if remaining - weight ≤ 0 then some 0
    else (pickWeighted (remaining - weight) rest).map (· + 1)

def weightedV1Index (scores loads : List Float) (randomValue : Float) : ℕ :=
  let weights := (scores.zip loads).map fun (score, load) ↦
    maxF64 score 0.01 / (1 + clampF64 load 0 1)
  let remaining := clampF64 randomValue 0 0.999999999 * weights.foldl (· + ·) 0
  (pickWeighted remaining weights).getD (weights.length - 1)

def softmaxIndex (scores : List Float) (tau randomValue : Float) : ℕ :=
  let maxScore := scores.foldl maxF64 (-1 / 0)
  let weights := scores.map fun score ↦ Float.exp ((score - maxScore) / maxF64 tau 0.001)
  (pickWeighted (randomValue * weights.foldl (· + ·) 0) weights).getD 0

/-- The chosen node, and then the first of the others. -/
def chosenFirst (nodes : List Node) (chosen : Node) : List Node :=
  chosen :: ((nodes.take maxRetries).filter fun node ↦ node.nodeId != chosen.nodeId).take
    (maxRetries - 1)

/-- The nodes that are tried without a ranker. The draws are a number below one and a number below
a bound. -/
def builtInCandidates {ε : Type} (config : ClientConfig) (nodes : List Node) (randomUnit : Float)
    (randomBelow : ℕ → ℕ) : Outcome ε (List Node) :=
  let topK := min (max config.routingTopK 1) nodes.length
  let pool := nodes.take topK
  if config.routingStrategy = "deterministic" ∨ nodes.length ≤ 1 then .ok (nodes.take maxRetries)
  else if config.routingStrategy = "weighted_v1" then do
    let chosen ← index nodes (weightedV1Index (pool.map Node.score) (pool.map Node.load) randomUnit)
    .ok (chosenFirst nodes chosen)
  else if config.routingStrategy = "softmax_top_k" then do
    let chosen ← index pool (softmaxIndex (pool.map Node.score) config.routingSoftmaxTau randomUnit)
    .ok (chosenFirst nodes chosen)
  else if randomUnit < config.routingEpsilon then do
    let chosen ← index nodes (randomBelow nodes.length)
    .ok (chosenFirst nodes chosen)
  else .ok (nodes.take maxRetries)

lemma mem_of_index {ε α : Type} {items : List α} {position : ℕ} {item : α}
    (h : (index items position : Outcome ε α) = .ok item) : item ∈ items := by
  unfold index at h
  cases hitem : items[position]? with
  | none => simp [hitem] at h
  | some found =>
    obtain rfl : found = item := by simpa [hitem] using h
    exact List.mem_of_getElem? hitem

lemma mem_chosenFirst {nodes : List Node} {chosen node : Node} (hchosen : chosen ∈ nodes)
    (h : node ∈ chosenFirst nodes chosen) : node ∈ nodes := by
  rcases List.mem_cons.mp h with rfl | hrest
  · exact hchosen
  · exact List.mem_of_mem_take (List.mem_of_mem_filter (List.mem_of_mem_take hrest))

lemma mem_builtInCandidates {ε : Type} {config : ClientConfig} {nodes candidates : List Node}
    {randomUnit : Float} {randomBelow : ℕ → ℕ}
    (h : (builtInCandidates config nodes randomUnit randomBelow : Outcome ε _) = .ok candidates)
    {node : Node} (hnode : node ∈ candidates) : node ∈ nodes := by
  have htake : ∀ {list : List Node}, (.ok (nodes.take maxRetries) : Outcome ε _) = .ok list →
      node ∈ list → node ∈ nodes := by
    intro list hlist hmem
    rw [← ok.inj hlist] at hmem
    exact List.mem_of_mem_take hmem
  have hchosen : ∀ {pool : List Node} {position : ℕ}, (∀ other ∈ pool, other ∈ nodes) →
      ((index pool position >>= fun chosen ↦ .ok (chosenFirst nodes chosen) : Outcome ε _) =
        .ok candidates) → node ∈ nodes := by
    intro pool position hpool hbind
    obtain ⟨chosen, hindex, hlist⟩ := (bind_eq_ok_iff _ _ _).mp hbind
    rw [← ok.inj hlist] at hnode
    exact mem_chosenFirst (hpool chosen (mem_of_index hindex)) hnode
  unfold builtInCandidates at h
  dsimp only at h
  split_ifs at h
  · exact htake h hnode
  · exact hchosen (fun _ hother ↦ hother) h
  · exact hchosen (fun _ hother ↦ List.mem_of_mem_take hother) h
  · exact hchosen (fun _ hother ↦ hother) h
  · exact htake h hnode

/-! ### A ranker of the user -/

/-- What a ranker sees of a node. -/
structure CandidateEvidenceV0 where
  schemaVersion : String
  candidateRef : String
  models : List String
  directoryScore : Float
  load : Float
  healthLabel : Option String
  directoryObservedReachable : Option Bool

structure RankerRequest where
  requestRef : String
  intent : String
  request : TaskRequest

inductive RankerMode where
  | normal
  | exploration
  deriving DecidableEq, Repr

def RankerMode.receiptValue : RankerMode → String
  | .normal => "normal"
  | .exploration => "exploration"

structure RankerDecision where
  candidateRef : String
  policyId : String
  mode : RankerMode
  deriving DecidableEq, Repr

/-- A ranker may refuse, decline or decide. -/
abbrev CandidateRanker :=
  RankerRequest → List CandidateEvidenceV0 → Except String (Option RankerDecision)

structure AppliedRanker where
  candidates : List Node
  decision : Option RankerDecision

variable (digest : String → String)

/-- A reference that does not show the value: the digest crate hashes a text. -/
def opaqueRef (domain value : String) : String :=
  digest ("iicp:" ++ domain ++ ":v0\n" ++ value)

def candidateEvidenceV0 (node : Node) : CandidateEvidenceV0 where
  schemaVersion := "iicp-candidate-evidence-v0"
  candidateRef := opaqueRef digest "candidate" node.nodeId
  models := node.models.getD []
  directoryScore := node.score
  load := node.load
  healthLabel := node.healthLabel
  directoryObservedReachable := node.directoryObservedReachable

def isPolicyIdChar (char : Char) : Bool :=
  char.isAlphanum || ['.', '_', '-'].contains char

def validatePolicyId (value : String) : Outcome String Unit :=
  require (value != "" && byteLength value.toList ≤ 64 && value.toList.all isPolicyIdChar)
    "candidate ranker policy_id must be 1-64 ASCII letters, digits, '.', '_' or '-'"

def applyCandidateRanker (ranker : CandidateRanker)
    (request : TaskRequest) (eligible builtInOrder : List Node) (limit : ℕ) :
    Outcome String AppliedRanker := do
  let evidence := eligible.map (candidateEvidenceV0 digest)
  let context : RankerRequest := ⟨opaqueRef digest "request" request.taskId, request.intent, request⟩
  match ← ofExcept id (ranker context evidence) with
  | none => .ok ⟨builtInOrder, none⟩
  | some decision => do
    validatePolicyId decision.policyId
    let selectedIndex ← okOr
      "candidate ranker selected a reference outside the eligible candidate set"
      (evidence.findIdx? fun candidate ↦ candidate.candidateRef == decision.candidateRef)
    let selected ← index eligible selectedIndex
    .ok ⟨selected :: (builtInOrder.filter fun candidate ↦ candidate.nodeId != selected.nodeId).take
      (limit - 1), some decision⟩

def rankerReceiptProfile (decision : RankerDecision) (selectedCandidateIndex : ℕ) : String :=
  let mode := if selectedCandidateIndex = 0 then decision.mode.receiptValue else "fallback"
  "external_ranker/" ++ decision.policyId ++ "/" ++ mode

lemma mem_applyCandidateRanker {digest : String → String} {ranker : CandidateRanker}
    {request : TaskRequest} {eligible builtInOrder : List Node} {limit : ℕ} {applied : AppliedRanker}
    (h : applyCandidateRanker digest ranker request eligible builtInOrder limit = .ok applied)
    (hbuiltIn : ∀ node ∈ builtInOrder, node ∈ eligible) {node : Node}
    (hnode : node ∈ applied.candidates) : node ∈ eligible := by
  obtain ⟨decision, -, hdecision⟩ := (bind_eq_ok_iff _ _ _).mp h
  cases decision with
  | none =>
    obtain rfl := ok.inj hdecision
    exact hbuiltIn node hnode
  | some =>
    simp only [bind_eq_ok_iff] at hdecision
    obtain ⟨-, -, _, -, _, hselected, happlied⟩ := hdecision
    obtain rfl := ok.inj happlied
    rcases List.mem_cons.mp hnode with rfl | hrest
    · exact mem_of_index hselected
    · exact hbuiltIn node (List.mem_of_mem_filter (List.mem_of_mem_take hrest))

end Iicp.Client
