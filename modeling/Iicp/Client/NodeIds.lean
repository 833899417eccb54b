import Iicp.Client.TrustedRoutes

/-!
# The starts of node ids

The client prints, sends and returns the first eight bytes of a node id that the directory chose, and
the registration probe prints those of its own. A slice that ends inside of a character is a panic.
`node_ids_return_iff` says for each of these places that it goes on exactly if the ids that it cuts
have a character boundary there (`Cuttable`). The ids that a collection of tickets cuts are those that
the answers of the directory name: with ids that can be cut no directory makes it panic
(`delivers_ticketRounds`), and with any other id one does (`not_returns_naming`).
-/

namespace Iicp.Client

open Rust Interaction Confidentiality
open Outcome (returns_ok returns_err returns_bind)

variable (nodeId : String)

/-- The id has at most eight bytes, or a character ends after its first eight. -/
def Cuttable : Prop :=
  ∃ before after, nodeId.toList = before ++ after ∧
    byteLength before = min (byteLength nodeId.toList) 8

lemma returns_nodeShortId_iff {ε : Type} {nodeId : String} :
    (nodeShortId nodeId : Outcome ε String).Returns ↔ Cuttable nodeId := returns_sliceTo_iff

lemma nodeShortId_cases (ε : Type) (nodeId : String) :
    (Cuttable nodeId ∧ ∃ short, (nodeShortId nodeId : Outcome ε String) = .ok short) ∨
      (¬ Cuttable nodeId ∧ (nodeShortId nodeId : Outcome ε String) = .panicked) := by
  rw [← returns_nodeShortId_iff, nodeShortId, sliceTo]
  cases splitAtByte nodeId.toList _ with
  | none => exact .inr ⟨Outcome.not_returns_panicked, rfl⟩
  | some => exact .inl ⟨returns_ok _, _, rfl⟩

/-! ### The registration probe -/

structure ProbeResult where
  testId : String
  passed : Bool
  message : String
  deriving DecidableEq, Repr

def checkRegistered (nodeToken : Option String) : Outcome Empty ProbeResult :=
  if nodeId ≠ "" ∧ nodeToken.any (· ≠ "") then do
    let short ← if 8 < byteLength nodeId.toList then do
        let start ← sliceTo nodeId 8
        .ok (start ++ "…")
      else .ok nodeId
    .ok ⟨"CONF-REG-01", true, "Registered (" ++ short ++ ")"⟩
  else if nodeId ≠ "" then do
    let short ← nodeShortId nodeId
    .ok ⟨"CONF-REG-01", true, "node_id set (" ++ short ++ "…); token not tracked by SDK"⟩
  else .ok ⟨"CONF-REG-01", false, "node_id empty — register() not yet called"⟩

lemma cuttable_of_short {nodeId : String} (h : byteLength nodeId.toList ≤ 8) : Cuttable nodeId :=
  ⟨nodeId.toList, [], (List.append_nil _).symm, (min_eq_left h).symm⟩

lemma returns_checkRegistered_iff (nodeToken : Option String) :
    (checkRegistered nodeId nodeToken).Returns ↔ Cuttable nodeId := by
  unfold checkRegistered
  split_ifs with hregistered hlong hnamed
  · rw [← returns_nodeShortId_iff (ε := Empty), nodeShortId, min_eq_right hlong.le]
    simp [returns_bind]
  · simpa using cuttable_of_short (not_lt.mp hlong)
  · simp [returns_bind, returns_nodeShortId_iff]
  · obtain rfl := not_not.mp hnamed
    simpa using cuttable_of_short (by decide)

/-! ### The client -/

section Client

variable (world : World) (client : IicpClient)

/-- The ids that are cut for the report of an unsafe endpoint. -/
def unsafeIds (allowed : Option (List String)) (nodes : List Node) : List String :=
  (nodes.filter fun node ↦ !(allowed.any fun ids ↦ !ids.contains node.nodeId) &&
    !isSsrfSafe world node.endpoint).map (·.nodeId)

/-- The ids that are cut for the report of a missing key. -/
def keylessIds (plaintext : Bool) (nodes : List Node) : List String :=
  (nodes.filter fun node ↦ node.cxPublicKey.isNone && !plaintext).map (·.nodeId)

/-- The ids of the nodes that the ticket answers of a directory name. -/
def ticketIds : Set String :=
  {nodeId | ∃ log status body node, world.ticketAnswer log = .answered status (some body) ∧
    Node.fromValue (ticketRoute body) = some node ∧ node.nodeId = nodeId}

lemma returns_keptNodes_iff (allowed : Option (List String)) (nodes : List Node) :
    (keptNodes world allowed nodes).Returns ↔
      ∀ nodeId ∈ unsafeIds world allowed nodes, Cuttable nodeId := by
  induction nodes with
  | nil => exact iff_of_true (returns_ok _) (List.forall_mem_nil _)
  | cons node rest ih =>
    rw [keptNodes, keepsNode, unsafeIds, List.filter_cons]
    cases allowed.any fun ids ↦ !ids.contains node.nodeId with
    | true => simpa [unsafeIds, returns_bind] using ih
    | false =>
      cases isSsrfSafe world node.endpoint with
      | true => simpa [unsafeIds, returns_bind] using ih
      | false =>
        obtain ⟨hcut, _, hshort⟩ | ⟨hcut, hshort⟩ := nodeShortId_cases IicpError node.nodeId
        · simpa [unsafeIds, returns_bind, hshort, hcut] using ih
        · simp [hshort, hcut]

lemma returns_reportKeyless_iff (plaintext : Bool) (nodes : List Node) :
    (reportKeyless plaintext nodes).Returns ↔
      ∀ nodeId ∈ keylessIds plaintext nodes, Cuttable nodeId := by
  induction nodes with
  | nil => exact iff_of_true (returns_ok _) (List.forall_mem_nil _)
  | cons node rest ih =>
    rw [reportKeyless, keylessIds, List.filter_cons]
    cases node.cxPublicKey.isNone && !plaintext with
    | false => exact ih
    | true =>
      obtain ⟨hcut, _, hshort⟩ | ⟨hcut, hshort⟩ := nodeShortId_cases IicpError node.nodeId
      · simpa [keylessIds, hshort, hcut] using ih
      · simp [hshort, hcut]

/-! ### Collecting ticketed nodes -/

section Rounds

variable {world} {config : ClientConfig} {intent : String}

lemma delivers_askDirectory (event : HttpAnswer → Event) :
    Delivers (fun answer ↦ ∃ log, world.ticketAnswer log = answer)
      (ask world.ticketAnswer event : Interaction CallState Event TicketRouteError HttpAnswer) :=
  delivers_of_ok fun _ log ↦ ⟨_, rfl, log, rfl⟩

lemma delivers_postTicket (url : String) (request : Json) (left : ℕ) :
    Delivers (fun answer ↦ ∃ log, world.ticketAnswer log = .answered answer.1 answer.2)
      (postTicket world url request left) := by
  induction left with
  | zero =>
    refine (delivers_askDirectory _).bind fun answer hanswer ↦ ?_
    cases answer with
    | answered => exact delivers_pure _ hanswer
    | failed => exact delivers_fail _
  | succ left ih =>
    refine (delivers_askDirectory _).bind fun answer hanswer ↦ ?_
    cases answer with
    | answered => exact delivers_pure _ hanswer
    | failed detail connect =>
      cases connect with
      | true => exact ih
      | false => exact delivers_fail _

lemma delivers_askTicket (url : String) (request : Json) :
    Delivers (fun answer ↦ ∃ log, world.ticketAnswer log = .answered answer.1 (some answer.2))
      (askTicket world config url request) := by
  unfold askTicket
  cases config.restrictedDirectory with
  | none =>
    refine (delivers_postTicket url request 2).bind fun ⟨status, body⟩ hanswer ↦ ?_
    refine delivers_ofOutcome_bind (by simp) fun _ _ ↦ ?_
    refine delivers_ofOutcome_bind (by simp) fun found h ↦ ?_
    rw [Outcome.okOr_eq_ok_iff] at h
    exact delivers_pure _ (h ▸ hanswer)
  | some context =>
    have hcredential : Delivers (fun _ ↦ True) (membershipCredential world context) :=
      delivers_bind_of_ok (fun _ _ ↦ ⟨_, rfl⟩) fun _ ↦
        delivers_ofOutcome (by simp) fun _ _ ↦ trivial
    refine (hcredential.mapErr _).bind fun credential _ ↦ ?_
    refine (delivers_askDirectory _).bind fun answer hanswer ↦ ?_
    refine delivers_ofOutcome_bind ?_ fun _ _ ↦ delivers_ofOutcome ?_ fun found hfound ↦ ?_
    · cases answer <;> simp [HttpAnswer.refuseRedirect]
    · cases answer with
      | failed => simp [HttpAnswer.json]
      | answered status body => cases body <;> simp [HttpAnswer.json]
    · rw [Outcome.mapErr_eq_ok_iff] at hfound
      cases answer with
      | failed => nomatch hfound
      | answered status body =>
        cases body with
        | none => nomatch hfound
        | some body =>
          obtain rfl := Outcome.ok.inj hfound
          exact hanswer

/-- Assumes: the directory gives the answer. The id of its node is one that the directory names. -/
lemma delivers_acceptTicket {status : ℕ} {body : Json}
    (hanswer : ∃ log, world.ticketAnswer log = .answered status (some body)) :
    Delivers (fun node ↦ node.nodeId ∈ ticketIds world)
      (acceptTicket world config intent status body) := by
  have heligibility : Delivers (fun _ ↦ True) (ticketEligibility world config body) := by
    unfold ticketEligibility
    cases config.restrictedDirectory with
    | none => exact delivers_pure _ trivial
    | some context =>
      refine delivers_bind_of_ok (fun _ _ ↦ ⟨_, rfl⟩) fun now ↦ ?_
      refine delivers_ofOutcome_bind (by simp [validateDecision, returns_bind]) fun _ _ ↦ ?_
      exact delivers_bind_of_ok (fun _ _ ↦ ⟨_, rfl⟩) fun _ ↦ delivers_pure _ trivial
  have hfetched : Delivers (fun _ ↦ True) (fetchDirectoryKey world config) := by
    refine delivers_bind_of_ok (fun _ _ ↦ ⟨_, rfl⟩) fun state ↦ ?_
    cases state.dispatchTicketKey with
    | some => exact delivers_pure _ trivial
    | none =>
      refine delivers_bind_of_ok (fun _ _ ↦ ⟨_, rfl⟩) fun answer ↦ ?_
      cases answer.publicKey with
      | some => exact delivers_of_ok fun _ _ ↦ ⟨_, rfl, trivial⟩
      | none => exact delivers_pure _ trivial
  refine heligibility.bind fun eligibility _ ↦ hfetched.bind fun _ _ ↦ ?_
  refine delivers_bind_of_ok (fun _ _ ↦ ⟨_, rfl⟩) fun state ↦ ?_
  refine delivers_bind_of_ok (fun _ _ ↦ ⟨_, rfl⟩) fun nowS ↦ ?_
  refine delivers_ofOutcome_bind (by simp) ?_
  rintro ⟨token, key, claims⟩ -
  refine delivers_bind_of_ok (fun _ _ ↦ ⟨_, rfl⟩) fun _ ↦ ?_
  refine delivers_ofOutcome_bind (by simp) fun _ _ ↦ ?_
  refine delivers_ofOutcome_bind (by simp) fun node hnode ↦ ?_
  rw [Outcome.okOr_eq_ok_iff] at hnode
  obtain ⟨log, hlog⟩ := hanswer
  exact delivers_pure _ ⟨log, status, body, node, hlog, hnode, rfl⟩

lemma delivers_ticketRound (opts : DiscoverOptions) (excluded : List String) :
    Delivers (fun found ↦ ∀ node ∈ found, node.nodeId ∈ ticketIds world)
      (ticketRound world config intent opts excluded) := by
  refine (delivers_askTicket _ _).bind fun ⟨status, body⟩ hanswer ↦ ?_
  refine delivers_ofOutcome_bind (by simp) fun _ _ ↦ ?_
  split_ifs
  · refine (delivers_acceptTicket hanswer).bind fun node hnode ↦ delivers_pure _ ?_
    rintro _ ⟨⟩
    exact hnode
  · refine delivers_ofOutcome_bind ?_ fun _ _ ↦ delivers_pure _ (by simp)
    unfold ticketRefused
    extract_lets errorCode
    split_ifs <;> simp

lemma delivers_ticketRounds (hcut : ∀ nodeId ∈ ticketIds world, Cuttable nodeId)
    (opts : DiscoverOptions) (left : ℕ) (excluded : List String) :
    Delivers (fun _ ↦ True) (ticketRounds world config intent opts left excluded) := by
  induction left generalizing excluded with
  | zero => exact delivers_pure _ trivial
  | succ left ih =>
    refine (delivers_ticketRound opts excluded).bind fun found hfound ↦ ?_
    cases found with
    | none => exact delivers_pure _ trivial
    | some node =>
      refine delivers_ofOutcome_bind ?_ fun short _ ↦ (ih _).bind fun _ _ ↦ delivers_pure _ trivial
      exact returns_nodeShortId_iff.mpr (hcut _ (hfound node rfl))

end Rounds

/-! ### A directory that names a node -/

section Naming

lemma ticketWorld_naming :
    GivesOneTicket (ticketWorld nodeId sampleListed) ticketedConfig chatIntent
      (ticketBody nodeId sampleListed) noRouteBody sampleTicket sampleDirectoryKey 1800000000
      { sampleClaims with nodeId } { sampleNode with nodeId } :=
  ticketWorld_gives rfl rfl

lemma ticketIds_naming : ticketIds (ticketWorld nodeId sampleListed) ⊆ {nodeId} := by
  rintro _ ⟨log, status, body, node, hanswer, hnode, rfl⟩
  have hnone : Node.fromValue (ticketRoute noRouteBody) = none := by decide +kernel
  cases log with
  | nil =>
    cases hanswer
    rw [(ticketWorld_naming nodeId).parsed] at hnode
    rw [← Option.some.inj hnode]
    rfl
  | cons =>
    cases hanswer
    rw [hnone] at hnode
    nomatch hnode

lemma not_returns_naming {nodeId : String} (hcut : ¬ Cuttable nodeId) :
    ¬ (ticketedCandidates (ticketWorld nodeId sampleListed) ticketedConfig chatIntent .default
      ⟨none⟩ []).1.Returns := by
  obtain ⟨hcuts, -⟩ | ⟨-, hpanics⟩ := nodeShortId_cases TicketRouteError nodeId
  · exact absurd hcuts hcut
  rw [ticketedCandidates, maxRetries, ticketRounds, bind_of_ok (ticketWorld_naming nodeId).ticketRound]
  have hrouted : (nodeShortId (routedNode (ticketBody nodeId sampleListed)
      { sampleNode with nodeId }).nodeId : Outcome TicketRouteError String) = .panicked := hpanics
  dsimp only
  rw [hrouted]
  exact Outcome.not_returns_panicked

end Naming

/-- Filtering a node list, collecting ticketed nodes, making the receipt of a task and probing the
registration do not panic exactly if the ids that they cut can be cut: those of the nodes with an
unsafe endpoint, those of the nodes without a key where one is needed, those of the nodes that a
directory may name with its tickets, and the one of the node that answered. -/
theorem node_ids_return_iff :
    (∀ allowed nodes, (keptNodes world allowed nodes).Returns ↔
      ∀ nodeId ∈ unsafeIds world allowed nodes, Cuttable nodeId) ∧
    (∀ request nodes, (eligibleNodes world client request nodes).Returns ↔
      ∀ nodeId ∈ keylessIds (allowPlaintext world client request) nodes, Cuttable nodeId) ∧
    (∀ ids : Set String, (∀ directory : World, ticketIds directory ⊆ ids →
        ∀ config intent opts state log,
          (ticketedCandidates directory config intent opts state log).1.Returns) ↔
      ∀ nodeId ∈ ids, Cuttable nodeId) ∧
    (∀ request receipt node candidateIndex secret response opened,
      (if requiresEncryptedResponse node then openResponse world request secret response
        else .ok response) = .ok opened →
      ((finishResponse world client request receipt node candidateIndex secret response).Returns ↔
        Cuttable node.nodeId)) ∧
    ∀ nodeId nodeToken, (checkRegistered nodeId nodeToken).Returns ↔ Cuttable nodeId := by
  refine ⟨returns_keptNodes_iff world, ?_, ?_, ?_, returns_checkRegistered_iff⟩
  · intro request nodes
    rw [← returns_reportKeyless_iff]
    simp [eligibleNodes, returns_bind]
  · refine fun ids ↦ ⟨fun h nodeId hid ↦ ?_, fun hcut directory hids config intent opts state log ↦ ?_⟩
    · by_contra hcut
      refine not_returns_naming hcut (h (ticketWorld nodeId sampleListed) ?_ _ _ _ _ _)
      exact (ticketIds_naming nodeId).trans (Set.singleton_subset_iff.mpr hid)
    · exact (delivers_ticketRounds (fun nodeId hid ↦ hcut nodeId (hids hid)) opts maxRetries []
        state log).1
  · intro request receipt node candidateIndex secret response opened hopened
    unfold finishResponse
    split_ifs at hopened ⊢ <;> simp [returns_bind, hopened, returns_nodeShortId_iff]

end Client

/-- An id of the directory whose eighth byte is the first of two of a character. -/
theorem split_character_panics :
    ¬ Cuttable "1234567é" ∧ checkRegistered "1234567é" none = .panicked ∧
      (∀ world node, node.nodeId = "1234567é" → isSsrfSafe world node.endpoint = false →
        ¬ (keptNodes world none [node]).Returns) ∧
      ¬ (ticketedCandidates (ticketWorld "1234567é" sampleListed) ticketedConfig chatIntent .default
        ⟨none⟩ []).1.Returns := by
  have hprobe : checkRegistered "1234567é" none = .panicked := by decide +kernel
  have hcut : ¬ Cuttable "1234567é" := by
    rw [← returns_checkRegistered_iff _ none, hprobe]
    exact Outcome.not_returns_panicked
  refine ⟨hcut, hprobe, fun world node hid hunsafe hreturns ↦ hcut ?_, not_returns_naming hcut⟩
  exact (returns_keptNodes_iff world none [node]).mp hreturns _ (by simp [unsafeIds, hid, hunsafe])

end Iicp.Client
