import Iicp.Node.Registration

/-!
# The key that heartbeats and receipts are signed with

A node signs heartbeat challenges and receipts with its runtime key. An operator may configure a key,
and the directory may send one with the answer to a registration. The first registration prefers the
key of the operator. The other places that register take any key that the answer holds.

`keyAnswer` is the answer that an event registers again with, if it does, and
`runtimeHmacKey_step` says what an event does to the key. By `operator_key_wins_iff` the key of the
operator is used at every moment of a run exactly if no such answer holds another key.
-/

namespace Iicp.Node

open Concurrent Rust

/-- The steps of a node, with the drift check that a caller may ask for. -/
inductive KeyEvent where
  | step (event : RegistrationEvent)
  | checkModelDrift (live : List String) (response : Option Json)
  deriving DecidableEq

namespace IicpNode

variable (config : NodeConfig) (node : IicpNode)

/-- The endpoint is not the one that was registered; before the first registration there is none to
compare with. -/
def endpointChanged : Bool :=
  node.registeredEndpoint != "" && node.effectiveEndpoint config != node.registeredEndpoint

/-- A drift check of endpoint and models together. -/
def checkModelDriftAndReregister (live : List String) (response : Option Json) : IicpNode :=
  let modelsChanged := node.driftDue config live
  if !node.endpointChanged config && !modelsChanged then node
  else
    let payload := node.buildRegisterPayload config
    let newPayload :=
      if modelsChanged then { payload with capabilities := config.buildCapabilities live } else payload
    match reregister response with
    | none => node
    | some credentials =>
      { node.accept newPayload credentials with
        registeredModels := if modelsChanged then live else node.registeredModels
        registeredEndpoint := node.effectiveEndpoint config }

def keyStep (event : KeyEvent) : IicpNode :=
  match event with
  | .step event => node.step config event
  | .checkModelDrift live response =>
    if node.exited then node else node.checkModelDriftAndReregister config live response

/-- The answer to a registration that an event sends, other than the first registration. -/
def keyAnswer (event : KeyEvent) : Option Json :=
  if node.exited then none
  else
    match event with
    | .step (.drift live response) =>
      if node.hbRegisterPayload.isSome && node.driftDue config live then response else none
    | .step (.rotate publicAvailable response) =>
      if node.hbRegisterPayload.isSome &&
        node.endpointOverride.any (node.rotationDue publicAvailable) then response else none
    | .step (.recover check response) =>
      if node.hbRegisterPayload.isSome && node.recoveryAction config check == .reregister then response
      else none
    | .step (.unknown response) => if node.hbRegisterPayload.isSome then response else none
    | .step (.bind _ _ _ response) => if node.relayRegisterPayload.isSome then response else none
    | .checkModelDrift live response =>
      if node.endpointChanged config || node.driftDue config live then response else none
    | .step _ => none

end IicpNode

def offeredKey (response : Option Json) : Option String :=
  (reregister response).bind RegistrationCredentials.nodeHmacKey

open IicpNode

section Steps

variable {config : NodeConfig} {node : IicpNode}

/-- What the answer to a registration does to the key, wherever it is sent. -/
lemma runtimeHmacKey_of_answer {response : Option Json} {without : IicpNode}
    {taken : RegistrationCredentials → IicpNode}
    (hwithout : without.runtimeHmacKey = node.runtimeHmacKey)
    (htaken : ∀ credentials, (taken credentials).runtimeHmacKey =
      credentials.nodeHmacKey.getD node.runtimeHmacKey) :
    (match reregister response with
      | none => without
      | some credentials => taken credentials).runtimeHmacKey =
      (offeredKey response).getD node.runtimeHmacKey := by
  unfold offeredKey
  cases reregister response with
  | none => exact hwithout
  | some credentials => exact htaken credentials

lemma runtimeHmacKey_drift (live : List String) (response : Option Json)
    (payload : RegisterPayload) :
    (node.drift config live response payload).runtimeHmacKey =
      (offeredKey (if node.driftDue config live then response else none)).getD
        node.runtimeHmacKey := by
  unfold drift
  split_ifs with hdue
  · exact runtimeHmacKey_of_answer rfl fun _ ↦ rfl
  · rfl

lemma runtimeHmacKey_rotate (publicAvailable : Bool) (response : Option Json)
    (payload : RegisterPayload) :
    (node.rotate publicAvailable response payload).runtimeHmacKey =
      (offeredKey (if node.endpointOverride.any (node.rotationDue publicAvailable) then response
        else none)).getD node.runtimeHmacKey := by
  unfold rotate
  cases node.endpointOverride with
  | none => rfl
  | some =>
    dsimp only
    rw [Option.any_some]
    split_ifs with hdue
    · exact runtimeHmacKey_of_answer rfl fun _ ↦ rfl
    · rfl

lemma runtimeHmacKey_recover (check : RecoveryCheck) (response : Option Json)
    (payload : RegisterPayload) :
    (node.recover config check response payload).runtimeHmacKey =
      (offeredKey (if node.recoveryAction config check == .reregister then response
        else none)).getD node.runtimeHmacKey := by
  unfold recover
  cases node.recoveryAction config check with
  | reregister => exact runtimeHmacKey_of_answer rfl fun _ ↦ rfl
  | restartSelf => cases config.recoverySupervised <;> rfl
  | _ => rfl

lemma runtimeHmacKey_checkModelDrift (live : List String) (response : Option Json) :
    (node.checkModelDriftAndReregister config live response).runtimeHmacKey =
      (offeredKey (if node.endpointChanged config || node.driftDue config live then response
        else none)).getD node.runtimeHmacKey := by
  unfold checkModelDriftAndReregister
  dsimp only
  by_cases hdue : (node.endpointChanged config || node.driftDue config live)
  · have hgo : ¬ (!node.endpointChanged config && !node.driftDue config live) := by
      rw [← Bool.not_or, hdue]
      decide
    rw [if_neg hgo, if_pos hdue]
    exact runtimeHmacKey_of_answer rfl fun _ ↦ rfl
  · have hstop : (!node.endpointChanged config && !node.driftDue config live) := by
      rw [← Bool.not_or, Bool.eq_false_iff.mpr hdue]
      rfl
    rw [if_pos hstop, if_neg hdue]
    rfl

lemma runtimeHmacKey_withPayload {captured : Option RegisterPayload} {answer : Option Json}
    {next : RegisterPayload → IicpNode}
    (hnext : ∀ payload, (next payload).runtimeHmacKey =
      (offeredKey answer).getD node.runtimeHmacKey) :
    (node.withPayload captured next).runtimeHmacKey =
      (offeredKey (if captured.isSome then answer else none)).getD node.runtimeHmacKey := by
  cases captured with
  | none => rfl
  | some payload => exact hnext payload

lemma ite_and_none {first second : Bool} {response : Option Json} :
    (if first && second then response else none) =
      if first then (if second then response else none) else none := by
  cases first <;> rfl

/-- An event takes the key of the answer that it registers again with, and no other. -/
lemma runtimeHmacKey_step (hoperator : config.nodeHmacKey ≠ "") (event : KeyEvent) :
    (node.keyStep config event).runtimeHmacKey =
      (offeredKey (node.keyAnswer config event)).getD node.runtimeHmacKey := by
  unfold keyStep keyAnswer
  by_cases hexited : node.exited
  · rw [if_pos hexited]
    cases event with
    | step =>
      dsimp only
      rw [step, if_pos hexited]
      rfl
    | checkModelDrift =>
      dsimp only
      rw [if_pos hexited]
      rfl
  rw [if_neg hexited]
  cases event with
  | checkModelDrift live response =>
    dsimp only
    rw [if_neg hexited]
    exact runtimeHmacKey_checkModelDrift live response
  | step event =>
    dsimp only
    rw [step, if_neg hexited]
    cases event with
    | register response =>
      dsimp only [register]
      cases reregister response with
      | none => rfl
      | some => exact if_neg hoperator
    | drift live response =>
      dsimp only
      rw [ite_and_none]
      exact runtimeHmacKey_withPayload (runtimeHmacKey_drift live response)
    | rotate publicAvailable response =>
      dsimp only
      rw [ite_and_none]
      exact runtimeHmacKey_withPayload (runtimeHmacKey_rotate publicAvailable response)
    | recover check response =>
      dsimp only
      rw [ite_and_none]
      exact runtimeHmacKey_withPayload (runtimeHmacKey_recover check response)
    | unknown | bind =>
      exact runtimeHmacKey_withPayload fun _ ↦ runtimeHmacKey_of_answer rfl fun _ ↦ rfl
    | _ => rfl

end Steps

/-- An event registers again, and the answer holds a key that is not the operator's. -/
def OffersOther (config : NodeConfig) (node : IicpNode) (event : KeyEvent) : Prop :=
  ∃ key ∈ offeredKey (node.keyAnswer config event), key ≠ config.nodeHmacKey

/-- Heartbeats and receipts are signed with the key of the operator. -/
def SignsAsOperator (config : NodeConfig) (node : IicpNode) : Prop :=
  node.runtimeHmacKey = config.nodeHmacKey

/-- Assumes: a key of the operator. At every moment of a run, with any registrations, drift checks,
heartbeats and relays and any answers of the directory, heartbeats and receipts are signed with that
key, exactly if no answer to a registration after the first kind holds another key. -/
theorem operator_key_wins_iff (config : NodeConfig) (hoperator : config.nodeHmacKey ≠ "")
    (seed : String) (events : List KeyEvent) :
    (∀ position, SignsAsOperator config
        (stateAt (keyStep config) (.fresh config seed) events position)) ↔
      ∀ position event, events[position]? = some event →
        ¬ OffersOther config
          (stateAt (keyStep config) (.fresh config seed) events position) event := by
  have hstart : SignsAsOperator config (.fresh config seed) := rfl
  refine always_iff hstart (fun _ hkey ↦ hkey) ?_ ?_
  · intro position event _ hkey hsame
    rw [SignsAsOperator, runtimeHmacKey_step hoperator]
    cases hoffered : offeredKey (keyAnswer config _ event) with
    | none => exact hkey
    | some key => exact not_not.mp fun hother ↦ hsame ⟨key, hoffered, hother⟩
  · rintro _ _ _ _ ⟨_, hoffered, hother⟩
    rw [SignsAsOperator, runtimeHmacKey_step hoperator, hoffered]
    exact hother

def operatorConfig : NodeConfig := { tunnelConfig with nodeHmacKey := "operator" }

def keyedAcceptance : Option Json :=
  some (.object [("node_hmac_key", .string "directory"), ("node_token", .string "tok")])

/-- The node registers, its loop starts, and the directory has lost the node and registers it again
with a key of its own. -/
def lostNode : List KeyEvent :=
  [.step (.register keyedAcceptance), .step (.serve "tok"), .step (.unknown keyedAcceptance)]

/-- The first answer does not replace the key of the operator, the second does. -/
theorem operator_key_replaced :
    let moment := stateAt (keyStep operatorConfig) (.fresh operatorConfig "") lostNode
    operatorConfig.nodeHmacKey = "operator" ∧ (moment 1).runtimeHmacKey = "operator" ∧
      (moment 3).runtimeHmacKey = "directory" := by
  decide +kernel

/-- The same steps with an answer that holds no key the second time. -/
def foundNode : List KeyEvent :=
  [.step (.register keyedAcceptance), .step (.serve "tok"), .step (.unknown acceptance)]

theorem operator_key_wins_found :
    operatorConfig.nodeHmacKey = "operator" ∧ ∀ position, SignsAsOperator operatorConfig
      (stateAt (keyStep operatorConfig) (.fresh operatorConfig "") foundNode position) := by
  refine ⟨rfl, (operator_key_wins_iff operatorConfig (by decide) "" foundNode).mpr ?_⟩
  rintro _ event hevent ⟨_, hkey, _⟩
  have hnone : ∀ event ∈ foundNode, event ≠ .step (.unknown acceptance) →
      ∀ node : IicpNode, node.keyAnswer operatorConfig event = none := by
    intro event hmem hother node
    simp only [foundNode, List.mem_cons, List.not_mem_nil, or_false] at hmem
    rcases hmem with rfl | rfl | rfl
    · exact ite_self none
    · exact ite_self none
    · exact absurd rfl hother
  by_cases hlast : event = .step (.unknown acceptance)
  · have hoffered : ∀ node : IicpNode, offeredKey (node.keyAnswer operatorConfig event) = none := by
      intro node
      rw [hlast, keyAnswer]
      split_ifs <;> rfl
    rw [hoffered] at hkey
    nomatch hkey
  · rw [hnone event (List.mem_of_getElem? hevent) hlast] at hkey
    nomatch hkey

end Iicp.Node
