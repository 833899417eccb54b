import Iicp.Concurrent.EventMachine
import Iicp.Rust.HashMap
import Iicp.Rust.Json
import Iicp.Rust.Str
import Iicp.Stream.SelfDelimiting

/-!
# A node and its registration

A node registers at a directory with an endpoint and with the models of its backend, and remembers
both (`registeredEndpoint`, `registeredModels`) so that its heartbeat loop can tell when they have
changed. The loop captures the payload of the registration when it starts and sends variants of it
from five places: when the models of the backend have changed, when the endpoint of its tunnel has
changed, when a recovery check finds the node absent, when the directory does not know the node any
more, and when a relay is bound.

The model is a machine over these steps with the last payload that the directory has accepted.
`Coherent` says that what the node remembers is that payload. Coherence is kept exactly if no
variant is accepted in which a part that is not replaced differs from what is remembered at that
moment (`Stale`, `registration_coherent_iff`).

The capabilities of a payload partition the models of the backend (`capabilities_partition`).
-/

namespace Iicp.Node

open Concurrent Rust

/-! ### Payloads -/

/-- What a node offers for one intent. -/
structure Capability where
  intent : String
  models : List String
  maxTokens : ℕ
  (inputModalities supportedProfiles : List String)
  deriving DecidableEq

/-- The parts of a registration that differ between the places that send one. -/
structure RegisterPayload where
  endpoint : String
  capabilities : List Capability
  (currentNodeToken transportMethod : Option String)
  transportMetadata : Option Json
  deriving DecidableEq

def RegisterPayload.modelSet (payload : RegisterPayload) : Finset String :=
  (payload.capabilities.flatMap Capability.models).toFinset

/-- The configuration of a node. The lower case of the full character set is a table of the standard
library and stays a parameter. -/
structure NodeConfig where
  endpoint : String
  model : Option String
  (capabilities excludedModels : List String)
  backend : Option String
  effectiveCapabilities : List Capability
  intent : String
  maxTokens : ℕ
  supportedProfiles : List String
  transportMethod : Option String
  transportMetadata : Option Json
  nodeHmacKey : String
  recoveryGrace : ℕ
  recoverySupervised : Bool
  unicodeLowercase : String → String

namespace NodeConfig

variable (config : NodeConfig)

def intentForModel (model : String) : String :=
  if containsText (toLowercase model config.unicodeLowercase) "embed" then
    "urn:iicp:intent:llm:embedding:v1"
  else config.intent

/-- The kinds of input that a model takes, by its name. -/
def modalitiesForModel (model : String) : List String :=
  let name := toLowercase model config.unicodeLowercase
  let hasImage := containsText name "-vl-" || endsWith name "-vl" || containsText name "vision" ||
    containsText name "llava" || containsText name "omni"
  let hasAudio := containsText name "audio" || containsText name "voxtral" || containsText name "omni"
  ["text"] ++ (if hasImage then ["image"] else []) ++ (if hasAudio then ["audio"] else [])

/-- Models of one intent with the same kinds of input. -/
structure Group where
  intent : String
  (modalities models : List String)

/-- A group takes a model once. -/
def Group.insert (model : String) (group : Group) : Group :=
  if group.models.contains model then group else { group with models := group.models ++ [model] }

/-- The groups by their keys, and the keys in the order of their first models. -/
structure Grouped where
  order : List String
  groups : HashMap String Group

/-- The entry of a key, with a group for a key that has none. -/
def Grouped.enter (grouped : Grouped) (key : String) (group : Group) : Grouped :=
  if key ∈ grouped.groups then grouped
  else ⟨grouped.order ++ [key], grouped.groups.insert key group⟩

def groupOf (model : String) : String × List String :=
  (config.intentForModel model, config.modalitiesForModel model)

def groupKey (group : String × List String) : String :=
  group.1 ++ "\x00" ++ ",".intercalate group.2

def addModel (grouped : Grouped) (model : String) : Grouped :=
  let (intent, modalities) := config.groupOf model
  let key := groupKey (config.groupOf model)
  let entered := grouped.enter key ⟨intent, modalities, []⟩
  { entered with groups := entered.groups.modify key (Group.insert model) }

/-- One capability for each group; nothing is returned if the `expect` on a key of the order fails. -/
def buildCapabilitiesWithProfiles (models : List String) : Option (List Capability) :=
  let profiles := config.supportedProfiles.eraseDups
  if models.isEmpty then some [⟨config.intent, [], config.maxTokens, ["text"], profiles⟩]
  else
    let grouped := models.foldl config.addModel ⟨[], ∅⟩
    (HashMap.takeAll grouped.order grouped.groups).map (List.map fun group ↦
      ⟨group.intent, group.models, config.maxTokens, group.modalities, profiles⟩)

/-- The capabilities of a list of models; `buildCapabilitiesWithProfiles_eq` says that the `expect`
does not fail. -/
def buildCapabilities (models : List String) : List Capability :=
  (config.buildCapabilitiesWithProfiles models).getD []

def filterPublicBackendModels (models : List String) : List String :=
  models.filter fun model ↦ !(config.excludedModels.contains model ||
    config.backend == some "meshllm" && startsWith model "local-gguf/sha256-")

def configuredModels : List String :=
  config.filterPublicBackendModels (config.capabilities.foldl
    (fun models capability ↦ if models.contains capability then models else models ++ [capability])
    config.model.toList)

/-- The models of the capabilities that were given explicitly, each once. -/
def effectiveCapabilityModels : List String :=
  (config.effectiveCapabilities.flatMap Capability.models).foldl
    (fun models model ↦ if models.contains model then models else models ++ [model]) []

def startupModels : List String :=
  if config.effectiveCapabilities.isEmpty then config.configuredModels
  else config.effectiveCapabilityModels

end NodeConfig

/-! ### The state of a node -/

structure RegistrationCredentials where
  nodeToken : String
  nodeHmacKey : Option String
  deriving DecidableEq

/-- The credentials in the answer to a registration; nothing stands for an exchange that fails. -/
def reregister (response : Option Json) : Option RegistrationCredentials := do
  let data ← response
  let token ← ((data.field "node_token").asStr).or (data.field "token").asStr
  some ⟨token, (data.field "node_hmac_key").asStr.filter (· ≠ "")⟩

/-- A node with its registration, and the last payload that the directory has accepted. -/
structure IicpNode where
  registeredEndpoint : String
  registeredModels : List String
  endpointOverride : Option String
  runtimeToken : String
  runtimeHmacKey : String
  runtimeRelayBound : Bool
  /-- The payload and the token that the heartbeat loop has captured. -/
  hbRegisterPayload : Option RegisterPayload
  token : String
  recoveryFailures : ℕ
  /-- The payload that the relay worker has captured. -/
  relayRegisterPayload : Option RegisterPayload
  exited : Bool
  directory : Option RegisterPayload
  deriving DecidableEq

inductive DirectoryPresence where
  | present
  | absent
  | unknown
  deriving DecidableEq, Repr

inductive RecoveryState where
  | healthy
  | localUnhealthy
  | backendAttention
  | routeMismatch
  | tunnelCoolingDown
  | directoryAbsent
  | limitedReach
  | restartRecommended
  | unknown
  deriving DecidableEq, Repr

inductive RecoveryAction where
  | none
  | reregister
  | waitCooldown
  | markUnavailable
  | restartSelf
  | operatorEndpointNeeded
  | backendAttention
  deriving DecidableEq, Repr

structure RecoveryCheck where
  presence : DirectoryPresence
  (routeNeedsPromotion runtimeAvailable backendAttention : Bool)
  deriving DecidableEq, Repr

def classify (localHealthOk publicAvailable : Bool) (presence : DirectoryPresence)
    (consecutiveFailures graceChecks : ℕ) (backendAttention : Bool) :
    RecoveryState × RecoveryAction :=
  if !localHealthOk then (.localUnhealthy, .restartSelf)
  else if backendAttention then (.backendAttention, .backendAttention)
  else if !publicAvailable then
    if graceChecks ≤ consecutiveFailures then (.restartRecommended, .restartSelf)
    else (.limitedReach, .waitCooldown)
  else
    match presence with
    | .present => (.healthy, .none)
    | .absent =>
      if graceChecks ≤ consecutiveFailures then (.routeMismatch, .restartSelf)
      else (.directoryAbsent, .reregister)
    | .unknown => (.unknown, .none)

/-- A bound relay is a public route, whatever the directory says about the direct one. -/
def effectivePublicRouteAvailable (runtimeAvailable routeNeedsPromotion relayBound : Bool) : Bool :=
  runtimeAvailable && (relayBound || !routeNeedsPromotion)

/-- The steps of a node. A step that sends a registration comes with the answer to it. -/
inductive RegistrationEvent where
  /-- The watchdog of the tunnel publishes an endpoint. -/
  | setEndpoint (endpoint : String)
  | register (response : Option Json)
  /-- The heartbeat loop starts with a token. -/
  | serve (nodeToken : String)
  /-- The relay worker starts. -/
  | startRelay
  /-- After a heartbeat that succeeds: the models of the backend. -/
  | drift (live : List String) (response : Option Json)
  /-- After a heartbeat that succeeds: the endpoint of the tunnel. -/
  | rotate (publicAvailable : Bool) (response : Option Json)
  /-- After a heartbeat that succeeds: a recovery check. -/
  | recover (check : RecoveryCheck) (response : Option Json)
  /-- After a heartbeat that the directory answers with 401, 404 or 410. -/
  | unknown (response : Option Json)
  /-- The relay worker is bound to a relay. -/
  | bind (host : String) (port : ℕ) (worker : String) (response : Option Json)
  /-- The session with the relay ends. -/
  | unbind
  deriving DecidableEq

namespace IicpNode

variable (config : NodeConfig) (node : IicpNode)

/-- A node that was made with a token of an earlier run, or with none. -/
def fresh (seed : String) : IicpNode where
  registeredEndpoint := ""
  registeredModels := []
  endpointOverride := none
  runtimeToken := seed
  runtimeHmacKey := config.nodeHmacKey
  runtimeRelayBound := false
  hbRegisterPayload := none
  token := ""
  recoveryFailures := 0
  relayRegisterPayload := none
  exited := false
  directory := none

def effectiveEndpoint : String := node.endpointOverride.getD config.endpoint

def attachCurrentNodeToken (token : String) (payload : RegisterPayload) : RegisterPayload :=
  if token = "" then payload else { payload with currentNodeToken := some token }

def buildRegisterPayload : RegisterPayload :=
  attachCurrentNodeToken node.runtimeToken
    { endpoint := node.effectiveEndpoint config
      capabilities :=
        if config.effectiveCapabilities.isEmpty then config.buildCapabilities config.configuredModels
        else config.effectiveCapabilities
      currentNodeToken := none
      transportMethod := config.transportMethod
      transportMetadata := config.transportMetadata }

/-- The directory accepts a payload and the node takes its credentials. -/
def accept (payload : RegisterPayload) (credentials : RegistrationCredentials) : IicpNode :=
  { node with
    directory := some payload
    runtimeToken := credentials.nodeToken
    runtimeHmacKey := credentials.nodeHmacKey.getD node.runtimeHmacKey }

/-- An empty endpoint takes the published one back. -/
def setEndpoint (endpoint : String) : IicpNode :=
  { node with endpointOverride := if endpoint = "" then none else some endpoint }

/-- The first registration. A key of the operator is not replaced by that of the directory. -/
def register (response : Option Json) : IicpNode :=
  match reregister response with
  | none => node
  | some credentials =>
    { node.accept (node.buildRegisterPayload config) credentials with
      runtimeHmacKey :=
        if config.nodeHmacKey = "" then credentials.nodeHmacKey.getD node.runtimeHmacKey
        else node.runtimeHmacKey
      registeredModels := config.startupModels
      registeredEndpoint := node.effectiveEndpoint config }

def serve (nodeToken : String) : IicpNode :=
  { node with hbRegisterPayload := some (node.buildRegisterPayload config), token := nodeToken }

def startRelay : IicpNode :=
  { node with relayRegisterPayload := some (node.buildRegisterPayload config) }

variable (live : List String)

/-- The models of the backend are not those that are remembered. An empty list is no evidence, and
explicit capabilities are never replaced. -/
def driftDue : Bool :=
  config.effectiveCapabilities.isEmpty && !live.isEmpty &&
    live.toFinset != node.registeredModels.toFinset

def driftPayload (payload : RegisterPayload) : RegisterPayload :=
  { attachCurrentNodeToken node.token payload with capabilities := config.buildCapabilities live }

def drift (response : Option Json) (payload : RegisterPayload) : IicpNode :=
  if node.driftDue config live then
    match reregister response with
    | none => node
    | some credentials =>
      { node.accept (node.driftPayload config live payload) credentials with
        registeredModels := live
        token := credentials.nodeToken }
  else node

/-- The published endpoint is not the one that is remembered, and the node can be reached. -/
def rotationDue (publicAvailable : Bool) (endpoint : String) : Bool :=
  publicAvailable && endpoint != node.registeredEndpoint

def rotate (publicAvailable : Bool) (response : Option Json) (payload : RegisterPayload) : IicpNode :=
  match node.endpointOverride with
  | none => node
  | some endpoint =>
    if node.rotationDue publicAvailable endpoint then
      match reregister response with
      | none => node
      | some credentials =>
        { node.accept
            { payload with endpoint := endpoint, currentNodeToken := some node.token } credentials with
          registeredEndpoint := endpoint
          token := credentials.nodeToken }
    else node

variable (check : RecoveryCheck)

def recoveryRoute : Bool :=
  effectivePublicRouteAvailable check.runtimeAvailable check.routeNeedsPromotion
    node.runtimeRelayBound

/-- The failures in a row, counted in 32 bits without overflow. -/
def recoveryCount : ℕ :=
  if !node.recoveryRoute check || check.presence == .absent then
    min (node.recoveryFailures + 1) (2 ^ 32 - 1)
  else if check.presence == .present then 0
  else node.recoveryFailures

def recoveryAction : RecoveryAction :=
  (classify true (node.recoveryRoute check) check.presence (node.recoveryCount check)
    config.recoveryGrace check.backendAttention).2

def recoveryPayload (payload : RegisterPayload) : RegisterPayload :=
  { payload with
    endpoint := node.endpointOverride.getD payload.endpoint
    currentNodeToken := some node.token }

def recover (response : Option Json) (payload : RegisterPayload) : IicpNode :=
  let counted := { node with recoveryFailures := node.recoveryCount check }
  match node.recoveryAction config check with
  | .reregister =>
    match reregister response with
    | none => counted
    | some credentials =>
      { counted.accept (node.recoveryPayload payload) credentials with
        registeredEndpoint := (node.recoveryPayload payload).endpoint
        token := credentials.nodeToken
        recoveryFailures := 0 }
  | .restartSelf => if config.recoverySupervised then { counted with exited := true } else counted
  | _ => counted

/-- The captured payload is sent as it is. -/
def afterUnknown (response : Option Json) (payload : RegisterPayload) : IicpNode :=
  match reregister response with
  | none => node
  | some credentials => { node.accept payload credentials with token := credentials.nodeToken }

def relayEndpoint (host : String) (port : ℕ) (worker : String) : String :=
  "http://" ++ host ++ ":" ++ toString port ++ "/v1/relay-for/" ++ worker

def relayPayload (host : String) (port : ℕ) (worker : String) (payload : RegisterPayload) :
    RegisterPayload :=
  attachCurrentNodeToken node.runtimeToken
    { payload with
      endpoint := relayEndpoint host port worker
      transportMethod := some "turn_relay"
      transportMetadata := some (.object [("relay_for", .string worker),
        ("relay_host", .string host), ("relay_port", .ofU64 port)]) }

/-- The relay is bound whether or not the directory accepts it. The token of the heartbeat loop
stays. -/
def bind (host : String) (port : ℕ) (worker : String) (response : Option Json)
    (payload : RegisterPayload) : IicpNode :=
  let bound := { node with runtimeRelayBound := true }
  match reregister response with
  | none => bound
  | some credentials =>
    { bound.accept (node.relayPayload host port worker payload) credentials with
      registeredEndpoint := (node.relayPayload host port worker payload).endpoint }

/-- A step of a task that has captured a payload. -/
def withPayload (payload : Option RegisterPayload) (next : RegisterPayload → IicpNode) : IicpNode :=
  match payload with
  | none => node
  | some payload => next payload

/-- A step of the node. A process that has ended does nothing. -/
def step (event : RegistrationEvent) : IicpNode :=
  if node.exited then node
  else
    let inLoop := node.withPayload node.hbRegisterPayload
    let inRelay := node.withPayload node.relayRegisterPayload
    match event with
    | .setEndpoint endpoint => node.setEndpoint endpoint
    | .register response => node.register config response
    | .serve nodeToken => node.serve config nodeToken
    | .startRelay => node.startRelay config
    | .drift live response => inLoop (node.drift config live response)
    | .rotate publicAvailable response => inLoop (node.rotate publicAvailable response)
    | .recover check response => inLoop (node.recover config check response)
    | .unknown response => inLoop (node.afterUnknown response)
    | .bind host port worker response => inRelay (node.bind host port worker response)
    | .unbind => { node with runtimeRelayBound := false }

end IicpNode

/-! ### Ticks of the loop -/

/-- One round of the loop: the status of the heartbeat, if there is an answer, what the backend and
the runtime show, whether a recovery check is due, and the answers to the registrations. -/
structure Tick where
  status : Option ℕ
  liveModels : Option (List String)
  publicAvailable : Bool
  recoveryCheck : Option RecoveryCheck
  (driftResponse rotateResponse recoverResponse unknownResponse : Option Json)

/-- The steps of a round, in their order. Other steps of the node may come in between. -/
def Tick.events (tick : Tick) : List RegistrationEvent :=
  match tick.status with
  | none => []
  | some status =>
    if 200 ≤ status ∧ status < 300 then
      (tick.liveModels.map fun live ↦ .drift live tick.driftResponse).toList ++
        [.rotate tick.publicAvailable tick.rotateResponse] ++
        (tick.recoveryCheck.map fun check ↦ .recover check tick.recoverResponse).toList
    else if status = 401 ∨ status = 404 ∨ status = 410 then [.unknown tick.unknownResponse]
    else []

/-! ### Coherence -/

/-- What the node remembers is what the directory has accepted last. So once the loop runs, a
published endpoint that the directory does not have, and models that it does not have, are found
after the next heartbeat that succeeds, and the directory has them as soon as it accepts. -/
structure Coherent (config : NodeConfig) (node : IicpNode) : Prop where
  endpoint : ∀ accepted ∈ node.directory, node.registeredEndpoint = accepted.endpoint
  models : ∀ accepted ∈ node.directory, node.registeredModels.toFinset = accepted.modelSet
  rotationResent : ∀ accepted ∈ node.directory, ∀ payload ∈ node.hbRegisterPayload,
    ∀ endpoint ∈ node.endpointOverride, ∀ response, (reregister response).isSome = true →
    (node.rotate true response payload).directory.map RegisterPayload.endpoint = some endpoint
  driftResent : ∀ accepted ∈ node.directory, ∀ payload ∈ node.hbRegisterPayload,
    config.effectiveCapabilities = [] → ∀ live ≠ [], ∀ response,
    (reregister response).isSome = true →
    (node.drift config live response payload).directory.map RegisterPayload.modelSet =
      some live.toFinset

/-- The event sends a captured payload that the directory accepts, and a part of it that the event
neither replaces nor remembers is not what the node remembers. -/
def Stale (config : NodeConfig) (node : IicpNode) (event : RegistrationEvent) : Prop :=
  node.exited = false ∧
    match event with
    | .drift live response => ∃ payload ∈ node.hbRegisterPayload,
        node.driftDue config live = true ∧ (reregister response).isSome = true ∧
        node.registeredEndpoint ≠ payload.endpoint
    | .rotate publicAvailable response => ∃ payload ∈ node.hbRegisterPayload,
        ∃ endpoint ∈ node.endpointOverride, node.rotationDue publicAvailable endpoint = true ∧
        (reregister response).isSome = true ∧ node.registeredModels.toFinset ≠ payload.modelSet
    | .recover check response => ∃ payload ∈ node.hbRegisterPayload,
        node.recoveryAction config check = .reregister ∧ (reregister response).isSome = true ∧
        node.registeredModels.toFinset ≠ payload.modelSet
    | .unknown response => ∃ payload ∈ node.hbRegisterPayload, (reregister response).isSome = true ∧
        (node.registeredEndpoint ≠ payload.endpoint ∨
          node.registeredModels.toFinset ≠ payload.modelSet)
    | .bind _ _ _ response => ∃ payload ∈ node.relayRegisterPayload,
        (reregister response).isSome = true ∧ node.registeredModels.toFinset ≠ payload.modelSet
    | _ => False

/-! ### The models of a payload -/

section Lists

variable {α : Type} [BEq α] [LawfulBEq α]

lemma eraseDups_concat (items : List α) (item : α) :
    (items ++ [item]).eraseDups =
      if items.contains item then items.eraseDups else items.eraseDups ++ [item] := by
  rw [List.eraseDups_append]
  split_ifs with hmem <;> simp_all [List.removeAll, List.eraseDups_cons]

lemma nodup_eraseDups (items : List α) : items.eraseDups.Nodup := by
  induction items using List.reverseRecOn with
  | nil => simp
  | append_singleton items item ih =>
    rw [eraseDups_concat]
    split_ifs with hmem
    · exact ih
    · exact ih.append (List.nodup_singleton item) (by simpa using hmem)

end Lists

namespace NodeConfig

variable (config : NodeConfig)

def inputKinds : List (List String) :=
  [["text"], ["text", "audio"], ["text", "image"], ["text", "image", "audio"]]

lemma modalitiesForModel_mem (model : String) : config.modalitiesForModel model ∈ inputKinds := by
  unfold modalitiesForModel inputKinds
  dsimp only
  split_ifs <;> simp

/-- The key of a model determines its group: no kind of input holds the separator. -/
lemma groupKey_inj {model other : String}
    (h : groupKey (config.groupOf model) = groupKey (config.groupOf other)) :
    config.groupOf model = config.groupOf other := by
  have hclean : ∀ kinds ∈ inputKinds, '\x00' ∉ (",".intercalate kinds).toList.reverse := by decide
  have hkinds : ∀ first ∈ inputKinds, ∀ second ∈ inputKinds,
      (",".intercalate first).toList.reverse = (",".intercalate second).toList.reverse →
        first = second := by decide
  have hmodel := config.modalitiesForModel_mem model
  have hother := config.modalitiesForModel_mem other
  have hchars := congrArg (fun key : String ↦ key.toList.reverse) h
  simp only [groupKey, groupOf, String.toList_append, List.reverse_append] at hchars
  obtain ⟨hsame, hintent⟩ := Stream.append_separator_inj (hclean _ hmodel) (hclean _ hother)
    (by simpa using hchars)
  exact Prod.ext (String.toList_inj.mp (List.reverse_inj.mp hintent))
    (hkinds _ hmodel _ hother hsame)

variable (models : List String)

def groupFor (group : String × List String) : Group :=
  ⟨group.1, group.2, models.eraseDups.filter (config.groupOf · = group)⟩

/-- The order and the map after a list of models: the groups of the models, in the order of first
occurrence. -/
structure GroupedAs (grouped : Grouped) : Prop where
  order : grouped.order = (models.map config.groupOf).eraseDups.map groupKey
  lookup : ∀ model, grouped.groups.lookup (groupKey (config.groupOf model)) =
    if config.groupOf model ∈ models.map config.groupOf then
      some (config.groupFor models (config.groupOf model)) else none

lemma insert_groupFor (model other : String) :
    (if groupKey (config.groupOf other) = groupKey (config.groupOf model) then
      (config.groupFor models (config.groupOf other)).insert model
      else config.groupFor models (config.groupOf other)) =
      config.groupFor (models ++ [model]) (config.groupOf other) := by
  simp only [groupFor, eraseDups_concat, List.contains_iff_mem]
  by_cases hsame : config.groupOf other = config.groupOf model
  · by_cases hmodel : model ∈ models <;> simp [Group.insert, hsame, hmodel]
  · rw [if_neg fun h ↦ hsame (config.groupKey_inj h)]
    by_cases hmodel : model ∈ models <;> simp [List.filter_append, hmodel, Ne.symm hsame]

lemma addModel_groupedAs {grouped : Grouped} (h : config.GroupedAs models grouped) (model : String) :
    config.GroupedAs (models ++ [model]) (config.addModel grouped model) := by
  have hmem : groupKey (config.groupOf model) ∈ grouped.groups ↔
      config.groupOf model ∈ models.map config.groupOf := by
    rw [← AList.lookup_isSome, h.lookup]
    split_ifs with hgroup <;> simp [hgroup]
  have hentered : ∀ other, (grouped.enter (groupKey (config.groupOf model))
      ⟨(config.groupOf model).1, (config.groupOf model).2, []⟩).groups.lookup
        (groupKey (config.groupOf other)) =
      if config.groupOf other ∈ (models ++ [model]).map config.groupOf then
        some (config.groupFor models (config.groupOf other)) else none := by
    intro other
    by_cases hgroup : config.groupOf model ∈ models.map config.groupOf
    · rw [Grouped.enter, if_pos (hmem.mpr hgroup), h.lookup]
      by_cases hsame : config.groupOf other = config.groupOf model <;> simp_all
    · rw [Grouped.enter, if_neg (mt hmem.mp hgroup)]
      by_cases hsame : config.groupOf other = config.groupOf model
      · have hnone : models.eraseDups.filter (config.groupOf · = config.groupOf model) = [] := by
          simpa using hgroup
        rw [hsame, AList.lookup_insert]
        simp [groupFor, hnone]
      · rw [AList.lookup_insert_ne (mt config.groupKey_inj hsame), h.lookup]
        simp [hsame]
  constructor
  · simp only [addModel, Grouped.enter, List.map_append, List.map_singleton, eraseDups_concat, hmem,
      List.contains_iff_mem]
    split_ifs <;> simp [h.order]
  · intro other
    simp only [addModel, HashMap.lookup_modify, hentered, ← insert_groupFor]
    split_ifs <;> rfl

lemma foldl_addModel : config.GroupedAs models (models.foldl config.addModel ⟨[], ∅⟩) := by
  induction models using List.reverseRecOn with
  | nil => exact ⟨rfl, fun _ ↦ rfl⟩
  | append_singleton models model ih =>
    rw [List.foldl_append]
    exact config.addModel_groupedAs models ih model

/-- Every key of the order has its group. -/
lemma buildCapabilitiesWithProfiles_eq (hmodels : models ≠ []) :
    config.buildCapabilitiesWithProfiles models =
      some ((models.map config.groupOf).eraseDups.map fun group ↦
        ⟨group.1, models.eraseDups.filter (config.groupOf · = group), config.maxTokens, group.2,
          config.supportedProfiles.eraseDups⟩) := by
  have hgrouped := config.foldl_addModel models
  have hmem : ∀ group ∈ (models.map config.groupOf).eraseDups, ∃ model ∈ models,
      config.groupOf model = group := by simp
  have hnodup : ((models.map config.groupOf).eraseDups.map groupKey).Nodup := by
    refine (nodup_eraseDups _).map_on fun first hfirst second hsecond hkey ↦ ?_
    obtain ⟨model, -, rfl⟩ := hmem first hfirst
    obtain ⟨other, -, rfl⟩ := hmem second hsecond
    exact config.groupKey_inj hkey
  have htaken := HashMap.takeAll_map (models.foldl config.addModel ⟨[], ∅⟩).groups
    (config.groupFor models) hnodup fun group hgroup ↦ by
      obtain ⟨model, hmodel, rfl⟩ := hmem group hgroup
      rw [hgrouped.lookup, if_pos (List.mem_map_of_mem hmodel)]
  simp only [buildCapabilitiesWithProfiles, hgrouped.order, htaken]
  simp [hmodels, groupFor]

/-- The capabilities of a list of models are for these models. -/
lemma modelSet_buildCapabilities :
    ((config.buildCapabilities models).flatMap Capability.models).toFinset = models.toFinset := by
  ext found
  unfold buildCapabilities
  by_cases hempty : models = []
  · simp [hempty, buildCapabilitiesWithProfiles]
  · have hfound : (∃ model ∈ models, found ∈ models ∧ config.groupOf found = config.groupOf model) ↔
        found ∈ models := ⟨fun ⟨_, _, hmem, _⟩ ↦ hmem, fun hmem ↦ ⟨found, hmem, hmem, rfl⟩⟩
    simpa [config.buildCapabilitiesWithProfiles_eq models hempty] using hfound

/-- The capabilities of models: one for each group in the order of first occurrence, each with the
models of its group in the order of first occurrence and all profiles. Groups are distinct, every
model occurs once, and nothing else does. No `expect` fails on the way. -/
theorem capabilities_partition (config : NodeConfig) (model : String) (rest : List String) :
    let models := model :: rest
    let capabilities := config.buildCapabilities models
    config.buildCapabilitiesWithProfiles models = some capabilities ∧
      (capabilities = (models.map config.groupOf).eraseDups.map fun group ↦
      ⟨group.1, models.eraseDups.filter (config.groupOf · = group), config.maxTokens, group.2,
        config.supportedProfiles.eraseDups⟩) ∧
      (capabilities.map fun found ↦ (found.intent, found.inputModalities)).Nodup ∧
      (capabilities.flatMap Capability.models).Nodup ∧
      ∀ found, found ∈ capabilities.flatMap Capability.models ↔ found ∈ models := by
  intro models capabilities
  have hbuilt := config.buildCapabilitiesWithProfiles_eq models (List.cons_ne_nil _ _)
  have hform : capabilities = _ := (congrArg (Option.getD · []) hbuilt).trans Option.getD_some
  have hgroups := nodup_eraseDups (models.map config.groupOf)
  refine ⟨hbuilt.trans (congrArg some hform.symm), hform, ?_, ?_, fun found ↦ ?_⟩
  · rw [hform, List.map_map]
    simpa [Function.comp_def] using hgroups
  · rw [hform, List.flatMap_map, List.nodup_flatMap]
    refine ⟨fun group _ ↦ (nodup_eraseDups models).filter _, hgroups.imp ?_⟩
    intro first second hne found hfirst hsecond
    simp only [List.mem_filter, decide_eq_true_eq] at hfirst hsecond
    exact hne (hfirst.2.symm.trans hsecond.2)
  · simpa using Finset.ext_iff.mp (config.modelSet_buildCapabilities models) found

lemma mem_foldl_once (texts : List String) (other : String) : ∀ kept : List String,
    other ∈ texts.foldl
        (fun kept text ↦ if kept.contains text then kept else kept ++ [text]) kept ↔
      other ∈ kept ∨ other ∈ texts := by
  induction texts with
  | nil => simp
  | cons text rest ih =>
    intro kept
    rw [List.foldl_cons, ih, List.mem_cons]
    by_cases hmem : text ∈ kept
    · have hold : other = text → other ∈ kept := fun heq ↦ heq ▸ hmem
      rw [if_pos (List.contains_iff_mem.mpr hmem), ← or_assoc, or_iff_left_of_imp hold]
    · rw [if_neg (fun hcontains ↦ hmem (List.contains_iff_mem.mp hcontains)), List.mem_append,
        List.mem_singleton, or_assoc]

end NodeConfig

open IicpNode

section Steps

variable (config : NodeConfig) (node : IicpNode)

@[simp] lemma attachCurrentNodeToken_endpoint (token : String) (payload : RegisterPayload) :
    (attachCurrentNodeToken token payload).endpoint = payload.endpoint := by
  unfold attachCurrentNodeToken
  split_ifs <;> rfl

@[simp] lemma attachCurrentNodeToken_modelSet (token : String) (payload : RegisterPayload) :
    (attachCurrentNodeToken token payload).modelSet = payload.modelSet := by
  unfold attachCurrentNodeToken
  split_ifs <;> rfl

/-- A registration stands for the models that are remembered after it. -/
lemma startupModels_eq_modelSet :
    config.startupModels.toFinset = (node.buildRegisterPayload config).modelSet := by
  rw [buildRegisterPayload, attachCurrentNodeToken_modelSet, RegisterPayload.modelSet,
    NodeConfig.startupModels]
  by_cases hempty : config.effectiveCapabilities.isEmpty
  · simp only [hempty, if_true]
    exact (config.modelSet_buildCapabilities config.configuredModels).symm
  · simp only [hempty, Bool.false_eq_true, if_false]
    ext other
    rw [List.mem_toFinset, List.mem_toFinset, NodeConfig.effectiveCapabilityModels,
      NodeConfig.mem_foldl_once]
    simp

/-- An event leaves alone what the directory has and what the node remembers, or has a payload
accepted, of which the node then remembers both parts exactly if the event was not stale. -/
inductive Update (config : NodeConfig) (node : IicpNode) (event : RegistrationEvent) :
    IicpNode → Prop where
  | same (next : IicpNode) (hdirectory : next.directory = node.directory)
      (hendpoint : next.registeredEndpoint = node.registeredEndpoint)
      (hmodels : next.registeredModels = node.registeredModels)
      (hfine : ¬ Stale config node event) : Update config node event next
  | sent (next : IicpNode) (payload : RegisterPayload) (hdirectory : next.directory = some payload)
      (hagrees : next.registeredEndpoint = payload.endpoint ∧
        next.registeredModels.toFinset = payload.modelSet ↔ ¬ Stale config node event) :
      Update config node event next

variable {config node} {payload : RegisterPayload}

lemma update_register (response : Option Json) :
    Update config node (.register response) (node.register config response) := by
  have hfine : ¬ Stale config node (.register response) := fun hstale ↦ hstale.2
  unfold register
  cases reregister response with
  | none => exact .same node rfl rfl rfl hfine
  | some =>
    have hendpoint : (node.buildRegisterPayload config).endpoint = node.effectiveEndpoint config :=
      attachCurrentNodeToken_endpoint _ _
    exact .sent _ _ rfl
      (iff_of_true ⟨hendpoint.symm, startupModels_eq_modelSet config node⟩ hfine)

section

variable (hrunning : node.exited = false)

include hrunning

lemma update_bind (hpayload : node.relayRegisterPayload = some payload) (host : String) (port : ℕ)
    (worker : String) (response : Option Json) :
    Update config node (.bind host port worker response)
      (node.bind host port worker response payload) := by
  have hstale : Stale config node (.bind host port worker response) ↔
      (reregister response).isSome ∧
        node.registeredModels.toFinset ≠ payload.modelSet := by
    simp [Stale, hrunning, hpayload]
  unfold IicpNode.bind
  dsimp only
  cases hanswer : reregister response with
  | none => exact .same _ rfl rfl rfl fun h ↦ by simpa [hanswer] using (hstale.mp h).1
  | some =>
    refine .sent _ (node.relayPayload host port worker payload) rfl ?_
    have hmodels : (node.relayPayload host port worker payload).modelSet = payload.modelSet :=
      attachCurrentNodeToken_modelSet _ _
    rw [hstale, hmodels]
    simp [hanswer, accept]

variable (hpayload : node.hbRegisterPayload = some payload)

include hpayload

lemma update_drift (live : List String) (response : Option Json) :
    Update config node (.drift live response) (node.drift config live response payload) := by
  have hstale : Stale config node (.drift live response) ↔ node.driftDue config live ∧
      (reregister response).isSome ∧ node.registeredEndpoint ≠ payload.endpoint := by
    simp [Stale, hrunning, hpayload]
  unfold drift
  by_cases hdue : node.driftDue config live
  swap
  · rw [if_neg hdue]
    exact .same node rfl rfl rfl fun h ↦ hdue (hstale.mp h).1
  rw [if_pos hdue]
  cases hanswer : reregister response with
  | none => exact .same node rfl rfl rfl fun h ↦ by simpa [hanswer] using (hstale.mp h).2.1
  | some =>
    refine .sent _ (node.driftPayload config live payload) rfl ?_
    have hmodels : live.toFinset = (node.driftPayload config live payload).modelSet :=
      (config.modelSet_buildCapabilities live).symm
    have hendpoint : (node.driftPayload config live payload).endpoint = payload.endpoint :=
      attachCurrentNodeToken_endpoint node.token payload
    rw [hstale, hendpoint]
    simp [hdue, hanswer, hmodels, accept]

lemma update_rotate (publicAvailable : Bool) (response : Option Json) :
    Update config node (.rotate publicAvailable response)
      (node.rotate publicAvailable response payload) := by
  have hstale : Stale config node (.rotate publicAvailable response) ↔
      ∃ endpoint ∈ node.endpointOverride, node.rotationDue publicAvailable endpoint ∧
        (reregister response).isSome ∧
        node.registeredModels.toFinset ≠ payload.modelSet := by
    simp [Stale, hrunning, hpayload]
  unfold rotate
  cases hoverride : node.endpointOverride with
  | none => exact .same node rfl rfl rfl fun h ↦ by simpa [hoverride] using hstale.mp h
  | some endpoint =>
    have hstale : Stale config node (.rotate publicAvailable response) ↔
        node.rotationDue publicAvailable endpoint ∧ (reregister response).isSome ∧
          node.registeredModels.toFinset ≠ payload.modelSet := by
      simpa [hoverride] using hstale
    dsimp only
    by_cases hdue : node.rotationDue publicAvailable endpoint
    swap
    · rw [if_neg hdue]
      exact .same node rfl rfl rfl fun h ↦ hdue (hstale.mp h).1
    rw [if_pos hdue]
    cases hanswer : reregister response with
    | none => exact .same node rfl rfl rfl fun h ↦ by simpa [hanswer] using (hstale.mp h).2.1
    | some =>
      refine .sent _ _ rfl ?_
      rw [hstale]
      simp [hdue, hanswer, accept, RegisterPayload.modelSet]

lemma update_recover (check : RecoveryCheck) (response : Option Json) :
    Update config node (.recover check response) (node.recover config check response payload) := by
  have hstale : Stale config node (.recover check response) ↔
      node.recoveryAction config check = .reregister ∧ (reregister response).isSome ∧
        node.registeredModels.toFinset ≠ payload.modelSet := by
    simp [Stale, hrunning, hpayload]
  unfold recover
  dsimp only
  cases haction : node.recoveryAction config check with
  | reregister =>
    cases hanswer : reregister response with
    | none => exact .same _ rfl rfl rfl fun h ↦ by simpa [hanswer] using (hstale.mp h).2.1
    | some =>
      refine .sent _ (node.recoveryPayload payload) rfl ?_
      rw [hstale]
      simp [haction, hanswer, accept, recoveryPayload, RegisterPayload.modelSet]
  | restartSelf =>
    dsimp only
    split_ifs <;> exact .same _ rfl rfl rfl fun h ↦ by simpa [haction] using (hstale.mp h).1
  | _ => exact .same _ rfl rfl rfl fun h ↦ by simpa [haction] using (hstale.mp h).1

lemma update_afterUnknown (response : Option Json) :
    Update config node (.unknown response) (node.afterUnknown response payload) := by
  have hstale : Stale config node (.unknown response) ↔ (reregister response).isSome ∧
      (node.registeredEndpoint ≠ payload.endpoint ∨
        node.registeredModels.toFinset ≠ payload.modelSet) := by
    simp [Stale, hrunning, hpayload]
  unfold afterUnknown
  cases hanswer : reregister response with
  | none => exact .same node rfl rfl rfl fun h ↦ by simpa [hanswer] using (hstale.mp h).1
  | some =>
    refine .sent _ payload rfl ?_
    rw [hstale, hanswer, Option.isSome_some, and_iff_right rfl, not_or, not_not, not_not]
    exact Iff.rfl

end

lemma update_withPayload {captured : Option RegisterPayload} {event : RegistrationEvent}
    {next : RegisterPayload → IicpNode} (hidle : captured = none → ¬ Stale config node event)
    (hupdate : ∀ payload, captured = some payload → Update config node event (next payload)) :
    Update config node event (node.withPayload captured next) := by
  cases captured with
  | none => exact .same node rfl rfl rfl (hidle rfl)
  | some payload => exact hupdate payload rfl

/-- Every event makes one of these updates. -/
lemma update_step (config : NodeConfig) (node : IicpNode) (event : RegistrationEvent) :
    Update config node event (node.step config event) := by
  unfold step
  by_cases hexited : node.exited
  · rw [if_pos hexited]
    exact .same node rfl rfl rfl fun hstale ↦ by simpa [hexited] using hstale.1
  rw [if_neg hexited]
  have hrunning : node.exited = false := Bool.eq_false_iff.mpr hexited
  cases event with
  | setEndpoint | serve | startRelay | unbind => exact .same _ rfl rfl rfl fun hstale ↦ hstale.2
  | register response => exact update_register response
  | drift live response =>
    exact update_withPayload (fun hnone ↦ by simp [Stale, hnone])
      fun payload hpayload ↦ update_drift hrunning hpayload live response
  | rotate publicAvailable response =>
    exact update_withPayload (fun hnone ↦ by simp [Stale, hnone])
      fun payload hpayload ↦ update_rotate hrunning hpayload publicAvailable response
  | recover check response =>
    exact update_withPayload (fun hnone ↦ by simp [Stale, hnone])
      fun payload hpayload ↦ update_recover hrunning hpayload check response
  | unknown response =>
    exact update_withPayload (fun hnone ↦ by simp [Stale, hnone])
      fun payload hpayload ↦ update_afterUnknown hrunning hpayload response
  | bind host port worker response =>
    exact update_withPayload (fun hnone ↦ by simp [Stale, hnone])
      fun payload hpayload ↦ update_bind hrunning hpayload host port worker response

end Steps

/-! ### Runs -/

/-- The node remembers what the directory has accepted last. -/
def Tracks (node : IicpNode) : Prop :=
  ∀ accepted ∈ node.directory, node.registeredEndpoint = accepted.endpoint ∧
    node.registeredModels.toFinset = accepted.modelSet

section Runs

variable {config : NodeConfig} {node : IicpNode} {response : Option Json}

/-- A published endpoint that is not due for a rotation is the one that the directory has. -/
lemma rotationResent_of_tracks (htracks : Tracks node) {accepted payload : RegisterPayload}
    (haccepted : node.directory = some accepted) {endpoint : String}
    (hoverride : node.endpointOverride = some endpoint) (hanswer : (reregister response).isSome) :
    (node.rotate true response payload).directory.map RegisterPayload.endpoint = some endpoint := by
  obtain ⟨_, hcredentials⟩ := Option.isSome_iff_exists.mp hanswer
  unfold rotate rotationDue
  rw [hoverride, hcredentials]
  by_cases hchanged : endpoint = node.registeredEndpoint
  · have hlast := (htracks accepted haccepted).1
    simp [hchanged, haccepted, hlast]
  · simp [hchanged, accept]

/-- Models that are not due for a registration are those that the directory has. -/
lemma driftResent_of_tracks (htracks : Tracks node) {accepted payload : RegisterPayload}
    (haccepted : node.directory = some accepted) (himplicit : config.effectiveCapabilities = [])
    {live : List String} (hlive : live ≠ []) (hanswer : (reregister response).isSome) :
    (node.drift config live response payload).directory.map RegisterPayload.modelSet =
      some live.toFinset := by
  obtain ⟨_, hcredentials⟩ := Option.isSome_iff_exists.mp hanswer
  unfold drift driftDue
  rw [hcredentials]
  by_cases hchanged : live.toFinset = node.registeredModels.toFinset
  · have hlast := (htracks accepted haccepted).2
    simp [hchanged, haccepted, hlast]
  · have hmodels : (node.driftPayload config live payload).modelSet = live.toFinset :=
      config.modelSet_buildCapabilities live
    simp [himplicit, hlive, hchanged, hmodels, accept]

lemma coherent_of_tracks (htracks : Tracks node) : Coherent config node where
  endpoint accepted haccepted := (htracks accepted haccepted).1
  models accepted haccepted := (htracks accepted haccepted).2
  rotationResent _ haccepted _ _ _ hoverride _ hanswer :=
    rotationResent_of_tracks htracks haccepted hoverride hanswer
  driftResent _ haccepted _ _ himplicit _ hlive _ hanswer :=
    driftResent_of_tracks htracks haccepted himplicit hlive hanswer

variable {event : RegistrationEvent} {next : IicpNode}

lemma tracks_of_update (htracks : Tracks node)
    (hfine : ¬ Stale config node event) (hupdate : Update config node event next) : Tracks next := by
  cases hupdate with
  | same hdirectory hendpoint hmodels =>
    intro accepted haccepted
    rw [hdirectory] at haccepted
    rw [hendpoint, hmodels]
    exact htracks accepted haccepted
  | sent payload hdirectory hagrees =>
    intro accepted haccepted
    rw [hdirectory] at haccepted
    obtain rfl := Option.some.inj haccepted
    exact hagrees.mpr hfine

lemma not_coherent_of_stale
    (hstale : Stale config node event) (hupdate : Update config node event next) :
    ¬ Coherent config next := by
  intro hcoherent
  cases hupdate with
  | same _ _ _ hfine => exact hfine hstale
  | sent payload hdirectory hagrees =>
    exact hagrees.mp ⟨hcoherent.endpoint payload hdirectory, hcoherent.models payload hdirectory⟩ hstale

end Runs

/-! ### The theorem -/

/-- In a run of a node, with any heartbeats, probes, rotations, recovery checks, registrations and
relays, what the node remembers is what the directory has accepted last, at every moment, exactly
when no event has a stale payload accepted. -/
theorem registration_coherent_iff (config : NodeConfig) (seed : String)
    (events : List RegistrationEvent) :
    (∀ position, Coherent config
        (stateAt (step config) (.fresh config seed) events position)) ↔
      ∀ position event, events[position]? = some event →
        ¬ Stale config (stateAt (step config) (.fresh config seed) events position) event := by
  have hstart : Tracks (.fresh config seed) := fun _ haccepted ↦ nomatch haccepted
  refine always_iff hstart (fun _ ↦ coherent_of_tracks) ?_ ?_
  · intro position event _ htracks hfine
    exact tracks_of_update htracks hfine (update_step config _ event)
  · intro position event _ _ hstale
    exact not_coherent_of_stale hstale (update_step config _ event)

def tunnelConfig : NodeConfig where
  endpoint := "https://old.example"
  model := some "m1"
  capabilities := []
  excludedModels := []
  backend := none
  effectiveCapabilities := []
  intent := "urn:iicp:intent:llm:chat:v1"
  maxTokens := 4096
  supportedProfiles := []
  transportMethod := none
  transportMetadata := none
  nodeHmacKey := ""
  recoveryGrace := 3
  recoverySupervised := false
  unicodeLowercase := id

def acceptance : Option Json := some (.object [("node_token", .string "tok")])

/-- A round of the loop whose heartbeat has this status, and whose registrations are accepted. -/
def plainTick (status : ℕ) : Tick where
  status := some status
  liveModels := none
  publicAvailable := true
  recoveryCheck := none
  driftResponse := acceptance
  rotateResponse := acceptance
  recoverResponse := acceptance
  unknownResponse := acceptance

/-- The tunnel of a registered node gets a new endpoint, which is registered. Then the directory has
lost the node, and two more heartbeats succeed. -/
def lostRotation : List RegistrationEvent :=
  [.register acceptance, .serve "tok", .setEndpoint "https://new.example"] ++
    (plainTick 200).events ++ (plainTick 404).events ++ (plainTick 200).events ++
    (plainTick 200).events

/-- After the directory has lost the node it has the endpoint of the start again. The node remembers
the new one, and does not send it any more. -/
theorem rotation_not_resent :
    let moment := stateAt (step tunnelConfig) (.fresh tunnelConfig "") lostRotation
    (moment 4).directory.map RegisterPayload.endpoint = some "https://new.example" ∧
      (moment 5).endpointOverride = some "https://new.example" ∧
      (moment 5).registeredEndpoint = "https://new.example" ∧
      (moment 5).directory.map RegisterPayload.endpoint = some "https://old.example" ∧
      ¬ Coherent tunnelConfig (moment 5) ∧
      (moment 7).directory.map RegisterPayload.endpoint = some "https://old.example" := by
  intro moment
  have hremembered : (moment 5).registeredEndpoint = "https://new.example" := by rfl
  have hlost : (moment 5).directory.map RegisterPayload.endpoint = some "https://old.example" := by
    rfl
  refine ⟨by rfl, by rfl, hremembered, hlost, fun hcoherent ↦ ?_, by rfl⟩
  obtain ⟨accepted, haccepted, hendpoint⟩ := Option.map_eq_some_iff.mp hlost
  have hsame := hcoherent.endpoint accepted haccepted
  rw [hremembered, hendpoint] at hsame
  exact absurd hsame (by decide)

end Iicp.Node
