import Iicp.Client.DispatchTicket
import Iicp.Client.IntentPolicy
import Iicp.Client.Restricted
import Iicp.Client.Selection
import Iicp.Rust.Interaction
import Iicp.Rust.IpAddr

/-!
# Where a client finds nodes

A client asks its directory for nodes in one of two ways. `discover` asks for a list.
`ticketedCandidates` asks up to three times for a route with a ticket and verifies each ticket.
`routeSource` chooses between the two, and falls back from the second to the first when the
configuration allows it. In a restricted trust domain every request carries the membership of the
client, and every answer must carry a decision about it.

What happens outside is a `World`: the environment, the clocks, the random draws, the directory and
the providers. Its answers may depend on everything that has happened in the call, which is a list
of `Event`s, the newest first.
-/

namespace Iicp.Client

open Rust Outcome Interaction
open Confidentiality (SealingCrates Key Nonce)

/-! ### The client and its surroundings -/

/-- What a request to the directory is answered with: a failure, which may be one to connect, or a
status and a body, which may not be JSON. -/
inductive HttpAnswer where
  | failed (detail : String) (connect : Bool)
  | answered (status : ℕ) (body : Option Json)
  deriving DecidableEq

structure Membership where
  credential : String
  subjectId : String
  deriving DecidableEq, Repr

/-- A task that has been posted to a node. -/
structure Posted where
  node : Node
  url : String
  body : Json
  consumerToken : Option String
  deriving DecidableEq

/-- What happens in a call. That a ticket or a decision is accepted is not visible outside. -/
inductive Event where
  | discovery (url : String) (membership : Option Membership) (answer : HttpAnswer)
  | ticket (url : String) (request : Json) (membership : Option Membership) (answer : HttpAnswer)
  | directoryKey (url : String) (answer : HttpAnswer)
  | ticketAccepted (token key issuer nodeId intent : String) (nowS : ℤ)
  | decisionAccepted (operation : String) (body : Json) (now : ℕ)
  | consumerToken (nodeId intent : String)
  | posted (post : Posted)
  deriving DecidableEq

structure World where
  env : String → Option String
  unicodeLowercase : String → String
  showF64 : Float → String
  serdeError : Json → String
  digest : String → String
  crates : SealingCrates
  tickets : TicketCrates
  secret : List Event → Config.SecretRef → Option String
  uuid : List Event → String
  unixTime : List Event → ℕ
  timestamp : List Event → ℤ
  randomUnit : List Event → Float
  randomBelow : List Event → ℕ → ℕ
  ephemeral : List Event → Key
  nonce : List Event → Nonce
  (discoveryAnswer ticketAnswer keyAnswer : List Event → HttpAnswer)
  tokenAnswer : List Event → Except IicpError (Option String)
  providerAnswer : List Event → Except IicpError TaskResponse

/-- What a client keeps between calls: the key of the directory, once it is known. -/
structure CallState where
  dispatchTicketKey : Option String
  deriving DecidableEq, Repr

structure IicpClient where
  config : ClientConfig
  candidateRanker : Option CandidateRanker

def maxTimeoutMs : ℕ := 120000

def membershipUnavailable : IicpError :=
  .policyRefused "restricted_membership_unavailable"
    "restricted directory membership credential is unavailable"

variable (secret : Config.SecretRef → Option String)

def checkRestricted (config : ClientConfig) :
    Outcome IicpError Unit :=
  match config.restrictedDirectory with
  | none => .ok ()
  | some context => do
    validateContext context
    require (config.profileRequest.any fun profile ↦
        profile.required && profile.profileId == restrictedProfileId)
      (.policyRefused "unsupported_pre_normative_profile"
        "restricted directory context requires the canonical Profile request")
    let _preflight ← okOr membershipUnavailable (secret context.membershipCredential)
    .ok ()

def IicpClient.new (config : ClientConfig) :
    Outcome IicpError IicpClient := do
  require (config.timeoutMs ≤ maxTimeoutMs) (.timeoutTooLarge config.timeoutMs)
  require (["auto", "ticketed", "legacy"].contains config.routeDiscoveryMode)
    (.node "route_discovery_mode must be auto, ticketed, or legacy")
  require (["optional", "required", "disabled"].contains config.consumerAuthMode)
    (.policyRefused "SDK-AUTH-MODE" "consumer_auth_mode must be optional, required, or disabled")
  checkRestricted secret config
  .ok ⟨config, none⟩

/-! ### Texts of endpoints -/

/-- The host of an address text after its scheme. -/
def hostOf (rest : String) : String :=
  if startsWith rest "[" then trimStartMatches '[' (beforeFirst ']' rest)
  else beforeFirst ':' (beforeFirst '/' rest)

/-- The first eight bytes of a node id; a character that they cut is a panic. -/
def nodeShortId {ε : Type} (nodeId : String) : Outcome ε String :=
  sliceTo nodeId (min (byteLength nodeId.toList) 8)

section Endpoints

variable (world : World)

def isBrowserUsableEndpoint (url : String) : Bool :=
  let lower := toLowercase url world.unicodeLowercase
  startsWith lower "https://" || (stripStart lower "http://").any fun rest ↦
      ["localhost", "127.0.0.1", "::1"].contains (hostOf rest)

end Endpoints

def isSafeQueryParam (text : String) : Bool :=
  text.toList.all fun char ↦ !(['&', '=', '\n', '\r', '\x00'].contains char)

/-! ### Answers of the directory -/

def HttpAnswer.json : HttpAnswer → Outcome IicpError (ℕ × Json)
  | failed detail _ => .err (.http detail)
  | answered _ none => .err (.http "error decoding response body")
  | answered status (some body) => .ok (status, body)

def HttpAnswer.success (answer : HttpAnswer) : Outcome IicpError Json := do
  let (status, body) ← answer.json
  require (status < 400) (.protocol (((body.field "error").field "code").asStr.getD "unknown")
      (((body.field "error").field "message").asStr.getD "") status)
  .ok body

/-- Membership is not taken along to another place. -/
def HttpAnswer.refuseRedirect : HttpAnswer → Outcome IicpError Unit
  | failed _ _ => .ok ()
  | answered status _ => require (!(300 ≤ status && status < 400))
      (.endpointRefused "restricted directory redirect is not allowed")

section Directory

variable (world : World) (config : ClientConfig)

def directoryBase : String := trimEndMatches '/' config.directoryUrl

def membershipCredential (context : RestrictedDirectoryContext) :
    Interaction CallState Event IicpError String := do
  let secret ← look world.secret
  ofOutcome (okOr membershipUnavailable (secret context.membershipCredential))

/-! ### Discovery -/

/-- A parameter of a query, if its text is safe. -/
def queryParam (name : String) (value : Option String) : String :=
  match value with
  | some text => if isSafeQueryParam text then "&" ++ name ++ "=" ++ text else ""
  | none => ""

def ProfileRequest.query (profile : ProfileRequest) : Outcome IicpError String := do
  require (isSafeQueryParam profile.profileId && isSafeQueryParam profile.profileVersion &&
      byteLength profile.profileFixtureSha256.toList == 64 &&
      profile.profileFixtureSha256.toList.all isAsciiHexdigit)
    (.policyRefused "unsupported_pre_normative_profile" "invalid pre-normative profile request")
  .ok ("&profile_id=" ++ profile.profileId ++ "&profile_version=" ++ profile.profileVersion ++
    "&profile_fixture_sha256=" ++ profile.profileFixtureSha256 ++ "&profile_required=" ++
    toString profile.required)

variable (intent : String) (opts : DiscoverOptions)

def discoverUrl : Outcome IicpError String := do
  let profile ← match opts.profileRequest with
    | some profile => profile.query
    | none => .ok ""
  .ok (directoryBase config ++ "/v1/discover?intent=" ++ intent ++
    queryParam "region" (opts.region.or config.region) ++ queryParam "model" opts.model ++
    queryParam "qos" opts.qos ++
    (opts.minReputation.map fun reputation ↦ "&min_reputation=" ++ world.showF64 reputation).getD ""
    ++ profile ++ "&limit=" ++ toString (opts.limit.getD 10))

variable (list : NodeList)

/-- Marks every node of a list with the eligibility of the client. -/
def NodeList.withEligibility (eligibility : RestrictedEligibility) : NodeList :=
  { list with
    nodes := list.nodes.map fun node ↦ { node with restrictedEligibility := some eligibility }
    restrictedEligibility := some eligibility }

def restrictedDiscovery (context : RestrictedDirectoryContext) (url : String) :
    Interaction CallState Event IicpError NodeList := do
  let credential ← membershipCredential world context
  let answer ← ask world.discoveryAnswer (.discovery url (some ⟨credential, context.subjectId⟩))
  ofOutcome answer.refuseRedirect
  let body ← ofOutcome answer.success
  let now ← look world.unixTime
  let eligibility ← ofOutcome (validateDecision body context "discovery" now)
  record (.decisionAccepted "discovery" body now)
  let parsed ← ofOutcome (okOr (.serde (world.serdeError body)) (NodeList.fromValue body))
  pure (parsed.withEligibility eligibility)

variable (url : String)

/-- The list of a directory that anybody may ask. -/
def openDiscovery : Interaction CallState Event IicpError NodeList := do
  let answer ← ask world.discoveryAnswer (.discovery url none)
  let body ← ofOutcome answer.success
  ofOutcome (okOr (.serde (world.serdeError body)) (NodeList.fromValue body))

/-- The list of the directory of a client. -/
def askDiscovery : Interaction CallState Event IicpError NodeList :=
  match config.restrictedDirectory with
  | some context => restrictedDiscovery world context url
  | none => openDiscovery world url

def checkProfile : Outcome IicpError Unit :=
  require (!(opts.profileRequest.any (·.required)) || list.profileNegotiation.any fun negotiation ↦
      negotiation.status == some "compatible" && negotiation.dispatchAllowed == some true)
    (.policyRefused "unsupported_pre_normative_profile"
      "required pre-normative profile is not supported by the directory")

/-- Keeps the nodes that a browser can use, if only these are wanted. -/
def keepBrowserUsable : NodeList :=
  if opts.browserUsableOnly.getD false then
    let nodes := list.nodes.filter fun node ↦
      node.browserUsable.getD (isBrowserUsableEndpoint world node.endpoint)
    { list with nodes, count := nodes.length % 2 ^ 32 }
  else list

def discoverChecked :
    Interaction CallState Event IicpError NodeList := do
  let url ← ofOutcome (discoverUrl world config intent opts)
  let list ← askDiscovery world config url
  ofOutcome (checkProfile opts list)
  pure (keepBrowserUsable world opts list)

def discover :
    Interaction CallState Event IicpError NodeList := do
  ofOutcome (validateIntent intent)
  discoverChecked world config intent opts

/-! ### Tickets -/

/-- Why there is no ticketed route: the directory does not know tickets, or an error. -/
inductive TicketRouteError where
  | legacyRequired
  | iicp (error : IicpError)
  deriving DecidableEq, Repr

/-- A float as a JSON number; what is not finite is null. -/
def jsonOfF64 (value : Float) : Json :=
  if value.isFinite then .number (.float value.toBits) else .null

def ticketRequest (excluded : List String) : Json :=
  .object (Json.present [("exclude_node_id_prefixes", some (.array (excluded.map .string))),
      ("intent", some (.string intent)),
      ("limit", some (.ofU64 (min (opts.limit.getD 10) 50))),
      ("min_reputation", opts.minReputation.map jsonOfF64),
      ("model", opts.model.map .string),
      ("qos", opts.qos.map .string),
      ("region", (opts.region.or config.region).map .string)])

/-- Posts a request for a ticket, again after a failure to connect while attempts are left. -/
def postTicket (url : String) (request : Json) :
    (left : ℕ) → Interaction CallState Event TicketRouteError (ℕ × Option Json)
  | 0 => do
    match ← ask world.ticketAnswer (.ticket url request none) with
    | .answered status body => pure (status, body)
    | .failed detail _ => fail (.iicp (.http detail))
  | left + 1 => do
    match ← ask world.ticketAnswer (.ticket url request none) with
    | .answered status body => pure (status, body)
    | .failed detail connect =>
      if connect then postTicket url request left else fail (.iicp (.http detail))

/-- The answer of a directory that anybody may ask. -/
def openTicketAnswer (request : Json) :
    Interaction CallState Event TicketRouteError (ℕ × Json) := do
  let (status, body) ← postTicket world url request 2
  ofOutcome (require (!(status == 405 || status == 501)) .legacyRequired)
  let body ← ofOutcome (okOr (.iicp (.http "error decoding response body")) body)
  pure (status, body)

def restrictedTicketAnswer (context : RestrictedDirectoryContext) (url : String) (request : Json) :
    Interaction CallState Event TicketRouteError (ℕ × Json) := do
  let credential ← mapErr .iicp (membershipCredential world context)
  let answer ← ask world.ticketAnswer (.ticket url request (some ⟨credential, context.subjectId⟩))
  ofOutcome (mapErr .iicp answer.refuseRedirect)
  ofOutcome (mapErr .iicp answer.json)

/-- The answer of the directory of a client. -/
def askTicket (request : Json) :
    Interaction CallState Event TicketRouteError (ℕ × Json) :=
  match config.restrictedDirectory with
  | some context => restrictedTicketAnswer world context url request
  | none => openTicketAnswer world url request

def HttpAnswer.publicKey : HttpAnswer → Option String
  | answered status (some body) =>
    if 200 ≤ status ∧ status < 300 then (body.field "public_key").asStr else none
  | _ => none

/-- Asks for the key of the directory unless it is known. -/
def fetchDirectoryKey : Interaction CallState Event TicketRouteError Unit := do
  let state ← getState
  match state.dispatchTicketKey with
  | some _ => pure ()
  | none => do
    let answer ← ask world.keyAnswer (.directoryKey (directoryBase config ++ "/v1/directory-key"))
    match answer.publicKey with
    | some key => setState ⟨some key⟩
    | none => pure ()

variable (body : Json)

/-- The decision about the client in an answer with a ticket. -/
def ticketEligibility :
    Interaction CallState Event TicketRouteError (Option RestrictedEligibility) :=
  match config.restrictedDirectory with
  | some context => do
    let now ← look world.unixTime
    let eligibility ← ofOutcome (mapErr .iicp (validateDecision body context "dispatch_ticket" now))
    record (.decisionAccepted "dispatch_ticket" body now)
    pure (some eligibility)
  | none => pure none

def ticketIssuer : String := (stripEnd (directoryBase config) "/api").getD (directoryBase config)

/-- The node that an answer with a ticket names. -/
def namedNode : String := (body.field "node_id").asStr.getD ""

/-- The ticket of an answer, the key it was checked with, and its claims. -/
def verifiedTicket (key : Option String) (nowS : ℤ) :
    Option (String × String × DispatchRouteTicketClaims) := do
  let token ← (body.field "ticket").asStr
  let key ← key
  let claims ← verifyDispatchRouteTicket world.tickets token key (ticketIssuer config)
    (namedNode body) intent nowS
  some (token, key, claims)

/-- The route of an answer with a ticket. The id of the node is written into an object; another
value is left as it is. -/
def ticketRoute : Json :=
  match body.field "route" with
  | .object fields => .object (Json.insertField "node_id" (body.field "node_id") fields)
  | other => other

def acceptTicket (status : ℕ) (body : Json) :
    Interaction CallState Event TicketRouteError Node := do
  let eligibility ← ticketEligibility world config body
  fetchDirectoryKey world config
  let state ← getState
  let nowS ← look world.timestamp
  let (token, key, claims) ← ofOutcome (okOr (.iicp (.protocol "IICP-DISPATCH-TICKET-UNVERIFIED"
      "Directory returned an unverifiable dispatch ticket" status))
    (verifiedTicket world config intent body state.dispatchTicketKey nowS))
  record (.ticketAccepted token key (ticketIssuer config) (namedNode body) intent nowS)
  ofOutcome (require (policyManifestBindingMatches claims (body.field "route"))
    (.iicp (.protocol "IICP-POLICY-MANIFEST-BINDING-MISMATCH"
      "Directory ticket does not match the route policy manifest" status)))
  let node ← ofOutcome (okOr
    (.iicp (.serde (world.serdeError (ticketRoute body)))) (Node.fromValue (ticketRoute body)))
  pure { node with
    dispatchTicketIdPrefix := (body.field "ticket_id_prefix").asStr
    restrictedEligibility := eligibility }

/-- What an answer without a ticket means: there is no route, or an error. -/
def ticketRefused (status : ℕ) (body : Json) : Outcome TicketRouteError Unit :=
  let errorCode := ((body.field "error").field "code").asStr
  if status = 404 ∧ errorCode = some "no_route_available" then .ok ()
  else if status = 404 ∧ config.restrictedDirectory.isNone then .err .legacyRequired
  else if status = 503 ∧ errorCode = some "not_configured" ∧ config.restrictedDirectory.isNone then
    .err .legacyRequired
  else .err (.iicp (.protocol ("IICP-DISPATCH-TICKET-" ++ toString status)
    ("Ticketed dispatch refused (" ++ errorCode.getD "unknown" ++ ")") status))

def ticketRound (excluded : List String) :
    Interaction CallState Event TicketRouteError (Option Node) := do
  let (status, body) ← askTicket world config (directoryBase config ++ "/v1/dispatch/ticket")
    (ticketRequest config intent opts excluded)
  ofOutcome (require (!(status == 405 || status == 501))
    (.iicp (.policyRefused "restricted_directory_operation_unsupported"
      "restricted dispatch-ticket operation is unavailable")))
  if status = 201 then do
    let node ← acceptTicket world config intent status body
    pure (some node)
  else do
    ofOutcome (ticketRefused config status body)
    pure none

/-- Asks for ticketed routes until there is none or so many have been found. The nodes that were
found before are excluded. -/
def ticketRounds (intent : String) (opts : DiscoverOptions) :
    (left : ℕ) → (excluded : List String) →
      Interaction CallState Event TicketRouteError (List Node)
  | 0, _ => pure []
  | left + 1, excluded => do
    match ← ticketRound world config intent opts excluded with
    | none => pure []
    | some node => do
      let short ← ofOutcome (nodeShortId node.nodeId)
      let rest ← ticketRounds intent opts left (excluded ++ [short])
      pure (node :: rest)

def ticketedCandidates :
    Interaction CallState Event TicketRouteError (List Node) :=
  ticketRounds world config intent opts maxRetries []

/-! ### The source of a route -/

/-- Finds nodes for a request, by tickets or by discovery. -/
def routeSource :
    Interaction CallState Event IicpError NodeList :=
  if config.routeDiscoveryMode = "legacy" ∨
      (config.profileRequest.isSome ∧ config.restrictedDirectory.isNone) then
    discover world config intent opts
  else do
    match ← attempt (ticketedCandidates world config intent opts) with
    | .ok nodes => pure ⟨nodes, nodes.length % 2 ^ 32, none, none, none⟩
    | .error .legacyRequired =>
      if config.routeDiscoveryMode = "auto" then discover world config intent opts
      else fail (.protocol "IICP-DISPATCH-TICKET-UNAVAILABLE"
        "Directory does not support ticketed dispatch" 501)
    | .error (.iicp error) => fail error

end Directory

end Iicp.Client
