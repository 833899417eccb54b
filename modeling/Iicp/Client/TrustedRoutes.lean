import Iicp.Client.Dispatch

/-!
# Which answers of a directory a client follows

A client in ticketed mode follows a route only after it has accepted a ticket for it. Two things
limit this. With a profile request and an open directory the nodes come from a list, and a route
that is an array names its node itself. `ticketed_posts_have_tickets` is the statement without
these; `profile_request_needs_no_ticket` and `array_route_needs_no_ticket` are calls of both kinds.

A restricted client follows only answers with a decision about it that it has accepted for the
operation (`InDomain`), and asks only as the member that it is. `restricted_client_stays_in_domain`
states this for every mode.
-/

namespace Iicp.Client

open Rust Interaction Confidentiality

/-! ### The node that a route names -/

/-- A route that is an array has the node of the answer at the place of the node id, if it has
anything there. -/
def RouteNamesNode (body : Json) : Prop :=
  ∀ items, (body.field "route").asArray = some items →
    ∀ item ∈ items.head?, item = body.field "node_id"

variable {body : Json} {membership : Option Membership} {node : Node}

open Event

/-- The part of a route that is read as the node id, if any, is the node id of the answer. -/
lemma ticketRoute_nodeId {rules : List FieldRule} {parts : String → Option Json}
    (hnames : RouteNamesNode body)
    (h : structParts (plain "node_id" :: rules) (ticketRoute body) = some parts) :
    ∀ part ∈ parts "node_id", part = body.field "node_id" := by
  unfold ticketRoute at h
  cases hroute : body.field "route" with
  | object fields =>
    rw [hroute] at h
    obtain rfl := Option.some.inj h
    intro part hpart
    rw [Json.getField_insertField, if_pos rfl, Option.mem_some] at hpart
    exact hpart.symm
  | array items =>
    rw [hroute] at h
    have hhead : parts "node_id" = items.head? := structParts_array_head h
    rw [hhead]
    exact hnames items (by rw [hroute]; rfl)
  | null | bool | number | string => rw [hroute] at h; nomatch h

/-- The node of a route is the node that the answer names, for which the ticket was accepted. -/
lemma nodeId_eq_namedNode (hnames : RouteNamesNode body)
    (h : Node.fromValue (ticketRoute body) = some node) : node.nodeId = namedNode body := by
  obtain ⟨wire, hwire, rfl⟩ := Option.map_eq_some_iff.mp h
  obtain ⟨_, hparts, hnodeId⟩ := NodeWire.fromValue_nodeId hwire
  obtain ⟨part, hpart, htext⟩ := Option.bind_eq_some_iff.mp hnodeId
  rw [ticketRoute_nodeId hnames hparts part hpart] at htext
  exact (congrArg (Option.getD · "") htext).symm

/-! ### Ticketed mode -/

/-- Assumes: ticketed mode, no profile request unless the directory is restricted, and no route of
this call that is an array with another node in it. Every task that is posted goes to a node for
which a ticket was accepted in this call, for the intent of the task. -/
theorem ticketed_posts_have_tickets (world : World) (client : IicpClient) (state : CallState)
    (request : TaskRequest) (identity : Option RuntimeIdentityDispatch)
    (allowed : Option (List String)) (hmode : client.config.routeDiscoveryMode = "ticketed")
    (hsource : client.config.profileRequest = none ∨ client.config.restrictedDirectory ≠ none)
    (hroutes : ∀ url ticketRequest membership body,
      ticket url ticketRequest membership (.answered 201 (some body)) ∈
        callEvents world client state request identity allowed → RouteNamesNode body)
    (post : Posted)
    (hpost : posted post ∈ callEvents world client state request identity allowed) :
    ∃ token key nowS claims,
      ticketAccepted token key (ticketIssuer client.config) post.node.nodeId request.intent
          nowS ∈ callEvents world client state request identity allowed ∧
        verifyDispatchRouteTicket world.tickets token key (ticketIssuer client.config)
          post.node.nodeId request.intent nowS = some claims ∧
        claims.nodeId = post.node.nodeId ∧ claims.intent = request.intent := by
  have hlists : ¬ UsesLists client.config := by
    rw [UsesLists, hmode]
    rintro (hlegacy | ⟨hopen, hauto | hprofile⟩)
    · exact absurd hlegacy (by decide)
    · exact absurd hauto (by decide)
    · exact hsource.elim hprofile fun hrestricted ↦ hrestricted hopen
  obtain ⟨hticketed | ⟨huses, -⟩, -⟩ := posted_good hpost
  · obtain ⟨_, _, _, _, hevent, hverified, hroute⟩ := hticketed
    obtain ⟨token, key, nowS, claims, haccepted, hclaims⟩ := hverified
    obtain ⟨routed, hrouted, hnode, -⟩ := hroute
    have hid : post.node.nodeId = routed.nodeId := by rw [hnode]
    rw [hid, nodeId_eq_namedNode (hroutes _ _ _ _ hevent) hrouted]
    obtain ⟨hnodeId, hintent, -⟩ := verify_claims hclaims
    exact ⟨token, key, nowS, claims, haccepted, hclaims, hnodeId, hintent⟩
  · exact absurd huses hlists

/-! ### One ticket -/

section OneTicket

variable {world : World} {config : ClientConfig} {intent : String} {opts : DiscoverOptions}

variable (config intent opts) in
def ticketAsked (excluded : List String) (status : ℕ) (body : Json) : Event :=
  .ticket (directoryBase config ++ "/v1/dispatch/ticket")
    (ticketRequest config intent opts excluded) none (.answered status (some body))

variable {log : List Event} {status : ℕ}

/-- An open directory that answers is asked once. -/
lemma askTicket_of_answer (hopen : config.restrictedDirectory = none)
    (hanswer : world.ticketAnswer log = .answered status (some body))
    (hstatus : (status == 405 || status == 501) = false) (url : String) (request : Json)
    (state : CallState) :
    askTicket world config url request state log =
      (.ok (status, body), state, .ticket url request none (.answered status (some body)) :: log) := by
  have hpost : postTicket world url request 2 state log = (.ok (status, some body), state,
      .ticket url request none (.answered status (some body)) :: log) := by
    rw [postTicket, bind_of_ok rfl, hanswer]
    rfl
  unfold askTicket
  rw [hopen]
  dsimp only
  rw [openTicketAnswer, bind_of_ok hpost]
  dsimp only
  rw [hstatus]
  rfl

lemma ticketRounds_of_no_route (hopen : config.restrictedDirectory = none)
    {excluded : List String} (hanswer : world.ticketAnswer log = .answered 404 (some body))
    (hcode : ((body.field "error").field "code").asStr = some "no_route_available") (left : ℕ)
    (state : CallState) :
    ticketRounds world config intent opts (left + 1) excluded state log =
      (.ok [], state, ticketAsked config intent opts excluded 404 body :: log) := by
  have hrefused : ticketRefused config 404 body = .ok () := if_pos ⟨rfl, hcode⟩
  have hround : ticketRound world config intent opts excluded state log =
      (.ok none, state, ticketAsked config intent opts excluded 404 body :: log) := by
    rw [ticketRound, bind_of_ok (askTicket_of_answer hopen hanswer rfl _ _ _)]
    dsimp only
    rw [bind_of_ok rfl, if_neg (by decide), hrefused]
    rfl
  rw [ticketRounds, bind_of_ok hround]
  rfl

def routedNode (body : Json) (node : Node) : Node :=
  { node with
    dispatchTicketIdPrefix := (body.field "ticket_id_prefix").asStr
    restrictedEligibility := none }

lemma verifiedTicket_of_accepted {token key : String} {nowS : ℤ}
    {claims : DispatchRouteTicketClaims} (htoken : (body.field "ticket").asStr = some token)
    (hclaims : verifyDispatchRouteTicket world.tickets token key (ticketIssuer config)
      (namedNode body) intent nowS = some claims) :
    verifiedTicket world config intent body (some key) nowS = some (token, key, claims) := by
  simp [verifiedTicket, htoken, hclaims]

variable (world config intent) in
/-- An open directory gives one ticket, which is verified, and then says that there is no other
route. -/
structure GivesOneTicket (body noRoute : Json) (token key : String) (nowS : ℤ)
    (claims : DispatchRouteTicketClaims) (node : Node) : Prop where
  isOpen : config.restrictedDirectory = none
  first : world.ticketAnswer [] = .answered 201 (some body)
  later : ∀ event log, world.ticketAnswer (event :: log) = .answered 404 (some noRoute)
  noOther : ((noRoute.field "error").field "code").asStr = some "no_route_available"
  keyGiven : ∀ log, (world.keyAnswer log).publicKey = some key
  time : ∀ log, world.timestamp log = nowS
  verified : verifiedTicket world config intent body (some key) nowS = some (token, key, claims)
  binding : policyManifestBindingMatches claims (body.field "route") = true
  parsed : Node.fromValue (ticketRoute body) = some node

section Gives

variable {body noRoute : Json} {token key short : String} {nowS : ℤ}
  {claims : DispatchRouteTicketClaims} {node : Node}

lemma GivesOneTicket.acceptTicket
    (h : GivesOneTicket world config intent body noRoute token key nowS claims node) (status : ℕ)
    (log : List Event) :
    acceptTicket world config intent status body ⟨none⟩ log =
      (.ok (routedNode body node), ⟨some key⟩,
        .ticketAccepted token key (ticketIssuer config) (namedNode body) intent nowS ::
          .directoryKey (directoryBase config ++ "/v1/directory-key") (world.keyAnswer log) ::
          log) := by
  have heligibility : ticketEligibility world config body ⟨none⟩ log =
      (.ok none, ⟨none⟩, log) := by
    unfold ticketEligibility
    rw [h.isOpen]
    rfl
  have hfetched : fetchDirectoryKey world config ⟨none⟩ log = (.ok (), ⟨some key⟩,
      .directoryKey (directoryBase config ++ "/v1/directory-key") (world.keyAnswer log) :: log) := by
    rw [fetchDirectoryKey, bind_of_ok rfl]
    dsimp only
    rw [bind_of_ok rfl, h.keyGiven log]
    rfl
  rw [Client.acceptTicket, bind_of_ok heligibility, bind_of_ok hfetched, bind_of_ok rfl,
    bind_of_ok rfl, h.time, h.verified, bind_of_ok rfl]
  dsimp only
  rw [bind_of_ok rfl, h.binding, bind_of_ok rfl, h.parsed]
  rfl

variable (config intent opts body noRoute token key short nowS) in
def oneTicketLog (keyAnswer : HttpAnswer) : List Event :=
  [ticketAsked config intent opts [short] 404 noRoute,
    .ticketAccepted token key (ticketIssuer config) (namedNode body) intent nowS,
    .directoryKey (directoryBase config ++ "/v1/directory-key") keyAnswer,
    ticketAsked config intent opts [] 201 body]

lemma answer_of_mem_oneTicketLog {keyAnswer : HttpAnswer} {url : String} {request found : Json}
    (h : ticket url request membership (.answered status (some found)) ∈
      oneTicketLog config intent opts body noRoute token key short nowS keyAnswer) :
    found = noRoute ∨ found = body := by
  simp only [oneTicketLog, ticketAsked, List.mem_cons, ticket.injEq, HttpAnswer.answered.injEq,
    Option.some.injEq, reduceCtorEq, List.not_mem_nil, or_false, false_or] at h
  rcases h with ⟨-, -, -, -, hfound⟩ | ⟨-, -, -, -, hfound⟩
  · exact .inl hfound
  · exact .inr hfound

lemma GivesOneTicket.ticketRound
    (h : GivesOneTicket world config intent body noRoute token key nowS claims node) :
    ticketRound world config intent opts [] ⟨none⟩ [] =
      (.ok (some (routedNode body node)), ⟨some key⟩,
        [.ticketAccepted token key (ticketIssuer config) (namedNode body) intent nowS,
          .directoryKey (directoryBase config ++ "/v1/directory-key")
            (world.keyAnswer [ticketAsked config intent opts [] 201 body]),
          ticketAsked config intent opts [] 201 body]) := by
  rw [Client.ticketRound, bind_of_ok (askTicket_of_answer h.isOpen h.first rfl _ _ _)]
  dsimp only
  rw [bind_of_ok rfl, if_pos rfl, bind_of_ok (h.acceptTicket 201 _)]
  rfl

variable (h : GivesOneTicket world config intent body noRoute token key nowS claims node)
  (hshort : (nodeShortId node.nodeId : Outcome TicketRouteError String) = .ok short)

include h hshort

lemma GivesOneTicket.ticketedCandidates :
    ∃ keyAnswer, ticketedCandidates world config intent opts ⟨none⟩ [] =
      (.ok [routedNode body node], ⟨some key⟩,
        oneTicketLog config intent opts body noRoute token key short nowS keyAnswer) := by
  refine ⟨world.keyAnswer [ticketAsked config intent opts [] 201 body], ?_⟩
  rw [Client.ticketedCandidates, maxRetries, ticketRounds, bind_of_ok h.ticketRound]
  dsimp only
  have hrouted : (nodeShortId (routedNode body node).nodeId : Outcome TicketRouteError String) =
      .ok short := hshort
  rw [hrouted, bind_of_ok rfl, bind_of_ok
    (ticketRounds_of_no_route h.isOpen (h.later _ _) h.noOther 1 ⟨some key⟩)]
  rfl

/-- In ticketed mode the node of the ticket is the source of the route. -/
lemma GivesOneTicket.routeSource (hmode : config.routeDiscoveryMode = "ticketed")
    (hprofile : config.profileRequest = none) :
    ∃ keyAnswer, routeSource world config intent opts ⟨none⟩ [] =
      (.ok ⟨[routedNode body node], 1, none, none, none⟩, ⟨some key⟩,
        oneTicketLog config intent opts body noRoute token key short nowS keyAnswer) := by
  obtain ⟨keyAnswer, hcandidates⟩ := h.ticketedCandidates hshort
  refine ⟨keyAnswer, ?_⟩
  rw [Client.routeSource, if_neg (by simp [hmode, hprofile]), bind_of_ok (by rw [attempt, hcandidates])]
  rfl

lemma GivesOneTicket.mem_oneTicketLog {ranker : Option CandidateRanker}
    {request named : TaskRequest} {identity : Option RuntimeIdentityDispatch}
    {allowed : Option (List String)} (hmode : config.routeDiscoveryMode = "ticketed")
    (hprofile : config.profileRequest = none) (hintent : request.intent = intent)
    (hnamed : request.named (world.uuid []) = named) {event : Event}
    (hevent : event ∈ callEvents world ⟨config, ranker⟩ ⟨none⟩ request identity allowed)
    (hnot : ¬ event.Tries fun _ ↦ True) :
    ∃ opts keyAnswer,
      event ∈ oneTicketLog config intent opts body noRoute token key short nowS keyAnswer := by
  have hmem := mem_routeSource_of_mem hnamed hevent hnot
  obtain ⟨keyAnswer, hroute⟩ := h.routeSource hshort hmode hprofile
  rw [hintent, hroute] at hmem
  exact ⟨_, keyAnswer, hmem⟩

end Gives

end OneTicket

/-! ### A sample ticket -/

def sampleTicketPayload : String :=
  "eyJ2IjoxLCJ0eXAiOiJkaXNwYXRjaC1yb3V0ZS10aWNrZXQiLCJpc3MiOiJodHRwczovL2RpcmVjdG9yeS5leGFtcGxl" ++
  "LnRlc3QiLCJhdWQiOiJpaWNwLmRpcmVjdG9yeS5kaXNwYXRjaCIsImp0aSI6IjAxMjM0NTY3ODlhYmNkZWYwMTIzNDU2" ++
  "NyIsIm5vZGVfaWQiOiJub2RlLTAwMDAwMDAxIiwiaW50ZW50IjoidXJuOmlpY3A6aW50ZW50OmxsbTpjaGF0OnYxIiwi" ++
  "aWF0IjoxNzAwMDAwMDAwLCJleHAiOjQxMDI0NDQ4MDB9"

def sampleSignature : String :=
  "86cf4831d15b1b2a73c7dd8cd2b4692a6f12a742ba4fd1b0ac30e6c60cfecf17" ++
  "bf8b9a0ac340677951649bd3403496883e9123b63d3313b8ad3438a8e3cf6a0d"

def sampleTicket : String := sampleTicketPayload ++ "." ++ sampleSignature

def sampleDirectoryKey : String :=
  "557a59f8820da4ad8a684fdc8a00355d30149b5ec22231ae331a62daa8dcf869"

def sampleKeyBytes : List UInt8 :=
  bytesOfNat 32 0x557a59f8820da4ad8a684fdc8a00355d30149b5ec22231ae331a62daa8dcf869

def sampleSignatureBytes : List UInt8 :=
  bytesOfNat 32 0x86cf4831d15b1b2a73c7dd8cd2b4692a6f12a742ba4fd1b0ac30e6c60cfecf17 ++
    bytesOfNat 32 0xbf8b9a0ac340677951649bd3403496883e9123b63d3313b8ad3438a8e3cf6a0d

def sampleClaimsText : String :=
  "\x7b\"v\":1,\"typ\":\"dispatch-route-ticket\",\"iss\":\"https://directory.example.test\"," ++
  "\"aud\":\"iicp.directory.dispatch\",\"jti\":\"0123456789abcdef01234567\"," ++
  "\"node_id\":\"node-00000001\",\"intent\":\"urn:iicp:intent:llm:chat:v1\"," ++
  "\"iat\":1700000000,\"exp\":4102444800\x7d"

def sampleClaims : DispatchRouteTicketClaims where
  v := 1
  typ := "dispatch-route-ticket"
  iss := "https://directory.example.test"
  aud := "iicp.directory.dispatch"
  jti := "0123456789abcdef01234567"
  nodeId := "node-00000001"
  intent := chatIntent
  iat := 1700000000
  exp := 4102444800
  policyManifestSha256 := none

/-- The functions of other crates, as they answer for the sample ticket, issued for a node. -/
def sampleTickets (nodeId : String) : TicketCrates where
  hexDecode := fun text ↦
    if text = sampleDirectoryKey then some sampleKeyBytes
    else if text = sampleSignature then some sampleSignatureBytes
    else none
  b64urlDecode := fun text ↦
    if text = sampleTicketPayload then some (utf8Bytes sampleClaimsText) else none
  verifies := fun key message signature ↦
    key = sampleKeyBytes ∧ message = asBytes ticketDomain ++ asBytes sampleTicketPayload ∧
      signature = sampleSignatureBytes
  readClaims := fun bytes ↦
    if bytes = utf8Bytes sampleClaimsText then some { sampleClaims with nodeId } else none

lemma notMem_toList_ofList {char : Char} {chars : List Char} (h : char ∉ chars) :
    char ∉ (String.ofList chars).toList := by
  rwa [String.toList_ofList]

lemma notMem_toList_append {char : Char} {first second : String} (hfirst : char ∉ first.toList)
    (hsecond : char ∉ second.toList) : char ∉ (first ++ second).toList := by
  rw [String.toList_append, List.mem_append, not_or]
  exact ⟨hfirst, hsecond⟩

set_option maxRecDepth 2000 in
lemma sampleTicketPayload_plain : '.' ∉ sampleTicketPayload.toList := by
  unfold sampleTicketPayload
  refine notMem_toList_append (notMem_toList_append (notMem_toList_append ?_ ?_) ?_) ?_
  all_goals exact notMem_toList_ofList (by decide +kernel)

lemma sampleTicket_split :
    splitOnce '.' sampleTicket = some (sampleTicketPayload, sampleSignature) :=
  splitOnce_append (by decide) sampleTicketPayload_plain sampleSignature

lemma sampleTicket_accepted (nodeId : String) :
    verifyDispatchRouteTicket (sampleTickets nodeId) sampleTicket sampleDirectoryKey
      "https://directory.example.test" nodeId chatIntent 1800000000 =
        some { sampleClaims with nodeId } := by
  have hother : sampleSignature ≠ sampleDirectoryKey := by decide +kernel
  have hkey : (sampleTickets nodeId).hexDecode sampleDirectoryKey = some sampleKeyBytes := by
    simp [sampleTickets]
  have hsignature : (sampleTickets nodeId).hexDecode sampleSignature = some sampleSignatureBytes := by
    simp [sampleTickets, hother]
  have hbytes : (sampleTickets nodeId).b64urlDecode sampleTicketPayload =
      some (utf8Bytes sampleClaimsText) := by
    simp [sampleTickets]
  have haccepted : ({ sampleClaims with nodeId } : DispatchRouteTicketClaims).accepted
      "https://directory.example.test" nodeId chatIntent 1800000000 := by
    have hsample : sampleClaims.accepted "https://directory.example.test" "node-00000001" chatIntent
        1800000000 := by
      decide +kernel
    simp only [DispatchRouteTicketClaims.accepted, Bool.and_eq_true, beq_iff_eq] at hsample ⊢
    obtain ⟨⟨⟨⟨⟨hbefore, -⟩, hintent⟩, hexp⟩, hmanifest⟩, hjti⟩ := hsample
    exact ⟨⟨⟨⟨⟨hbefore, trivial⟩, hintent⟩, hexp⟩, hmanifest⟩, hjti⟩
  exact verify_of_accepted sampleTicket_split (by decide +kernel) hkey rfl hsignature rfl
    (by simp [sampleTickets]) hbytes (by simp [sampleTickets]) haccepted

def ticketBody (nodeId : String) (route : Json) : Json :=
  .object [("node_id", .string nodeId), ("route", route), ("ticket", .string sampleTicket),
      ("ticket_id_prefix", .string "01234567")]

def noRouteBody : Json := .object [("error", .object [("code", .string "no_route_available")])]

/-- Surroundings in which the directory gives one ticket, for a node with this id. -/
def ticketWorld (nodeId : String) (route : Json) : World :=
  { sampleWorld with
    tickets := sampleTickets nodeId
    ticketAnswer := fun log ↦
      match log with
      | [] => .answered 201 (some (ticketBody nodeId route))
      | _ => .answered 404 (some noRouteBody)
    keyAnswer := fun _ ↦ .answered 200 (some (.object
      [("public_key", .string sampleDirectoryKey)])) }

def ticketedConfig : ClientConfig := { sampleConfig with routeDiscoveryMode := "ticketed" }

def ticketedNode : Node := { sampleNode with dispatchTicketIdPrefix := some "01234567" }

lemma ticketWorld_gives {nodeId : String} {route : Json} {node : Node}
    (hbinding : policyManifestBindingMatches { sampleClaims with nodeId } route = true)
    (hparsed : Node.fromValue (ticketRoute (ticketBody nodeId route)) = some node) :
    GivesOneTicket (ticketWorld nodeId route) ticketedConfig chatIntent (ticketBody nodeId route)
      noRouteBody sampleTicket sampleDirectoryKey 1800000000 { sampleClaims with nodeId } node where
  isOpen := rfl
  first := rfl
  later := fun _ _ ↦ rfl
  noOther := by decide +kernel
  keyGiven := fun _ ↦ rfl
  time := fun _ ↦ rfl
  verified := by
    have hissuer : ticketIssuer ticketedConfig = "https://directory.example.test" := by
      decide +kernel
    refine verifiedTicket_of_accepted rfl ?_
    rw [hissuer]
    exact sampleTicket_accepted nodeId
  binding := hbinding
  parsed := hparsed

lemma ticketWorld_sample :
    GivesOneTicket (ticketWorld "node-00000001" sampleListed) ticketedConfig chatIntent
      (ticketBody "node-00000001" sampleListed) noRouteBody sampleTicket sampleDirectoryKey 1800000000
      sampleClaims sampleNode :=
  ticketWorld_gives rfl (by decide +kernel)

lemma nodeShortId_sample :
    (nodeShortId sampleNode.nodeId : Outcome TicketRouteError String) = .ok "node-000" := by
  decide +kernel

/-- The sample task is posted to the node of the sample ticket. -/
theorem sample_post_ticketed :
    let events := callEvents (ticketWorld "node-00000001" sampleListed) ⟨ticketedConfig, none⟩ ⟨none⟩
      sampleRequest none none
    posted (samplePost ticketedNode) ∈ events ∧
      ∃ token key nowS claims,
        ticketAccepted token key (ticketIssuer ticketedConfig) ticketedNode.nodeId
            sampleRequest.intent nowS ∈ events ∧
        verifyDispatchRouteTicket (sampleTickets "node-00000001") token key
          (ticketIssuer ticketedConfig) ticketedNode.nodeId sampleRequest.intent nowS = some claims ∧
        claims.nodeId = ticketedNode.nodeId ∧ claims.intent = sampleRequest.intent := by
  intro events
  obtain ⟨_, hroute⟩ := ticketWorld_sample.routeSource nodeShortId_sample rfl rfl
  have hpost : posted (samplePost ticketedNode) ∈ events :=
    sample_posted rfl (fun _ ↦ rfl) (fun _ ↦ rfl) rfl _ rfl (by decide) (congrArg Prod.fst hroute)
      (by decide +kernel) (by decide +kernel)
  refine ⟨hpost, ticketed_posts_have_tickets (ticketWorld "node-00000001" sampleListed)
    ⟨ticketedConfig, none⟩ ⟨none⟩ sampleRequest none none rfl (.inl rfl) ?_
    (samplePost ticketedNode) hpost⟩
  intro url ticketRequest membership body hevent items hitems
  obtain ⟨_, _, hasked⟩ := ticketWorld_sample.mem_oneTicketLog nodeShortId_sample rfl rfl rfl
    (sampleRequest_named _) hevent id
  obtain rfl | rfl := answer_of_mem_oneTicketLog hasked
  · have hnone : (noRouteBody.field "route").asArray = none := by decide +kernel
    rw [hnone] at hitems
    nomatch hitems
  · nomatch hitems

/-- The sample provider as an array, under another id. -/
def arrayRoute : Json :=
  .array [.string "node-00000002", .string "https://node.example.com", .ofU64 1, .ofU64 0, .bool true,
    .string "eu", .null, .null, .null, .null, sampleListed.field "cx_public_key"]

/-- With a route that is an array the sample task is posted to the node that the array names, and the
ticket that is accepted is for another node. -/
theorem array_route_needs_no_ticket :
    let events := callEvents (ticketWorld "node-00000001" arrayRoute) ⟨ticketedConfig, none⟩ ⟨none⟩
      sampleRequest none none
    posted (samplePost { ticketedNode with nodeId := "node-00000002" }) ∈ events ∧
      ∀ token key issuer nodeId intent nowS,
        ticketAccepted token key issuer nodeId intent nowS ∈ events → nodeId = "node-00000001" := by
  have hgives : GivesOneTicket (ticketWorld "node-00000001" arrayRoute) ticketedConfig chatIntent
      (ticketBody "node-00000001" arrayRoute) noRouteBody sampleTicket sampleDirectoryKey 1800000000
      sampleClaims { sampleNode with nodeId := "node-00000002" } :=
    ticketWorld_gives rfl (by decide +kernel)
  have hshort : (nodeShortId "node-00000002" : Outcome TicketRouteError String) = .ok "node-000" := by
    decide +kernel
  obtain ⟨_, hroute⟩ := hgives.routeSource hshort rfl rfl
  refine ⟨sample_posted rfl (fun _ ↦ rfl) (fun _ ↦ rfl) rfl _ rfl (by decide) (congrArg Prod.fst hroute)
    (by decide +kernel) (by decide +kernel), fun token key issuer nodeId intent nowS hevent ↦ ?_⟩
  obtain ⟨_, _, hmem⟩ := hgives.mem_oneTicketLog hshort rfl rfl rfl (sampleRequest_named _) hevent id
  simp only [oneTicketLog, ticketAsked, List.mem_cons, ticketAccepted.injEq, reduceCtorEq,
    List.not_mem_nil, or_false, false_or] at hmem
  exact hmem.2.2.2.1

def sampleProfile : ProfileRequest where
  profileId := "urn:iicp:profile:sample:v1"
  profileVersion := "1.0.0"
  profileFixtureSha256 := "0123456789abcdef0123456789abcdef0123456789abcdef0123456789abcdef"
  required := false

/-- A client in ticketed mode that asks an open directory for a profile. -/
def profileConfig : ClientConfig := { ticketedConfig with profileRequest := some sampleProfile }

/-- In ticketed mode with a profile request the sample task is posted to a node of a list, and no
ticket is accepted in the call. -/
theorem profile_request_needs_no_ticket :
    profileConfig.routeDiscoveryMode = "ticketed" ∧
      posted (samplePost sampleNode) ∈
        callEvents sampleWorld ⟨profileConfig, none⟩ ⟨none⟩ sampleRequest none none ∧
      ∀ token key issuer nodeId intent nowS,
        ticketAccepted token key issuer nodeId intent nowS ∉
          callEvents sampleWorld ⟨profileConfig, none⟩ ⟨none⟩ sampleRequest none none := by
  have hlists := @routeSource_of_lists sampleWorld profileConfig sampleRequest.intent
    (projectRouteOptions sampleRequest profileConfig) (.inr ⟨rfl, rfl⟩) sampleRequest_valid ⟨none⟩ []
  refine ⟨rfl, ?_, fun token key issuer nodeId intent nowS hevent ↦ ?_⟩
  · refine sample_posted rfl (fun _ ↦ rfl) (fun _ ↦ rfl) rfl ⟨[sampleNode], 1, none, none, none⟩ rfl
      (by decide) ?_ (by decide +kernel) (by decide +kernel)
    rw [hlists]
    decide +kernel
  · have hasked := mem_routeSource_of_mem (sampleRequest_named _) hevent id
    dsimp only at hasked
    have hnone : (discoverChecked sampleWorld profileConfig sampleRequest.intent
        (projectRouteOptions sampleRequest profileConfig) ⟨none⟩ []).2.2.all (fun event ↦
          match event with
          | .ticketAccepted _ _ _ _ _ _ => false
          | _ => true) := by decide +kernel
    rw [hlists] at hasked
    exact absurd (List.all_eq_true.mp hnone _ hasked) (by simp)

/-! ### Restricted clients -/

/-- The node comes from an answer of these events with a decision about the member, whose acceptance
for the operation is one of them, and its eligibility is this decision. -/
inductive InDomain (world : World) (context : RestrictedDirectoryContext) (events : List Event) :
    Node → Prop where
  | listed {url : String} {membership : Option Membership} {status : ℕ} {body : Json}
      {list : NodeList} {node : Node} {eligibility : RestrictedEligibility} (before : List Event)
      (answered : discovery url membership (.answered status (some body)) ∈ events)
      (decided : decisionAccepted "discovery" body (world.unixTime before) ∈ events)
      (accepted : validateDecision body context "discovery" (world.unixTime before) =
        .ok eligibility)
      (parsed : NodeList.fromValue body = some list) (mem : node ∈ list.nodes) :
      InDomain world context events { node with restrictedEligibility := some eligibility }
  | ticketed {url : String} {request : Json} {membership : Option Membership} {status : ℕ}
      {body : Json} {node : Node} {eligibility : RestrictedEligibility} (before : List Event)
      (ticketId : Option String)
      (answered : ticket url request membership (.answered status (some body)) ∈ events)
      (decided : decisionAccepted "dispatch_ticket" body (world.unixTime before) ∈ events)
      (accepted : validateDecision body context "dispatch_ticket" (world.unixTime before) =
        .ok eligibility)
      (parsed : Node.fromValue (ticketRoute body) = some node) :
      InDomain world context events
        { node with dispatchTicketIdPrefix := ticketId, restrictedEligibility := some eligibility }

section Restricted

variable {world : World} {config : ClientConfig} {context : RestrictedDirectoryContext}

lemma Sourced.inDomain (hcontext : config.restrictedDirectory = some context) {intent : String}
    {events : List Event} (h : Sourced world config intent events node) :
    InDomain world context events node := by
  rcases h with hticketed | ⟨-, hlisted⟩
  · obtain ⟨_, _, _, body, hevent, -, _, hrouted, hnode, hdecided⟩ := hticketed
    rw [Decided, hcontext] at hdecided
    obtain ⟨before, eligibility, hrecorded, haccepted, heligibility⟩ := hdecided
    rw [hnode, heligibility]
    exact InDomain.ticketed before _ hevent hrecorded haccepted hrouted
  · obtain ⟨_, _, _, _, _, listed, hevent, hlist, hmem, hnode, hdecided⟩ := hlisted
    rw [Decided, hcontext] at hdecided
    obtain ⟨before, _, hrecorded, haccepted, heligibility⟩ := hdecided
    rw [hnode, heligibility]
    exact InDomain.listed before hevent hrecorded haccepted hlist hmem

/-- The eligibility of a node in the domain is for the domain and the authority of the context, with
a membership that is recent enough. -/
lemma InDomain.eligibility {events : List Event} (h : InDomain world context events node) :
    ∃ eligibility, node.restrictedEligibility = some eligibility ∧
      eligibility.domainId = context.domainId ∧ eligibility.authorityId = context.authorityId ∧
      context.minimumMembershipGeneration ≤ eligibility.membershipGeneration := by
  cases h with
  | listed _ _ _ accepted | ticketed _ _ _ _ accepted =>
    obtain ⟨hdomain, hauthority, hgeneration, -⟩ := validateDecision_eq_ok accepted
    exact ⟨_, rfl, hdomain, hauthority, hgeneration⟩

lemma Membered.of_restricted (hcontext : config.restrictedDirectory = some context)
    (h : Membered world config membership) :
    ∃ before credential, world.secret before context.membershipCredential = some credential ∧
      membership = some ⟨credential, context.subjectId⟩ := by
  rwa [Membered, hcontext] at h

lemma UsesLists.of_restricted (hcontext : config.restrictedDirectory = some context)
    (h : UsesLists config) : config.routeDiscoveryMode = "legacy" := by
  rcases h with hlegacy | ⟨hopen, -⟩
  · exact hlegacy
  · rw [hcontext] at hopen
    nomatch hopen

lemma NodeList.fromValue_local {value : Json} {list : NodeList}
    (h : fromValue value = some list) : list.restrictedEligibility = none := by
  simp only [fromValue, Option.bind_eq_bind, Option.bind_eq_some_iff,
    Option.some.injEq] at h
  obtain ⟨_, -, _, -, _, -, _, -, _, -, rfl⟩ := h
  rfl

end Restricted

/-- Assumes: a client with a restricted context. Whatever the mode and the answers, every node that
is found and every node that is posted to is in the domain of the context; lists are asked for only
in legacy mode; every request for a list or a ticket carries the credential and the subject of the
member; and nothing that is read from an answer has an eligibility of its own. -/
theorem restricted_client_stays_in_domain (world : World) (client : IicpClient)
    (context : RestrictedDirectoryContext)
    (hcontext : client.config.restrictedDirectory = some context) (state : CallState)
    (request : TaskRequest) (identity : Option RuntimeIdentityDispatch)
    (allowed : Option (List String)) :
    (∀ opts list, (routeSource world client.config request.intent opts state []).1 = .ok list →
      ∀ node ∈ list.nodes, InDomain world context
        (routeSource world client.config request.intent opts state []).2.2 node) ∧
    (∀ post, posted post ∈ callEvents world client state request identity allowed →
      InDomain world context (callEvents world client state request identity allowed) post.node ∧
        ∃ eligibility, post.node.restrictedEligibility = some eligibility ∧
          eligibility.domainId = context.domainId ∧
          eligibility.authorityId = context.authorityId ∧
          context.minimumMembershipGeneration ≤ eligibility.membershipGeneration) ∧
    (∀ url membership answer, discovery url membership answer ∈
        callEvents world client state request identity allowed →
      client.config.routeDiscoveryMode = "legacy" ∧ ∃ before credential,
        world.secret before context.membershipCredential = some credential ∧
          membership = some ⟨credential, context.subjectId⟩) ∧
    (∀ url ticketRequest membership answer, ticket url ticketRequest membership answer ∈
        callEvents world client state request identity allowed →
      ∃ before credential, world.secret before context.membershipCredential = some credential ∧
        membership = some ⟨credential, context.subjectId⟩) ∧
    (∀ value node, Node.fromValue value = some node → node.restrictedEligibility = none) ∧
    (∀ value list, NodeList.fromValue value = some list → list.restrictedEligibility = none) := by
  refine ⟨fun opts list hlist node hnode ↦ ?_, fun post hpost ↦ ?_, fun url membership answer h ↦ ?_,
    fun url body membership answer h ↦ ?_, fun value node h ↦ (Node.fromValue_local h).1,
    fun value list h ↦ NodeList.fromValue_local h⟩
  · obtain ⟨_, hlog, -, hsourced⟩ :=
      @routeSource_guarantees world client.config request.intent opts state []
    rw [List.append_nil] at hlog
    rw [hlog]
    exact (hsourced list hlist node hnode).inDomain hcontext
  · have hdomain := (posted_good hpost).1.inDomain hcontext
    exact ⟨hdomain, hdomain.eligibility⟩
  · obtain ⟨huses, hmembered⟩ := asks_of_mem h id
    exact ⟨huses.of_restricted hcontext, hmembered.of_restricted hcontext⟩
  · exact Membered.of_restricted hcontext (asks_of_mem h id)

def sampleContext : RestrictedDirectoryContext where
  domainId := "domain-1"
  authorityId := "authority-1"
  subjectId := "client-1"
  subjectKind := "client"
  minimumMembershipGeneration := 1
  membershipCredential := .environment "IICP_MEMBERSHIP"

def sampleEligibility : RestrictedEligibility := ⟨"domain-1", "authority-1", 1, 1900000000⟩

/-- The list of the restricted sample directory, with its decision. -/
def restrictedBody : Json :=
  .object [("count", .ofU64 1), ("nodes", .array [sampleListed]), ("profile_negotiation", .object
        [("dispatch_allowed", .bool true), ("reason", .null), ("requested", .bool true),
          ("status", .string "compatible")]),
      ("restricted_domain_decision", .object
        [("authority_id", .string "authority-1"), ("decision", .string "eligible"),
          ("domain_id", .string "domain-1"), ("membership_expires_at", .ofU64 1900000000),
          ("membership_generation", .ofU64 1), ("operation", .string "discovery"),
          ("profile", .string restrictedProfileId), ("schema", .string decisionSchema),
          ("subject_kind", .string "client")])]

def restrictedWorld : World :=
  { sampleWorld with
    secret := fun _ reference ↦
      if reference = .environment "IICP_MEMBERSHIP" then some "credential-1" else none
    discoveryAnswer := fun _ ↦ .answered 200 (some restrictedBody) }

def restrictedConfig : ClientConfig :=
  { sampleConfig with
    profileRequest := some { sampleProfile with profileId := restrictedProfileId, required := true }
    restrictedDirectory := some sampleContext }

def restrictedNode : Node := { sampleNode with restrictedEligibility := some sampleEligibility }

/-- The sample task is posted to a node of the domain. -/
theorem sample_post_in_domain :
    IicpClient.new (restrictedWorld.secret []) restrictedConfig = .ok ⟨restrictedConfig, none⟩ ∧
      posted (samplePost restrictedNode) ∈
        callEvents restrictedWorld ⟨restrictedConfig, none⟩ ⟨none⟩ sampleRequest none none ∧
      InDomain restrictedWorld sampleContext
        (callEvents restrictedWorld ⟨restrictedConfig, none⟩ ⟨none⟩ sampleRequest none none)
        restrictedNode := by
  have hpost : posted (samplePost restrictedNode) ∈
      callEvents restrictedWorld ⟨restrictedConfig, none⟩ ⟨none⟩ sampleRequest none none := by
    refine sample_posted rfl (fun _ ↦ rfl) (fun _ ↦ rfl) rfl ⟨[restrictedNode], 1,
      some ⟨true, some "compatible", none, some true⟩, none, some sampleEligibility⟩ rfl (by decide)
      ?_ (by decide +kernel) (by decide +kernel)
    rw [routeSource_of_lists _ (.inl rfl) sampleRequest_valid]
    decide +kernel
  obtain ⟨-, hposts, -⟩ := restricted_client_stays_in_domain restrictedWorld
    ⟨restrictedConfig, none⟩ sampleContext rfl ⟨none⟩ sampleRequest none none
  have hchecked : checkRestricted (restrictedWorld.secret []) restrictedConfig = .ok () := by
    decide +kernel
  refine ⟨?_, hpost, (hposts _ hpost).1⟩
  rw [IicpClient.new, hchecked]
  rfl

end Iicp.Client
