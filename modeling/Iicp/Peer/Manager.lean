import Iicp.Client.Discovery
import Iicp.Http.EndpointSecurity
import Iicp.Peer.Membership
import Iicp.Rust.HashMap

/-!
# The peers of a node

A node keeps a table of its peers. `mergePeersAt` takes up the entries of a list that was received,
`prune` drops peers that were not heard of for ninety seconds or whose membership has expired, and
`retainGenerations` drops the members of revoked generations. In a restricted domain an entry is
taken up only with a membership of its own (`verifiedRestrictedMembership`), and a list is received
only from a member that signed it, once (`verifyRestrictedBody`, `recordReplay`).

Each of these functions runs under the lock of the table that it changes. The JSON library and the
keyed hash are added to the functions of other crates in `PeerCrates`.
-/

namespace Iicp.Peer

open Rust MembershipEnvelope
open Http (Url)

/-- The time, in nanoseconds, after which a peer is dropped that was not heard of. -/
def peerExpiry : ℕ := 90 * 10 ^ 9

def maxReplayIds : ℕ := 4096

structure PeerInfo where
  (nodeId endpoint region lastSeen : String)
  /-- In nanoseconds of the clock of the node. -/
  lastContact : ℕ
  relayCapable : Bool
  relayAcceptPort : UInt16
  relayLoad : Float
  trustDomainId : Option String
  (membershipGeneration membershipExpiresAt : Option ℕ)
  membership : Option MembershipEnvelope
  deriving DecidableEq

abbrev PeerTable := HashMap String PeerInfo

structure RestrictedLocalIdentity where
  membership : MembershipEnvelope
  signingSeed : List UInt8

structure RestrictedPeerAdmission where
  policy : MembershipPolicy
  identity : Option RestrictedLocalIdentity

inductive PeerAdmissionMode where
  | publicMode
  | restricted (admission : RestrictedPeerAdmission)

/-- The minimum generation of a new peer manager. -/
def PeerAdmissionMode.minimumGeneration : PeerAdmissionMode → ℕ
  | publicMode => 0
  | restricted admission => admission.policy.minimumGeneration

/-- What a node is set up with. -/
structure PeerManager where
  nodeToken : String
  ownRelayCapable : Bool
  ownRelayAcceptPort : UInt16
  admission : PeerAdmissionMode

/-- The functions of other crates: those for memberships, the address parser, the JSON library and
the keyed hash of a body. -/
structure PeerCrates extends MembershipCrates where
  parseUrl : String → Option Url
  toVec : Json → Option (List UInt8)
  fromSlice : List UInt8 → Option Json
  signBody : (body : List UInt8) → (secret : String) → String

/-- What a merge is asked for: the directory sent the list, or a peer did. -/
inductive MergeScope where
  | bootstrap
  | peers
  deriving DecidableEq, Repr

def MergeScope.text : MergeScope → String
  | bootstrap => "bootstrap"
  | peers => "peers"

/-! ### Entries -/

variable (peer : Json)

def peerInfo (nodeId : String) (membership : Option MembershipEnvelope)
    (lastContact : ℕ) : PeerInfo where
  nodeId := nodeId
  endpoint := (peer.field "endpoint").asStr.getD ""
  region := (peer.field "region").asStr.getD ""
  lastSeen := (peer.field "last_seen").asStr.getD ""
  lastContact := lastContact
  relayCapable := (peer.field "relay_capable").asBool.getD false
  relayAcceptPort := UInt16.ofNat ((peer.field "relay_accept_port").asU64.getD 9485)
  relayLoad := (peer.field "relay_load").asF64.getD 0
  trustDomainId := membership.map (·.assertion.domainId)
  membershipGeneration := membership.map (·.assertion.generation)
  membershipExpiresAt := membership.map (·.assertion.expiresAt)
  membership := membership

def PeerInfo.toResponseValue (peer : PeerInfo) : Json :=
  .object (Json.present [("endpoint", some (.string peer.endpoint)),
    ("last_seen", some (.string peer.lastSeen)),
    ("membership", peer.membership.map toValue),
    ("node_id", some (.string peer.nodeId)), ("region", some (.string peer.region))])

def PeerInfo.toGossipValue (peer : PeerInfo) : Json :=
  .object (Json.present [("endpoint", some (.string peer.endpoint)),
    ("last_seen", some (.string peer.lastSeen)),
    ("membership", peer.membership.map toValue),
    ("node_id", some (.string peer.nodeId)), ("region", some (.string peer.region)),
    ("relay_accept_port", some (.ofU64 peer.relayAcceptPort.toNat)),
    ("relay_capable", some (.bool peer.relayCapable)),
    ("relay_load", some (Client.jsonOfF64 peer.relayLoad))])

def entryId : String := ((peer.get "node_id").bind Json.asStr).getD ""

/-- What follows the number sign. -/
def urlFragment (url : Url) : Option String := (splitOnce '#' url.rest).map Prod.snd

def peerUrlHasNoCredentials (url : Url) : Bool := url.username == "" && url.password.isNone

def validPeerUrl (url : Url) : Bool :=
  (url.scheme == "http" || url.scheme == "https") && url.host.isSome &&
    peerUrlHasNoCredentials url && (urlFragment url).isNone

def invalidRelayPort : Bool :=
  ((peer.get "relay_accept_port").bind Json.asU64).any fun port ↦ port == 0 || 65535 < port

def invalidRelayLoad : Bool :=
  ((peer.get "relay_load").bind Json.asF64).any fun load ↦ !load.isFinite || load < 0

section Admission

variable (crates : PeerCrates) {admission : PeerAdmissionMode} {minimum epoch now : ℕ}
  {nodeId : String}

def validRestrictedPeer (peer : Json) : Bool :=
  match (peer.get "endpoint").bind Json.asStr with
  | none => false
  | some endpoint =>
    match crates.parseUrl endpoint with
    | none => false
    | some url => validPeerUrl url && !invalidRelayPort peer && !invalidRelayLoad peer

/-- The policy with a minimum that was raised since. -/
def MembershipPolicy.raised (policy : MembershipPolicy) (minimum : ℕ) : MembershipPolicy :=
  { policy with minimumGeneration := max policy.minimumGeneration minimum }

/-- The membership of an entry whose address is valid, under the minimum that was loaded. -/
def entryMembership (restricted : RestrictedPeerAdmission) (minimum : ℕ) (peer : Json)
    (nodeId scope : String) (epoch : ℕ) : Option MembershipEnvelope := do
  let value ← peer.get "membership"
  let envelope ← fromValue value
  match verifyMembership crates.toMembershipCrates envelope (restricted.policy.raised minimum)
    nodeId scope epoch with
  | .ok () => some envelope
  | _ => none

lemma verifyMembership_of_entryMembership {crates : PeerCrates}
    {restricted : RestrictedPeerAdmission} {peer : Json} {scope : String}
    {envelope : MembershipEnvelope}
    (h : entryMembership crates restricted minimum peer nodeId scope epoch = some envelope) :
    verifyMembership crates.toMembershipCrates envelope (restricted.policy.raised minimum) nodeId
      scope epoch = .ok () := by
  rw [entryMembership, Option.bind_eq_bind, Option.bind_eq_some_iff] at h
  obtain ⟨_, -, h⟩ := h
  rw [Option.bind_eq_bind, Option.bind_eq_some_iff] at h
  obtain ⟨found, -, h⟩ := h
  cases hverify : verifyMembership crates.toMembershipCrates found
    (restricted.policy.raised minimum) nodeId scope epoch with
  | ok =>
    rw [hverify] at h
    exact Option.some.inj h ▸ hverify
  | err | panicked =>
    rw [hverify] at h
    nomatch h

def verifiedRestrictedMembership (restricted : RestrictedPeerAdmission) (minimum : ℕ) (peer : Json)
    (nodeId scope : String) (epoch : ℕ) : Option MembershipEnvelope :=
  if validRestrictedPeer crates peer then
    entryMembership crates restricted minimum peer nodeId scope epoch
  else none

def admittedMembership (admission : PeerAdmissionMode) (minimum : ℕ) (peer : Json)
    (nodeId scope : String) (epoch : ℕ) : Option (Option MembershipEnvelope) :=
  match admission with
  | .publicMode => some none
  | .restricted restricted =>
    (verifiedRestrictedMembership crates restricted minimum peer nodeId scope epoch).map some

/-- An entry that is taken up: its identity and what is stored. -/
def admitEntry (admission : PeerAdmissionMode) (minimum : ℕ) (scope own : String) (epoch now : ℕ)
    (peer : Json) : Option (String × PeerInfo) :=
  let nodeId := entryId peer
  if nodeId = "" ∨ nodeId = own then none
  else
    (admittedMembership crates admission minimum peer nodeId scope epoch).map fun membership ↦
      (nodeId, peerInfo peer nodeId membership now)

lemma eq_of_admitEntry {scope own : String} {peer : Json} {stored : String × PeerInfo}
    (h : admitEntry crates admission minimum scope own epoch now peer = some stored) :
    stored.1 = entryId peer ∧ stored.2.nodeId = entryId peer ∧ stored.2.lastContact = now := by
  rw [admitEntry] at h
  by_cases hskip : entryId peer = "" ∨ entryId peer = own
  · rw [if_pos hskip] at h
    nomatch h
  · rw [if_neg hskip, Option.map_eq_some_iff] at h
    obtain ⟨_, -, rfl⟩ := h
    exact ⟨rfl, rfl, rfl⟩

/-- Takes up one entry, and counts it if it is new. -/
def mergeEntry (admission : PeerAdmissionMode) (minimum : ℕ) (scope own : String) (epoch now : ℕ)
    (merged : PeerTable × ℕ) (peer : Json) : PeerTable × ℕ :=
  match admitEntry crates admission minimum scope own epoch now peer with
  | none => merged
  | some (nodeId, info) =>
    (merged.1.insert nodeId info, if nodeId ∈ merged.1 then merged.2 else merged.2 + 1)

def mergePeersAt (admission : PeerAdmissionMode) (minimum : ℕ) (scope own : String) (epoch now : ℕ)
    (incoming : List Json) (peers : PeerTable) : PeerTable × ℕ :=
  incoming.foldl (mergeEntry crates admission minimum scope own epoch now) (peers, 0)

lemma lookup_mergeEntry {scope own : String} {merged : PeerTable × ℕ} {entry : Json}
    {peer : PeerInfo}
    (h : (mergeEntry crates admission minimum scope own epoch now merged entry).1.lookup nodeId =
      some peer) :
    merged.1.lookup nodeId = some peer ∨
      nodeId = entryId entry ∧ peer.nodeId = nodeId ∧ peer.lastContact = now := by
  rw [mergeEntry] at h
  cases hentry : admitEntry crates admission minimum scope own epoch now entry with
  | none =>
    rw [hentry] at h
    exact .inl h
  | some stored =>
    rw [hentry] at h
    obtain ⟨hid, hnode, hcontact⟩ := eq_of_admitEntry crates hentry
    by_cases hsame : nodeId = stored.1
    · rw [hsame, AList.lookup_insert, Option.some.injEq] at h
      rw [← h, hsame, hid]
      exact .inr ⟨rfl, hnode, hcontact⟩
    · rw [AList.lookup_insert_ne hsame] at h
      exact .inl h

/-- An entry after a list was taken up: it was there before, or the list names it and it is new. -/
lemma lookup_mergePeersAt {scope own : String} {incoming : List Json} {peers : PeerTable}
    {peer : PeerInfo}
    (h : (mergePeersAt crates admission minimum scope own epoch now incoming peers).1.lookup nodeId =
      some peer) :
    peers.lookup nodeId = some peer ∨
      nodeId ∈ incoming.map entryId ∧ peer.nodeId = nodeId ∧ peer.lastContact = now := by
  rw [mergePeersAt] at h
  have hpeers : (peers, 0).1 = peers := rfl
  rw [← hpeers]
  generalize (peers, 0) = merged at h ⊢
  induction incoming generalizing merged with
  | nil => exact .inl h
  | cons entry rest ih =>
    obtain hbefore | ⟨hnamed, hnew⟩ := ih _ h
    · obtain hold | ⟨hid, hnew⟩ := lookup_mergeEntry crates hbefore
      · exact .inl hold
      · exact .inr ⟨hid ▸ List.mem_cons_self, hnew⟩
    · exact .inr ⟨List.mem_cons_of_mem _ hnamed, hnew⟩

end Admission

/-! ### What is dropped, and what is read -/

/-- A peer stays: it was heard of lately, and its membership has not expired. -/
def PeerInfo.current (now epoch : ℕ) (peer : PeerInfo) : Bool :=
  now - peer.lastContact < peerExpiry && peer.membershipExpiresAt.all (epoch < ·)

def retainPeers (test : PeerInfo → Bool) (peers : PeerTable) : PeerTable × ℕ :=
  let kept := HashMap.retain peers fun _ peer ↦ test peer
  (kept, HashMap.size peers - kept.size)

def prune (now epoch : ℕ) (peers : PeerTable) : PeerTable × ℕ :=
  retainPeers (PeerInfo.current now epoch) peers

def retainGenerations (minimum : ℕ) (peers : PeerTable) : PeerTable × ℕ :=
  retainPeers (fun peer ↦ peer.membershipGeneration.all (minimum ≤ ·)) peers

def relayCandidates (peers : PeerTable) : List PeerInfo :=
  (HashMap.values peers).filter fun peer ↦ peer.relayCapable && peer.endpoint != ""

def getPeers (now epoch : ℕ) (peers : PeerTable) : List PeerInfo :=
  HashMap.values (prune now epoch peers).1

def relayTarget (now epoch : ℕ) (nodeId : String) (peers : PeerTable) : Option PeerInfo :=
  (prune now epoch peers).1.lookup nodeId

def getRelayCandidates (now epoch : ℕ) (peers : PeerTable) : List PeerInfo :=
  relayCandidates (prune now epoch peers).1

lemma lookup_retainPeers {test : PeerInfo → Bool} {peers : PeerTable} {nodeId : String}
    {peer : PeerInfo} :
    (retainPeers test peers).1.lookup nodeId = some peer ↔
      peers.lookup nodeId = some peer ∧ test peer := by
  rw [retainPeers, HashMap.lookup_retain, Option.filter_eq_some_iff]

/-! ### Lists that are received -/

section Exchange

variable (crates : PeerCrates) (body : List UInt8)

def extractKnownPeers : Option (List Json) :=
  ((crates.fromSlice body).bind (·.get "known_peers")).bind Json.asArray

def verifySignature (secret signature : String) : Bool :=
  crates.signBody body secret == signature

def verifyExchange (manager : PeerManager) (body : List UInt8) (signature : Option String) : Bool :=
  match manager.admission with
  | .restricted _ => false
  | .publicMode =>
    manager.nodeToken == "" ||
      signature.any fun signature ↦ verifySignature crates body manager.nodeToken signature

def restrictedPeerPayload (parsed : Json) : Outcome String (List Json × List UInt8) := do
  let peers ← Outcome.okOr "malformed_exchange" (parsed.field "known_peers").asArray
  let payload ← Outcome.okOr "malformed_exchange"
    (crates.canonical (.object [("known_peers", .array peers)]))
  .ok (peers, payload)

structure RestrictedExchange where
  membership : MembershipEnvelope
  gossip : GossipEnvelope
  peers : List Json
  payload : List UInt8
  deriving DecidableEq

def parseRestrictedExchange : Outcome String RestrictedExchange := do
  let parsed ← Outcome.okOr "malformed_exchange" (crates.fromSlice body)
  let membership ← Outcome.okOr "membership_malformed" (fromValue (parsed.field "membership"))
  let gossip ← Outcome.okOr "gossip_malformed" (GossipEnvelope.fromValue (parsed.field "gossip"))
  let (peers, payload) ← restrictedPeerPayload crates parsed
  .ok ⟨membership, gossip, peers, payload⟩

/-- Every check of a list before its identifier is recorded, under the minimum that was loaded. -/
def verifyRestrictedBody (restricted : RestrictedPeerAdmission) (minimum : ℕ) (body : List UInt8)
    (now : ℕ) : Outcome String RestrictedExchange := do
  let exchange ← parseRestrictedExchange crates body
  Outcome.mapErr MembershipRefusal.code
    (verifyGossip crates.toMembershipCrates exchange.gossip exchange.membership
      (restricted.policy.raised minimum) exchange.payload now false)
  .ok exchange

/-- Records an identifier that is not recorded yet, after those have been dropped that expired. -/
def recordReplay (replayId : String) (expiresAt now : ℕ) (replayIds : HashMap String ℕ) :
    HashMap String ℕ × Outcome String Unit :=
  let kept := HashMap.retain replayIds fun _ expiry ↦ now < expiry
  if replayId ∈ kept then (kept, .err MembershipRefusal.replayDetected.code)
  else if maxReplayIds ≤ kept.size then (kept, .err MembershipRefusal.replayCapacity.code)
  else (kept.insert replayId expiresAt, .ok ())

end Exchange

end Iicp.Peer
