import Iicp.Concurrent.EventMachine
import Iicp.Peer.Manager

/-!
# Nodes that gossip

A mesh is any number of nodes. Each node asks the directory for a first list of peers, and then goes
through rounds with a pause in between: it prunes its table, chooses a peer that it has not heard of
for the longest time, sends it the peers it knows, takes up the peers of the answer, renews the
contact, and prunes again. A node that receives such a list checks it, takes up its entries, prunes,
and answers with the peers it knows. Every step under a lock is a step of its own here. A step that
reads the clock before it takes the lock may have read it some time earlier.

A node hears of a peer when it takes up a list that names the peer, whoever sent it, and when a peer
answers. Nothing else makes an entry younger (`learns_step`). So a peer that no node hears of any
more gets no younger in any table (`lastHeard_of_unheard`).
-/

namespace Iicp.Peer

open Rust HashMap Concurrent

/-- The pause between two rounds, in nanoseconds. -/
def gossipInterval : ℕ := 30 * 10 ^ 9

/-! ### Messages -/

section Messages

variable (crates : PeerCrates) (manager : PeerManager)

/-- What a node says of itself; a node of a restricted domain needs a membership for it. -/
def ownPeerValue (nodeId endpoint : String) : Option Json :=
  let own (membership : Option Json) : Json :=
    .object (Json.present [("endpoint", some (.string endpoint)), ("membership", membership),
      ("node_id", some (.string nodeId)),
      ("relay_accept_port", some (.ofU64 manager.ownRelayAcceptPort.toNat)),
      ("relay_capable", some (.bool manager.ownRelayCapable)),
      ("relay_load", some (Client.jsonOfF64 0))])
  if nodeId = "" then none
  else
    match manager.admission with
    | .publicMode => some (own none)
    | .restricted restricted =>
      restricted.identity.map fun identity ↦ own (some identity.membership.toValue)

def exchangeBody (known : List Json) (sentAt : ℕ) (replayId : String) : Option (List UInt8) :=
  let payload : Json := .object [("known_peers", .array known)]
  match manager.admission with
  | .publicMode => crates.toVec payload
  | .restricted restricted => do
    let identity ← restricted.identity
    let canonical ← crates.canonical payload
    match signGossip crates.toMembershipCrates identity.membership identity.signingSeed
      restricted.policy.domainId canonical sentAt replayId with
    | .ok gossip =>
      crates.toVec (.object [("gossip", gossip.toValue), ("known_peers", .array known),
        ("membership", identity.membership.toValue)])
    | _ => none

def exchangeSignature (body : List UInt8) : Option String :=
  if manager.nodeToken = "" then none else some (crates.signBody body manager.nodeToken)

def PeerInfo.peersUrl (target : PeerInfo) : String :=
  trimEndMatches '/' target.endpoint ++ "/v1/peers"

def peersResponse (peers : List PeerInfo) : Json :=
  .object [("peers", .array (peers.map PeerInfo.toResponseValue))]

def responsePeers (answer : List UInt8) : Option (List Json) :=
  ((crates.fromSlice answer).bind (·.get "peers")).bind Json.asArray

/-- The entries of a received list that are objects. -/
def peerDicts (incoming : List Json) : List Json := incoming.filter (·.asObject.isSome)

end Messages

/-! ### One node -/

inductive GossipPhase where
  | off
  | bootstrapping
  | listed (incoming : List Json)
  | sleeping (wake : ℕ)
  | pruned
  | chosen (target : PeerInfo)
  | sent (target : PeerInfo) (call : ℕ)
  | answered (targetId : String) (incoming : List Json)
  | merged (targetId : String)
  | finishing

/-- Where a call to the peers endpoint of a node is. -/
inductive PeersCall where
  | unused
  | received (body : List UInt8) (signature : Option String)
  | recording (exchange : RestrictedExchange)
  | merging (incoming : List Json)
  | merged
  | pruned
  | answered (answer : List UInt8)
  | refused
  deriving DecidableEq

/-- The node has not finished the call yet. -/
def PeersCall.open : PeersCall → Bool
  | unused | answered _ | refused => false
  | _ => true

structure NodeState where
  ownId : String
  ownEndpoint : String
  minimum : ℕ
  peers : PeerTable
  replayIds : HashMap String ℕ
  phase : GossipPhase
  calls : ℕ → PeersCall

namespace NodeState

section Tables

variable (state : NodeState)

def goTo (phase : GossipPhase) : NodeState := { state with phase := phase }

def setCall (call : ℕ) (next : PeersCall) : NodeState :=
  { state with calls := Function.update state.calls call next }

def withPeers (peers : PeerTable) : NodeState := { state with peers := peers }

def merge (crates : PeerCrates) (manager : PeerManager) (scope : MergeScope)
    (incoming : List Json) (instant epoch : ℕ) : NodeState :=
  state.withPeers (mergePeersAt crates manager.admission state.minimum scope.text state.ownId epoch
    instant incoming state.peers).1

def prune (instant epoch : ℕ) : NodeState := state.withPeers (Peer.prune instant epoch state.peers).1

/-- The members of revoked generations are dropped. -/
def updateMinimumGeneration (generation : ℕ) : NodeState :=
  let minimum := max state.minimum generation
  { state with minimum := minimum, peers := (retainGenerations minimum state.peers).1 }

/-- The node is told its identity and its address. -/
def named (nodeId endpoint : String) : NodeState :=
  { state with ownId := nodeId, ownEndpoint := endpoint, phase := .bootstrapping }

def renew (targetId : String) (instant : ℕ) : NodeState :=
  state.withPeers (modify state.peers targetId fun peer ↦
    { peer with lastContact := instant })

end Tables

section Steps

variable (crates : PeerCrates) (manager : PeerManager) (now epoch lag : ℕ) (state : NodeState)

/-- The next step of a round that the node takes by itself. -/
def proceed : NodeState :=
  match state.phase with
  | .listed incoming =>
    (state.merge crates manager .bootstrap incoming (now - lag) epoch).goTo
      (.sleeping (now + gossipInterval))
  | .sleeping wake =>
    if wake ≤ now then (state.prune (now - lag) epoch).goTo .pruned else state
  | .pruned => if values state.peers = [] then state.goTo .bootstrapping else state
  | .answered targetId incoming =>
    (state.merge crates manager .peers incoming (now - lag) epoch).goTo (.merged targetId)
  | .merged targetId => (state.renew targetId now).goTo .finishing
  | .finishing => (state.prune (now - lag) epoch).goTo (.sleeping (now + gossipInterval))
  | _ => state

/-- The node chooses a peer that it has not heard of for the longest time. -/
def choose (target : PeerInfo) : NodeState :=
  let known := values state.peers
  match state.phase with
  | .pruned =>
    if target ∈ known ∧ ∀ other ∈ known, target.lastContact ≤ other.lastContact then
      state.goTo (.chosen target)
    else state
  | _ => state

/-- The peers that a node sends, itself included. -/
def knownPeers : List Json :=
  (values state.peers).map PeerInfo.toGossipValue ++
    (ownPeerValue manager state.ownId state.ownEndpoint).toList

/-- A received list is checked; in a restricted domain its identifier is still to be recorded. -/
def verifyCall (body : List UInt8) (signature : Option String) : PeersCall :=
  match manager.admission with
  | .publicMode =>
    if verifyExchange crates manager body signature then
      match extractKnownPeers crates body with
      | some incoming => .merging (peerDicts incoming)
      | none => .refused
    else .refused
  | .restricted restricted =>
    match verifyRestrictedBody crates restricted state.minimum body epoch with
    | .ok exchange => .recording exchange
    | _ => .refused

/-- The next step of a call that the node serves. -/
def handle (call : ℕ) : NodeState :=
  match state.calls call with
  | .received body signature =>
    state.setCall call (state.verifyCall crates manager epoch body signature)
  | .recording exchange =>
    let (replayIds, result) := recordReplay exchange.gossip.proof.replayId
      exchange.membership.assertion.expiresAt epoch state.replayIds
    { state with replayIds := replayIds }.setCall call (match result with
        | .ok () => .merging (peerDicts exchange.peers)
        | _ => .refused)
  | .merging incoming =>
    (state.merge crates manager .peers incoming (now - lag) epoch).setCall call .merged
  | .merged => (state.prune (now - lag) epoch).setCall call .pruned
  | .pruned =>
    state.setCall call (match crates.toVec (peersResponse (values state.peers)) with
        | some answer => .answered answer
        | none => .refused)
  | _ => state

end Steps

end NodeState

/-! ### The mesh -/

/-- The nodes, with the functions of other crates, and the node that a request to an address
reaches. -/
structure Mesh (ι : Type) where
  crates : PeerCrates
  (nodeId endpoint : ι → String)
  manager : ι → PeerManager
  reach : String → Option ι

@[ext] structure Network (ι : Type) where
  /-- In nanoseconds. -/
  now : ℕ
  node : ι → NodeState

/-- Events: time passes, a node is started, the directory answers or does not, a node takes a step
of its round or of a call that it serves, a request is sent, an answer is received or not, and a
node learns of revoked generations. The steps carry the other clock, and how long before the lock
was taken the clock was read. -/
inductive GossipEvent (ι : Type) where
  | wait (duration : ℕ)
  | start (node : ι)
  | directory (node : ι) (answer : Option (List Json))
  | proceed (node : ι) (epoch lag : ℕ)
  | choose (node : ι) (target : PeerInfo)
  | send (node : ι) (call epoch : ℕ) (replayId : String)
  | receive (node : ι)
  | giveUp (node : ι)
  | handle (node : ι) (call epoch lag : ℕ)
  | updateMinimumGeneration (node : ι) (generation : ℕ)

def GossipEvent.actor {ι : Type} : GossipEvent ι → Option ι
  | wait _ => none
  | start node | directory node _ | proceed node _ _ | choose node _ | send node _ _ _ |
    receive node | giveUp node | handle node _ _ _ | updateMinimumGeneration node _ => some node

namespace Network

variable {ι : Type} [DecidableEq ι] (mesh : Mesh ι) (net : Network ι)

def init : Network ι where
  now := 0
  node := fun node ↦ ⟨"", "", (mesh.manager node).admission.minimumGeneration, ∅, ∅, .off,
    fun _ ↦ .unused⟩

variable (node : ι)

def set (state : NodeState) : Network ι :=
  { net with node := Function.update net.node node state }

def goTo (node : ι) (phase : GossipPhase) : Network ι := net.set node ((net.node node).goTo phase)

def setCall (node : ι) (call : ℕ) (next : PeersCall) : Network ι :=
  net.set node ((net.node node).setCall call next)

def start : Network ι :=
  match (net.node node).phase with
  | .off => net.set node ((net.node node).named (mesh.nodeId node) (mesh.endpoint node))
  | _ => net

/-- The directory answers with a list, or there is no list. -/
def directory (answer : Option (List Json)) : Network ι :=
  match (net.node node).phase with
  | .bootstrapping =>
    net.goTo node (answer.elim (.sleeping (net.now + gossipInterval)) .listed)
  | _ => net

/-- A node sends the peers it knows to the peer that it has chosen. A request that reaches no node
is never answered. -/
def send (call epoch : ℕ) (replayId : String) : Network ι :=
  match (net.node node).phase with
  | .chosen target =>
    match exchangeBody mesh.crates (mesh.manager node)
      ((net.node node).knownPeers (mesh.manager node)) epoch replayId with
    | none => net.goTo node .finishing
    | some body =>
      let waiting := net.goTo node (.sent target call)
      match mesh.reach target.peersUrl with
      | none => waiting
      | some receiver =>
        if (waiting.node receiver).calls call = .unused then
          waiting.setCall receiver call
            (.received body (exchangeSignature mesh.crates (mesh.manager node) body))
        else net
  | _ => net

/-- A node receives the answer to its request, if there is one. -/
def receive : Network ι :=
  match (net.node node).phase with
  | .sent target call =>
    match (mesh.reach target.peersUrl).map fun receiver ↦ (net.node receiver).calls call with
    | some (.answered answer) =>
      net.goTo node ((responsePeers mesh.crates answer).elim (.merged target.nodeId)
        (.answered target.nodeId))
    | some .refused => net.goTo node .finishing
    | _ => net
  | _ => net

def giveUp : Network ι :=
  match (net.node node).phase with
  | .sent _ _ => net.goTo node .finishing
  | _ => net

def step : GossipEvent ι → Network ι
  | .wait duration => { net with now := net.now + duration }
  | .start node => net.start mesh node
  | .directory node answer => net.directory node answer
  | .proceed node epoch lag =>
    net.set node ((net.node node).proceed mesh.crates (mesh.manager node) net.now epoch lag)
  | .choose node target => net.set node ((net.node node).choose target)
  | .send node call epoch replayId => net.send mesh node call epoch replayId
  | .receive node => net.receive mesh node
  | .giveUp node => net.giveUp node
  | .handle node call epoch lag =>
    net.set node ((net.node node).handle mesh.crates (mesh.manager node) net.now epoch lag call)
  | .updateMinimumGeneration node generation =>
    net.set node ((net.node node).updateMinimumGeneration generation)

end Network

/-! ### What a node hears of -/

namespace NodeState

/-- The identities that the next step of a round brings news of. -/
def heardOf (state : NodeState) : List String :=
  match state.phase with
  | .listed incoming => incoming.map entryId
  | .answered _ incoming => incoming.map entryId
  | .merged targetId => [targetId]
  | _ => []

/-- The identities that the next step of a call brings news of. -/
def heardOfIn (state : NodeState) (call : ℕ) : List String :=
  match state.calls call with
  | .merging incoming => incoming.map entryId
  | _ => []

/-- Every peer is stored under its identity. -/
def Keyed (state : NodeState) : Prop :=
  ∀ key peer, state.peers.lookup key = some peer → peer.nodeId = key

/-- Every entry was there before, or was heard of until now. -/
def News (heard : List String) (now : ℕ) (state next : NodeState) : Prop :=
  ∀ key peer, next.peers.lookup key = some peer →
    state.peers.lookup key = some peer ∨
      key ∈ heard ∧ peer.nodeId = key ∧ peer.lastContact ≤ now

variable {crates : PeerCrates} {manager : PeerManager} {heard : List String} {now : ℕ}
  {state next : NodeState}

lemma news_of_peers_eq (hpeers : next.peers = state.peers) : News heard now state next := by
  intro key peer hpeer
  rw [hpeers] at hpeer
  exact .inl hpeer

lemma news_merge (scope : MergeScope) (incoming : List Json) {instant : ℕ}
    (hinstant : instant ≤ now) (epoch : ℕ) :
    News (incoming.map entryId) now state
      (state.merge crates manager scope incoming instant epoch) := by
  intro key peer hpeer
  obtain hold | ⟨hnamed, hnode, hcontact⟩ := lookup_mergePeersAt crates hpeer
  · exact .inl hold
  · exact .inr ⟨hnamed, hnode, hcontact.trans_le hinstant⟩

lemma news_retainPeers {test : PeerInfo → Bool}
    (hpeers : next.peers = (retainPeers test state.peers).1) : News heard now state next := by
  intro key peer hpeer
  rw [hpeers] at hpeer
  exact .inl (lookup_retainPeers.mp hpeer).1

lemma news_renew (hkeyed : state.Keyed) (targetId : String) :
    News [targetId] now state (state.renew targetId now) := by
  intro key peer hpeer
  rw [renew, withPeers, lookup_modify, Option.map_eq_some_iff] at hpeer
  obtain ⟨old, hold, rfl⟩ := hpeer
  by_cases htarget : key = targetId
  · rw [if_pos htarget]
    exact .inr ⟨List.mem_singleton.mpr htarget, hkeyed key old hold, le_rfl⟩
  · rw [if_neg htarget]
    exact .inl hold

lemma news_proceed (hkeyed : state.Keyed) (epoch lag : ℕ) :
    News state.heardOf now state (state.proceed crates manager now epoch lag) := by
  rw [heardOf, proceed]
  cases state.phase with
  | listed incoming | answered _ incoming => exact news_merge _ incoming (Nat.sub_le now lag) epoch
  | sleeping wake =>
    by_cases hwake : wake ≤ now
    · simp only [if_pos hwake]
      exact news_retainPeers rfl
    · simp only [if_neg hwake]
      exact news_of_peers_eq rfl
  | pruned =>
    by_cases hempty : values state.peers = []
    · simp only [if_pos hempty]
      exact news_of_peers_eq rfl
    · simp only [if_neg hempty]
      exact news_of_peers_eq rfl
  | merged targetId => exact news_renew hkeyed targetId
  | finishing => exact news_retainPeers rfl
  | off | bootstrapping | chosen | sent => exact news_of_peers_eq rfl

lemma news_handle (epoch lag call : ℕ) :
    News (state.heardOfIn call) now state (state.handle crates manager now epoch lag call) := by
  rw [heardOfIn, handle]
  cases state.calls call with
  | merging incoming => exact news_merge _ incoming (Nat.sub_le now lag) epoch
  | merged => exact news_retainPeers rfl
  | unused | received | recording | pruned | answered | refused => exact news_of_peers_eq rfl

lemma peers_choose (target : PeerInfo) : (state.choose target).peers = state.peers := by
  rw [choose]
  cases state.phase with
  | pruned => exact (apply_ite NodeState.peers _ _ _).trans (ite_self _)
  | _ => rfl

end NodeState

namespace Network

open NodeState

variable {ι : Type} [DecidableEq ι] {mesh : Mesh ι} {net next : Network ι} (node : ι)

/-- The identities that a step brings news of. -/
def heardOf (net : Network ι) : GossipEvent ι → List String
  | .proceed node _ _ => (net.node node).heardOf
  | .handle node call _ _ => (net.node node).heardOfIn call
  | _ => []

@[simp] lemma node_set (other : ι) (state : NodeState) :
    (net.set node state).node other = if other = node then state else net.node other :=
  Function.update_apply _ _ _ _

/-- The clock and the tables stay as they are. -/
def Quiet (net next : Network ι) : Prop :=
  next.now = net.now ∧ ∀ node, (next.node node).peers = (net.node node).peers

omit [DecidableEq ι] in
lemma quiet_refl : net.Quiet net := ⟨rfl, fun _ ↦ rfl⟩

lemma quiet_set {node : ι} {state : NodeState} (hpeers : state.peers = (net.node node).peers) :
    net.Quiet (net.set node state) := by
  refine ⟨rfl, fun other ↦ ?_⟩
  rw [node_set]
  by_cases hsame : other = node
  · rw [if_pos hsame, hsame]
    exact hpeers
  · rw [if_neg hsame]

lemma quiet_goTo (phase : GossipPhase) : net.Quiet (net.goTo node phase) := by
  have hpeers : ((net.node node).goTo phase).peers = (net.node node).peers := rfl
  exact quiet_set hpeers

lemma quiet_setCall (call : ℕ) (next : PeersCall) : net.Quiet (net.setCall node call next) := by
  have hpeers : ((net.node node).setCall call next).peers = (net.node node).peers := rfl
  exact quiet_set hpeers

lemma quiet_start : net.Quiet (net.start mesh node) := by
  rw [start]
  cases (net.node node).phase with
  | off => exact quiet_set rfl
  | _ => exact quiet_refl

lemma quiet_directory (answer : Option (List Json)) : net.Quiet (net.directory node answer) := by
  rw [directory]
  cases (net.node node).phase with
  | bootstrapping => exact quiet_goTo _ _
  | _ => exact quiet_refl

lemma quiet_send (call epoch : ℕ) (replayId : String) :
    net.Quiet (net.send mesh node call epoch replayId) := by
  rw [send]
  cases (net.node node).phase with
  | chosen target =>
    dsimp only
    cases exchangeBody mesh.crates (mesh.manager node)
      ((net.node node).knownPeers (mesh.manager node)) epoch replayId with
    | none => exact quiet_goTo _ _
    | some body =>
      obtain ⟨hnow, hpeers⟩ := net.quiet_goTo node (.sent target call)
      cases mesh.reach target.peersUrl with
      | none => exact ⟨hnow, hpeers⟩
      | some receiver =>
        dsimp only
        split_ifs
        · obtain ⟨hcallNow, hcallPeers⟩ := (net.goTo node (.sent target call)).quiet_setCall receiver
            call (.received body (exchangeSignature mesh.crates (mesh.manager node) body))
          exact ⟨hcallNow.trans hnow, fun other ↦ (hcallPeers other).trans (hpeers other)⟩
        · exact quiet_refl
  | _ => exact quiet_refl

lemma quiet_receive : net.Quiet (net.receive mesh node) := by
  rw [receive]
  cases (net.node node).phase with
  | sent =>
    dsimp only
    split
    · exact quiet_goTo _ _
    · exact quiet_goTo _ _
    · exact quiet_refl
  | _ => exact quiet_refl

lemma quiet_giveUp : net.Quiet (net.giveUp node) := by
  rw [giveUp]
  cases (net.node node).phase with
  | sent => exact quiet_goTo _ _
  | _ => exact quiet_refl

/-- Time does not go back, and an entry of a table was there before, or was heard of until now. -/
def Learns (heard : List String) (net next : Network ι) : Prop :=
  net.now ≤ next.now ∧ ∀ node, News heard net.now (net.node node) (next.node node)

omit [DecidableEq ι] in
lemma learns_of_quiet {heard : List String} (hquiet : net.Quiet next) : net.Learns heard next :=
  ⟨hquiet.1.ge, fun node ↦ news_of_peers_eq (hquiet.2 node)⟩

lemma learns_set {heard : List String} {node : ι} {state : NodeState}
    (hnews : News heard net.now (net.node node) state) : net.Learns heard (net.set node state) := by
  refine ⟨le_rfl, fun other ↦ ?_⟩
  rw [node_set]
  by_cases hsame : other = node
  · rw [if_pos hsame, hsame]
    exact hnews
  · rw [if_neg hsame]
    exact news_of_peers_eq rfl

/-- Nothing makes an entry younger than what the step brings news of. -/
lemma learns_step (hkeyed : ∀ node, (net.node node).Keyed) (event : GossipEvent ι) :
    net.Learns (net.heardOf event) (net.step mesh event) := by
  cases event with
  | wait => exact ⟨Nat.le_add_right _ _, fun _ ↦ news_of_peers_eq rfl⟩
  | start node => exact learns_of_quiet (quiet_start node)
  | directory node answer => exact learns_of_quiet (quiet_directory node answer)
  | proceed node epoch lag => exact learns_set (news_proceed (hkeyed node) epoch lag)
  | choose node target => exact learns_of_quiet (quiet_set (peers_choose target))
  | send node call epoch replayId => exact learns_of_quiet (quiet_send node call epoch replayId)
  | receive node => exact learns_of_quiet (quiet_receive node)
  | giveUp node => exact learns_of_quiet (quiet_giveUp node)
  | handle node call epoch lag => exact learns_set (news_handle epoch lag call)
  | updateMinimumGeneration node generation =>
    apply learns_set
    apply news_retainPeers
    rw [NodeState.updateMinimumGeneration, retainGenerations]

/-! ### Runs -/

/-- Every peer is stored under its identity, and was heard of until now. -/
structure Sound (net : Network ι) : Prop where
  keyed : ∀ node, (net.node node).Keyed
  contact : ∀ node key peer, (net.node node).peers.lookup key = some peer →
    peer.lastContact ≤ net.now

def LastHeard (nodeId : String) (time : ℕ) (net : Network ι) : Prop :=
  ∀ node peer, (net.node node).peers.lookup nodeId = some peer → peer.lastContact ≤ time

omit [DecidableEq ι] in
lemma Sound.learns {heard : List String} (hsound : net.Sound) (hlearns : net.Learns heard next) :
    next.Sound := by
  obtain ⟨hnow, hnews⟩ := hlearns
  constructor
  · intro node key peer hpeer
    obtain hold | ⟨-, hid, -⟩ := hnews node key peer hpeer
    · exact hsound.keyed node key peer hold
    · exact hid
  · intro node key peer hpeer
    obtain hold | ⟨-, -, hcontact⟩ := hnews node key peer hpeer
    · exact (hsound.contact node key peer hold).trans hnow
    · exact hcontact.trans hnow

omit [DecidableEq ι] in
lemma LastHeard.learns {nodeId : String} {time : ℕ} {heard : List String}
    (hheard : net.LastHeard nodeId time) (hlearns : net.Learns heard next)
    (hunheard : nodeId ∉ heard) : next.LastHeard nodeId time := by
  intro node peer hpeer
  obtain hold | ⟨hnamed, -⟩ := hlearns.2 node nodeId peer hpeer
  · exact hheard node peer hold
  · exact absurd hnamed hunheard

omit [DecidableEq ι] in
lemma sound_init : (init mesh).Sound := by
  constructor
  · intro node key peer hpeer
    nomatch hpeer
  · intro node key peer hpeer
    nomatch hpeer

end Network

/-- The mesh before an event of a run that never ends. -/
def Mesh.networkAt {ι : Type} [DecidableEq ι] (mesh : Mesh ι) (events : ℕ → GossipEvent ι)
    (position : ℕ) : Network ι :=
  streamAt (Network.step mesh) (Network.init mesh) events position

namespace Mesh

variable {ι : Type} [DecidableEq ι] {mesh : Mesh ι} {events : ℕ → GossipEvent ι}

lemma sound_networkAt (position : ℕ) : (mesh.networkAt events position).Sound := by
  induction position with
  | zero => exact Network.sound_init
  | succ position ih => exact ih.learns (Network.learns_step ih.keyed (events position))

lemma learns_networkAt (position : ℕ) :
    (mesh.networkAt events position).Learns
      ((mesh.networkAt events position).heardOf (events position))
      (mesh.networkAt events (position + 1)) :=
  Network.learns_step (sound_networkAt position).keyed (events position)

lemma monotone_now : Monotone fun position ↦ (mesh.networkAt events position).now :=
  monotone_nat_of_le_succ fun position ↦ (learns_networkAt position).1

/-- Assumes: from a position on no step brings news of an identity. Its entries stay as old as they
are. -/
lemma lastHeard_of_unheard {nodeId : String} {since : ℕ}
    (hunheard : ∀ position, since ≤ position →
      nodeId ∉ (mesh.networkAt events position).heardOf (events position)) {position : ℕ}
    (hposition : since ≤ position) :
    (mesh.networkAt events position).LastHeard nodeId (mesh.networkAt events since).now := by
  induction position, hposition using Nat.le_induction with
  | base => exact fun node peer hpeer ↦ (sound_networkAt since).contact node nodeId peer hpeer
  | succ position hposition ih =>
    exact ih.learns (learns_networkAt position) (hunheard position hposition)

end Mesh

end Iicp.Peer
