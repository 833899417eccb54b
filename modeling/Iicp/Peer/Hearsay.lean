import Iicp.Peer.Gossip
import Iicp.Rust.JsonText

/-!
# Peers that are only talked about

A peer that no node hears of any more is in no read of any node ninety seconds later
(`dead_peer_expires`). Hearing of a peer is not hearing from it: a list that names the peer renews
its entry, whoever sends the list. So two nodes that gossip with each other keep a peer that fell
silent: each takes it up from the list of the other, with a new time, before the old time expires,
and names it in its own lists. `dead_peer_stays` is such a run, in rounds (`ready_round`). It is
fair to both nodes, and the directory lists the peer only at the start.
-/

namespace Iicp.Peer

open Rust HashMap NodeState Function Concurrent

/-! ### Runs in which a peer is no longer heard of -/

section Expiry

variable {ι : Type} [DecidableEq ι]

/-- A read of the peers of a node contains an identity. -/
def Network.Lists (net : Network ι) (node : ι) (epoch : ℕ) (nodeId : String) : Prop :=
  (∃ peer ∈ getPeers net.now epoch (net.node node).peers, peer.nodeId = nodeId) ∨
    (∃ peer, relayTarget net.now epoch nodeId (net.node node).peers = some peer) ∨
    ∃ peer ∈ getRelayCandidates net.now epoch (net.node node).peers, peer.nodeId = nodeId

lemma lookup_prune {now epoch : ℕ} {peers : PeerTable} {nodeId : String} {peer : PeerInfo}
    (h : (prune now epoch peers).1.lookup nodeId = some peer) :
    peers.lookup nodeId = some peer ∧ now - peer.lastContact < peerExpiry := by
  obtain ⟨hlookup, hcurrent⟩ := lookup_retainPeers.mp h
  rw [PeerInfo.current, Bool.and_eq_true, decide_eq_true_eq] at hcurrent
  exact ⟨hlookup, hcurrent.1⟩

omit [DecidableEq ι] in
/-- A read contains only what was heard of lately. -/
lemma Network.Sound.recent_of_lists {net : Network ι} (hsound : net.Sound) {node : ι} {epoch : ℕ}
    {nodeId : String} (hlists : net.Lists node epoch nodeId) :
    ∃ peer, (net.node node).peers.lookup nodeId = some peer ∧
      net.now - peer.lastContact < peerExpiry := by
  have hvalues : ∀ peer ∈ values (prune net.now epoch (net.node node).peers).1,
      (net.node node).peers.lookup peer.nodeId = some peer ∧
        net.now - peer.lastContact < peerExpiry := by
    intro peer hpeer
    obtain ⟨key, hkey⟩ := mem_values_iff.mp hpeer
    obtain ⟨hlookup, hrecent⟩ := lookup_prune hkey
    rw [hsound.keyed node key peer hlookup]
    exact ⟨hlookup, hrecent⟩
  obtain ⟨peer, hpeer, rfl⟩ | ⟨peer, hpeer⟩ | ⟨peer, hpeer, rfl⟩ := hlists
  · exact ⟨peer, hvalues peer hpeer⟩
  · exact ⟨peer, lookup_prune hpeer⟩
  · exact ⟨peer, hvalues peer (List.mem_of_mem_filter hpeer)⟩

variable (mesh : Mesh ι)

def Mesh.TimePasses (events : ℕ → GossipEvent ι) : Prop :=
  ∀ time, ∃ position, time ≤ (mesh.networkAt events position).now

/-- Assumes: time passes, and from some position on no node takes up a list that names the peer, and
none gets an answer to a request that it sent to the peer. From some position on no read of any node
contains the peer. -/
theorem dead_peer_expires (mesh : Mesh ι) (events : ℕ → GossipEvent ι) (dead : String)
    (htime : mesh.TimePasses events)
    (hunheard : ∃ since, ∀ position, since ≤ position →
      dead ∉ (mesh.networkAt events position).heardOf (events position)) :
    ∃ start, ∀ position, start ≤ position → ∀ node epoch,
      ¬ (mesh.networkAt events position).Lists node epoch dead := by
  obtain ⟨since, hunheard⟩ := hunheard
  obtain ⟨late, hlate⟩ := htime ((mesh.networkAt events since).now + peerExpiry)
  refine ⟨max since late, fun position hposition node epoch hlists ↦ ?_⟩
  have hsince : since ≤ position := (le_max_left since late).trans hposition
  have hnow : (mesh.networkAt events late).now ≤ (mesh.networkAt events position).now :=
    Mesh.monotone_now ((le_max_right since late).trans hposition)
  obtain ⟨peer, hpeer, hrecent⟩ := (Mesh.sound_networkAt position).recent_of_lists hlists
  have hcontact : peer.lastContact ≤ (mesh.networkAt events since).now :=
    Mesh.lastHeard_of_unheard hunheard hsince node peer hpeer
  omega

/-- The schedule is fair to the nodes that live: time passes, a node begins a round again and again,
and it does not leave a call open. -/
structure Mesh.Fair (live : ι → Prop) (events : ℕ → GossipEvent ι) : Prop where
  time : mesh.TimePasses events
  rounds : ∀ node, live node → ∀ position, ∃ later, position ≤ later ∧ ∃ epoch lag wake,
    events later = .proceed node epoch lag ∧
      ((mesh.networkAt events later).node node).phase = .sleeping wake ∧
      wake ≤ (mesh.networkAt events later).now
  calls : ∀ node, live node → ∀ position call, ∃ later, position ≤ later ∧
    (((mesh.networkAt events later).node node).calls call).open = false

/-- From a position on a node sends and answers nothing, and the directory does not list it. -/
structure Mesh.SilentFrom (dead : ι) (events : ℕ → GossipEvent ι) (since : ℕ) :
    Prop where
  still : ∀ position, since ≤ position → (events position).actor ≠ some dead
  unlisted : ∀ position, since ≤ position → ∀ node incoming,
    events position = .directory node (some incoming) →
      mesh.nodeId dead ∉ incoming.map entryId

end Expiry

/-! ### Two nodes and one that fell silent -/

inductive Party where
  | live (second : Bool)
  | dead
  deriving DecidableEq

namespace Party

def nodeId : Party → String
  | live false => "node-a"
  | live true => "node-b"
  | dead => "node-x"

def endpoint : Party → String
  | live false => "https://a.example"
  | live true => "https://b.example"
  | dead => "https://x.example"

def url (party : Party) : String := party.endpoint ++ "/v1/peers"

/-- The entry that the directory has for a node. -/
def entry (party : Party) : Json :=
  .object [("endpoint", .string party.endpoint), ("node_id", .string party.nodeId)]

def contact (party : Party) (time : ℕ) : PeerInfo := peerInfo party.entry party.nodeId none time

def state (party : Party) (peers : PeerTable) (phase : GossipPhase) (calls : ℕ → PeersCall) :
    NodeState :=
  ⟨party.nodeId, party.endpoint, 0, peers, ∅, phase, calls⟩

@[simp] lemma contact_nodeId (party : Party) (time : ℕ) :
    (party.contact time).nodeId = party.nodeId := rfl

end Party

open Party

section Messages

variable (side : Bool)

def sends : List Json :=
  [((live !side).contact 0).toGossipValue, (dead.contact 0).toGossipValue,
    .object [("endpoint", .string (live side).endpoint), ("node_id", .string (live side).nodeId),
      ("relay_accept_port", .ofU64 9485), ("relay_capable", .bool false),
      ("relay_load", Client.jsonOfF64 0)]]

def answers : List Json :=
  [((live !side).contact 0).toResponseValue, (dead.contact 0).toResponseValue]

/-- The bytes of a message; the only float in a message is zero. -/
def messageBytes (value : Json) : List UInt8 :=
  textBytes (value.jsonText fun _ ↦ ['0', '.', '0'])

def request : List UInt8 := messageBytes (.object [("known_peers", .array (sends side))])

def response : List UInt8 := messageBytes (.object [("peers", .array (answers side))])

end Messages

def messages : List Json :=
  [.object [("known_peers", .array (sends false))], .object [("known_peers", .array (sends true))],
    .object [("peers", .array (answers false))], .object [("peers", .array (answers true))]]

/-- A JSON library that reads the messages of the run; without a restricted domain and without a
token no other function is called. -/
def trioCrates : PeerCrates where
  parsesUuid := fun _ ↦ false
  b64urlDecode := fun _ ↦ none
  b64urlEncode := fun _ ↦ ""
  canonical := fun _ ↦ none
  usableKey := fun _ ↦ false
  verifies := fun _ _ _ ↦ false
  publicKey := fun _ ↦ []
  sign := fun _ _ ↦ []
  sha256Hex := fun _ ↦ ""
  parseUrl := fun _ ↦ none
  toVec := fun value ↦ some (messageBytes value)
  fromSlice := fun bytes ↦ messages.find? fun value ↦ messageBytes value == bytes
  signBody := fun _ _ ↦ ""

def trioManager : PeerManager := ⟨"", false, 9485, .publicMode⟩

def trio : Mesh Party where
  crates := trioCrates
  nodeId := Party.nodeId
  endpoint := Party.endpoint
  manager := fun _ ↦ trioManager
  reach := fun url ↦ [live false, live true, dead].find? fun party ↦ party.url == url

@[simp] lemma trio_crates : trio.crates = trioCrates := rfl

@[simp] lemma trio_manager (party : Party) : trio.manager party = trioManager := rfl

@[simp] lemma trioManager_admission : trioManager.admission = .publicMode := rfl

/-! ### Messages of the run -/

/-- An entry of a message describes a node. -/
def Party.Describes (party : Party) (entry : Json) : Prop :=
  entryId entry = party.nodeId ∧ ∀ now, peerInfo entry party.nodeId none now = party.contact now

lemma describes_of_eq {party : Party} {entry : Json} (hid : entryId entry = party.nodeId)
    (hinfo : peerInfo entry party.nodeId none 0 = party.contact 0) : party.Describes entry :=
  ⟨hid, fun now ↦ congrArg (fun peer : PeerInfo ↦ { peer with lastContact := now }) hinfo⟩

/-- Whatever carries a node describes it: its entry, and what others send and answer of it. -/
lemma describes_values (party : Party) :
    party.Describes party.entry ∧ party.Describes (party.contact 0).toGossipValue ∧
      party.Describes (party.contact 0).toResponseValue := by
  obtain ⟨_ | _⟩ | _ := party <;>
    exact ⟨describes_of_eq (by decide +kernel) rfl,
      describes_of_eq (by decide +kernel) (by decide +kernel),
      describes_of_eq (by decide +kernel) (by decide +kernel)⟩

variable (side : Bool) {net : Network Party} (round : ℕ)

lemma ownPeerValue_trio :
    ∃ own, ownPeerValue trioManager (live side).nodeId (live side).endpoint = some own ∧
      (live side).Describes own ∧ sends side =
        [((live !side).contact 0).toGossipValue, (dead.contact 0).toGossipValue, own] := by
  cases side <;>
    exact ⟨_, by decide +kernel, describes_of_eq (by decide +kernel) (by decide +kernel), rfl⟩

lemma verifyCall_request (state : NodeState) :
    state.verifyCall trioCrates trioManager 0 (request side) none = .merging (sends side) := by
  have hread : extractKnownPeers trioCrates (request side) = some (sends side) := by
    cases side <;> decide +kernel
  rw [verifyCall, hread]
  rfl

lemma responsePeers_response : responsePeers trioCrates (response side) = some (answers side) := by
  cases side <;> decide +kernel

lemma reach_peersUrl (time : ℕ) :
    trio.reach ((live side).contact time).peersUrl = some (live side) := by
  have hreach : trio.reach ((live side).contact 0).peersUrl = some (live side) := by
    cases side <;> decide +kernel
  exact hreach

/-! ### Tables of the run -/

def duoTable (first second : Party) (firstTime secondTime : ℕ) : PeerTable :=
  ((∅ : PeerTable).insert second.nodeId (second.contact secondTime)).insert first.nodeId
    (first.contact firstTime)

section Tables

variable {first second : Party} (hne : first.nodeId ≠ second.nodeId)
  (firstTime secondTime time : ℕ)

include hne

lemma entries_duoTable :
    (duoTable first second firstTime secondTime).entries =
      [⟨first.nodeId, first.contact firstTime⟩, ⟨second.nodeId, second.contact secondTime⟩] := by
  rw [duoTable, AList.entries_insert, AList.entries_insert, List.kerase_cons_ne hne]
  rfl

lemma values_duoTable :
    values (duoTable first second firstTime secondTime) =
      [first.contact firstTime, second.contact secondTime] := by
  rw [values, entries_duoTable hne]
  rfl

lemma insert_first :
    (duoTable first second firstTime secondTime).insert first.nodeId (first.contact time) =
      duoTable first second time secondTime := by
  apply AList.ext
  rw [AList.entries_insert, entries_duoTable hne, entries_duoTable hne]
  exact congrArg _ (List.kerase_cons_eq rfl)

lemma insert_second :
    (duoTable first second firstTime secondTime).insert second.nodeId (second.contact time) =
      duoTable second first time firstTime := by
  apply AList.ext
  rw [AList.entries_insert, entries_duoTable hne, entries_duoTable hne.symm,
    List.kerase_cons_ne hne.symm]
  exact congrArg _ (congrArg _ (List.kerase_cons_eq rfl))

lemma prune_duoTable {firstTime secondTime now : ℕ} (hfirst : now - firstTime < peerExpiry)
    (hsecond : now - secondTime < peerExpiry) (epoch : ℕ) :
    (prune now epoch (duoTable first second firstTime secondTime)).1 =
      duoTable first second firstTime secondTime := by
  apply AList.ext
  rw [prune, retainPeers]
  dsimp only
  rw [entries_retain, entries_duoTable hne]
  simp [PeerInfo.current, contact, peerInfo, hfirst, hsecond]

lemma modify_second :
    modify (duoTable first second firstTime secondTime) second.nodeId
        (fun peer ↦ { peer with lastContact := time }) = duoTable first second firstTime time := by
  apply AList.ext
  rw [entries_modify, entries_duoTable hne, entries_duoTable hne]
  simp [hne, contact, peerInfo]

end Tables

section Merges

variable {party : Party} {entry : Json} {own : String} {minimum epoch now : ℕ} {scope : String}
  (merged : PeerTable × ℕ)

lemma mergeEntry_own (hentry : party.Describes entry) :
    mergeEntry trioCrates .publicMode minimum scope party.nodeId epoch now merged entry = merged := by
  rw [mergeEntry, admitEntry, if_pos (.inr hentry.1)]

lemma mergeEntry_other (hentry : party.Describes entry) (hown : party.nodeId ≠ own) :
    (mergeEntry trioCrates .publicMode minimum scope own epoch now merged entry).1 =
      merged.1.insert party.nodeId (party.contact now) := by
  have hnamed : party.nodeId ≠ "" := by obtain ⟨_ | _⟩ | _ := party <;> decide
  rw [mergeEntry, admitEntry, hentry.1, if_neg (not_or.mpr ⟨hnamed, hown⟩), admittedMembership,
    ← hentry.2 now]
  rfl

end Merges

lemma nodeId_ne_dead : (live side).nodeId ≠ dead.nodeId := by cases side <;> decide

lemma nodeId_ne_other : (live side).nodeId ≠ (live !side).nodeId := by cases side <;> decide

lemma merge_sends (now deadTime time : ℕ) :
    (mergePeersAt trioCrates .publicMode 0 "peers" (live !side).nodeId 0 now (sends side)
      (duoTable dead (live side) deadTime time)).1 = duoTable (live side) dead now now := by
  obtain ⟨_, -, hown, hsends⟩ := ownPeerValue_trio side
  rw [hsends, mergePeersAt, List.foldl_cons, mergeEntry_own _ (describes_values _).2.1,
    List.foldl_cons, List.foldl_cons, List.foldl_nil,
    mergeEntry_other _ hown (nodeId_ne_other side),
    mergeEntry_other _ (describes_values dead).2.1 (nodeId_ne_dead _).symm,
    insert_first (nodeId_ne_dead side).symm, insert_second (nodeId_ne_dead side).symm]

lemma merge_answers (now deadTime time : ℕ) :
    (mergePeersAt trioCrates .publicMode 0 "peers" (live side).nodeId 0 now (answers !side)
      (duoTable (live !side) dead time deadTime)).1 = duoTable dead (live !side) now time := by
  rw [answers, Bool.not_not, mergePeersAt, List.foldl_cons,
    mergeEntry_own _ (describes_values _).2.2, List.foldl_cons, List.foldl_nil,
    mergeEntry_other _ (describes_values dead).2.2 (nodeId_ne_dead side).symm,
    insert_second (nodeId_ne_dead _)]

lemma recent_of_le {now time : ℕ} (h : now ≤ time + 1) : now - time < peerExpiry :=
  (Nat.sub_le_iff_le_add'.mpr h).trans_lt (by decide)

/-! ### Rounds -/

/-- The network, with the node whose round it is, the other node and the one that fell silent. -/
def duo (now : ℕ) (side : Bool) (own other silent : NodeState) : Network Party where
  now := now
  node
    | live node => if node = side then own else other
    | dead => silent

section Duo

open Network

variable {side : Bool} {now : ℕ} {own other silent : NodeState}

@[simp] lemma duo_now : (duo now side own other silent).now = now := rfl

@[simp] lemma duo_later (later : ℕ) : ⟨later, (duo now side own other silent).node⟩ =
    duo later side own other silent := rfl

@[simp] lemma duo_own : (duo now side own other silent).node (live side) = own := if_pos rfl

@[simp] lemma duo_other : (duo now side own other silent).node (live !side) = other := by
  cases side <;> rfl

@[simp] lemma duo_set_own (state : NodeState) :
    (duo now side own other silent).set (live side) state = duo now side state other silent := by
  refine Network.ext rfl (funext fun node ↦ ?_)
  obtain ⟨_ | _⟩ | _ := node <;> cases side <;> rfl

@[simp] lemma duo_set_other (state : NodeState) :
    (duo now side own other silent).set (live !side) state = duo now side own state silent := by
  refine Network.ext rfl (funext fun node ↦ ?_)
  obtain ⟨_ | _⟩ | _ := node <;> cases side <;> rfl

lemma duo_swap : duo now side own other silent = duo now (!side) other own silent := by
  refine Network.ext rfl (funext fun node ↦ ?_)
  obtain ⟨_ | _⟩ | _ := node <;> cases side <;> rfl

end Duo

/-- Half of the time between two rounds of a node. -/
def turn : ℕ := 15500000000

/-- A node wakes up and sends its list to the other node. -/
def openEvents (seen call : ℕ) : List (GossipEvent Party) :=
  [.proceed (live side) 0 0, .choose (live side) ((live !side).contact seen),
    .send (live side) call 0 ""]

/-- The other node takes up the list and answers. -/
def serveEvents (call : ℕ) : List (GossipEvent Party) :=
  List.replicate 4 (.handle (live !side) call 0 0)

/-- The node takes up the answer, renews the contact and goes back to sleep. -/
def closeEvents : List (GossipEvent Party) :=
  [.receive (live side), .proceed (live side) 0 0, .wait 1, .proceed (live side) 0 0,
    .proceed (live side) 0 0, .wait (turn - 1)]

def roundEvents (seen call : ℕ) : List (GossipEvent Party) :=
  openEvents side seen call ++ serveEvents side call ++ closeEvents side

section Round

open Network

variable {now seen time call wake : ℕ} {calls served : ℕ → PeersCall} {own silent : NodeState}
  {phase : GossipPhase} {peers : PeerTable}

lemma exchangeBody_request :
    exchangeBody trioCrates trioManager (((live side).state (duoTable (live !side) dead seen seen)
      phase calls).knownPeers trioManager) 0 "" = some (request side) := by
  obtain ⟨_, hvalue, -, hsends⟩ := ownPeerValue_trio side
  rw [request, hsends, knownPeers, state, values_duoTable (nodeId_ne_dead _)]
  dsimp only
  rw [hvalue]
  rfl

lemma run_open (hwake : wake ≤ now) (hseen : now - seen < peerExpiry)
    (hcall : served call = .unused) :
    runEvents (step trio)
        (duo now side ((live side).state (duoTable (live !side) dead seen seen) (.sleeping wake) calls)
          ((live !side).state peers phase served) silent) (openEvents side seen call) =
      duo now side ((live side).state (duoTable (live !side) dead seen seen)
          (.sent ((live !side).contact seen) call) calls)
        ((live !side).state peers phase (update served call (.received (request side) none)))
        silent := by
  have hprune := prune_duoTable (nodeId_ne_dead !side) hseen hseen 0
  have hvalues := values_duoTable (nodeId_ne_dead !side) seen seen
  have holdest : ∀ peer ∈ [(live !side).contact seen, dead.contact seen],
      ((live !side).contact seen).lastContact ≤ peer.lastContact := by
    simp [contact, peerInfo]
  have hbody := @exchangeBody_request side seen calls (.chosen ((live !side).contact seen))
  simp only [state] at hbody
  simp [openEvents, runEvents, step, proceed, state, hwake, NodeState.prune, withPeers, hprune,
    NodeState.goTo, choose, hvalues, holdest, send, hbody, reach_peersUrl, hcall, Network.goTo,
    Network.setCall, NodeState.setCall]
  rfl

lemma run_serve (deadTime : ℕ) :
    runEvents (step trio) (duo now side own ((live !side).state
          (duoTable dead (live side) deadTime time) phase
          (update served call (.received (request side) none))) silent) (serveEvents side call) =
      duo now side own ((live !side).state (duoTable (live side) dead now now) phase
        (update served call (.answered (response !side)))) silent := by
  have hmerge := merge_sends side now deadTime time
  have hrecent := recent_of_le (Nat.le_succ now)
  have hprune := prune_duoTable (nodeId_ne_dead side) hrecent hrecent 0
  have hanswer : trioCrates.toVec (peersResponse [(live side).contact now, dead.contact now]) =
      some (response !side) := by
    rw [response, answers, Bool.not_not]
    rfl
  simp [serveEvents, List.replicate, runEvents, step, state, handle, NodeState.setCall,
    verifyCall_request, NodeState.merge, MergeScope.text, hmerge, withPeers, NodeState.prune, hprune,
    values_duoTable (nodeId_ne_dead side), hanswer]

/-- The answer is taken up, the contact is renewed a moment later, and the node sleeps again. -/
lemma run_close :
    runEvents (step trio) (duo now side ((live side).state (duoTable (live !side) dead seen seen)
            (.sent ((live !side).contact seen) call) calls)
          ((live !side).state peers phase (update served call (.answered (response !side)))) silent)
        (closeEvents side) =
      duo (now + turn) side ((live side).state (duoTable dead (live !side) now (now + 1))
          (.sleeping (now + 1 + gossipInterval)) calls)
        ((live !side).state peers phase (update served call (.answered (response !side))))
        silent := by
  have hmerge := merge_answers side now seen seen
  have hmodify := modify_second (nodeId_ne_dead !side).symm now seen (now + 1)
  have hprune := prune_duoTable (nodeId_ne_dead !side).symm (recent_of_le (le_refl (now + 1)))
    (recent_of_le (Nat.le_succ _)) 0
  have hturn : now + 1 + (turn - 1) = now + turn := by
    have hpos : 1 ≤ turn := by decide
    omega
  simp [closeEvents, runEvents, step, receive, state, reach_peersUrl, responsePeers_response,
    Network.goTo, NodeState.goTo, proceed, NodeState.merge, MergeScope.text, hmerge, withPeers, renew,
    hmodify, NodeState.prune, hprune, hturn]

end Round

/-! ### The run -/

def clock (round : ℕ) : ℕ := gossipInterval + turn * round

/-- The time from which the entries are of the node whose round it is. -/
def seenAt : ℕ → ℕ
  | 0 => 0
  | round + 1 => clock round

lemma clock_succ : clock (round + 1) = clock round + turn := by
  rw [clock, clock, Nat.mul_succ, Nat.add_assoc]

lemma recent_seenAt : clock round - seenAt round < peerExpiry := by
  cases round with
  | zero => decide
  | succ =>
    rw [clock_succ, seenAt, Nat.add_sub_cancel_left]
    decide

/-- The two nodes that live begin a round in turn. -/
def initiator (round : ℕ) : Bool := round % 2 = 1

/-- The nodes are started, and the directory names the peers of the two that live. -/
def startEvents : List (GossipEvent Party) :=
  [.start (live false), .start (live true), .start dead,
    .directory (live false) (some [dead.entry, (live true).entry]),
    .directory (live true) (some [(live false).entry, dead.entry]), .directory dead none,
    .proceed (live false) 0 0, .proceed (live true) 0 0, .wait gossipInterval, .wait 0, .wait 0,
    .wait 0, .wait 0]

lemma proceed_first (party first second : Party) (hfirst : first.nodeId ≠ party.nodeId)
    (hsecond : second.nodeId ≠ party.nodeId) (calls : ℕ → PeersCall) :
    (party.state ∅ (.listed [second.entry, first.entry]) calls).proceed trioCrates trioManager 0 0 0 =
      party.state (duoTable first second 0 0) (.sleeping gossipInterval) calls := by
  have hmerge : (mergePeersAt trioCrates .publicMode 0 "bootstrap" party.nodeId 0 0
      [second.entry, first.entry] ∅).1 = duoTable first second 0 0 := by
    rw [mergePeersAt, List.foldl_cons, List.foldl_cons, List.foldl_nil,
      mergeEntry_other _ (describes_values first).1 hfirst,
      mergeEntry_other _ (describes_values second).1 hsecond, duoTable]
  simp [NodeState.proceed, state, NodeState.merge, withPeers, NodeState.goTo, MergeScope.text, hmerge]

open Network in
lemma run_start :
    runEvents (step trio) (Network.init trio) startEvents =
      duo (clock 0) false
        ((live false).state (duoTable (live true) dead 0 0) (.sleeping gossipInterval) fun _ ↦ .unused)
        ((live true).state (duoTable dead (live false) 0 0) (.sleeping gossipInterval) fun _ ↦ .unused)
        (dead.state ∅ (.sleeping gossipInterval) fun _ ↦ .unused) := by
  have hfirst := proceed_first (live false) (live true) dead (by decide) (by decide) fun _ ↦ .unused
  have hsecond := proceed_first (live true) dead (live false) (by decide) (by decide) fun _ ↦ .unused
  apply Network.ext
  · simp [startEvents, runEvents, step, Network.init, start, directory, Network.set, Network.goTo,
      NodeState.goTo, NodeState.named, duo, clock]
  · funext node
    simp only [startEvents, runEvents, List.foldl_cons, List.foldl_nil, step, Network.init, start,
      directory, Network.set, Network.goTo, NodeState.goTo, NodeState.named]
    obtain ⟨_ | _⟩ | _ := node
    · exact hfirst
    · exact hsecond
    · rfl

/-- The run: the start, and then one round after the other. -/
def hearsayRounds : ℕ → List (GossipEvent Party)
  | 0 => startEvents
  | round + 1 => roundEvents (initiator round) (seenAt round) round

def hearsayEvents : ℕ → GossipEvent Party := inRounds 13 hearsayRounds (.wait 0)

/-- No call is open, and the calls from a number on are unused. -/
def Settled (round : ℕ) (calls : ℕ → PeersCall) : Prop :=
  (∀ call, (calls call).open = false) ∧ ∀ call, round ≤ call → calls call = .unused

/-- The network before a round: the node whose round it is knows both peers from the same list, and
is awake in time; the other node will be awake in time for its own round. -/
def Ready (round : ℕ) (net : Network Party) : Prop :=
  ∃ wake otherWake deadTime time calls served silent,
    net = duo (clock round) (initiator round) ((live (initiator round)).state
          (duoTable (live !initiator round) dead (seenAt round) (seenAt round)) (.sleeping wake) calls)
        ((live !initiator round).state (duoTable dead (live (initiator round)) deadTime time)
          (.sleeping otherWake) served) silent ∧
      wake ≤ clock round ∧ otherWake ≤ clock (round + 1) ∧
      clock round - deadTime < peerExpiry ∧ clock round - time < peerExpiry ∧
      Settled round calls ∧ Settled round served

lemma initiator_succ : initiator (round + 1) = !initiator round := by
  rw [initiator, initiator, ← decide_not]
  exact decide_eq_decide.mpr (by omega)

lemma Settled.answered {round : ℕ} {calls : ℕ → PeersCall} (hsettled : Settled round calls)
    (answer : List UInt8) : Settled (round + 1) (update calls round (.answered answer)) := by
  constructor
  · intro call
    rw [update_apply]
    split_ifs
    · rfl
    · exact hsettled.1 call
  · intro call hcall
    rw [update_of_ne (by omega)]
    exact hsettled.2 call (Nat.le_of_succ_le hcall)

lemma ready_start : Ready 0 (runEvents (Network.step trio) (Network.init trio) startEvents) := by
  have hsettled : Settled 0 fun _ ↦ .unused := ⟨fun _ ↦ rfl, fun _ _ ↦ rfl⟩
  rw [run_start]
  exact ⟨gossipInterval, gossipInterval, 0, 0, _, _, _, rfl, Nat.le_add_right _ _,
    Nat.le_add_right _ _, recent_seenAt 0, recent_seenAt 0, hsettled, hsettled⟩

/-- A round leads to the next one, with the two nodes in each other's place. -/
lemma ready_round {round : ℕ} (hready : Ready round net) :
    Ready (round + 1)
      (runEvents (Network.step trio) net (roundEvents (initiator round) (seenAt round) round)) := by
  obtain ⟨_, otherWake, _, _, _, _, silent, rfl, hwake, hother, -, -, hcalls, hserved⟩ := hready
  have hrecent : clock (round + 1) - clock round < peerExpiry := recent_seenAt (round + 1)
  have hlater : clock round + 1 + gossipInterval ≤ clock (round + 2) := by
    have hturns : 1 + gossipInterval ≤ turn + turn := by decide
    rw [clock_succ, clock_succ]
    omega
  rw [roundEvents, runEvents_append, runEvents_append,
    run_open _ hwake (recent_seenAt round) (hserved.2 round le_rfl), run_serve, run_close, duo_swap,
    Ready, initiator_succ, Bool.not_not, ← clock_succ]
  exact ⟨otherWake, _, clock round, clock round + 1, _, _, silent, rfl, hother, hlater, hrecent,
    by omega, hserved.answered _, hcalls.1, fun call hcall ↦ hcalls.2 call (Nat.le_of_succ_le hcall)⟩

lemma length_hearsayRounds : (hearsayRounds round).length = 13 := by
  cases round <;> rfl

lemma ready_networkAt : Ready round (trio.networkAt hearsayEvents (13 * (round + 1))) := by
  induction round with
  | zero =>
    rw [Mesh.networkAt, hearsayEvents, streamAt_inRounds length_hearsayRounds]
    exact ready_start
  | succ round ih =>
    rw [Mesh.networkAt, hearsayEvents, streamAt_inRounds length_hearsayRounds]
    exact ready_round ih

lemma fair_hearsay : trio.Fair (· ≠ dead) hearsayEvents where
  time := by
    intro time
    obtain ⟨_, _, _, _, _, _, _, hnet, -⟩ := ready_networkAt time
    refine ⟨13 * (time + 1), ?_⟩
    rw [hnet]
    have hturn : 1 ≤ turn := by decide
    exact (Nat.le_mul_of_pos_left time hturn).trans (Nat.le_add_left _ _)
  rounds := by
    intro node hlive position
    obtain side | _ := node
    · obtain ⟨round, hlater, rfl⟩ : ∃ round, position ≤ 13 * (round + 1) ∧ initiator round = side := by
        cases side
        · exact ⟨2 * position, by omega, decide_eq_false (by omega)⟩
        · exact ⟨2 * position + 1, by omega, decide_eq_true (by omega)⟩
      obtain ⟨wake, _, _, _, _, _, _, hnet, hwake, -⟩ := ready_networkAt round
      refine ⟨13 * (round + 1), hlater, 0, 0, wake, ?_, ?_, ?_⟩
      · rw [hearsayEvents, inRounds, Nat.mul_div_cancel_left _ (by decide), Nat.mul_mod_right]
        rfl
      · rw [hnet, duo_own]
        rfl
      · rw [hnet]
        exact hwake
    · contradiction
  calls := by
    intro node hlive position call
    obtain ⟨_, _, _, _, _, _, _, hnet, -, -, -, -, hcalls, hserved⟩ := ready_networkAt position
    refine ⟨13 * (position + 1), by omega, ?_⟩
    rw [hnet]
    obtain side | _ := node
    · obtain rfl | rfl := Bool.eq_or_eq_not side (initiator position)
      · rw [duo_own]
        exact hcalls.1 call
      · rw [duo_other]
        exact hserved.1 call
    · contradiction

lemma silent_hearsay : trio.SilentFrom dead hearsayEvents 13 := by
  have hround : ∀ position, 13 ≤ position → (hearsayEvents position).actor ≠ some dead ∧
      ∀ node incoming, hearsayEvents position ≠ .directory node (some incoming) := by
    intro position hposition
    have hmem := inRounds_mem (by decide) length_hearsayRounds (.wait 0) position
    obtain ⟨round, hround⟩ : ∃ round, position / 13 = round + 1 := ⟨position / 13 - 1, by omega⟩
    have hsilent : ∀ event ∈ hearsayRounds (round + 1), event.actor ≠ some dead ∧
        ∀ node incoming, event ≠ .directory node (some incoming) := by
      simp [hearsayRounds, roundEvents, openEvents, serveEvents, closeEvents, GossipEvent.actor]
    exact hsilent _ (hround ▸ hmem)
  constructor
  · intro position hposition
    exact (hround position hposition).1
  · intro position hposition node incoming hevent
    exact absurd hevent ((hround position hposition).2 node incoming)

/-- A node reads the peers of its table that it heard of lately. -/
lemma lists_of_peers {node first second : Party} {firstTime secondTime : ℕ}
    (hne : first.nodeId ≠ second.nodeId)
    (hpeers : (net.node node).peers = duoTable first second firstTime secondTime)
    (hfirst : net.now - firstTime < peerExpiry) (hsecond : net.now - secondTime < peerExpiry)
    (epoch : ℕ) : net.Lists node epoch first.nodeId ∧ net.Lists node epoch second.nodeId := by
  have hread : getPeers net.now epoch (net.node node).peers =
      [first.contact firstTime, second.contact secondTime] := by
    rw [getPeers, hpeers, prune_duoTable hne hfirst hsecond, values_duoTable hne]
  refine ⟨.inl ⟨first.contact firstTime, ?_, rfl⟩, .inl ⟨second.contact secondTime, ?_, rfl⟩⟩
  all_goals simp [hread]

/-- Before every round both nodes that live list the node that fell silent. -/
lemma Ready.lists {round : ℕ} (hready : Ready round net) {node : Party} (hlive : node ≠ dead)
    (epoch : ℕ) : net.Lists node epoch dead.nodeId := by
  obtain ⟨_, _, _, _, _, _, _, rfl, -, -, hdead, htime, -⟩ := hready
  obtain side | _ := node
  · obtain rfl | rfl := Bool.eq_or_eq_not side (initiator round)
    · exact (lists_of_peers (nodeId_ne_dead _) (congrArg peers duo_own) (recent_seenAt round)
        (recent_seenAt round) epoch).2
    · exact (lists_of_peers (nodeId_ne_dead _).symm (congrArg peers duo_other) hdead htime epoch).1
  · contradiction

/-- The schedule is fair to the two nodes that live, the third is silent and not listed by the
directory, and again and again both nodes list it. -/
theorem dead_peer_stays :
    trio.Fair (· ≠ dead) hearsayEvents ∧ trio.SilentFrom dead hearsayEvents 13 ∧
      ∀ position, ∃ later, position ≤ later ∧ ∀ node, node ≠ dead → ∀ epoch,
        (trio.networkAt hearsayEvents later).Lists node epoch (trio.nodeId dead) := by
  refine ⟨fair_hearsay, silent_hearsay, fun position ↦ ⟨13 * (position + 1), by omega, ?_⟩⟩
  intro node hlive epoch
  exact (ready_networkAt position).lists hlive epoch

/-- The same run up to the end of the second round, and then the nodes rest for ever. -/
def quietEvents (position : ℕ) : GossipEvent Party :=
  if position < 39 then hearsayEvents position else .wait turn

lemma networkAt_quiet {position : ℕ} (hposition : position ≤ 39) :
    trio.networkAt quietEvents position = trio.networkAt hearsayEvents position := by
  induction position with
  | zero => rfl
  | succ position ih =>
    have hevent : quietEvents position = hearsayEvents position := if_pos hposition
    rw [Mesh.networkAt, streamAt, hevent]
    exact congrArg (Network.step trio · _) (ih (Nat.le_of_succ_le hposition))

lemma time_quiet (count : ℕ) : count ≤ (trio.networkAt quietEvents (39 + count)).now := by
  induction count with
  | zero => exact Nat.zero_le _
  | succ count ih =>
    have hevent : quietEvents (39 + count) = .wait turn := if_neg (by omega)
    have hturn : 1 ≤ turn := by decide
    rw [← Nat.add_assoc, Mesh.networkAt, streamAt, hevent]
    exact Nat.add_le_add ih hturn

/-- After two rounds in which the nodes named the third to each other both list it, and when they
rest they list it no more. -/
theorem dead_peer_expires_after_rounds :
    (∀ node, node ≠ dead → (trio.networkAt quietEvents 39).Lists node 0 dead.nodeId) ∧
      ∃ start, ∀ position, start ≤ position → ∀ node epoch,
        ¬ (trio.networkAt quietEvents position).Lists node epoch dead.nodeId := by
  constructor
  · intro node hlive
    rw [networkAt_quiet le_rfl]
    exact (ready_networkAt 2).lists hlive 0
  · refine dead_peer_expires trio quietEvents dead.nodeId (fun time ↦ ⟨_, time_quiet time⟩) ⟨39, ?_⟩
    intro position hposition
    rw [quietEvents, if_neg (by omega)]
    exact List.not_mem_nil

end Iicp.Peer
