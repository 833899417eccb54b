import Iicp.Peer.ManagerRuns
import Iicp.Rust.JsonText
import Iicp.Window.Expiring

/-!
# Lists that are received twice

A list that a member has signed carries an identifier, which is recorded until the membership of the
sender expires. The recorded identifiers are a table of entries that expire, and every step of a run
is one use of it at the time of the clock (`used_step`), although the time that drops entries was
read before the lock was taken.

The membership was checked at an earlier reading of the clock. If the clock reaches the expiry in
between, a second call with the same list drops the entry of the first one and is accepted as well
(`exchange_accepted_twice`); otherwise a list is accepted at most once (`exchange_accepted_once`).
-/

namespace Iicp.Peer

open Rust PeerAdmissionMode Concurrent Window

/-! ### One use of the table -/

/-- What a call records, if it is accepted. -/
def recordOf (replayId : String) (expiresAt : ℕ) : Outcome String Unit → Option (String × ℕ)
  | .ok _ => some (replayId, expiresAt)
  | _ => none

/-- A call is one use of the table at the time of the clock. -/
lemma used_recordReplay {now time : ℕ} (hnow : now ≤ time) (replayId : String) (expiresAt : ℕ)
    (seen : HashMap String ℕ) :
    Used time seen (recordOf replayId expiresAt (recordReplay replayId expiresAt now seen).2)
      (recordReplay replayId expiresAt now seen).1 := by
  have hkept : AgreeFrom time (evict now seen) seen := agreeFrom_evict seen hnow
  have hretain : HashMap.retain seen (fun _ expiry ↦ now < expiry) = evict now seen := rfl
  rw [recordReplay, hretain]
  by_cases hseen : replayId ∈ evict now seen
  · rw [if_pos hseen]
    exact .kept hkept
  · rw [if_neg hseen]
    by_cases hfull : maxReplayIds ≤ (evict now seen).size
    · rw [if_pos hfull]
      exact .kept hkept
    · rw [if_neg hfull]
      refine .recorded ?_ (hkept.insert replayId expiresAt)
      by_contra hlive
      obtain ⟨expiry, hexpiry⟩ := Option.ne_none_iff_exists'.mp hlive
      apply hseen
      rw [mem_evict]
      obtain ⟨hfound, hlater⟩ := liveAt_eq_some_iff.mp hexpiry
      rw [liveAt_eq_some_iff.mpr ⟨hfound, hnow.trans_lt hlater⟩]
      exact Option.some_ne_none expiry

namespace ManagerRun

variable {crates : PeerCrates} {manager : PeerManager} {restricted : RestrictedPeerAdmission}
  {run next : ManagerRun} {event : ManagerEvent} {exchange : RestrictedExchange}

section

variable (hmove : run.Move crates restricted event next)

include hmove

/-- The clock changes only when it is set. -/
lemma epoch_move : next.epoch = run.epoch ∨ ∃ instant, event = .clock instant next.epoch := by
  cases hmove with
  | aside hepoch => exact hepoch
  | acquire | skip | load | store | release | raise | loadRaised | remove | prune | readClock
  | record => exact .inl rfl

/-- A task that is about to record was about to before, or has just read the clock. -/
lemma recording_move {task now : ℕ} (h : next.task task = .recording exchange now) :
    run.task task = .recording exchange now ∨ now = run.epoch := by
  have hgoTo : ∀ {before : ManagerRun} {other : ℕ} {phase : Task}, before.task = run.task →
      (∀ found time, phase ≠ .recording found time) →
      (before.goTo other phase).task task = .recording exchange now →
      run.task task = .recording exchange now := by
    intro before other phase hbefore hphase hnext
    rw [task_goTo] at hnext
    by_cases hsame : task = other
    · rw [if_pos hsame] at hnext
      exact absurd hnext (hphase exchange now)
    · rw [if_neg hsame, hbefore] at hnext
      exact hnext
  cases hmove with
  | aside hepoch hminimum hpeers hholder hreplay htasks =>
    obtain hsame | ⟨-, hapart⟩ := htasks task
    · exact .inl (hsame ▸ h)
    · rw [h] at hapart
      nomatch hapart
  | acquire | skip | load | store | release | raise | loadRaised | remove | record =>
    exact .inl (hgoTo rfl (by rintro _ _ ⟨⟩) h)
  | prune hphase hfree hapart =>
    refine .inl (hgoTo rfl ?_ h)
    rintro found _ rfl
    nomatch hapart
  | @readClock other found hphase =>
    rw [task_goTo] at h
    by_cases hsame : task = other
    · rw [if_pos hsame] at h
      cases h
      exact .inr rfl
    · rw [if_neg hsame] at h
      exact .inl h

/-- Only a task that records changes the recorded identifiers. -/
lemma replayIds_move (hother : ∀ task exchange now, event = .proceed task →
      run.task task ≠ .recording exchange now) : next.replayIds = run.replayIds := by
  cases hmove with
  | aside hepoch hminimum hpeers hholder hreplay => exact hreplay
  | acquire | skip | load | store | release | raise | loadRaised | remove | prune | readClock => rfl
  | record hphase => exact absurd hphase (hother _ _ _ rfl)

end

variable (run event) in
def recordedBy : Option (String × ℕ) :=
  match event with
  | .proceed task =>
    match run.task task with
    | .recording exchange now =>
      recordOf exchange.gossip.proof.replayId exchange.membership.assertion.expiresAt
        (recordReplay exchange.gossip.proof.replayId exchange.membership.assertion.expiresAt now
          run.replayIds).2
    | _ => none
  | _ => none

lemma recordedBy_eq_none (hother : ∀ task exchange now, event = .proceed task →
      run.task task ≠ .recording exchange now) : run.recordedBy event = none := by
  cases event with
  | proceed task =>
    rw [recordedBy]
    cases hphase : run.task task with
    | recording exchange now => exact absurd hphase (hother task exchange now rfl)
    | _ => rfl
  | _ => rfl

lemma step_recording {task now : ℕ} (hphase : run.task task = .recording exchange now) :
    run.step crates manager (.proceed task) = run.record task exchange now := by
  rw [step, proceed, hphase]

lemma task_record (task now : ℕ) (exchange : RestrictedExchange) :
    (run.record task exchange now).task task =
      .idle (some (.exchanged ((recordReplay exchange.gossip.proof.replayId
        exchange.membership.assertion.expiresAt now run.replayIds).2 >>=
          fun _ ↦ .ok exchange.peers))) :=
  (task_goTo _ _ _ _).trans (if_pos rfl)

/-- A step is one use of the recorded identifiers at the time of the clock. -/
lemma used_step (hread : ∀ task exchange now, run.task task = .recording exchange now →
      now ≤ run.epoch) (event : ManagerEvent) :
    Used run.epoch run.replayIds (run.recordedBy event)
      (run.step crates (manager.inDomain restricted) event).replayIds := by
  by_cases hrecording : ∃ task exchange now, event = .proceed task ∧
      run.task task = .recording exchange now
  · obtain ⟨task, exchange, now, rfl, hphase⟩ := hrecording
    rw [step_recording hphase, recordedBy, hphase]
    exact used_recordReplay (hread task exchange now hphase) _ _ _
  · have hother : ∀ task exchange now, event = .proceed task →
        run.task task ≠ .recording exchange now :=
      fun task exchange now hevent hphase ↦ hrecording ⟨task, exchange, now, hevent, hphase⟩
    rw [recordedBy_eq_none hother,
      replayIds_move (move_step crates manager restricted run event) hother]
    exact .kept (AgreeFrom.refl _ _)

end ManagerRun

/-! ### Runs -/

open ManagerRun

section Runs

variable (crates : PeerCrates) (manager : PeerManager) (restricted : RestrictedPeerAdmission)
  (events : List ManagerEvent)

/-- At this position a call that has checked a list reaches the recorded identifiers. -/
def ReachesAt (position : ℕ) (exchange : RestrictedExchange) : Prop :=
  ∃ task now, events[position]? = some (.proceed task) ∧
    (managerAt crates manager events position).task task = .recording exchange now

def AcceptsAt (position : ℕ) (exchange : RestrictedExchange) : Prop :=
  ∃ task now, events[position]? = some (.proceed task) ∧
    (managerAt crates manager events position).task task = .recording exchange now ∧
    ∃ peers, (managerAt crates manager events (position + 1)).task task =
      .idle (some (.exchanged (.ok peers)))

def ClockAdvances : Prop :=
  ∀ position instant epoch, events[position]? = some (.clock instant epoch) →
    (managerAt crates manager events position).epoch ≤ epoch

/-- Every list reaches the recorded identifiers before the memberships expire that reached them with
the same identifier. -/
def ReachesInTime : Prop :=
  ∀ i j first second, i < j → ReachesAt crates manager events i first →
    ReachesAt crates manager events j second →
    first.gossip.proof.replayId = second.gossip.proof.replayId →
    (managerAt crates manager events j).epoch < first.membership.assertion.expiresAt

variable {crates manager restricted events}

def recordedAt (crates : PeerCrates) (manager : PeerManager) (events : List ManagerEvent)
    (position : ℕ) : Option (String × ℕ) :=
  events[position]?.bind (managerAt crates manager events position).recordedBy

variable {position : ℕ} {exchange : RestrictedExchange}

lemma recordedAt_of_acceptsAt (haccepts : AcceptsAt crates manager events position exchange) :
    recordedAt crates manager events position =
      some (exchange.gossip.proof.replayId, exchange.membership.assertion.expiresAt) := by
  obtain ⟨_, now, hevent, hphase, _, hok⟩ := haccepts
  rw [managerAt_succ _ _ hevent, step_recording hphase, task_record] at hok
  rw [recordedAt, hevent, Option.bind_some, recordedBy, hphase]
  dsimp only
  cases hresult : (recordReplay exchange.gossip.proof.replayId exchange.membership.assertion.expiresAt
    now (managerAt crates manager events position).replayIds).2 with
  | ok => rfl
  | err | panicked =>
    rw [hresult] at hok
    nomatch hok

lemma AcceptsAt.reachesAt (haccepts : AcceptsAt crates manager events position exchange) :
    ReachesAt crates manager events position exchange := by
  obtain ⟨task, now, hevent, hphase, -⟩ := haccepts
  exact ⟨task, now, hevent, hphase⟩

variable (hclock : ClockAdvances crates (manager.inDomain restricted) events)

include hclock

lemma epoch_step {event : ManagerEvent} (hevent : events[position]? = some event) :
    let moment := managerAt crates (manager.inDomain restricted) events position
    moment.epoch ≤ (moment.step crates (manager.inDomain restricted) event).epoch := by
  obtain hsame | ⟨instant, hset⟩ := epoch_move (move_step crates manager restricted _ event)
  · exact hsame.ge
  · rw [hset] at hevent
    exact hclock position instant _ hevent

lemma epoch_mono {i j : ℕ} (hij : i ≤ j) :
    (managerAt crates (manager.inDomain restricted) events i).epoch ≤
      (managerAt crates (manager.inDomain restricted) events j).epoch := by
  let later (run : ManagerRun) : Prop :=
    (managerAt crates (manager.inDomain restricted) events i).epoch ≤ run.epoch
  have hthen : later (managerAt crates (manager.inDomain restricted) events i) := le_rfl
  exact always_from hthen (fun _ _ _ hevent hle ↦ hle.trans (epoch_step hclock hevent)) hij

/-- The times that were read are not later than the clock. -/
lemma read_le_epoch (position : ℕ) :
    ∀ task exchange now, (managerAt crates (manager.inDomain restricted) events position).task task =
      .recording exchange now →
      now ≤ (managerAt crates (manager.inDomain restricted) events position).epoch := by
  let read (run : ManagerRun) : Prop :=
    ∀ task exchange now, run.task task = .recording exchange now → now ≤ run.epoch
  have hinit : read (.init (manager.inDomain restricted)) := by
    intro task exchange now h
    nomatch h
  refine always_of_good hinit (fun _ event hevent hread task exchange now h ↦ ?_) position
  refine le_trans ?_ (epoch_step hclock hevent)
  obtain hbefore | rfl := recording_move (move_step crates manager restricted _ event) h
  · exact hread task exchange now hbefore
  · exact le_rfl

lemma used_managerAt (position : ℕ) (hrange : position < events.length) :
    let moment := managerAt crates (manager.inDomain restricted) events
    Used (moment position).epoch (moment position).replayIds
      (recordedAt crates (manager.inDomain restricted) events position)
      (moment (position + 1)).replayIds := by
  dsimp only
  have hevent : events[position]? = some events[position] := List.getElem?_eq_getElem hrange
  rw [recordedAt, hevent, managerAt_succ _ _ hevent]
  exact used_step (read_le_epoch hclock position) _

lemma not_accepted_again
    (htime : ReachesInTime crates (manager.inDomain restricted) events) {i j : ℕ}
    {first second : RestrictedExchange}
    (hfirst : AcceptsAt crates (manager.inDomain restricted) events i first)
    (hsecond : AcceptsAt crates (manager.inDomain restricted) events j second)
    (hsame : first.gossip.proof.replayId = second.gossip.proof.replayId) : ¬ i < j := by
  intro hij
  have hrange : j < events.length := by
    obtain ⟨_, _, hevent, -⟩ := hsecond
    exact (List.getElem?_eq_some_iff.mp hevent).1
  have hrecord := recordedAt_of_acceptsAt hsecond
  rw [← hsame] at hrecord
  have hexpired := expired_of_recorded_again (used_managerAt hclock)
    (fun _ _ hle _ ↦ epoch_mono hclock hle) (recordedAt_of_acceptsAt hfirst) hrecord hij hrange
  exact absurd (htime i j first second hij hfirst.reachesAt hsecond.reachesAt hsame)
    (not_lt.mpr hexpired)

end Runs

/-- Assumes: the clock is never set back, and every list reaches the recorded identifiers before the
memberships expire that reached them with the same identifier. Of all calls with one identifier at
most one is accepted. -/
theorem exchange_accepted_once (crates : PeerCrates) (manager : PeerManager)
    (restricted : RestrictedPeerAdmission) {events : List ManagerEvent}
    (hclock : ClockAdvances crates (manager.inDomain restricted) events)
    (htime : ReachesInTime crates (manager.inDomain restricted) events) :
    ∀ i j first second, AcceptsAt crates (manager.inDomain restricted) events i first →
      AcceptsAt crates (manager.inDomain restricted) events j second →
      first.gossip.proof.replayId = second.gossip.proof.replayId → i = j := by
  intro i j first second hfirst hsecond hsame
  apply le_antisymm
  · exact not_lt.mp (not_accepted_again hclock htime hsecond hfirst hsame.symm)
  · exact not_lt.mp (not_accepted_again hclock htime hfirst hsecond hsame)

/-! ### A list that is accepted twice -/

lemma recordReplay_empty (replayId : String) (expiresAt now : ℕ) :
    recordReplay replayId expiresAt now ∅ =
      ((∅ : HashMap String ℕ).insert replayId expiresAt, .ok ()) := rfl

lemma recordReplay_expired {expiresAt now : ℕ} (hexpired : expiresAt ≤ now) (replayId : String) :
    recordReplay replayId expiresAt now ((∅ : HashMap String ℕ).insert replayId expiresAt) =
      ((∅ : HashMap String ℕ).insert replayId expiresAt, .ok ()) := by
  have hdropped : HashMap.retain ((∅ : HashMap String ℕ).insert replayId expiresAt)
      (fun _ expiry ↦ now < expiry) = ∅ := by
    apply AList.ext
    have hnone : List.filter (fun entry : Sigma fun _ : String ↦ ℕ ↦ decide (now < entry.2))
        [⟨replayId, expiresAt⟩] = [] := by simpa using hexpired
    exact hnone
  rw [recordReplay, hdropped]
  rfl

section Twice

variable {crates : PeerCrates} (manager : PeerManager) {restricted : RestrictedPeerAdmission}
  {body : List UInt8} {exchange : RestrictedExchange} {last next : ℕ}

/-- Two calls check the same list. The first one records its identifier at once, the second one when
the clock has changed. -/
def twiceEvents (body : List UInt8) (last next : ℕ) : List ManagerEvent :=
  [.clock 0 last, .call 0 (.exchange body none), .call 1 (.exchange body none), .proceed 0,
    .proceed 1, .proceed 0, .proceed 0, .clock 0 next, .proceed 1, .proceed 1]

variable (hverify : verifyRestrictedBody crates restricted restricted.policy.minimumGeneration body
    last = .ok exchange)

include hverify

/-- The moments before the second call checks the list, before the two calls read the clock, and
before they record. -/
lemma twice_moments :
    let moment := managerAt crates (manager.inDomain restricted) (twiceEvents body last next)
    (moment 4).task 1 = .exchangeLoaded body restricted.policy.minimumGeneration ∧
      ((moment 5).task 0 = .exchangeVerified exchange ∧ (moment 7).epoch = last) ∧
      ((moment 6).task 0 = .recording exchange last ∧ (moment 6).replayIds = ∅) ∧
      ((moment 8).task 1 = .exchangeVerified exchange ∧ (moment 9).epoch = next) ∧
        (moment 9).task 1 = .recording exchange next ∧ (moment 9).replayIds =
          (∅ : HashMap String ℕ).insert exchange.gossip.proof.replayId
            exchange.membership.assertion.expiresAt := by
  simp [managerAt, stateAt, runEvents, twiceEvents, step, proceed, begin, init, verify,
    PeerManager.inDomain, hverify, minimumGeneration, goTo, Function.update, record, finish,
    recordReplay_empty]

lemma twice_clock (hnext : last ≤ next) :
    ClockAdvances crates (manager.inDomain restricted) (twiceEvents body last next) := by
  rintro (_ | _ | _ | _ | _ | _ | _ | _ | _ | _ | _) _ _ ⟨⟩
  · exact Nat.zero_le _
  · rw [(twice_moments manager hverify).2.1.2]
    exact hnext

lemma first_accepted :
    AcceptsAt crates (manager.inDomain restricted) (twiceEvents body last next) 6 exchange := by
  obtain ⟨-, -, ⟨hfirst, hempty⟩, -⟩ := @twice_moments _ manager _ _ _ _ next hverify
  refine ⟨0, last, rfl, hfirst, exchange.peers, ?_⟩
  rw [managerAt_succ _ _ rfl, step_recording hfirst, task_record, hempty, recordReplay_empty]
  rfl

lemma second_accepted (hexpired : exchange.membership.assertion.expiresAt ≤ next) :
    AcceptsAt crates (manager.inDomain restricted) (twiceEvents body last next) 9 exchange := by
  obtain ⟨-, -, -, -, hsecond, hrecorded⟩ := @twice_moments _ manager _ _ _ _ next hverify
  refine ⟨1, next, rfl, hsecond, exchange.peers, ?_⟩
  rw [managerAt_succ _ _ rfl, step_recording hsecond, task_record, hrecorded,
    recordReplay_expired hexpired]
  rfl

/-- Assumes: the list passes the checks. The recorded identifiers are reached at two positions, with
this list. -/
lemma twice_reaches {position : ℕ} {other : RestrictedExchange}
    (hreaches : ReachesAt crates (manager.inDomain restricted) (twiceEvents body last next) position
      other) : other = exchange ∧ (position = 6 ∨ position = 9) := by
  obtain ⟨hloaded, ⟨hread, -⟩, ⟨hfirst, -⟩, ⟨hreread, -⟩, hsecond, -⟩ :=
    @twice_moments _ manager _ _ _ _ next hverify
  obtain ⟨_, _, hevent, hphase⟩ := hreaches
  rcases position with _ | _ | _ | _ | _ | _ | _ | _ | _ | _ | position <;> cases hevent
  · nomatch hphase
  · rw [hloaded] at hphase
    nomatch hphase
  · rw [hread] at hphase
    nomatch hphase
  · cases hfirst.symm.trans hphase
    exact ⟨rfl, .inl rfl⟩
  · rw [hreread] at hphase
    nomatch hphase
  · cases hsecond.symm.trans hphase
    exact ⟨rfl, .inr rfl⟩

/-- Assumes: the list passes the checks and the membership has not expired when the clock has
changed. -/
lemma twice_in_time (hlive : next < exchange.membership.assertion.expiresAt) :
    ReachesInTime crates (manager.inDomain restricted) (twiceEvents body last next) := by
  intro i j first second hij hfirst hsecond _
  obtain ⟨rfl, hi⟩ := twice_reaches manager hverify hfirst
  obtain ⟨-, hj⟩ := twice_reaches manager hverify hsecond
  obtain rfl : j = 9 := by omega
  rw [(twice_moments manager hverify).2.2.2.1.2]
  exact hlive

end Twice

def senderMembership : MembershipEnvelope where
  assertion := {
    schema := membershipSchema
    profile := restrictedProfile
    assertionId := "00000000-0000-4000-8000-000000000011"
    domainId := "domain-a"
    subject := {
      kind := "node"
      id := "node-sender"
      keyId := "node-sender#key-1"
      publicKeyEd25519 := "E5j2LG0aRXxRumpLXz29L2n8qTIWIY3ImX5Ba9F9k8o" }
    issuer := ⟨"directory-a", "directory-a#key-1"⟩
    issuedAt := 1800000009
    expiresAt := 1800000310
    generation := 3
    scopes := ["bootstrap", "peers", "relay"]
    audience := ["domain-a"] }
  signature := {
    algorithm := "Ed25519"
    keyId := none
    value :=
      "z6ksBpk4Aicykuv0oTri5qngL0t5TMq2ngquernQGWb29NsG8muEJOvuZ3l7YUTlSZz3Hj8j-JmfKF52-eZ8Aw" }

/-- What the sender has signed for the list without peers, ten seconds before. -/
def senderGossip : GossipEnvelope where
  proof := {
    senderId := "node-sender"
    domainId := "domain-a"
    sentAt := 1800000300
    replayId := "00000000-0000-4000-8000-000000000013"
    payloadSha256 := "b5f1383ab76d2b03a60cfa6ea71c5423a81db08b2a336c4154918b03d9f842ae"
    membershipAssertionId := "00000000-0000-4000-8000-000000000011" }
  signature := {
    algorithm := "Ed25519"
    keyId := some "node-sender#key-1"
    value :=
      "uzo8y_cWECHBZhC8I59ij4GtU43I38lDHM4Ckib3Hp5-zONmsS3xNS6piuUjD73hT0yzf28ZFq_4abB497p2DA" }

def senderValue : Json :=
  .object [("gossip", senderGossip.toValue), ("known_peers", .array []),
    ("membership", senderMembership.toValue)]

def senderBody : List UInt8 := textBytes (senderValue.jsonText fun _ ↦ [])

def senderExchange : RestrictedExchange where
  membership := senderMembership
  gossip := senderGossip
  peers := []
  payload := textBytes (Json.jsonText (fun _ ↦ []) (.object [("known_peers", .array [])]))

def senderDomain : RestrictedPeerAdmission where
  policy := {
    domainId := "domain-a"
    authorityId := "directory-a"
    authorityKeyId := "directory-a#key-1"
    authorityPublicKeyEd25519 := "6kpsY-KcUgq-9VB7Ey7F-ZVHdq6-vnuSQh7qaRRG0iw"
    minimumGeneration := 3
    maximumClockSkewSeconds := 60 }
  identity := none

/-- The signatures are genuine, and the digest is that of the list; of decoded texts only the length
matters. -/
def senderCrates : PeerCrates where
  parsesUuid := fun text ↦ text.length == 36
  b64urlDecode := fun text ↦ some (List.replicate (text.length * 3 / 4) 0)
  b64urlEncode := fun _ ↦ ""
  canonical := fun value ↦ some (textBytes (value.jsonText fun _ ↦ []))
  usableKey := fun _ ↦ true
  verifies := fun _ _ _ ↦ true
  publicKey := fun _ ↦ []
  sign := fun _ _ ↦ []
  sha256Hex := fun _ ↦ "b5f1383ab76d2b03a60cfa6ea71c5423a81db08b2a336c4154918b03d9f842ae"
  parseUrl := fun _ ↦ none
  toVec := fun value ↦ some (textBytes (value.jsonText fun _ ↦ []))
  fromSlice := readBytes
  signBody := fun _ _ ↦ ""

def receiver : PeerManager := ⟨"", false, 9485, .publicMode⟩

lemma senderBody_verified : ∀ now ∈ [1800000308, 1800000309],
    verifyRestrictedBody senderCrates senderDomain senderDomain.policy.minimumGeneration senderBody
      now = .ok senderExchange := by
  have hplain : senderValue.Plain := by
    simp only [senderValue, GossipEnvelope.toValue, GossipProof.toValue, DetachedSignature.toValue,
      MembershipEnvelope.toValue, MembershipAssertion.toValue, MembershipSubject.toValue,
      MembershipIssuer.toValue, senderGossip, senderMembership, Json.present, Json.Plain,
      Json.PlainFields, Json.PlainItems, Json.ofU64, List.filterMap_cons, List.filterMap_nil,
      Option.map_some, Option.map_none, List.map_cons, List.map_nil, and_true, true_and]
    decide +kernel
  have hdepth : senderValue.depth ≤ 127 := by decide +kernel
  have hread : readBytes senderBody = some senderValue := by
    rw [senderBody]
    exact readsPlain_readBytes _ _ hplain hdepth
  have hslice : senderCrates.fromSlice = readBytes := rfl
  have hparse : parseRestrictedExchange senderCrates senderBody = .ok senderExchange := by
    rw [parseRestrictedExchange, hslice, hread]
    decide +kernel
  intro now hnow
  rw [verifyRestrictedBody, hparse]
  revert now
  decide +kernel

/-- The clock is never set back, and one list is accepted twice. -/
theorem exchange_accepted_twice :
    ClockAdvances senderCrates (receiver.inDomain senderDomain)
        (twiceEvents senderBody 1800000309 1800000310) ∧
      AcceptsAt senderCrates (receiver.inDomain senderDomain)
        (twiceEvents senderBody 1800000309 1800000310) 6 senderExchange ∧
      AcceptsAt senderCrates (receiver.inDomain senderDomain)
        (twiceEvents senderBody 1800000309 1800000310) 9 senderExchange := by
  have hverify := senderBody_verified 1800000309 (by decide)
  exact ⟨twice_clock receiver hverify (by decide), first_accepted receiver hverify,
    second_accepted receiver hverify le_rfl⟩

/-- The same list reaches the recorded identifiers twice before the membership expires. It is
accepted the first time only. -/
theorem exchange_accepted_once_sender :
    AcceptsAt senderCrates (receiver.inDomain senderDomain)
        (twiceEvents senderBody 1800000308 1800000309) 6 senderExchange ∧
      ReachesAt senderCrates (receiver.inDomain senderDomain)
        (twiceEvents senderBody 1800000308 1800000309) 9 senderExchange ∧
      (∀ j second, AcceptsAt senderCrates (receiver.inDomain senderDomain)
          (twiceEvents senderBody 1800000308 1800000309) j second →
        senderExchange.gossip.proof.replayId = second.gossip.proof.replayId → 6 = j) ∧
      ¬ AcceptsAt senderCrates (receiver.inDomain senderDomain)
        (twiceEvents senderBody 1800000308 1800000309) 9 senderExchange := by
  have hverify := senderBody_verified 1800000308 (by decide)
  have haccepted := @first_accepted _ receiver _ _ _ _ 1800000309 hverify
  obtain ⟨-, -, -, -, hsecond, -⟩ := @twice_moments _ receiver _ _ _ _ 1800000309 hverify
  have honce := fun j second ↦ exchange_accepted_once senderCrates receiver senderDomain
    (twice_clock receiver hverify (by decide)) (twice_in_time receiver hverify (by decide)) 6 j
    senderExchange second haccepted
  exact ⟨haccepted, ⟨1, 1800000309, rfl, hsecond⟩, honce,
    fun hagain ↦ absurd (honce 9 senderExchange hagain rfl) (by decide)⟩

end Iicp.Peer
