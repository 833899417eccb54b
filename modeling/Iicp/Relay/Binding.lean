import Iicp.Client.DispatchTicket
import Iicp.Concurrent.AtomicObject
import Iicp.Rust.HashMap

/-!
# Binding relay workers

A worker that no one can reach binds a session at a relay, over a TCP connection or by HTTP
long-polls. The relay keeps one session for each worker id in a registry. Both transports make the
same checks before they insert a session: a ticket of the directory, that the worker has no live
session, a rate limit, the capacity of the registry, and that the ticket is used once. Each check
takes the lock of what it looks at, so an attempt is a program over the operations of `relayObject`.

The ticket check differs between the transports. Over TCP a ticket is passed over if no key is
configured, also in strict mode; over HTTP an empty key counts as no key. `strict_binding_iff` says
for which attempts strict mode holds what it promises and the two transports decide alike.
-/

namespace Iicp.Relay

open Client (isLowerHex)
open Concurrent Prog
open Confidentiality (asBytes)
open Rust

/-! ### Tickets -/

structure RelayBindTicketClaims where
  v : UInt8
  (typ jti iss sub aud : String)
  iat : ℤ
  exp : ℤ
  deriving DecidableEq, Repr

structure RelayTicketCrates where
  (hexDecode b64urlDecode : String → Option (List UInt8))
  usableKey : List UInt8 → Bool
  verifies : (key message signature : List UInt8) → Bool
  readClaims : List UInt8 → Option RelayBindTicketClaims

def bindTicketDomain : String := "iicp:relay-bind-ticket:v1\n"

/-- The claims of a ticket are those for the worker and the relay, and the ticket has not expired.
-/
def RelayBindTicketClaims.accepted (claims : RelayBindTicketClaims) (workerId relayAudience : String)
    (nowS : ℤ) : Bool :=
  claims.typ == "relay-bind-ticket" && isLowerHex 32 claims.jti && claims.sub == workerId &&
    nowS < claims.exp && (claims.aud == "*" || claims.aud == relayAudience)

def verifyRelayBindTicket (crates : RelayTicketCrates)
    (token publicKeyHex workerId relayAudience : String) (nowS : ℤ) :
    Option RelayBindTicketClaims := do
  let (payload, sigHex) ← splitOnce '.' token
  guard (byteLength sigHex.toList = 128)
  let key ← (crates.hexDecode publicKeyHex).filter (·.length = 32)
  let signature ← (crates.hexDecode sigHex).filter (·.length = 64)
  guard (crates.usableKey key)
  guard (crates.verifies key (asBytes bindTicketDomain ++ asBytes payload) signature)
  let bytes ← crates.b64urlDecode payload
  let claims ← crates.readClaims bytes
  guard (claims.accepted workerId relayAudience nowS)
  some claims

/-- Uses a ticket: it must not have been used before. Tickets that have expired are forgotten. -/
def consumeRelayBindTicket (seen : HashMap String ℤ) (claims : RelayBindTicketClaims) (nowS : ℤ) :
    HashMap String ℤ × Bool :=
  let live := seen.retain fun _ exp ↦ nowS < exp
  if claims.jti ∈ live then (live, false) else (live.insert claims.jti claims.exp, true)

/-! ### Sessions and the registry -/

/-- The session of a worker. All clones of a handle share one identity; a session by long-polls has
the token that the worker shows. -/
inductive RelaySession where
  | tcp (workerId : String) (identity : ℕ)
  | httpPoll (workerId : String) (identity : ℕ) (sessionToken : String)
  deriving DecidableEq, Repr

namespace RelaySession

def workerId : RelaySession → String
  | tcp workerId _ => workerId
  | httpPoll workerId _ _ => workerId

def identity : RelaySession → ℕ
  | tcp _ identity => identity
  | httpPoll _ identity _ => identity

end RelaySession

def maxRelaySessions : ℕ := 256

/-- The window of the rate limit, in milliseconds. -/
def relayBindRateWindow : ℕ := 60000

/-- How long a session by long-polls lives after a pull, in milliseconds. -/
def livenessWindow : ℕ := 90000

/-- What the attempts share: the registry, the counters of the rate limit, the used tickets, the
clocks, and for each session whether its channel is closed and when it was last pulled. -/
structure RelayState where
  sessions : HashMap String RelaySession
  bindRateLimit : ℕ
  bindRateBuckets : HashMap String (ℕ × ℕ)
  seen : HashMap String ℤ
  now : ℕ
  nowS : ℤ
  closed : RelaySession → Bool
  lastPull : RelaySession → ℕ

namespace RelayState

variable (state : RelayState)

/-- A session over TCP lives until its channel closes. A session by long-polls lives until it is
closed or was not pulled for the liveness window. -/
def isAlive (session : RelaySession) : Bool :=
  match session with
  | .tcp _ _ => !state.closed session
  | .httpPoll _ _ _ =>
    !state.closed session && state.now - state.lastPull session < livenessWindow

def allowBind (source : String) (rebind : Bool) : RelayState × Bool :=
  if rebind || state.bindRateLimit == 0 then (state, true)
  else
    let entry := (state.bindRateBuckets.lookup source).getD (state.now, 0)
    let current := if relayBindRateWindow ≤ state.now - entry.1 then (state.now, 0) else entry
    let counted := state.bindRateBuckets.insert source (current.1, current.2 + 1)
    let kept := if 4096 < HashMap.size counted then
      HashMap.retain counted fun _ bucket ↦ state.now - bucket.1 < relayBindRateWindow else counted
    ({ state with bindRateBuckets := kept }, current.2 + 1 ≤ state.bindRateLimit)

variable (workerId : String)

def atCapacity : Bool :=
  decide (workerId ∉ state.sessions) && decide (maxRelaySessions ≤ state.sessions.size)

/-- Inserts a session, which starts to live. -/
def bind (session : RelaySession) : RelayState :=
  { state with
    sessions := state.sessions.insert workerId session
    closed := Function.update state.closed session false
    lastPull := Function.update state.lastPull session state.now }

def unbind : RelayState :=
  { state with sessions := state.sessions.erase workerId }

/-- Removes the session of a worker if it is this session over TCP. -/
def unbindSession (session : RelaySession) : RelayState :=
  match state.sessions.lookup workerId with
  | some (.tcp _ identity) =>
    if identity = session.identity then state.unbind workerId else state
  | _ => state

/-- The session by long-polls with a token. -/
def getByToken (token : String) : Option RelaySession :=
  if token = "" then none
  else state.sessions.values.find? fun session ↦
    match session with
    | .tcp _ _ => false
    | .httpPoll _ _ sessionToken => sessionToken == token

end RelayState

/-! ### Operations -/

/-- What runs under one lock, and what can happen to a relay from outside: a pull, a closed socket,
the passing of time. -/
inductive RelayOp where
  | unixTime
  | get (workerId : String)
  | isAlive (session : RelaySession)
  | isBound (workerId : String)
  | allowBind (source : String) (rebind : Bool)
  | atCapacity (workerId : String)
  | consume (claims : RelayBindTicketClaims)
  | bind (workerId : String) (session : RelaySession)
  | unbindSession (workerId : String) (session : RelaySession)
  | getByToken (token : String)
  | close (session : RelaySession)
  | unbind (session : RelaySession)
  | pull (session : RelaySession)
  | socketClosed (session : RelaySession)
  | elapse (milliseconds : ℕ)
  | setClock (nowS : ℤ)
  deriving DecidableEq

def RelayOp.Answer : RelayOp → Type
  | unixTime => ℤ
  | get _ => Option RelaySession
  | isAlive _ => Bool
  | isBound _ => Bool
  | allowBind _ _ => Bool
  | atCapacity _ => Bool
  | consume _ => Bool
  | getByToken _ => Option RelaySession
  | _ => Unit

abbrev relayInterface : Interface := ⟨RelayOp, RelayOp.Answer⟩

def relayObject : Object relayInterface RelayState
  | .unixTime, state => (state, state.nowS)
  | .get workerId, state => (state, state.sessions.lookup workerId)
  | .isAlive session, state => (state, state.isAlive session)
  | .isBound workerId, state => (state, (state.sessions.lookup workerId).isSome)
  | .allowBind source rebind, state => state.allowBind source rebind
  | .atCapacity workerId, state => (state, state.atCapacity workerId)
  | .consume claims, state =>
    ({ state with seen := (consumeRelayBindTicket state.seen claims state.nowS).1 },
      (consumeRelayBindTicket state.seen claims state.nowS).2)
  | .bind workerId session, state => (state.bind workerId session, ())
  | .unbindSession workerId session, state => (state.unbindSession workerId session, ())
  | .getByToken token, state => (state, state.getByToken token)
  | .close session, state =>
    ({ state with closed := Function.update state.closed session true }, ())
  | .unbind session, state => (state.unbind session.workerId, ())
  | .pull session, state =>
    ({ state with lastPull := Function.update state.lastPull session state.now }, ())
  | .socketClosed session, state =>
    ({ state with closed := Function.update state.closed session true }, ())
  | .elapse milliseconds, state => ({ state with now := state.now + milliseconds }, ())
  | .setClock nowS, state => ({ state with nowS := nowS }, ())

/-! ### Attempts -/

inductive Refusal where
  | missingWorkerId
  | ticketInvalid
  | ticketRequired
  | aliveSession
  | rateLimited
  | atCapacity
  | ticketReplayed
  deriving DecidableEq, Repr

/-- How a program of the relay ends. -/
inductive Ended where
  | bound
  | refused (why : Refusal)
  | finished
  deriving DecidableEq, Repr

abbrev RelayProg := Prog relayInterface Ended

structure TicketPolicy where
  requireBindTicket : Bool
  publicKeyHex : Option String
  relayNodeId : String
  deriving DecidableEq, Repr

/-- An attempt to bind: what the worker sends, the source for the rate limit, and what the session
that is made for it is known by. -/
structure BindRequest where
  (workerId bindTicket source : String)
  identity : ℕ
  sessionToken : String
  deriving DecidableEq, Repr

def BindRequest.tcpSession (request : BindRequest) : RelaySession :=
  .tcp request.workerId request.identity

def BindRequest.httpSession (request : BindRequest) : RelaySession :=
  .httpPoll request.workerId request.identity request.sessionToken

section Attempts

variable (crates : RelayTicketCrates) (policy : TicketPolicy) (request : BindRequest)
  (session : RelaySession)

def insertStage (after : RelayProg) : RelayProg :=
  .call (.bind request.workerId session) fun _ ↦ after

variable (claims : Option RelayBindTicketClaims)

def consumeStage (after : RelayProg) : RelayProg :=
  match claims with
  | none => insertStage request session after
  | some claims => .call (.consume claims) fun (fresh : Bool) ↦
    if fresh then insertStage request session after else .done (.refused .ticketReplayed)

def capacityStage (after : RelayProg) : RelayProg :=
  .call (.atCapacity request.workerId) fun (full : Bool) ↦
    if full then .done (.refused .atCapacity) else consumeStage request session claims after

def rateStage (after : RelayProg) (rebind : Bool) :
    RelayProg :=
  .call (.allowBind request.source rebind) fun (allowed : Bool) ↦
    if allowed then capacityStage request session claims after else .done (.refused .rateLimited)

def rebindStage (after : RelayProg) : RelayProg :=
  .call (.isBound request.workerId) fun (rebind : Bool) ↦
    rateStage request session claims after rebind

def aliveStage (after : RelayProg) (existing : RelaySession) : RelayProg :=
  .call (.isAlive existing) fun (alive : Bool) ↦
    if alive then .done (.refused .aliveSession) else rebindStage request session claims after

/-- The checks of the registry, which are the same for both transports. -/
def lookupStage (after : RelayProg) : RelayProg :=
  .call (.get request.workerId) fun (existing : Option RelaySession) ↦
    match existing with
    | none => rebindStage request session claims after
    | some found => aliveStage request session claims after found

def verifyStage (key : String) (after : RelayProg) : RelayProg :=
  .call .unixTime fun (nowS : ℤ) ↦
    match verifyRelayBindTicket crates request.bindTicket key request.workerId policy.relayNodeId
      nowS with
    | none => .done (.refused .ticketInvalid)
    | some claims => lookupStage request session (some claims) after

def tcpBind (after : RelayProg) : RelayProg :=
  if request.workerId = "" then .done (.refused .missingWorkerId)
  else if request.bindTicket ≠ "" then
    match policy.publicKeyHex with
    | some key => verifyStage crates policy request request.tcpSession key after
    | none => lookupStage request request.tcpSession none after
  else if policy.requireBindTicket then .done (.refused .ticketRequired)
  else lookupStage request request.tcpSession none after

def httpBind (after : RelayProg) : RelayProg :=
  if request.workerId = "" then .done (.refused .missingWorkerId)
  else if request.bindTicket ≠ "" ∧ policy.publicKeyHex.getD "" ≠ "" then
    verifyStage crates policy request request.httpSession (policy.publicKeyHex.getD "") after
  else if policy.requireBindTicket then .done (.refused .ticketRequired)
  else lookupStage request request.httpSession none after

/-- A connection over TCP: the session ends when the connection does, and then leaves the registry.
-/
def handleRelayConnection : RelayProg :=
  tcpBind crates policy request (.call (.unbindSession request.workerId request.tcpSession) fun _ ↦
    .done .bound)

def relayBindEndpoint : RelayProg := httpBind crates policy request (.done .bound)

end Attempts

/-! ### A single attempt -/

section Alone

variable (crates : RelayTicketCrates) (policy : TicketPolicy) (request : BindRequest)
  (state : RelayState)

/-- How an attempt ends that runs alone, and the state that it leaves when the session is bound. -/
def tcpDecision : RelayState × Ended :=
  (tcpBind crates policy request (.done .bound)).run relayObject state

def httpDecision : RelayState × Ended :=
  (relayBindEndpoint crates policy request).run relayObject state

/-- The registry lets the attempt pass: no live session, the rate limit, the capacity. -/
def Admits : Prop :=
  (∀ session, state.sessions.lookup request.workerId = some session →
    state.isAlive session = false) ∧
  (state.allowBind request.source (state.sessions.lookup request.workerId).isSome).2 = true ∧
  state.atCapacity request.workerId = false

/-- The ticket of the attempt was accepted under the configured key for the worker and the relay,
and then used. -/
def TicketUsed (after : RelayState) : Prop :=
  ∃ key claims, policy.publicKeyHex = some key ∧
    verifyRelayBindTicket crates request.bindTicket key request.workerId policy.relayNodeId
      state.nowS = some claims ∧
    (consumeRelayBindTicket state.seen claims state.nowS).2 = true ∧
    after.seen = (consumeRelayBindTicket state.seen claims state.nowS).1

/-- What strict mode promises, and that the transports decide alike. -/
def StrictOnBoth : Prop :=
  (policy.requireBindTicket = true →
    (tcpDecision crates policy request state).2 = .bound →
      TicketUsed crates policy request state (tcpDecision crates policy request state).1) ∧
  (policy.requireBindTicket = true →
    (httpDecision crates policy request state).2 = .bound →
      TicketUsed crates policy request state (httpDecision crates policy request state).1) ∧
  ((tcpDecision crates policy request state).2 = .bound ↔
    (httpDecision crates policy request state).2 = .bound)

/-- A ticket is presented, but no key is configured in strict mode, or an empty one otherwise. -/
def TicketPassedOver : Prop :=
  request.workerId ≠ "" ∧ request.bindTicket ≠ "" ∧
    (policy.requireBindTicket = true ∧ policy.publicKeyHex = none ∨
      policy.requireBindTicket = false ∧ policy.publicKeyHex = some "")

end Alone

/-! ### What an attempt decides -/

section Decision

variable {crates : RelayTicketCrates} {policy : TicketPolicy} {request : BindRequest}
  {session : RelaySession} {state : RelayState} (claims : Option RelayBindTicketClaims)

lemma allowBind_state (source : String) (rebind : Bool) :
    ∃ buckets, (state.allowBind source rebind).1 = { state with bindRateBuckets := buckets } := by
  unfold RelayState.allowBind
  split_ifs
  · exact ⟨state.bindRateBuckets, rfl⟩
  · exact ⟨_, rfl⟩

/-- The ticket of an attempt can be used, if it has one. -/
def Usable (state : RelayState) (claims : Option RelayBindTicketClaims) : Prop :=
  ∀ found, claims = some found → (consumeRelayBindTicket state.seen found state.nowS).2 = true

/-- The used tickets after the ticket of an attempt is used. -/
def seenAfter (state : RelayState) (claims : Option RelayBindTicketClaims) : HashMap String ℤ :=
  (claims.map fun found ↦ (consumeRelayBindTicket state.seen found state.nowS).1).getD state.seen

/-- A program that runs alone binds the session exactly when it passes, and then leaves these used
tickets. -/
def Decides (state : RelayState) (program : RelayProg) (passes : Prop)
    (seen : HashMap String ℤ) : Prop :=
  ((program.run relayObject state).2 = .bound ↔ passes) ∧
    (passes → (program.run relayObject state).1.seen = seen)

/-- After the checks of the registry the session is inserted if its ticket can be used. -/
lemma decides_consumeStage :
    Decides state (consumeStage request session claims (.done .bound))
      (Usable state claims) (seenAfter state claims) := by
  cases claims with
  | none => exact ⟨iff_of_true rfl (by simp [Usable]), fun _ ↦ rfl⟩
  | some found =>
    have husable : Usable state (some found) ↔
        (consumeRelayBindTicket state.seen found state.nowS).2 := by simp [Usable]
    unfold Decides
    rw [husable]
    cases hfresh : (consumeRelayBindTicket state.seen found state.nowS).2 with
    | true =>
      simp [consumeStage, run, relayObject, hfresh, insertStage, RelayState.bind, seenAfter]
    | false => simp [consumeStage, run, relayObject, hfresh]

lemma decides_capacityStage :
    Decides state (capacityStage request session claims (.done .bound))
      (state.atCapacity request.workerId = false ∧ Usable state claims)
      (seenAfter state claims) := by
  have hconsume := @decides_consumeStage request session state claims
  cases hfull : state.atCapacity request.workerId with
  | true => simp [Decides, capacityStage, run, relayObject, hfull]
  | false => simpa [Decides, capacityStage, run, relayObject, hfull] using hconsume

lemma decides_rateStage (rebind : Bool) :
    Decides state (rateStage request session claims (.done .bound) rebind)
      ((state.allowBind request.source rebind).2 ∧
        state.atCapacity request.workerId = false ∧ Usable state claims)
      (seenAfter state claims) := by
  obtain ⟨_, hbuckets⟩ := @allowBind_state state request.source rebind
  set counted := (state.allowBind request.source rebind).1
  have hcapacity := @decides_capacityStage request session counted claims
  have hsame : counted.atCapacity request.workerId = state.atCapacity request.workerId ∧
      (Usable counted claims ↔ Usable state claims) ∧
      seenAfter counted claims = seenAfter state claims := by
    rw [hbuckets]
    exact ⟨rfl, Iff.rfl, rfl⟩
  unfold Decides at hcapacity
  rw [hsame.1, hsame.2.1, hsame.2.2] at hcapacity
  cases hallowed : (state.allowBind request.source rebind).2 with
  | true => simpa [Decides, rateStage, run, relayObject, hallowed] using hcapacity
  | false => simp [Decides, rateStage, run, relayObject, hallowed]

/-- With a ticket that is verified or not needed, an attempt is bound when the registry lets it pass
and its ticket can be used. -/
lemma decides_lookupStage :
    Decides state (lookupStage request session claims (.done .bound))
      (Admits request state ∧ Usable state claims) (seenAfter state claims) := by
  have hrate := @decides_rateStage request session state claims
    (state.sessions.lookup request.workerId).isSome
  unfold Admits
  cases hexisting : state.sessions.lookup request.workerId with
  | none =>
    rw [hexisting] at hrate
    simpa [Decides, lookupStage, rebindStage, run, relayObject, hexisting, and_assoc] using hrate
  | some session =>
    rw [hexisting] at hrate
    cases halive : state.isAlive session with
    | true => simp [Decides, lookupStage, aliveStage, run, relayObject, hexisting, halive]
    | false =>
      simpa [Decides, lookupStage, aliveStage, rebindStage, run, relayObject, hexisting, halive,
        and_assoc] using hrate

/-- A ticket is verified under a key before anything else. -/
lemma decides_verifyStage (key : String) :
    let verified := verifyRelayBindTicket crates request.bindTicket key request.workerId
      policy.relayNodeId state.nowS
    Decides state (verifyStage crates policy request session key (.done .bound))
      (∃ claims, verified = some claims ∧ Admits request state ∧ Usable state (some claims))
      (seenAfter state verified) := by
  dsimp only
  cases hclaims : verifyRelayBindTicket crates request.bindTicket key request.workerId
    policy.relayNodeId state.nowS with
  | none => simp [Decides, verifyStage, run, relayObject, hclaims]
  | some claims =>
    have hlookup := @decides_lookupStage request session state (some claims)
    simpa [Decides, verifyStage, run, relayObject, hclaims] using hlookup

lemma verifyRelayBindTicket_empty_key (hempty : crates.hexDecode "" = some [])
    (token workerId relayAudience : String) (nowS : ℤ) :
    verifyRelayBindTicket crates token "" workerId relayAudience nowS = none := by
  have hkey : (crates.hexDecode "").filter (·.length = 32) = none := by simp [hempty]
  unfold verifyRelayBindTicket
  cases splitOnce '.' token with
  | none => rfl
  | some => simp [hkey]

/-- An attempt that is bound after its ticket was verified under the configured key has used its
ticket. -/
lemma ticketUsed_of_verifyStage {key : String} (hkey : policy.publicKeyHex = some key)
    (hbound : ((verifyStage crates policy request session key (.done .bound)).run
      relayObject state).2 = .bound) :
    TicketUsed crates policy request state
      ((verifyStage crates policy request session key (.done .bound)).run relayObject state).1 := by
  obtain ⟨hdecides, hseen⟩ := @decides_verifyStage crates policy request session state key
  have hpasses := hdecides.mp hbound
  obtain ⟨claims, hclaims, -, husable⟩ := hdecides.mp hbound
  refine ⟨key, claims, hkey, hclaims, husable claims rfl, ?_⟩
  rw [hseen hpasses, hclaims]
  rfl

end Decision

/-- Assumes: the empty text decodes to no bytes. For every policy, attempt and state of the relay,
strict mode binds sessions with used tickets only and the two transports decide alike, exactly
unless the attempt presents a ticket without a key in strict mode, or with an empty key otherwise,
and the registry would let it pass. -/
theorem strict_binding_iff (crates : RelayTicketCrates) (hempty : crates.hexDecode "" = some [])
    (policy : TicketPolicy) (request : BindRequest) (state : RelayState) :
    StrictOnBoth crates policy request state ↔
      ¬ (TicketPassedOver policy request ∧ Admits request state) := by
  unfold StrictOnBoth TicketPassedOver tcpDecision httpDecision relayBindEndpoint tcpBind httpBind
  by_cases hworker : request.workerId = ""
  · simp [hworker, run]
  have hbound : ∀ session, ((lookupStage request session none (.done .bound)).run relayObject
      state).2 = .bound ↔ Admits request state := by
    intro session
    simpa [Usable] using (@decides_lookupStage request session state none).1
  by_cases hticket : request.bindTicket = ""
  · cases hstrict : policy.requireBindTicket with
    | true => simp [hworker, hticket, run]
    | false => simp [hworker, hticket, hbound]
  cases hkey : policy.publicKeyHex with
  | none =>
    cases hstrict : policy.requireBindTicket with
    | true =>
      have hunused : ∀ after, ¬ TicketUsed crates policy request state after := by
        rintro _ ⟨key, _, hsome, -⟩
        rw [hkey] at hsome
        nomatch hsome
      simp [hworker, hticket, run, hbound, hunused]
    | false => simp [hworker, hticket, hbound]
  | some key =>
    by_cases hnone : key = ""
    · subst hnone
      have hrefused : ∀ session, verifyStage crates policy request session "" (.done .bound) =
          .call .unixTime fun _ ↦ .done (.refused .ticketInvalid) := by
        intro session
        unfold verifyStage
        simp only [verifyRelayBindTicket_empty_key hempty]
        rfl
      cases hstrict : policy.requireBindTicket with
      | true => simp [hworker, hticket, run, hrefused]
      | false => simp [hworker, hticket, run, hrefused, hbound]
    · have hused := fun session ↦
        @ticketUsed_of_verifyStage crates policy request session state key hkey
      have hsame := fun session ↦
        (@decides_verifyStage crates policy request session state key).1
      have halike := (hsame request.tcpSession).trans (hsame request.httpSession).symm
      simpa [hworker, hticket, hnone] using
        ⟨fun _ ↦ hused request.tcpSession, fun _ ↦ hused request.httpSession, halike⟩

/-! ### A strict relay without a key -/

/-- The crates, where nothing is encoded or signed. -/
def sampleCrates : RelayTicketCrates where
  hexDecode := fun text ↦ if text = "" then some [] else none
  b64urlDecode := fun _ ↦ none
  usableKey := fun _ ↦ false
  verifies := fun _ _ _ ↦ false
  readClaims := fun _ ↦ none

def emptyRelay : RelayState where
  sessions := ∅
  bindRateLimit := 30
  bindRateBuckets := ∅
  seen := ∅
  now := 0
  nowS := 1800000000
  closed := fun _ ↦ false
  lastPull := fun _ ↦ 0

def forgedRequest : BindRequest where
  workerId := "worker-1"
  bindTicket := "forged"
  source := "203.0.113.7"
  identity := 0
  sessionToken := ""

/-- A strict relay with a key refuses the text on both transports. -/
theorem forged_ticket_refused :
    StrictOnBoth sampleCrates ⟨true, some "ab", "relay-1"⟩ forgedRequest emptyRelay :=
  (strict_binding_iff sampleCrates rfl ⟨true, some "ab", "relay-1"⟩ forgedRequest emptyRelay).mpr
    (by simp [TicketPassedOver])

/-- A strict relay without a key binds the session over TCP, and refuses it over HTTP. -/
theorem forged_ticket_bound :
    (tcpDecision sampleCrates ⟨true, none, "relay-1"⟩ forgedRequest emptyRelay).2 =
        .bound ∧
      (httpDecision sampleCrates ⟨true, none, "relay-1"⟩ forgedRequest emptyRelay).2 =
        .refused .ticketRequired ∧
      ¬ StrictOnBoth sampleCrates ⟨true, none, "relay-1"⟩ forgedRequest emptyRelay := by
  have htcp : (tcpDecision sampleCrates ⟨true, none, "relay-1"⟩ forgedRequest emptyRelay).2 =
      .bound := by decide +kernel
  have hhttp : (httpDecision sampleCrates ⟨true, none, "relay-1"⟩ forgedRequest emptyRelay).2 =
      .refused .ticketRequired := by decide +kernel
  refine ⟨htcp, hhttp, fun hstrict ↦ ?_⟩
  have hsame := hstrict.2.2.mp htcp
  rw [hhttp] at hsame
  nomatch hsame

end Iicp.Relay
