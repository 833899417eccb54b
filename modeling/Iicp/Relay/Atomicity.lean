import Iicp.Relay.Binding

/-!
# Attempts that run at the same time

The tasks of a relay (connections over TCP, and the requests to bind, pull, answer and unbind over
HTTP) are the threads of a pool over `relayObject`. An attempt looks up the session of its worker,
asks whether it is alive, counts against the rate limit and the capacity, and inserts its own
session, each under a lock of its own. An unbind finds a session by its token, closes it, and
removes the entry of its worker.

What a thread has learnt from its answers (`Knows`) is lost when another thread inserts or revives a
session in between. `binding_atomic_of_undisturbed` says that this is the only way in which binding
goes wrong, and `live_session_displaced` shows two schedules where it does.
-/

namespace Iicp.Relay

open Concurrent List Option Rust

/-! ### Tasks -/

def unbindStage (session : RelaySession) : RelayProg :=
  .call (.unbind session) fun _ ↦ .done .finished

def closeStage (session : RelaySession) : RelayProg :=
  .call (.close session) fun _ ↦ unbindStage session

variable (token : String)

def relayUnbindEndpoint : RelayProg :=
  .call (.getByToken token) fun (found : Option RelaySession) ↦
    match found with
    | none => .done .finished
    | some session => closeStage session

/-- A long-poll marks its session as pulled when it begins and when it ends. -/
def nextCall (session : RelaySession) : RelayProg :=
  .call (.pull session) fun _ ↦ .call (.pull session) fun _ ↦ .done .finished

def relayPullEndpoint : RelayProg :=
  .call (.getByToken token) fun (found : Option RelaySession) ↦
    match found with
    | none => .done .finished
    | some session => nextCall session

/-- An answer of a worker changes nothing of the registry. -/
def relayResultEndpoint : RelayProg :=
  .call (.getByToken token) fun _ ↦ .done .finished

/-- What can happen at a relay. -/
inductive RelayTask where
  | connection (request : BindRequest)
  | bind (request : BindRequest)
  | unbind (token : String)
  | pull (token : String)
  | result (token : String)
  | socketClosed (session : RelaySession)
  | elapse (milliseconds : ℕ)
  | setClock (nowS : ℤ)
  deriving DecidableEq, Repr

abbrev RelayPool := Pool relayInterface RelayState Ended

section Pools

variable (crates : RelayTicketCrates) (policy : TicketPolicy)

def RelayTask.prog : RelayTask → RelayProg
  | connection request => handleRelayConnection crates policy request
  | bind request => relayBindEndpoint crates policy request
  | unbind token => relayUnbindEndpoint token
  | pull token => relayPullEndpoint token
  | result token => relayResultEndpoint token
  | socketClosed session => .call (.socketClosed session) fun _ ↦ .done .finished
  | elapse milliseconds => .call (.elapse milliseconds) fun _ ↦ .done .finished
  | setClock nowS => .call (.setClock nowS) fun _ ↦ .done .finished

def relayPool (start : RelayState) (tasks : List RelayTask) : RelayPool where
  state := start
  threads := tasks.map (RelayTask.prog crates policy)

end Pools

/-! ### Atomic binding -/

/-- A removal on behalf of a session takes this session only. -/
def RelayState.removesOnly (before after : RelayState) (workerId : String)
    (session : RelaySession) : Bool :=
  (before.sessions.lookup workerId).all fun found ↦
    found == session || (after.sessions.lookup workerId).isSome

/-- An operation displaces no live session, and removes no session but its own. -/
def RelayState.respects (state : RelayState) (op : RelayOp) : Bool :=
  match op with
  | .bind workerId _ =>
    (state.sessions.lookup workerId).all fun existing ↦ !state.isAlive existing
  | .unbind session =>
    state.removesOnly (relayObject (.unbind session) state).1 session.workerId session
  | .unbindSession workerId session =>
    state.removesOnly (relayObject (.unbindSession workerId session) state).1 workerId session
  | _ => true

variable (pool : RelayPool)

/-- The step of the thread respects the sessions of others, in a registry within its capacity. -/
def atomicStep (thread : ℕ) : Bool :=
  decide (pool.state.sessions.size ≤ maxRelaySessions) &&
    (pool.nextOp thread).all pool.state.respects

/-! ### Steps that disturb a thread -/

/-- The next operation of a program that names a worker. Those of the rate limit and of the tickets
do not, but the operation after them does. -/
def aim (program : RelayProg) : Option RelayOp :=
  match program with
  | .call (.allowBind _ _) next => (next true).nextOp
  | .call (.consume _) next => (next true).nextOp
  | program => program.nextOp

/-- A thread that aims at this operation has learnt something about the worker, and has not finished
with it. -/
def RelayOp.concerns (op : RelayOp) (workerId : String) : Bool :=
  match op with
  | .isAlive session => session.workerId == workerId
  | .isBound other => other == workerId
  | .atCapacity other => other == workerId
  | .bind other _ => other == workerId
  | .close session => session.workerId == workerId
  | .unbind session => session.workerId == workerId
  | _ => false

/-- An insertion takes the last place that another insertion counts on. -/
def RelayState.crowds (state : RelayState) (workerId : String) (other : RelayOp) : Bool :=
  match other with
  | .bind waiting _ => decide (workerId ∉ state.sessions) && decide (waiting ∉ state.sessions) &&
      decide (maxRelaySessions ≤ state.sessions.size + 1)
  | _ => false

/-- The operation inserts or revives a session of a worker that another thread is concerned with, or
takes the place that the other counts on. -/
def RelayState.disturbs (state : RelayState) (op other : RelayOp) : Bool :=
  match op with
  | .bind workerId _ => other.concerns workerId || state.crowds workerId other
  | .pull session => other.concerns session.workerId
  | _ => false

/-- The step of the thread disturbs no other thread. -/
def undisturbed (thread : ℕ) : Bool :=
  (pool.nextOp thread).all fun op ↦
    pool.others thread fun waiting ↦ (aim waiting).all fun other ↦ !pool.state.disturbs op other

/-! ### What a thread knows -/

/-- Each session is kept under the id of its worker. -/
def RelayState.Keyed (state : RelayState) : Prop :=
  ∀ workerId session, state.sessions.lookup workerId = some session → session.workerId = workerId

/-- The registry is within its capacity and keyed. -/
structure RelayState.Sound (state : RelayState) : Prop where
  capacity : state.sessions.size ≤ maxRelaySessions
  keys : state.Keyed

/-- The worker has no live session. -/
def RelayState.Vacant (state : RelayState) (workerId : String) : Prop :=
  ∀ session, state.sessions.lookup workerId = some session → state.isAlive session = false

/-- A session of the worker can be inserted. -/
def RelayState.Fits (state : RelayState) (workerId : String) : Prop :=
  workerId ∈ state.sessions ∨ state.sessions.size < maxRelaySessions

/-- No other session than this one is kept for its worker. -/
def RelayState.OnlyOwn (state : RelayState) (session : RelaySession) : Prop :=
  ∀ found, state.sessions.lookup session.workerId = some found → found = session

/-- An operation that is right whatever the thread knows. -/
def RelayOp.Free (op : RelayOp) : Prop :=
  match op with
  | .unbindSession workerId session => ∃ identity, session = .tcp workerId identity
  | .getByToken _ => True
  | .pull _ => True
  | .socketClosed _ => True
  | .elapse _ => True
  | .setClock _ => True
  | _ => False

abbrev Carefree (program : RelayProg) : Prop :=
  program.Always fun (op : RelayOp) _ ↦ op.Free

/-- An attempt with the session that it inserts for its worker, the claims of its ticket, and what
is left to do afterwards. -/
structure Attempt where
  request : BindRequest
  session : RelaySession
  claims : Option RelayBindTicketClaims
  after : RelayProg
  session_worker : session.workerId = request.workerId
  after_carefree : Carefree after

/-- What a thread of the relay knows about the state, by the stage that it has reached. -/
inductive Knows (state : RelayState) : RelayProg → Prop where
  | carefree (program : RelayProg) (hprogram : Carefree program) : Knows state program
  | verifying (crates : RelayTicketCrates) (policy : TicketPolicy) (attempt : Attempt)
      (key : String) :
      Knows state (verifyStage crates policy attempt.request attempt.session key attempt.after)
  | looking (attempt : Attempt) :
      Knows state (lookupStage attempt.request attempt.session attempt.claims attempt.after)
  | checking (attempt : Attempt) (existing : RelaySession)
      (hexisting : existing.workerId = attempt.request.workerId) (hown : state.OnlyOwn existing) :
      Knows state (aliveStage attempt.request attempt.session attempt.claims attempt.after existing)
  | rebinding (attempt : Attempt) (hvacant : state.Vacant attempt.request.workerId) :
      Knows state (rebindStage attempt.request attempt.session attempt.claims attempt.after)
  | counting (attempt : Attempt) (rebind : Bool) (hvacant : state.Vacant attempt.request.workerId) :
      Knows state (rateStage attempt.request attempt.session attempt.claims attempt.after rebind)
  | fitting (attempt : Attempt) (hvacant : state.Vacant attempt.request.workerId) :
      Knows state (capacityStage attempt.request attempt.session attempt.claims attempt.after)
  | consuming (attempt : Attempt) (hvacant : state.Vacant attempt.request.workerId)
      (hfits : state.Fits attempt.request.workerId) :
      Knows state (consumeStage attempt.request attempt.session attempt.claims attempt.after)
  | finding (token : String) : Knows state (relayUnbindEndpoint token)
  | closing (session : RelaySession) (hown : state.OnlyOwn session) :
      Knows state (closeStage session)
  | removing (session : RelaySession) (hown : state.OnlyOwn session) :
      Knows state (unbindStage session)

/-! ### The operations and the invariant -/

open RelayState

section Operations

variable {state : RelayState} {session : RelaySession} {op : RelayOp} {workerId : String}

/-- The removal of a session over TCP removes the entry or does nothing. -/
lemma unbindSession_cases (state : RelayState) (workerId : String) (session : RelaySession) :
    state.unbindSession workerId session = state ∨
      state.unbindSession workerId session = state.unbind workerId ∧
        ∃ other, state.sessions.lookup workerId = some (.tcp other session.identity) := by
  unfold unbindSession
  split
  · rename_i other identity hlookup
    by_cases hsame : identity = session.identity
    · rw [if_pos hsame]
      exact .inr ⟨rfl, other, hsame ▸ hlookup⟩
    · rw [if_neg hsame]
      exact .inl rfl
  · exact .inl rfl

/-- A session is inserted for its own worker only. -/
def RelayOp.Honest (op : RelayOp) : Prop :=
  ∀ workerId session, op = .bind workerId session → session.workerId = workerId

open RelayState

/-- A session that is kept after an operation was inserted by it, or was kept before. -/
lemma lookup_before (hlookup : (relayObject op state).1.sessions.lookup workerId = some session) :
    op = .bind workerId session ∨ state.sessions.lookup workerId = some session := by
  have hunbind : ∀ other, (state.unbind other).sessions.lookup workerId = some session →
      state.sessions.lookup workerId = some session := by
    intro other hkept
    by_cases hother : workerId = other
    · subst hother
      rw [unbind, AList.lookup_erase] at hkept
      nomatch hkept
    · rwa [unbind, AList.lookup_erase_ne hother] at hkept
  cases op with
  | bind other =>
    by_cases hother : workerId = other
    · subst hother
      rw [relayObject, RelayState.bind, AList.lookup_insert] at hlookup
      exact .inl (congrArg (RelayOp.bind workerId) (some.inj hlookup))
    · rw [relayObject, RelayState.bind, AList.lookup_insert_ne hother] at hlookup
      exact .inr hlookup
  | unbind removed => exact .inr (hunbind removed.workerId hlookup)
  | unbindSession other removed =>
    obtain hsame | ⟨hremoved, -⟩ := unbindSession_cases state other removed
    · simp only [relayObject, hsame] at hlookup
      exact .inr hlookup
    · simp only [relayObject, hremoved] at hlookup
      exact .inr (hunbind other hlookup)
  | allowBind source rebind =>
    obtain ⟨_, hbuckets⟩ := @allowBind_state state source rebind
    simp only [relayObject, hbuckets] at hlookup
    exact .inr hlookup
  | _ => exact .inr hlookup

lemma keyed_step (hkeyed : state.Keyed) (hhonest : op.Honest) : (relayObject op state).1.Keyed := by
  intro workerId session hlookup
  obtain hbind | hkept := lookup_before hlookup
  · exact hhonest workerId session hbind
  · exact hkeyed workerId session hkept

lemma size_bind_le (hcapacity : state.sessions.size ≤ maxRelaySessions) (session : RelaySession)
    (hfits : state.Fits workerId) :
    (state.bind workerId session).sessions.size ≤ maxRelaySessions := by
  change HashMap.size (state.sessions.insert workerId session) ≤ maxRelaySessions
  rw [HashMap.size_insert]
  obtain hmem | hspace := hfits
  · rwa [if_pos hmem]
  · split_ifs <;> omega

/-- The session with a token is the one that is kept for its worker. -/
lemma onlyOwn_of_getByToken (hsound : state.Sound) {token : String}
    (hfound : state.getByToken token = some session) : state.OnlyOwn session := by
  unfold getByToken at hfound
  split_ifs at hfound with htoken
  obtain ⟨workerId, hlookup⟩ := HashMap.mem_values_iff.mp (mem_of_find?_eq_some hfound)
  have hworker := hsound.keys workerId session hlookup
  intro other hother
  rw [hworker, hlookup] at hother
  exact (some.inj hother).symm

lemma sound_of_free (hsound : state.Sound) (hfree : op.Free) : (relayObject op state).1.Sound := by
  have hhonest : op.Honest := by
    rintro workerId session rfl
    exact hfree.elim
  refine ⟨?_, keyed_step hsound.keys hhonest⟩
  cases op with
  | unbindSession workerId session =>
    obtain hsame | ⟨hunbind, -⟩ := unbindSession_cases _ workerId session
    · rw [relayObject, hsame]
      exact hsound.capacity
    · rw [relayObject, hunbind]
      exact (HashMap.size_erase_le _ _).trans hsound.capacity
  | getByToken | pull | socketClosed | elapse | setClock => exact hsound.capacity
  | _ => exact hfree.elim

/-! ### What an operation leaves alone -/

/-- The worker for which an operation inserts or revives a session. -/
def RelayOp.revives (op : RelayOp) : Option String :=
  match op with
  | .bind workerId _ => some workerId
  | .pull session => some session.workerId
  | _ => none

/-- Without an insertion for a worker, its session after an operation was there before. -/
lemma lookup_of_quiet (hquiet : op.revives ≠ some workerId)
    (hlookup : (relayObject op state).1.sessions.lookup workerId = some session) :
    state.sessions.lookup workerId = some session := by
  obtain rfl | hkept := lookup_before hlookup
  · exact absurd rfl hquiet
  · exact hkept

/-- Whether an operation can change if a session is alive. -/
def RelayOp.touches (op : RelayOp) (session : RelaySession) : Bool :=
  match op with
  | .bind _ inserted => inserted == session
  | .pull pulled => pulled == session
  | .close closing => closing == session
  | .socketClosed closing => closing == session
  | .elapse _ => true
  | _ => false

/-- Whether a session is alive depends on the clock and on what is kept for it. -/
lemma isAlive_congr {before after : RelayState}
    (hclosed : after.closed session = before.closed session) (hnow : after.now = before.now)
    (hpull : after.lastPull session = before.lastPull session) :
    after.isAlive session = before.isAlive session := by
  unfold isAlive
  rw [hclosed, hnow, hpull]

lemma isAlive_of_untouched (huntouched : op.touches session = false) :
    (relayObject op state).1.isAlive session = state.isAlive session := by
  cases op with
  | bind workerId inserted =>
    have hother : session ≠ inserted := Ne.symm (by simpa [RelayOp.touches] using huntouched)
    exact isAlive_congr (Function.update_of_ne hother _ _) rfl (Function.update_of_ne hother _ _)
  | pull pulled =>
    have hother : session ≠ pulled := Ne.symm (by simpa [RelayOp.touches] using huntouched)
    exact isAlive_congr rfl rfl (Function.update_of_ne hother _ _)
  | close closing | socketClosed closing =>
    have hother : session ≠ closing := Ne.symm (by simpa [RelayOp.touches] using huntouched)
    exact isAlive_congr (Function.update_of_ne hother _ _) rfl rfl
  | elapse => nomatch huntouched
  | unbindSession workerId removed =>
    obtain hsame | ⟨hremoved, -⟩ := unbindSession_cases state workerId removed
    · simp only [relayObject, hsame]
    · simp only [relayObject, hremoved]
      exact isAlive_congr rfl rfl rfl
  | allowBind source rebind =>
    obtain ⟨_, hbuckets⟩ := @allowBind_state state source rebind
    simp only [relayObject, hbuckets]
    exact isAlive_congr rfl rfl rfl
  | _ => rfl

lemma not_isAlive_of_closed (hclosed : state.closed session) : state.isAlive session = false := by
  cases session <;> simp [isAlive, hclosed]

/-- A session that is not alive stays so, unless it is inserted or pulled. -/
lemma not_isAlive_step (hhonest : op.Honest) (hquiet : op.revives ≠ some session.workerId)
    (hdead : state.isAlive session = false) : (relayObject op state).1.isAlive session = false := by
  by_cases htouches : op.touches session
  · cases op with
    | bind workerId inserted =>
      obtain rfl := eq_of_beq htouches
      exact absurd (congrArg some (hhonest workerId inserted rfl).symm) hquiet
    | pull =>
      obtain rfl := eq_of_beq htouches
      exact absurd rfl hquiet
    | close | socketClosed =>
      obtain rfl := eq_of_beq htouches
      exact not_isAlive_of_closed (Function.update_self _ _ _)
    | elapse =>
      cases session with
      | tcp => exact hdead
      | httpPoll =>
        simp only [relayObject, isAlive, Bool.and_eq_false_iff, Bool.not_eq_false',
          decide_eq_false_iff_not] at hdead ⊢
        exact hdead.imp_right fun hwindow ↦ decide_eq_false (by omega)
    | _ => cases htouches
  · rw [isAlive_of_untouched (Bool.eq_false_iff.mpr htouches)]
    exact hdead

lemma onlyOwn_step (hquiet : op.revives ≠ some session.workerId) (hown : state.OnlyOwn session) :
    (relayObject op state).1.OnlyOwn session :=
  fun found hfound ↦ hown found (lookup_of_quiet hquiet hfound)

lemma vacant_step (hsound : state.Sound) (hhonest : op.Honest)
    (hquiet : op.revives ≠ some workerId) (hvacant : state.Vacant workerId) :
    (relayObject op state).1.Vacant workerId := by
  intro found hfound
  have hkept := lookup_of_quiet hquiet hfound
  have hworker := hsound.keys workerId found hkept
  exact not_isAlive_step hhonest (hworker.symm ▸ hquiet) (hvacant found hkept)

/-- A session still fits after a removal, and after an insertion that does not take the last place.
-/
lemma fits_step (hsound : state.Sound)
    (hspace : ∀ other session, op = .bind other session → other ∈ state.sessions ∨
      workerId ∈ state.sessions ∨ state.sessions.size + 1 < maxRelaySessions)
    (hfits : state.Fits workerId) : (relayObject op state).1.Fits workerId := by
  have hunbind : ∀ other, (state.unbind other).Fits workerId := by
    intro other
    have hcapacity := hsound.capacity
    by_cases hother : other ∈ state.sessions
    · have hpos : 0 < state.sessions.size :=
        length_pos_of_mem (AList.mem_keys.mp hother)
      refine .inr ?_
      change HashMap.size (state.sessions.erase other) < maxRelaySessions
      rw [HashMap.size_erase, if_pos hother]
      omega
    · obtain hmem | hsize := hfits
      · exact .inl (AList.mem_erase.mpr ⟨fun hsame ↦ hother (hsame ▸ hmem), hmem⟩)
      · exact .inr ((HashMap.size_erase_le _ _).trans_lt hsize)
  cases op with
  | bind other session =>
    by_cases hmem : workerId ∈ state.sessions
    · exact .inl (AList.mem_insert _ |>.mpr (.inr hmem))
    · have hsize : state.sessions.size < maxRelaySessions := hfits.resolve_left hmem
      refine .inr ?_
      change HashMap.size (state.sessions.insert other session) < maxRelaySessions
      rw [HashMap.size_insert]
      obtain hother | hfound | hroom := hspace other session rfl
      · rwa [if_pos hother]
      · exact absurd hfound hmem
      · split_ifs <;> omega
  | unbind session => exact hunbind session.workerId
  | unbindSession other session =>
    obtain hsame | ⟨hremoved, -⟩ := unbindSession_cases state other session
    · simpa only [relayObject, hsame] using hfits
    · simpa only [relayObject, hremoved] using hunbind other
  | allowBind source rebind =>
    obtain ⟨_, hbuckets⟩ := @allowBind_state state source rebind
    simp only [relayObject, hbuckets]
    exact hfits
  | _ => exact hfits

end Operations

/-! ### Steps of a thread -/

section Steps

variable {state : RelayState} {program : RelayProg} {op : RelayOp}

/-- A thread inserts the session of its own worker only. -/
lemma honest_of_knows (hknows : Knows state program) (hop : program.nextOp = some op) :
    op.Honest := by
  rintro _ _ rfl
  cases hknows with
  | carefree program hfree =>
    cases program with
    | done => nomatch hop
    | call =>
      obtain rfl := some.inj hop
      exact hfree.1.elim
  | consuming attempt =>
    obtain ⟨_, _, claims, _, hsession, _⟩ := attempt
    cases claims with
    | none =>
      obtain ⟨rfl, rfl⟩ := RelayOp.bind.inj (some.inj hop)
      exact hsession
    | some => nomatch some.inj hop
  | _ => nomatch some.inj hop

/-- What an attempt learns from its own step, and what its step does to the registry. -/
lemma knows_advance (hsound : state.Sound) (hknows : Knows state program) :
    (program.advance relayObject state).1.Sound ∧
      Knows (program.advance relayObject state).1 (program.advance relayObject state).2 := by
  cases hknows with
  | carefree program hprogram =>
    refine ⟨?_, .carefree _ (hprogram.advance relayObject state)⟩
    cases program with
    | done => exact hsound
    | call => exact sound_of_free hsound hprogram.1
  | verifying crates policy attempt =>
    refine ⟨hsound, ?_⟩
    unfold verifyStage
    dsimp only [Prog.advance, relayObject]
    split
    · exact .carefree _ trivial
    · rename_i claims hclaims
      exact .looking { attempt with claims := some claims }
  | looking attempt =>
    refine ⟨hsound, ?_⟩
    unfold lookupStage
    dsimp only [Prog.advance, relayObject]
    cases hlookup : state.sessions.lookup attempt.request.workerId with
    | none => exact .rebinding attempt (by simp [Vacant, hlookup])
    | some existing =>
      have hworker := hsound.keys _ existing hlookup
      refine .checking attempt existing hworker fun found hfound ↦ ?_
      rw [hworker, hlookup] at hfound
      exact (some.inj hfound).symm
  | checking attempt existing hexisting hown =>
    refine ⟨hsound, ?_⟩
    unfold aliveStage
    dsimp only [Prog.advance, relayObject]
    cases halive : state.isAlive existing with
    | true => exact .carefree _ trivial
    | false =>
      refine .rebinding attempt fun found hfound ↦ ?_
      rw [hown found (hexisting ▸ hfound), halive]
  | rebinding attempt hvacant => exact ⟨hsound, .counting attempt _ hvacant⟩
  | counting attempt rebind hvacant =>
    obtain ⟨_, hbuckets⟩ := @allowBind_state state attempt.request.source rebind
    unfold rateStage
    dsimp only [Prog.advance, relayObject]
    rw [hbuckets]
    refine ⟨⟨hsound.capacity, hsound.keys⟩, ?_⟩
    split_ifs
    · exact .fitting attempt hvacant
    · exact .carefree _ trivial
  | fitting attempt hvacant =>
    refine ⟨hsound, ?_⟩
    unfold capacityStage
    dsimp only [Prog.advance, relayObject]
    split_ifs with hfull
    · exact .carefree _ trivial
    · refine .consuming attempt hvacant ?_
      simp only [atCapacity, Bool.and_eq_true, decide_eq_true_eq, not_and, not_le] at hfull
      exact (em _).imp_right hfull
  | consuming attempt hvacant hfits =>
    obtain ⟨request, session, claims, after, hsession, hafter⟩ := attempt
    cases claims with
    | none =>
      have hhonest : (RelayOp.bind request.workerId session).Honest := honest_of_knows
        (.consuming ⟨request, session, none, after, hsession, hafter⟩ hvacant hfits) rfl
      exact ⟨⟨size_bind_le hsound.capacity session hfits, keyed_step hsound.keys hhonest⟩,
        .carefree _ hafter⟩
    | some =>
      refine ⟨⟨hsound.capacity, hsound.keys⟩, ?_⟩
      dsimp only [consumeStage, Prog.advance, relayObject]
      split_ifs
      · exact .consuming ⟨request, session, none, after, hsession, hafter⟩ hvacant hfits
      · exact .carefree _ trivial
  | finding token =>
    refine ⟨hsound, ?_⟩
    unfold relayUnbindEndpoint
    dsimp only [Prog.advance, relayObject]
    cases hfound : state.getByToken token with
    | none => exact .carefree _ trivial
    | some session => exact .closing session (onlyOwn_of_getByToken hsound hfound)
  | closing session hown => exact ⟨⟨hsound.capacity, hsound.keys⟩, .removing session hown⟩
  | removing session hown =>
    have hhonest : (RelayOp.unbind session).Honest := honest_of_knows (.removing session hown) rfl
    refine ⟨⟨?_, keyed_step hsound.keys hhonest⟩, .carefree _ trivial⟩
    exact (HashMap.size_erase_le _ _).trans hsound.capacity

/-- Assumes: an honest operation that does not disturb what a thread aims at. The thread still knows
what it knew. -/
lemma knows_of_undisturbed (hsound : state.Sound) (hhonest : op.Honest)
    (hquiet : ∀ other, aim program = some other → state.disturbs op other = false)
    (hknows : Knows state program) : Knows (relayObject op state).1 program := by
  have hrevives : ∀ other workerId, aim program = some other → other.concerns workerId →
      op.revives ≠ some workerId := by
    intro other workerId hother hconcerns hrevives
    have hdisturbs := hquiet other hother
    cases op with
    | bind | pull =>
      obtain rfl := some.inj hrevives
      simp [disturbs, hconcerns] at hdisturbs
    | _ => nomatch hrevives
  cases hknows with
  | carefree program hprogram => exact .carefree program hprogram
  | verifying crates policy attempt key => exact .verifying crates policy attempt key
  | looking attempt => exact .looking attempt
  | checking attempt existing hexisting hown =>
    have hown := onlyOwn_step (hrevives _ existing.workerId rfl (by simp [RelayOp.concerns])) hown
    exact .checking attempt existing hexisting hown
  | rebinding attempt hvacant =>
    have hnew := hrevives _ attempt.request.workerId rfl (by simp [RelayOp.concerns])
    exact .rebinding attempt (vacant_step hsound hhonest hnew hvacant)
  | counting attempt rebind hvacant =>
    have hnew := hrevives _ attempt.request.workerId rfl (by simp [RelayOp.concerns])
    exact .counting attempt rebind (vacant_step hsound hhonest hnew hvacant)
  | fitting attempt hvacant =>
    have hnew := hrevives _ attempt.request.workerId rfl (by simp [RelayOp.concerns])
    exact .fitting attempt (vacant_step hsound hhonest hnew hvacant)
  | consuming attempt hvacant hfits =>
    have haim : aim (consumeStage attempt.request attempt.session attempt.claims attempt.after) =
        some (.bind attempt.request.workerId attempt.session) := by
      obtain ⟨_, _, _ | _, _⟩ := attempt <;> rfl
    have hnew := hrevives _ attempt.request.workerId haim (by simp [RelayOp.concerns])
    refine .consuming attempt (vacant_step hsound hhonest hnew hvacant) (fits_step hsound ?_ hfits)
    rintro other inserted rfl
    have hcrowds := (Bool.or_eq_false_iff.mp (hquiet _ haim)).2
    simp only [crowds, Bool.and_eq_false_iff, decide_eq_false_iff_not, not_not, not_le] at hcrowds
    exact or_assoc.mp hcrowds
  | finding token => exact .finding token
  | closing session hown =>
    have hnew := hrevives _ session.workerId rfl (by simp [RelayOp.concerns])
    exact .closing session (onlyOwn_step hnew hown)
  | removing session hown =>
    have hnew := hrevives _ session.workerId rfl (by simp [RelayOp.concerns])
    exact .removing session (onlyOwn_step hnew hown)

/-- What a thread knows makes its next operation respect the sessions of others. -/
lemma respects_of_knows (hsound : state.Sound) (hknows : Knows state program)
    (hop : program.nextOp = some op) : state.respects op := by
  cases hknows with
  | carefree program hfree =>
    cases program with
    | done => nomatch hop
    | call op =>
      obtain rfl := some.inj hop
      cases op with
      | unbindSession workerId =>
        obtain ⟨identity, rfl⟩ := hfree.1
        refine (all_eq_true _ _).mpr fun found hfound ↦ ?_
        simp only [relayObject]
        obtain hsame | ⟨-, other, hlookup⟩ :=
          unbindSession_cases state workerId (.tcp workerId identity)
        · simp [hsame, hfound]
        · have hother : other = workerId := hsound.keys workerId _ hlookup
          rw [hlookup, hother] at hfound
          simp [← some.inj hfound, RelaySession.identity]
      | getByToken | pull | socketClosed | elapse | setClock => rfl
      | _ => exact hfree.1.elim
  | consuming attempt hvacant =>
    obtain ⟨_, session, claims, _, _, _⟩ := attempt
    cases claims with
    | none =>
      obtain rfl := some.inj hop
      refine (all_eq_true _ _).mpr fun existing hexisting ↦ ?_
      rw [hvacant existing hexisting]
      rfl
    | some =>
      obtain rfl := some.inj hop
      rfl
  | removing session hown =>
    obtain rfl := some.inj hop
    refine (all_eq_true _ _).mpr fun found hfound ↦ ?_
    simp [hown found hfound]
  | _ =>
    obtain rfl := some.inj hop
    rfl

end Steps

/-! ### Runs -/

lemma knows_handleRelayConnection (crates : RelayTicketCrates) (policy : TicketPolicy)
    (state : RelayState) (request : BindRequest) :
    Knows state (handleRelayConnection crates policy request) := by
  have hleaves : Carefree (.call (.unbindSession request.workerId request.tcpSession) fun _ ↦
      .done .bound) := ⟨⟨request.identity, rfl⟩, fun _ ↦ trivial⟩
  let attempt : Attempt := ⟨request, request.tcpSession, none, _, rfl, hleaves⟩
  unfold handleRelayConnection tcpBind
  split_ifs
  · exact .carefree _ trivial
  · cases policy.publicKeyHex with
    | some key => exact .verifying crates policy attempt key
    | none => exact .looking attempt
  · exact .carefree _ trivial
  · exact .looking attempt

lemma knows_relayBindEndpoint (crates : RelayTicketCrates) (policy : TicketPolicy)
    (state : RelayState) (request : BindRequest) :
    Knows state (relayBindEndpoint crates policy request) := by
  let attempt : Attempt := ⟨request, request.httpSession, none, .done .bound, rfl, trivial⟩
  unfold relayBindEndpoint httpBind
  split_ifs
  · exact .carefree _ trivial
  · exact .verifying crates policy attempt _
  · exact .carefree _ trivial
  · exact .looking attempt

lemma knows_prog (crates : RelayTicketCrates) (policy : TicketPolicy) (state : RelayState)
    (task : RelayTask) : Knows state (task.prog crates policy) := by
  cases task with
  | connection request => exact knows_handleRelayConnection crates policy state request
  | bind request => exact knows_relayBindEndpoint crates policy state request
  | unbind token => exact .finding token
  | pull =>
    refine .carefree _ ⟨trivial, fun found ↦ ?_⟩
    cases found with
    | none => exact trivial
    | some => exact ⟨trivial, fun _ ↦ ⟨trivial, fun _ ↦ trivial⟩⟩
  | result | socketClosed | elapse | setClock => exact .carefree _ ⟨trivial, fun _ ↦ trivial⟩

/-- An undisturbed step leaves the other threads with what they know. -/
lemma knows_others (thread other : ℕ) (acting waiting : RelayProg)
    (hpool : pool.Holds Sound Knows) (hundisturbed : undisturbed pool thread)
    (hother : other ≠ thread) (hacting : pool.threads[thread]? = some acting)
    (hwaiting : pool.threads[other]? = some waiting) :
    Knows (acting.advance relayObject pool.state).1 waiting := by
  have hknows := hpool.threads other waiting hwaiting
  cases acting with
  | done => exact hknows
  | call op =>
    have hnext : pool.nextOp thread = some op := by rw [Pool.nextOp, hacting]; rfl
    have hquiet := (all_eq_true _ _).mp hundisturbed op hnext
    have hhonest : op.Honest := honest_of_knows (hpool.threads thread _ hacting) rfl
    refine knows_of_undisturbed hpool.state hhonest (fun aimed haimed ↦ ?_) hknows
    simpa [haimed] using Pool.test_of_others hquiet hother hwaiting

/-- Assumes: the registry is empty at the beginning, and no step inserts or revives a session for a
worker that another task is concerned with, or takes the place that another counts on. Then no bind
displaces a live session, a session that ends or unbinds removes no other session, and the registry
stays within its capacity, under every schedule of every list of tasks. -/
theorem binding_atomic_of_undisturbed (crates : RelayTicketCrates) (policy : TicketPolicy)
    (start : RelayState) (hempty : start.sessions = ∅) (tasks : List RelayTask)
    (schedule : List ℕ)
    (hundisturbed : (relayPool crates policy start tasks).throughout relayObject undisturbed
      schedule) :
    (relayPool crates policy start tasks).throughout relayObject atomicStep schedule ∧
      ((relayPool crates policy start tasks).run relayObject schedule).state.sessions.size ≤
        maxRelaySessions := by
  have hstart : (relayPool crates policy start tasks).Holds Sound Knows := by
    refine ⟨⟨?_, fun workerId session hlookup ↦ ?_⟩, fun thread program hprogram ↦ ?_⟩
    · simp [relayPool, hempty]
    · simp [relayPool, hempty] at hlookup
    · obtain ⟨task, -, rfl⟩ := mem_map.mp (mem_of_getElem? hprogram)
      exact knows_prog crates policy start task
  have hatomic : ∀ (pool : RelayPool) (thread : ℕ), pool.Holds Sound Knows →
      undisturbed pool thread → atomicStep pool thread := by
    intro pool thread hpool _
    refine Bool.and_eq_true_iff.mpr ⟨decide_eq_true hpool.state.capacity, ?_⟩
    refine (all_eq_true _ _).mpr fun op hop ↦ ?_
    obtain ⟨program, hprogram, hnext⟩ := bind_eq_some_iff.mp hop
    exact respects_of_knows hpool.state (hpool.threads thread program hprogram) hnext
  obtain ⟨hsafe, hend⟩ := Pool.throughout_of_holds (fun pool thread hpool hallowed ↦
    hpool.step (fun state program ↦ knows_advance) knows_others hallowed) hatomic schedule _ hstart
    hundisturbed
  exact ⟨hsafe, hend.state.capacity⟩

/-! ### Two schedules -/

def firstRequest : BindRequest where
  workerId := "worker-1"
  bindTicket := ""
  source := "203.0.113.7"
  identity := 1
  sessionToken := "token-1"

def secondRequest : BindRequest := { firstRequest with identity := 2, sessionToken := "token-2" }

def openPolicy : TicketPolicy := ⟨false, none, "relay-1"⟩

/-- A worker that unbinds and then binds again is undisturbed. -/
theorem bind_unbind_bind_atomic :
    (relayPool sampleCrates openPolicy emptyRelay
      [.bind firstRequest, .unbind "token-1", .bind secondRequest]).throughout relayObject atomicStep
        (replicate 5 0 ++ replicate 3 1 ++ replicate 5 2) :=
  (binding_atomic_of_undisturbed sampleCrates openPolicy emptyRelay rfl _ _ (by decide +kernel)).1

/-- Two connections for one worker that both pass the checks before either inserts its session: the
second displaces the first, which is alive. And an unbind that has closed its session when the
worker binds again removes the new session. -/
theorem live_session_displaced :
    (relayPool sampleCrates openPolicy emptyRelay
      [.connection firstRequest, .connection secondRequest]).throughout relayObject atomicStep
        (replicate 4 0 ++ replicate 4 1 ++ [0, 1]) = false ∧
    (relayPool sampleCrates openPolicy emptyRelay
      [.bind firstRequest, .unbind "token-1", .bind secondRequest]).throughout relayObject atomicStep
        (replicate 5 0 ++ replicate 2 1 ++ replicate 6 2 ++ [1]) = false := by
  decide +kernel

end Iicp.Relay
