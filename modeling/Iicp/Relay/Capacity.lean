import Iicp.Relay.Atomicity

/-!
# Capacity and workers that are gone

The capacity of the registry counts its entries. An entry leaves when its connection ends or when
its worker unbinds; whether a session is alive is looked at only when its own worker binds again. So
the entry of a worker that stopped pulling, or whose socket was closed for writing only, stays and
counts.

`capacity_counts_living` says when the count is right, and `dead_workers_refuse` fills a relay with
workers that then stop pulling: a new worker is refused, and no session is alive.
-/

namespace Iicp.Relay

open Concurrent Pool List Rust

/-! ### Refusals and living sessions -/

def RelayState.aliveCount (state : RelayState) : ℕ :=
  (state.sessions.values.filter state.isAlive).length

/-- If the step of the thread asks for the capacity and is told that the relay is full, as many
sessions are alive. -/
def fullyAlive (pool : RelayPool) (thread : ℕ) : Bool :=
  match pool.nextOp thread with
  | some (.atCapacity workerId) =>
    !pool.state.atCapacity workerId || decide (maxRelaySessions ≤ pool.state.aliveCount)
  | _ => true

/-- An operation that is not the removal of an entry. -/
def RelayOp.keepsEntries (op : RelayOp) : Bool :=
  match op with
  | .unbind _ => false
  | _ => true

/-- No time passes that outlives a registered session, no registered session loses its socket, and
the capacity is not asked for while a closed session is about to be removed. -/
def orderly (pool : RelayPool) (thread : ℕ) : Bool :=
  match pool.nextOp thread with
  | some (.elapse milliseconds) =>
    pool.state.sessions.values.all fun session ↦ !pool.state.isAlive session ||
      (relayObject (.elapse milliseconds) pool.state).1.isAlive session
  | some (.socketClosed session) => decide (session ∉ pool.state.sessions.values)
  | some (.atCapacity _) => pool.others thread fun waiting ↦ waiting.nextOp.all RelayOp.keepsEntries
  | _ => true

/-! ### The shape of the programs -/

/-- A session is inserted for its own worker, and removed right after it is closed. -/
def Tidy (op : RelayOp) (next : relayInterface.Res op → RelayProg) : Prop :=
  op.Honest ∧ ∀ session, op = .close session → ∀ answer,
    (next answer).nextOp = some (RelayOp.unbind session)

/-- An operation that neither inserts nor closes a session. -/
def RelayOp.Plain (op : RelayOp) : Prop :=
  match op with
  | .bind _ _ => False
  | .close _ => False
  | _ => True

lemma tidy_of_plain {op : RelayOp} {next : relayInterface.Res op → RelayProg}
    (hplain : op.Plain) : Tidy op next := by
  constructor
  · rintro _ session rfl
    exact hplain.elim
  · rintro _ rfl
    exact hplain.elim

/-- An operation that leaves the sessions as they are. -/
def RelayOp.Asks (op : RelayOp) : Prop :=
  match op with
  | .get _ | .isAlive _ | .isBound _ | .allowBind _ _ | .atCapacity _ | .consume _ => True
  | _ => False

section Shape

variable {request : BindRequest} {session : RelaySession} {after : RelayProg}

/-- What an attempt does after its ticket is verified: it asks, and inserts its session. -/
lemma always_lookupStage {property : (op : RelayOp) → (relayInterface.Res op → RelayProg) → Prop}
    (hasks : ∀ op next, op.Asks → property op next)
    (hbind : property (.bind request.workerId session) fun _ ↦ after)
    (hafter : after.Always property) (claims : Option RelayBindTicketClaims) :
    (lookupStage request session claims after).Always property := by
  have hinsert : (insertStage request session after).Always property := ⟨hbind, fun _ ↦ hafter⟩
  have hconsume : (consumeStage request session claims after).Always property := by
    cases claims with
    | none => exact hinsert
    | some =>
      refine ⟨hasks _ _ trivial, fun (fresh : Bool) ↦ ?_⟩
      cases fresh with
      | true => exact hinsert
      | false => exact trivial
  have hcapacity : (capacityStage request session claims after).Always property := by
    refine ⟨hasks _ _ trivial, fun (full : Bool) ↦ ?_⟩
    cases full with
    | true => exact trivial
    | false => exact hconsume
  have hrate : ∀ rebind, (rateStage request session claims after rebind).Always property := by
    refine fun rebind ↦ ⟨hasks _ _ trivial, fun (allowed : Bool) ↦ ?_⟩
    cases allowed with
    | true => exact hcapacity
    | false => exact trivial
  have hrebind : (rebindStage request session claims after).Always property :=
    ⟨hasks _ _ trivial, hrate⟩
  refine ⟨hasks _ _ trivial, fun (existing : Option RelaySession) ↦ ?_⟩
  cases existing with
  | none => exact hrebind
  | some =>
    refine ⟨hasks _ _ trivial, fun (alive : Bool) ↦ ?_⟩
    cases alive with
    | true => exact trivial
    | false => exact hrebind

lemma tidy_lookupStage (hsession : session.workerId = request.workerId)
    (hafter : after.Always Tidy) (claims : Option RelayBindTicketClaims) :
    (lookupStage request session claims after).Always Tidy := by
  refine always_lookupStage (fun op next hop ↦ tidy_of_plain ?_) ⟨?_, by simp⟩ hafter claims
  · cases op <;> trivial
  · intro workerId inserted hop
    obtain ⟨rfl, rfl⟩ := RelayOp.bind.inj hop
    exact hsession

lemma tidy_verifyStage (crates : RelayTicketCrates) (policy : TicketPolicy)
    (hsession : session.workerId = request.workerId) (hafter : after.Always Tidy) (key : String) :
    (verifyStage crates policy request session key after).Always Tidy := by
  refine ⟨tidy_of_plain trivial, fun nowS ↦ ?_⟩
  dsimp only
  split
  · exact trivial
  · exact tidy_lookupStage hsession hafter _

end Shape

/-- Every task of a relay has the shape. -/
lemma tidy_prog (crates : RelayTicketCrates) (policy : TicketPolicy) (task : RelayTask) :
    (task.prog crates policy).Always Tidy := by
  cases task with
  | connection request =>
    have hleaves : (.call (.unbindSession request.workerId request.tcpSession) fun _ ↦
        .done .bound : RelayProg).Always Tidy := ⟨tidy_of_plain trivial, fun _ ↦ trivial⟩
    change (handleRelayConnection crates policy request).Always Tidy
    unfold handleRelayConnection tcpBind
    split_ifs
    · exact trivial
    · cases policy.publicKeyHex with
      | some key => exact tidy_verifyStage crates policy rfl hleaves key
      | none => exact tidy_lookupStage rfl hleaves none
    · exact trivial
    · exact tidy_lookupStage rfl hleaves none
  | bind request =>
    have hdone : (Prog.done Ended.bound : RelayProg).Always Tidy := trivial
    change (relayBindEndpoint crates policy request).Always Tidy
    unfold relayBindEndpoint httpBind
    split_ifs
    · exact trivial
    · exact tidy_verifyStage crates policy rfl hdone _
    · exact trivial
    · exact tidy_lookupStage rfl hdone none
  | unbind =>
    refine ⟨tidy_of_plain trivial, fun (found : Option RelaySession) ↦ ?_⟩
    cases found with
    | none => exact trivial
    | some =>
      refine ⟨⟨by simp [RelayOp.Honest], ?_⟩, fun _ ↦ ⟨tidy_of_plain trivial, fun _ ↦ trivial⟩⟩
      intro closed hclosed _
      rw [RelayOp.close.inj hclosed]
      rfl
  | pull =>
    refine ⟨tidy_of_plain trivial, fun (found : Option RelaySession) ↦ ?_⟩
    cases found with
    | none => exact trivial
    | some =>
      exact ⟨tidy_of_plain trivial, fun _ ↦ ⟨tidy_of_plain trivial, fun _ ↦ trivial⟩⟩
  | _ => exact ⟨tidy_of_plain trivial, fun _ ↦ trivial⟩

/-! ### Registered sessions are alive -/

/-- A thread is about to remove the entry of a worker. -/
def Leaving (pool : RelayPool) (workerId : String) : Prop :=
  ∃ thread session, pool.nextOp thread = some (.unbind session) ∧ session.workerId = workerId

/-- Every registered session is alive, or about to be removed. -/
structure Living (pool : RelayPool) : Prop where
  keys : pool.state.Keyed
  tidy : ∀ program ∈ pool.threads, program.Always Tidy
  alive : ∀ workerId session, pool.state.sessions.lookup workerId = some session →
    pool.state.isAlive session = true ∨ Leaving pool workerId

open RelayState

/-- A session stays alive, unless it is closed or time passes. -/
lemma isAlive_step {state : RelayState} {op : RelayOp} {session : RelaySession}
    (hclose : op ≠ .close session) (hsocket : op ≠ .socketClosed session)
    (htime : ∀ milliseconds, op ≠ .elapse milliseconds) (halive : state.isAlive session) :
    (relayObject op state).1.isAlive session := by
  have hwindow : 0 < livenessWindow := by decide
  by_cases htouches : op.touches session
  · cases op with
    | bind workerId inserted =>
      obtain rfl := eq_of_beq htouches
      cases inserted <;> simp [relayObject, RelayState.bind, isAlive, hwindow]
    | pull pulled =>
      obtain rfl := eq_of_beq htouches
      cases pulled with
      | tcp => exact halive
      | httpPoll =>
        have hopen := (Bool.and_eq_true_iff.mp halive).1
        simp [relayObject, isAlive, hwindow, by simpa using hopen]
    | close => exact absurd (congrArg _ (eq_of_beq htouches)) hclose
    | socketClosed => exact absurd (congrArg _ (eq_of_beq htouches)) hsocket
    | elapse milliseconds => exact absurd rfl (htime milliseconds)
    | _ => cases htouches
  · rw [isAlive_of_untouched (Bool.eq_false_iff.mpr htouches)]
    exact halive

section Step

variable {pool : RelayPool} {thread : ℕ} {op : RelayOp}
  {next : relayInterface.Res op → RelayProg}

/-- A removal that another thread is about to make is still to come. -/
lemma leaving_step {workerId : String} (hthread : pool.threads[thread]? = some (.call op next))
    (hop : ∀ session, op = .unbind session → session.workerId ≠ workerId)
    (hleaving : Leaving pool workerId) : Leaving (pool.step relayObject thread) workerId := by
  obtain ⟨other, session, hnext, hworker⟩ := hleaving
  have hother : other ≠ thread := by
    rintro rfl
    rw [nextOp, hthread] at hnext
    exact hop session (Option.some.inj hnext) hworker
  refine ⟨other, session, ?_, hworker⟩
  rw [nextOp, pool.step_other relayObject hother]
  exact hnext

/-- After an orderly step every registered session is alive, or about to be removed. -/
lemma living_step (hliving : Living pool) (horderly : orderly pool thread) :
    Living (pool.step relayObject thread) := by
  obtain hsame | ⟨op, _, hthread, -⟩ := pool.step_cases relayObject thread
  · rw [hsame]
    exact hliving
  have hnext : pool.nextOp thread = some op := by rw [nextOp, hthread]; rfl
  obtain ⟨hstate, hrest⟩ := pool.step_call relayObject hthread
  obtain ⟨⟨hhonest, hcloses⟩, -⟩ := hliving.tidy _ (mem_of_getElem? hthread)
  constructor
  · rw [hstate]
    exact keyed_step hliving.keys hhonest
  · exact pool.always_step relayObject hliving.tidy
  · intro workerId session hlookup
    rw [hstate] at hlookup ⊢
    obtain hinserted | hkept := lookup_before hlookup
    · subst hinserted
      refine .inl ?_
      have hwindow : 0 < livenessWindow := by decide
      cases session <;> simp [relayObject, RelayState.bind, isAlive, hwindow]
    have hworker := hliving.keys workerId session hkept
    obtain halive | hleaving := hliving.alive workerId session hkept
    · by_cases hclose : op = .close session
      · subst hclose
        refine .inr ⟨thread, session, ?_, hworker⟩
        rw [nextOp, hrest]
        exact hcloses session rfl _
      by_cases hsocket : op = .socketClosed session
      · subst hsocket
        simp only [orderly, hnext, decide_eq_true_eq] at horderly
        exact absurd (HashMap.mem_values_iff.mpr ⟨workerId, hkept⟩) horderly
      by_cases htime : ∃ milliseconds, op = .elapse milliseconds
      · obtain ⟨_, rfl⟩ := htime
        simp only [orderly, hnext, all_eq_true, Bool.or_eq_true] at horderly
        have hstill := horderly session (HashMap.mem_values_iff.mpr ⟨workerId, hkept⟩)
        exact .inl (hstill.resolve_left (by simp [halive]))
      · exact .inl (isAlive_step hclose hsocket (by simpa using htime) halive)
    · refine .inr (leaving_step hthread ?_ hleaving)
      rintro _ rfl rfl
      rw [relayObject, unbind, AList.lookup_erase] at hlookup
      cases hlookup

/-- When the capacity is asked for in an orderly step, the entries that count are alive. -/
lemma fullyAlive_of_living (hliving : Living pool) (horderly : orderly pool thread) :
    fullyAlive pool thread := by
  unfold fullyAlive
  split
  · rename_i workerId hnext
    simp only [orderly, hnext] at horderly
    have halive : ∀ session ∈ pool.state.sessions.values, pool.state.isAlive session := by
      intro session hsession
      obtain ⟨key, hlookup⟩ := HashMap.mem_values_iff.mp hsession
      refine (hliving.alive key session hlookup).resolve_right ?_
      rintro ⟨other, _, hremoves, -⟩
      obtain ⟨program, hprogram, hcall⟩ := Option.bind_eq_some_iff.mp hremoves
      have hother : other ≠ thread := by
        rintro rfl
        rw [hnext] at hremoves
        nomatch hremoves
      cases program with
      | done => nomatch hcall
      | call =>
        obtain rfl := Option.some.inj hcall
        nomatch test_of_others horderly hother hprogram
    have hcount : pool.state.aliveCount = pool.state.sessions.size := by
      rw [aliveCount, filter_eq_self.mpr halive, HashMap.length_values]
    simp only [atCapacity, hcount]
    by_cases hfull : maxRelaySessions ≤ pool.state.sessions.size <;> simp [hfull]
  · rfl

end Step

/-- Assumes: the registry is empty at the beginning, no time passes that outlives a registered
session, no registered session loses its socket, and the capacity is not asked for while a closed
session is about to be removed. Then an attempt is told that the relay is full only if as many
sessions are alive, under every schedule of every list of tasks. -/
theorem capacity_counts_living (crates : RelayTicketCrates) (policy : TicketPolicy)
    (start : RelayState) (hempty : start.sessions = ∅) (tasks : List RelayTask)
    (schedule : List ℕ)
    (horderly : (relayPool crates policy start tasks).throughout relayObject orderly schedule =
      true) :
    (relayPool crates policy start tasks).throughout relayObject fullyAlive schedule := by
  have hstart : Living (relayPool crates policy start tasks) := by
    constructor
    · intro workerId session hlookup
      simp [relayPool, hempty] at hlookup
    · intro program hprogram
      obtain ⟨task, -, rfl⟩ := mem_map.mp hprogram
      exact tidy_prog crates policy task
    · intro workerId session hlookup
      simp [relayPool, hempty] at hlookup
  refine (throughout_of_holds ?_ ?_ schedule _ hstart horderly).1
  · exact fun pool thread ↦ living_step
  · exact fun pool thread ↦ fullyAlive_of_living

/-! ### A relay that fills up -/

/-- A map with one entry for each of the first numbers. -/
def numbered {β : Type} (key : ℕ → String) (value : ℕ → β) : ℕ → HashMap String β
  | 0 => ∅
  | count + 1 => (numbered key value count).insert (key count) (value count)

section Numbered

variable {β : Type} {key : ℕ → String} {value : ℕ → β} {count : ℕ}

lemma not_mem_numbered (hkey : Function.Injective key) {number : ℕ} (hnumber : count ≤ number) :
    key number ∉ numbered key value count := by
  induction count with
  | zero => exact AList.notMem_empty _
  | succ count ih =>
    rw [numbered, AList.mem_insert, not_or]
    refine ⟨fun hsame ↦ ?_, ih (by omega)⟩
    have hnumbers := hkey hsame
    omega

lemma size_numbered (hkey : Function.Injective key) (count : ℕ) :
    (numbered key value count).size = count := by
  induction count with
  | zero => rfl
  | succ count ih =>
    rw [numbered, HashMap.size_insert, if_neg (not_mem_numbered hkey le_rfl), ih]

lemma exists_of_mem_numbered {found : β} (hfound : found ∈ (numbered key value count).values) :
    ∃ number, found = value number := by
  obtain ⟨name, hlookup⟩ := HashMap.mem_values_iff.mp hfound
  induction count with
  | zero => nomatch hlookup
  | succ count ih =>
    by_cases hname : name = key count
    · subst hname
      rw [numbered, AList.lookup_insert] at hlookup
      exact ⟨count, (Option.some.inj hlookup).symm⟩
    · rw [numbered, AList.lookup_insert_ne hname] at hlookup
      exact ih (HashMap.mem_values_iff.mpr ⟨name, hlookup⟩) hlookup

end Numbered

variable (number : ℕ)

def workerName : String := String.ofList (replicate (number + 1) 'w')

def workerSource : String := "worker:" ++ workerName number

def pollRequest : BindRequest where
  workerId := workerName number
  bindTicket := ""
  source := workerSource number
  identity := number
  sessionToken := workerName number

/-- The relay after a number of workers have bound, and after some time. -/
def filledRelay (count now : ℕ) : RelayState :=
  { emptyRelay with
    sessions := numbered workerName (fun number ↦ (pollRequest number).httpSession) count
    bindRateBuckets := numbered workerSource (fun _ ↦ (0, 1)) count
    now := now }

lemma workerName_injective : Function.Injective workerName := by
  intro first second hsame
  have hlength := congrArg (fun name ↦ name.toList.length) hsame
  simpa [workerName] using hlength

lemma workerSource_injective : Function.Injective workerSource := by
  intro first second hsame
  have hlength := congrArg (fun name ↦ name.toList.length) hsame
  simpa [workerSource, workerName] using hlength

variable {count now : ℕ}

/-- A session that is not pulled lives for the window. -/
lemma aliveCount_filledRelay (buckets : HashMap String (ℕ × ℕ)) :
    ({ filledRelay count now with bindRateBuckets := buckets } : RelayState).aliveCount =
      if now < livenessWindow then count else 0 := by
  have halive : ∀ session ∈ (filledRelay count now).sessions.values,
      ({ filledRelay count now with bindRateBuckets := buckets } : RelayState).isAlive session =
        decide (now < livenessWindow) := by
    intro session hsession
    obtain ⟨number, rfl⟩ := exists_of_mem_numbered hsession
    rfl
  rw [aliveCount, filter_congr halive]
  split_ifs with hnow
  · rw [decide_eq_true hnow, filter_true, HashMap.length_values]
    exact size_numbered workerName_injective count
  · simp [hnow]

/-- The first bind of a source in a window is allowed and counted. -/
lemma allowBind_fresh {state : RelayState} {source : String}
    (hsource : source ∉ state.bindRateBuckets) (hlimit : 0 < state.bindRateLimit)
    (hsize : state.bindRateBuckets.size < 4096) :
    state.allowBind source false =
      ({ state with bindRateBuckets := state.bindRateBuckets.insert source (state.now, 1) }, true) := by
  have hlookup : state.bindRateBuckets.lookup source = none := AList.lookup_eq_none.mpr hsource
  have hcounted : ¬ 4096 < HashMap.size (state.bindRateBuckets.insert source (state.now, 1)) := by
    rw [HashMap.size_insert, if_neg hsource]
    omega
  have hwindow : ¬ relayBindRateWindow ≤ 0 := by decide
  simp [allowBind, hlimit.ne', hlookup, hwindow, hcounted, Nat.succ_le_of_lt hlimit]

lemma relayBindEndpoint_poll (number : ℕ) :
    relayBindEndpoint sampleCrates openPolicy (pollRequest number) =
      lookupStage (pollRequest number) (pollRequest number).httpSession none (.done .bound) := by
  have hname : workerName number ≠ "" := by
    intro hempty
    have hlength := congrArg (fun name ↦ name.toList.length) hempty
    simp [workerName] at hlength
  simp [relayBindEndpoint, httpBind, pollRequest, openPolicy, hname]

section Attempt

variable {threads : List RelayProg} {thread : ℕ}

/-- The relay after the next worker has been counted, and before its question for the capacity. -/
def countedPool (count now thread : ℕ) (threads : List RelayProg) : RelayPool where
  state := { filledRelay count now with
    bindRateBuckets := (filledRelay count now).bindRateBuckets.insert (workerSource count) (now, 1) }
  threads := threads.set thread
    (capacityStage (pollRequest count) (pollRequest count).httpSession none (.done .bound))

lemma run_counted (now : ℕ) (hcount : count ≤ maxRelaySessions)
    (hthread : threads[thread]? =
      some (relayBindEndpoint sampleCrates openPolicy (pollRequest count))) :
    Pool.throughout relayObject fullyAlive ⟨filledRelay count now, threads⟩ (replicate 3 thread) ∧
      Pool.run relayObject ⟨filledRelay count now, threads⟩ (replicate 3 thread) =
        countedPool count now thread threads := by
  obtain ⟨hrange, hprogram⟩ := List.getElem?_eq_some_iff.mp hthread
  have hlookup : (filledRelay count now).sessions.lookup (workerName count) = none :=
    AList.lookup_eq_none.mpr (not_mem_numbered workerName_injective le_rfl)
  have hallowed := @allowBind_fresh (filledRelay count now) (workerSource count)
    (not_mem_numbered workerSource_injective le_rfl) (Nat.succ_pos 29) (by
      have hbound : maxRelaySessions < 4096 := by decide
      exact (size_numbered workerSource_injective count).trans_lt (hcount.trans_lt hbound))
  obtain ⟨program, hlookups⟩ : ∃ program, program =
    lookupStage (pollRequest count) (pollRequest count).httpSession none (.done .bound) := ⟨_, rfl⟩
  have hset : threads = threads.set thread program := by
    rw [hlookups, ← relayBindEndpoint_poll, ← hprogram, set_getElem_self]
  rw [hset, countedPool, set_set]
  simp [replicate, run, throughout, fullyAlive, nextOp, Prog.nextOp, hlookups, lookupStage,
    rebindStage, rateStage, Prog.advance, step_set _ hrange, hrange, relayObject, hlookup,
    hallowed, pollRequest]
  rfl

lemma run_bound (hcount : count < maxRelaySessions) (hthread : threads[thread]? =
      some (relayBindEndpoint sampleCrates openPolicy (pollRequest count))) :
    Pool.run relayObject ⟨filledRelay count 0, threads⟩ (replicate 5 thread) =
      ⟨filledRelay (count + 1) 0, threads.set thread (.done .bound)⟩ := by
  have hrange := (List.getElem?_eq_some_iff.mp hthread).1
  have hsize : ¬ maxRelaySessions ≤ (filledRelay count 0).sessions.size := by
    rw [filledRelay, size_numbered workerName_injective]
    omega
  have hclosed : ∀ session : RelaySession, Function.update (fun _ ↦ false) session false =
      fun _ ↦ false := fun _ ↦ Function.update_eq_self _ _
  have hpull : ∀ session : RelaySession, Function.update (fun _ ↦ 0) session 0 = fun _ ↦ 0 :=
    fun _ ↦ Function.update_eq_self _ _
  rw [show 5 = 3 + 2 from rfl, replicate_add, run_append, (run_counted 0 hcount.le hthread).2]
  simp [replicate, run, countedPool, capacityStage, consumeStage, insertStage, Prog.advance,
    step_set _ hrange, relayObject, atCapacity, hsize, RelayState.bind]
  simp only [filledRelay, emptyRelay, hclosed, hpull]
  rfl

lemma run_refused (now : ℕ) (hthread : threads[thread]? =
      some (relayBindEndpoint sampleCrates openPolicy (pollRequest maxRelaySessions))) :
    Pool.throughout relayObject fullyAlive ⟨filledRelay maxRelaySessions now, threads⟩
        (replicate 4 thread) = decide (now < livenessWindow) ∧
      (Pool.run relayObject ⟨filledRelay maxRelaySessions now, threads⟩
        (replicate 4 thread)).state.aliveCount =
          (if now < livenessWindow then maxRelaySessions else 0) ∧
      (Pool.run relayObject ⟨filledRelay maxRelaySessions now, threads⟩
        (replicate 4 thread)).result thread = some (.refused .atCapacity) := by
  have hrange := (List.getElem?_eq_some_iff.mp hthread).1
  have hsize : maxRelaySessions ≤ (filledRelay maxRelaySessions now).sessions.size :=
    (size_numbered workerName_injective _).ge
  have hroom : ¬ maxRelaySessions ≤ 0 := by decide
  have hnew : workerName maxRelaySessions ∉ (filledRelay maxRelaySessions now).sessions :=
    not_mem_numbered workerName_injective le_rfl
  obtain ⟨hasked, hcounted⟩ := run_counted now le_rfl hthread
  rw [show 4 = 3 + 1 from rfl, replicate_add, throughout_append, run_append, hasked, hcounted]
  simp [replicate, run, throughout, fullyAlive, nextOp, result, Prog.nextOp, Prog.result,
    countedPool, capacityStage, Prog.advance, step_set _ hrange, hrange, relayObject, atCapacity,
    hsize, hnew, pollRequest, aliveCount_filledRelay]
  split_ifs with hnow <;> simp [hnow, hroom]

end Attempt

/-- As many workers as the relay has places bind, and then there is more to do. -/
def fillingTasks (rest : List RelayTask) : List RelayTask :=
  (range maxRelaySessions).map (fun number ↦ .bind (pollRequest number)) ++ rest

/-- The workers bind one after the other. -/
def fillingSchedule (rest : List ℕ) : List ℕ :=
  (range maxRelaySessions).flatMap (replicate 5) ++ rest

lemma run_filled (rest : List RelayTask) :
    ∃ threads, (relayPool sampleCrates openPolicy emptyRelay (fillingTasks rest)).run relayObject
        ((range maxRelaySessions).flatMap (replicate 5)) =
          ⟨filledRelay maxRelaySessions 0, threads⟩ ∧
      ∀ number, threads[maxRelaySessions + number]? =
        rest[number]?.map (RelayTask.prog sampleCrates openPolicy) := by
  have hlength : ((range maxRelaySessions).map fun number ↦
      RelayTask.bind (pollRequest number)).length = maxRelaySessions := by simp
  have hfirst : ∀ count ≤ maxRelaySessions, ∃ threads,
      (relayPool sampleCrates openPolicy emptyRelay (fillingTasks rest)).run relayObject
        ((range count).flatMap (replicate 5)) = ⟨filledRelay count 0, threads⟩ ∧
      ∀ thread, count ≤ thread → threads[thread]? =
        (fillingTasks rest)[thread]?.map (RelayTask.prog sampleCrates openPolicy) := by
    intro count
    induction count with
    | zero => exact fun _ ↦ ⟨_, rfl, fun _ _ ↦ getElem?_map ..⟩
    | succ count ih =>
      intro hcount
      obtain ⟨threads, hrun, hthreads⟩ := ih (Nat.le_of_succ_le hcount)
      have hthread : threads[count]? =
          some (relayBindEndpoint sampleCrates openPolicy (pollRequest count)) := by
        rw [hthreads count le_rfl, fillingTasks, getElem?_append_left (hlength.symm ▸ hcount),
          getElem?_map, getElem?_range hcount]
        rfl
      rw [range_succ, flatMap_append, flatMap_singleton, run_append, hrun, run_bound hcount hthread]
      refine ⟨_, rfl, fun thread hlater ↦ ?_⟩
      rw [getElem?_set_ne (by omega), hthreads thread (by omega)]
  obtain ⟨threads, hrun, hthreads⟩ := hfirst maxRelaySessions le_rfl
  refine ⟨threads, hrun, fun number ↦ ?_⟩
  rw [hthreads _ (Nat.le_add_right ..), fillingTasks, getElem?_append_right (by omega), hlength,
    Nat.add_sub_cancel_left]

/-! ### Workers that live -/

/-- An operation by which no session ends or leaves. -/
def RelayOp.calm (op : RelayOp) : Bool :=
  match op with
  | .unbind _ | .socketClosed _ | .elapse _ => false
  | _ => true

lemma orderly_of_calm {pool : RelayPool} {thread : ℕ}
    (hcalm : ∀ program ∈ pool.threads, program.Always fun (op : RelayOp) _ ↦ op.calm) :
    orderly pool thread := by
  have hnext : ∀ other op, pool.nextOp other = some op → RelayOp.calm op := by
    intro other op hop
    obtain ⟨program, hprogram, hcall⟩ := Option.bind_eq_some_iff.mp hop
    cases program with
    | done => nomatch hcall
    | call => exact Option.some.inj hcall ▸ (hcalm _ (mem_of_getElem? hprogram)).1
  unfold orderly
  split
  · next hop => nomatch hnext thread _ hop
  · next hop => nomatch hnext thread _ hop
  · simp only [others, all_eq_true, Bool.or_eq_true, Option.all_eq_true]
    intro other _
    refine .inr fun program hprogram op hop ↦ ?_
    have hkeeps := hnext other op (Option.bind_eq_some_iff.mpr ⟨program, hprogram, hop⟩)
    cases op <;> trivial
  · rfl

/-- A worker that keeps pulling, and a connection of another worker, under an orderly schedule. And
a relay that is full of workers that live: the attempt of a new worker is refused. -/
theorem pulling_worker_counts :
    (relayPool sampleCrates openPolicy emptyRelay
      [.bind firstRequest, .elapse 60000, .pull "token-1", .elapse 60000,
        .connection { secondRequest with workerId := "worker-2" }]).throughout relayObject fullyAlive
        (replicate 5 0 ++ [1, 2, 2, 2, 3] ++ replicate 6 4) ∧
      (relayPool sampleCrates openPolicy emptyRelay
        (fillingTasks [.bind (pollRequest maxRelaySessions)])).throughout relayObject fullyAlive
          (fillingSchedule (replicate 4 maxRelaySessions)) ∧
      ((relayPool sampleCrates openPolicy emptyRelay
        (fillingTasks [.bind (pollRequest maxRelaySessions)])).run relayObject
          (fillingSchedule (replicate 4 maxRelaySessions))).state.aliveCount = maxRelaySessions ∧
      ((relayPool sampleCrates openPolicy emptyRelay
        (fillingTasks [.bind (pollRequest maxRelaySessions)])).run relayObject
          (fillingSchedule (replicate 4 maxRelaySessions))).result maxRelaySessions =
        some (.refused .atCapacity) := by
  refine ⟨capacity_counts_living sampleCrates openPolicy emptyRelay rfl _ _ (by decide +kernel),
    capacity_counts_living sampleCrates openPolicy emptyRelay rfl _ _ ?_, ?_⟩
  · refine throughout_of_always relayObject (fun _ _ ↦ orderly_of_calm) _ _ ?_
    intro program hprogram
    obtain ⟨task, htask, rfl⟩ := mem_map.mp hprogram
    obtain ⟨number, rfl⟩ : ∃ number, .bind (pollRequest number) = task := by
      simp only [fillingTasks, mem_append, mem_map, mem_singleton] at htask
      obtain ⟨number, -, hnumber⟩ | hlast := htask
      · exact ⟨number, hnumber⟩
      · exact ⟨_, hlast.symm⟩
    change (relayBindEndpoint sampleCrates openPolicy (pollRequest number)).Always _
    rw [relayBindEndpoint_poll]
    refine always_lookupStage (fun op _ hop ↦ ?_) rfl ?_ none
    · cases op <;> trivial
    · trivial
  · obtain ⟨threads, hrun, hthreads⟩ := run_filled [.bind (pollRequest maxRelaySessions)]
    rw [fillingSchedule, run_append, hrun]
    exact (run_refused 0 (hthreads 0)).2

/-! ### Workers that stop pulling -/

/-- As many workers as the relay has places bind, then time passes for the whole window without a
pull, and another worker binds. -/
def deadTasks : List RelayTask :=
  fillingTasks [.elapse livenessWindow, .bind (pollRequest maxRelaySessions)]

/-- One after the other; the last attempt up to its question for the capacity. -/
def deadSchedule : List ℕ :=
  fillingSchedule (maxRelaySessions :: replicate 4 (maxRelaySessions + 1))

/-- When as many workers as the relay has places have stopped pulling for the whole window, no
session is alive, and the attempt of a new worker is refused for capacity. -/
theorem dead_workers_refuse :
    (relayPool sampleCrates openPolicy emptyRelay deadTasks).throughout relayObject fullyAlive
        deadSchedule = false ∧
      ((relayPool sampleCrates openPolicy emptyRelay deadTasks).run relayObject
        deadSchedule).state.aliveCount = 0 ∧
      ((relayPool sampleCrates openPolicy emptyRelay deadTasks).run relayObject
        deadSchedule).result (maxRelaySessions + 1) = some (.refused .atCapacity) := by
  obtain ⟨threads, hrun, hthreads⟩ :=
    run_filled [.elapse livenessWindow, .bind (pollRequest maxRelaySessions)]
  have htime : threads[maxRelaySessions]? =
      some (.call (.elapse livenessWindow) fun _ ↦ .done .finished) := hthreads 0
  have haged : Pool.step relayObject ⟨filledRelay maxRelaySessions 0, threads⟩ maxRelaySessions =
      ⟨filledRelay maxRelaySessions livenessWindow, threads.set maxRelaySessions (.done .finished)⟩ := by
    rw [step_of_thread relayObject _ htime]
    simp [Prog.advance, relayObject, filledRelay]
  have hattempt : (threads.set maxRelaySessions (.done .finished))[maxRelaySessions + 1]? =
      some (relayBindEndpoint sampleCrates openPolicy (pollRequest maxRelaySessions)) := by
    rw [getElem?_set_ne (Nat.succ_ne_self _).symm, hthreads 1]
    rfl
  obtain ⟨hwrong, hrefused⟩ := run_refused livenessWindow hattempt
  rw [deadTasks, deadSchedule, fillingSchedule, throughout_append, run_append, hrun, run_cons,
    throughout, haged, hwrong]
  exact ⟨by simp, hrefused⟩

end Iicp.Relay
