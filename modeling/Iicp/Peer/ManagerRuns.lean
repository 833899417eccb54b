import Iicp.Concurrent.EventMachine
import Iicp.Peer.Manager

/-!
# Tasks that share a peer manager

Any number of tasks call the methods of one peer manager. A merge reads the clocks and the identity
of the node, takes the lock of the peer table, and keeps it while it goes through the entries; for
each entry of a restricted domain it loads the minimum generation and then checks the membership. An
update raises the minimum, loads it, and drops the peers below it when the lock is free. A read
prunes and then copies. The check of a received list loads the minimum, reads the clock for the
check, reads it again, and then records the identifier under a lock of its own. `step` is one such
step of one task; the clocks may be set between any two steps.

`Move` says what a step does to the peer table, the minimum and the lock (`move_step`). `AtLeast` is
what keeps revoked members out: the minimum is raised, and no merge that is under way has loaded a
smaller one. It holds from the end of an update on (`restricted_peers_current`).
-/

namespace Iicp.Peer

open Rust Concurrent

structure MergeCall where
  incoming : List Json
  scope : MergeScope
  epoch : ℕ
  own : String
  now : ℕ

inductive PeerRead where
  | getPeers
  | relayTarget (nodeId : String)
  | getRelayCandidates

inductive CallResult where
  | merged (added : ℕ)
  | updated (removed : ℕ)
  | pruned (removed : ℕ)
  | peers (found : List PeerInfo)
  | target (found : Option PeerInfo)
  | exchanged (result : Outcome String (List Json))

def PeerRead.result (peers : PeerTable) : PeerRead → CallResult
  | getPeers => .peers (HashMap.values peers)
  | relayTarget nodeId => .target (peers.lookup nodeId)
  | getRelayCandidates => .peers (relayCandidates peers)

inductive Request where
  | merge (incoming : List Json) (scope : MergeScope)
  | updateMinimumGeneration (generation : ℕ)
  | prune
  | read (what : PeerRead)
  | exchange (body : List UInt8) (signature : Option String)

inductive Task where
  | idle (last : Option CallResult)
  | mergeBegun (incoming : List Json) (scope : MergeScope) (epoch : ℕ)
  | mergeNamed (incoming : List Json) (scope : MergeScope) (epoch : ℕ) (own : String)
  | mergeReady (call : MergeCall)
  | merging (call : MergeCall) (rest : List Json) (added : ℕ)
  | admitting (call : MergeCall) (entry : Json) (rest : List Json) (added minimum : ℕ)
  | raised (generation : ℕ)
  | removing (generation minimum : ℕ)
  | pruneBegun (now : ℕ) (next : Option PeerRead)
  | pruneReady (now epoch : ℕ) (next : Option PeerRead)
  | reading (what : PeerRead)
  | exchangeLoaded (body : List UInt8) (minimum : ℕ)
  | exchangeVerified (exchange : RestrictedExchange)
  | recording (exchange : RestrictedExchange) (now : ℕ)

/-- The task is in the middle of a merge and has the lock. -/
def Task.merges : Task → Bool
  | merging _ _ _ => true
  | admitting _ _ _ _ _ => true
  | _ => false

/-- The state of a peer manager: the two clocks, the identity of the node, the minimum generation,
the peer table, the task that has its lock, the recorded identifiers, and the tasks. -/
structure ManagerRun where
  instant : ℕ
  epoch : ℕ
  ownId : String
  minimum : ℕ
  peers : PeerTable
  holder : Option ℕ
  replayIds : HashMap String ℕ
  task : ℕ → Task

inductive ManagerEvent where
  | clock (instant epoch : ℕ)
  | start (nodeId : String)
  | call (task : ℕ) (request : Request)
  | proceed (task : ℕ)

namespace ManagerRun

def init (manager : PeerManager) : ManagerRun where
  instant := 0
  epoch := 0
  ownId := ""
  minimum := manager.admission.minimumGeneration
  peers := ∅
  holder := none
  replayIds := ∅
  task := fun _ ↦ .idle none

variable (crates : PeerCrates) (manager : PeerManager) (run : ManagerRun)

def goTo (task : ℕ) (next : Task) : ManagerRun :=
  { run with task := Function.update run.task task next }

def finish (task : ℕ) (result : CallResult) : ManagerRun := run.goTo task (.idle (some result))

def begin (task : ℕ) : Request → ManagerRun
  | .merge incoming scope => run.goTo task (.mergeBegun incoming scope run.epoch)
  | .updateMinimumGeneration generation =>
    { run with minimum := max run.minimum generation }.goTo task (.raised generation)
  | .prune => run.goTo task (.pruneBegun run.instant none)
  | .read what => run.goTo task (.pruneBegun run.instant (some what))
  | .exchange body signature =>
    match manager.admission with
    | .restricted _ => run.goTo task (.exchangeLoaded body run.minimum)
    | .publicMode =>
      run.finish task (.exchanged (if verifyExchange crates manager body signature then
          Outcome.okOr "malformed_exchange" (extractKnownPeers crates body)
        else .err "invalid_signature"))

def stored (call : MergeCall) (entry : Json) (membership : Option MembershipEnvelope) (added : ℕ) :
    PeerTable × ℕ :=
  let nodeId := entryId entry
  (run.peers.insert nodeId (peerInfo entry nodeId membership call.now),
    if nodeId ∈ run.peers then added else added + 1)

/-- The next entry of a merge: it is skipped or stored, or its membership is to be checked under the
minimum that is loaded now. -/
def nextEntry (task : ℕ) (call : MergeCall) (entry : Json) (rest : List Json) (added : ℕ) :
    ManagerRun :=
  if entryId entry = "" ∨ entryId entry = call.own then run.goTo task (.merging call rest added)
  else
    match manager.admission with
    | .publicMode =>
      let (peers, count) := run.stored call entry none added
      { run with peers := peers }.goTo task (.merging call rest count)
    | .restricted _ =>
      if validRestrictedPeer crates entry then
        run.goTo task (.admitting call entry rest added run.minimum)
      else run.goTo task (.merging call rest added)

/-- The membership of an entry is checked under the minimum that was loaded. -/
def checkEntry (task : ℕ) (call : MergeCall) (entry : Json) (rest : List Json) (added minimum : ℕ) :
    ManagerRun :=
  match manager.admission with
  | .publicMode => run.goTo task (.merging call rest added)
  | .restricted restricted =>
    match entryMembership crates restricted minimum entry (entryId entry) call.scope.text
      call.epoch with
    | none => run.goTo task (.merging call rest added)
    | some envelope =>
      let (peers, count) := run.stored call entry (some envelope) added
      { run with peers := peers }.goTo task (.merging call rest count)

def verify (task : ℕ) (body : List UInt8) (minimum : ℕ) : ManagerRun :=
  match manager.admission with
  | .publicMode => run
  | .restricted restricted =>
    match verifyRestrictedBody crates restricted minimum body run.epoch with
    | .ok exchange => run.goTo task (.exchangeVerified exchange)
    | .err error => run.finish task (.exchanged (.err error))
    | .panicked => run.finish task (.exchanged .panicked)

def record (task : ℕ) (exchange : RestrictedExchange) (now : ℕ) : ManagerRun :=
  let (replayIds, result) := recordReplay exchange.gossip.proof.replayId
    exchange.membership.assertion.expiresAt now run.replayIds
  { run with replayIds := replayIds }.finish task
    (.exchanged (result >>= fun _ ↦ .ok exchange.peers))

/-- The next step of a task. A task that needs the lock of the peer table waits while another task
has it. -/
def proceed (task : ℕ) : ManagerRun :=
  match run.task task with
  | .idle _ => run
  | .mergeBegun incoming scope epoch => run.goTo task (.mergeNamed incoming scope epoch run.ownId)
  | .mergeNamed incoming scope epoch own =>
    run.goTo task (.mergeReady ⟨incoming, scope, epoch, own, run.instant⟩)
  | .mergeReady call =>
    if run.holder = none then
      { run with holder := some task }.goTo task (.merging call call.incoming 0)
    else run
  | .merging _ [] added => { run with holder := none }.finish task (.merged added)
  | .merging call (entry :: rest) added => run.nextEntry crates manager task call entry rest added
  | .admitting call entry rest added minimum =>
    run.checkEntry crates manager task call entry rest added minimum
  | .raised generation => run.goTo task (.removing generation run.minimum)
  | .removing _ minimum =>
    if run.holder = none then
      let (peers, removed) := retainGenerations minimum run.peers
      { run with peers := peers }.finish task (.updated removed)
    else run
  | .pruneBegun now next => run.goTo task (.pruneReady now run.epoch next)
  | .pruneReady now epoch next =>
    if run.holder = none then
      let (peers, removed) := prune now epoch run.peers
      match next with
      | none => { run with peers := peers }.finish task (.pruned removed)
      | some what => { run with peers := peers }.goTo task (.reading what)
    else run
  | .reading what =>
    if run.holder = none then run.finish task (what.result run.peers) else run
  | .exchangeLoaded body minimum => run.verify crates manager task body minimum
  | .exchangeVerified exchange => run.goTo task (.recording exchange run.epoch)
  | .recording exchange now => run.record task exchange now

/-- An event; a task that is in a call does not begin another. -/
def step : ManagerEvent → ManagerRun
  | .clock instant epoch => { run with instant := instant, epoch := epoch }
  | .start nodeId => { run with ownId := nodeId }
  | .call task request =>
    match run.task task with
    | .idle _ => run.begin crates manager task request
    | _ => run
  | .proceed task => run.proceed crates manager task

/-! ### What a step does in a restricted domain -/

end ManagerRun

/-- The task is not at a place that matters for the minimum, for the lock or for the recorded
identifiers. -/
def Task.apart : Task → Bool
  | merging _ _ _ => false
  | admitting _ _ _ _ _ => false
  | raised _ => false
  | removing _ _ => false
  | recording _ _ => false
  | _ => true

def PeerManager.inDomain (manager : PeerManager) (restricted : RestrictedPeerAdmission) :
    PeerManager := { manager with admission := .restricted restricted }

namespace ManagerRun

variable (crates : PeerCrates) (manager : PeerManager) (restricted : RestrictedPeerAdmission)
  (run : ManagerRun)

/-- What a step does to the clock, the minimum, the peer table, the lock and the recorded
identifiers. -/
inductive Move : ManagerEvent → ManagerRun → Prop
  | aside {event : ManagerEvent} {next : ManagerRun}
      (hepoch : next.epoch = run.epoch ∨ ∃ instant, event = .clock instant next.epoch)
      (hminimum : next.minimum = run.minimum) (hpeers : next.peers = run.peers)
      (hholder : next.holder = run.holder) (hreplay : next.replayIds = run.replayIds)
      (htasks : ∀ task, next.task task = run.task task ∨
        (run.task task).apart = true ∧ (next.task task).apart = true) : Move event next
  | acquire {task : ℕ} {call : MergeCall} (hphase : run.task task = .mergeReady call)
      (hfree : run.holder = none) :
      Move (.proceed task)
        ({ run with holder := some task }.goTo task (.merging call call.incoming 0))
  | skip {task : ℕ} (hphase : (run.task task).merges = true) (call : MergeCall) (rest : List Json)
      (added : ℕ) : Move (.proceed task) (run.goTo task (.merging call rest added))
  | load {task : ℕ} (hphase : (run.task task).merges = true) (call : MergeCall) (entry : Json)
      (rest : List Json) (added : ℕ) :
      Move (.proceed task) (run.goTo task (.admitting call entry rest added run.minimum))
  | store {task : ℕ} {call : MergeCall} {entry : Json} {rest : List Json} {added minimum : ℕ}
      {envelope : MembershipEnvelope}
      (hphase : run.task task = .admitting call entry rest added minimum)
      (hmember : entryMembership crates restricted minimum entry (entryId entry) call.scope.text
        call.epoch = some envelope) (count : ℕ) :
      Move (.proceed task)
        ({ run with peers := (run.stored call entry (some envelope) added).1 }.goTo task
          (.merging call rest count))
  | release {task : ℕ} (hphase : (run.task task).merges = true) (result : CallResult) :
      Move (.proceed task) ({ run with holder := none }.finish task result)
  | raise {task : ℕ} {last : Option CallResult} (hphase : run.task task = .idle last)
      (generation : ℕ) :
      Move (.call task (.updateMinimumGeneration generation))
        ({ run with minimum := max run.minimum generation }.goTo task (.raised generation))
  | loadRaised {task generation : ℕ} (hphase : run.task task = .raised generation) :
      Move (.proceed task) (run.goTo task (.removing generation run.minimum))
  | remove {task generation minimum : ℕ} (hphase : run.task task = .removing generation minimum)
      (hfree : run.holder = none) (result : CallResult) :
      Move (.proceed task)
        ({ run with peers := (retainGenerations minimum run.peers).1 }.finish task result)
  | prune {task now epoch : ℕ} (hphase : (run.task task).apart = true)
      (hfree : run.holder = none) {next : Task} (hapart : next.apart = true) :
      Move (.proceed task) ({ run with peers := (Peer.prune now epoch run.peers).1 }.goTo task next)
  | readClock {task : ℕ} {exchange : RestrictedExchange}
      (hphase : run.task task = .exchangeVerified exchange) :
      Move (.proceed task) (run.goTo task (.recording exchange run.epoch))
  | record {task now : ℕ} {exchange : RestrictedExchange}
      (hphase : run.task task = .recording exchange now) :
      Move (.proceed task) (run.record task exchange now)

@[simp] lemma task_goTo (task other : ℕ) (next : Task) :
    (run.goTo task next).task other = if other = task then next else run.task other :=
  Function.update_apply _ _ _ _

variable {crates manager restricted run} {task : ℕ} {event : ManagerEvent}

/-- A step between two places that do not matter. -/
lemma move_goTo {phase next : Task} (hphase : run.task task = phase)
    (hfrom : phase.apart) (hto : next.apart) :
    run.Move crates restricted event (run.goTo task next) := by
  refine .aside (.inl rfl) rfl rfl rfl rfl fun other ↦ ?_
  rw [task_goTo]
  by_cases hsame : other = task
  · rw [if_pos hsame, hsame, hphase]
    exact .inr ⟨hfrom, hto⟩
  · rw [if_neg hsame]
    exact .inl rfl

lemma move_stay (event : ManagerEvent) : run.Move crates restricted event run :=
  .aside (.inl rfl) rfl rfl rfl rfl fun _ ↦ .inl rfl

/-- A task that needs the lock stays where it is while another task has it. -/
lemma move_locked {next : ManagerRun}
    (hnext : run.holder = none → run.Move crates restricted event next) :
    run.Move crates restricted event (if run.holder = none then next else run) := by
  split_ifs with hfree
  · exact hnext hfree
  · exact move_stay event

variable {call : MergeCall} {rest : List Json}

lemma move_nextEntry {entry : Json} {added : ℕ}
    (hphase : run.task task = .merging call (entry :: rest) added) :
    run.Move crates restricted (.proceed task)
      (run.nextEntry crates (manager.inDomain restricted) task call entry rest added) := by
  have hmerges : (run.task task).merges := by
    rw [hphase]
    rfl
  rw [nextEntry]
  by_cases hskip : entryId entry = "" ∨ entryId entry = call.own
  · rw [if_pos hskip]
    exact .skip hmerges _ _ _
  · rw [if_neg hskip]
    simp only [PeerManager.inDomain]
    by_cases hvalid : validRestrictedPeer crates entry
    · rw [if_pos hvalid]
      exact .load hmerges _ _ _ _
    · rw [if_neg hvalid]
      exact .skip hmerges _ _ _

lemma move_checkEntry {entry : Json} {added minimum : ℕ}
    (hphase : run.task task = .admitting call entry rest added minimum) :
    run.Move crates restricted (.proceed task)
      (run.checkEntry crates (manager.inDomain restricted) task call entry rest added minimum) := by
  simp only [checkEntry, PeerManager.inDomain]
  cases hmember : entryMembership crates restricted minimum entry (entryId entry) call.scope.text
    call.epoch with
  | none => exact .skip (by rw [hphase]; rfl) _ _ _
  | some => exact .store hphase hmember _

variable (crates manager restricted run)

lemma move_proceed (task : ℕ) :
    run.Move crates restricted (.proceed task)
      (run.proceed crates (manager.inDomain restricted) task) := by
  rw [proceed]
  cases hphase : run.task task with
  | idle => exact move_stay _
  | mergeBegun | mergeNamed => exact move_goTo hphase rfl rfl
  | mergeReady => exact move_locked fun hfree ↦ .acquire hphase hfree
  | merging call rest =>
    cases rest with
    | nil => exact .release (by rw [hphase]; rfl) _
    | cons => exact move_nextEntry hphase
  | admitting => exact move_checkEntry hphase
  | raised => exact .loadRaised hphase
  | removing => exact move_locked fun hfree ↦ .remove hphase hfree _
  | pruneBegun => exact move_goTo hphase rfl rfl
  | pruneReady now epoch next =>
    have hapart : (run.task task).apart := by rw [hphase]; rfl
    refine move_locked fun hfree ↦ ?_
    cases next with
    | none | some => exact .prune hapart hfree rfl
  | reading => exact move_locked fun _ ↦ move_goTo hphase rfl rfl
  | exchangeLoaded body minimum =>
    simp only [verify, PeerManager.inDomain]
    cases verifyRestrictedBody crates restricted minimum body run.epoch with
    | ok | err | panicked => exact move_goTo hphase rfl rfl
  | exchangeVerified => exact .readClock hphase
  | recording => exact .record hphase

lemma move_step (event : ManagerEvent) :
    run.Move crates restricted event (run.step crates (manager.inDomain restricted) event) := by
  cases event with
  | clock instant => exact .aside (.inr ⟨instant, rfl⟩) rfl rfl rfl rfl fun _ ↦ .inl rfl
  | start => exact .aside (.inl rfl) rfl rfl rfl rfl fun _ ↦ .inl rfl
  | call task request =>
    rw [step]
    cases hphase : run.task task with
    | idle =>
      cases request with
      | merge | prune | read | exchange => exact move_goTo hphase rfl rfl
      | updateMinimumGeneration generation => exact .raise hphase generation
    | _ => exact move_stay _
  | proceed task => exact move_proceed crates manager restricted run task

end ManagerRun

/-! ### The minimum and the lock -/

/-- What was loaded is not above the minimum, and not below what the call itself asked for. -/
def Task.Loaded (minimum : ℕ) : Task → Prop
  | admitting _ _ _ _ loaded => loaded ≤ minimum
  | raised generation => generation ≤ minimum
  | removing generation loaded => generation ≤ loaded ∧ loaded ≤ minimum
  | _ => True

/-- A merge has not loaded less than a bound. -/
def Task.LoadedFrom (bound : ℕ) : Task → Prop
  | admitting _ _ _ _ loaded => bound ≤ loaded
  | _ => True

variable {task : Task} {bound : ℕ}

lemma Task.Loaded.mono {minimum larger : ℕ} (hle : minimum ≤ larger) (h : task.Loaded minimum) :
    task.Loaded larger := by
  cases task with
  | admitting | raised => exact h.trans hle
  | removing => exact ⟨h.1, h.2.trans hle⟩
  | _ => trivial

lemma Task.loaded_of_apart {minimum : ℕ} (h : task.apart) : task.Loaded minimum := by
  cases task with
  | admitting | raised | removing => nomatch h
  | _ => trivial

lemma Task.loadedFrom_of_not_merges (h : task.merges = false) : task.LoadedFrom bound := by
  cases task with
  | admitting => nomatch h
  | _ => trivial

lemma Task.not_merges_of_apart (h : task.apart) : task.merges = false := by
  cases task with
  | merging | admitting => nomatch h
  | _ => rfl

namespace ManagerRun

variable {crates : PeerCrates} {manager : PeerManager} {restricted : RestrictedPeerAdmission}
  {run next : ManagerRun} {event : ManagerEvent} {task minimum : ℕ}

/-- What holds of every task still holds after one of them goes on. -/
lemma forall_goTo {property : Task → Prop} {phase : Task}
    (htasks : ∀ other, property (run.task other)) (hphase : property phase) :
    ∀ other, property ((run.goTo task phase).task other) := by
  intro other
  rw [task_goTo]
  by_cases hsame : other = task
  · rw [if_pos hsame]
    exact hphase
  · rw [if_neg hsame]
    exact htasks other

lemma minimum_move (hmove : run.Move crates restricted event next) :
    run.minimum ≤ next.minimum := by
  cases hmove with
  | aside hepoch hminimum => exact hminimum.ge
  | raise => exact le_max_left _ _
  | acquire | skip | load | store | release | loadRaised | remove | prune | readClock | record =>
    exact le_rfl

/-- A merge has the lock, and what was loaded is in bounds. -/
structure Sound (run : ManagerRun) : Prop where
  holder : ∀ task, (run.task task).merges = true → run.holder = some task
  loaded : ∀ task, (run.task task).Loaded run.minimum

lemma sound_init : (init manager).Sound where
  holder := fun _ h ↦ nomatch h
  loaded := fun _ ↦ trivial

section

variable (hsound : run.Sound)

include hsound

/-- A task that goes on, without a change of the lock, to a place where it may be. -/
lemma Sound.goTo {phase : Task} (hholder : phase.merges → run.holder = some task)
    (hloaded : phase.Loaded run.minimum) : (run.goTo task phase).Sound := by
  refine ⟨fun other hmerges ↦ ?_, forall_goTo hsound.loaded hloaded⟩
  rw [task_goTo] at hmerges
  by_cases hsame : other = task
  · rw [if_pos hsame] at hmerges
    exact hsame ▸ hholder hmerges
  · rw [if_neg hsame] at hmerges
    exact hsound.holder other hmerges

lemma Sound.withPeers (peers : PeerTable) :
    Sound { run with peers := peers } := ⟨hsound.holder, hsound.loaded⟩

lemma Sound.withReplayIds (replayIds : HashMap String ℕ) :
    Sound { run with replayIds := replayIds } := ⟨hsound.holder, hsound.loaded⟩

lemma Sound.not_merges (hfree : run.holder = none) (task : ℕ) : (run.task task).merges = false := by
  rw [Bool.eq_false_iff]
  intro hmerges
  exact nomatch hfree.symm.trans (hsound.holder task hmerges)

lemma Sound.others {other : ℕ} (hmerges : (run.task task).merges) (hother : other ≠ task) :
    (run.task other).merges = false := by
  rw [Bool.eq_false_iff]
  intro hboth
  apply hother
  exact Option.some.inj ((hsound.holder other hboth).symm.trans (hsound.holder task hmerges))

end

/-- Every step keeps the lock and the bounds. -/
lemma Sound.move (hmove : run.Move crates restricted event next) (hsound : run.Sound) :
    next.Sound := by
  cases hmove with
  | aside hepoch hminimum hpeers hholder hreplay htasks =>
    refine ⟨fun task hmerges ↦ ?_, fun task ↦ ?_⟩
    · obtain hsame | ⟨-, hapart⟩ := htasks task
      · rw [hsame] at hmerges
        exact hholder.trans (hsound.holder task hmerges)
      · exact nomatch hmerges.symm.trans (Task.not_merges_of_apart hapart)
    · obtain hsame | ⟨-, hapart⟩ := htasks task
      · rw [hsame, hminimum]
        exact hsound.loaded task
      · exact Task.loaded_of_apart hapart
  | @acquire task call hphase hfree =>
    have hstill : Sound { run with holder := some task } := by
      refine ⟨fun other hmerges ↦ ?_, hsound.loaded⟩
      exact nomatch hmerges.symm.trans (hsound.not_merges hfree other)
    exact hstill.goTo (fun _ ↦ rfl) trivial
  | skip hphase => exact hsound.goTo (fun _ ↦ hsound.holder _ hphase) trivial
  | load hphase => exact hsound.goTo (fun _ ↦ hsound.holder _ hphase) le_rfl
  | store hphase =>
    exact (hsound.withPeers _).goTo (fun _ ↦ hsound.holder _ (by rw [hphase]; rfl)) trivial
  | @release task hphase result =>
    refine ⟨fun other hmerges ↦ ?_, forall_goTo hsound.loaded trivial⟩
    rw [finish, task_goTo] at hmerges
    by_cases hsame : other = task
    · rw [if_pos hsame] at hmerges
      nomatch hmerges
    · rw [if_neg hsame] at hmerges
      exact nomatch hmerges.symm.trans (hsound.others hphase hsame)
  | raise hphase generation =>
    have hstill : Sound { run with minimum := max run.minimum generation } :=
      ⟨hsound.holder, fun task ↦ (hsound.loaded task).mono (le_max_left _ _)⟩
    exact hstill.goTo (fun h ↦ nomatch h) (le_max_right _ _)
  | @loadRaised task generation hphase =>
    have hraised := hsound.loaded task
    rw [hphase] at hraised
    exact hsound.goTo (fun h ↦ nomatch h) ⟨hraised, le_rfl⟩
  | remove =>
    exact (hsound.withPeers _).goTo (fun h ↦ nomatch h) trivial
  | prune hphase hfree hapart =>
    refine (hsound.withPeers _).goTo (fun h ↦ ?_) (Task.loaded_of_apart hapart)
    exact nomatch h.symm.trans (Task.not_merges_of_apart hapart)
  | readClock => exact hsound.goTo (fun h ↦ nomatch h) trivial
  | record =>
    exact (hsound.withReplayIds _).goTo (fun h ↦ nomatch h) trivial

/-! ### Revoked generations -/

/-- The minimum is not below a bound, and neither is what a merge under way has loaded. -/
structure AtLeast (bound : ℕ) (run : ManagerRun) : Prop where
  minimum : bound ≤ run.minimum
  loaded : ∀ task, (run.task task).LoadedFrom bound

/-- No peer of the table is of a generation below a bound. -/
def NoneBelow (bound : ℕ) (run : ManagerRun) : Prop :=
  ∀ nodeId peer generation, run.peers.lookup nodeId = some peer →
    peer.membershipGeneration = some generation → bound ≤ generation

section

variable (hmove : run.Move crates restricted event next)

include hmove

lemma AtLeast.move (hbound : run.AtLeast bound) : next.AtLeast bound := by
  refine ⟨hbound.minimum.trans (minimum_move hmove), ?_⟩
  cases hmove with
  | aside hepoch hminimum hpeers hholder hreplay htasks =>
    intro task
    obtain hsame | ⟨-, hapart⟩ := htasks task
    · rw [hsame]
      exact hbound.loaded task
    · exact Task.loadedFrom_of_not_merges (Task.not_merges_of_apart hapart)
  | load => exact forall_goTo hbound.loaded hbound.minimum
  | acquire | skip | store | release | raise | loadRaised | remove | readClock | record =>
    exact forall_goTo hbound.loaded trivial
  | prune hphase hfree hapart =>
    exact forall_goTo hbound.loaded
      (Task.loadedFrom_of_not_merges (Task.not_merges_of_apart hapart))

/-- A peer that is in the table was there before, or has just been checked and stored. -/
lemma lookup_move {nodeId : String} {peer : PeerInfo}
    (hpeer : next.peers.lookup nodeId = some peer) :
    run.peers.lookup nodeId = some peer ∨
      ∃ task call entry rest added minimum envelope, event = .proceed task ∧
        run.task task = .admitting call entry rest added minimum ∧
        entryMembership crates restricted minimum entry nodeId call.scope.text call.epoch =
          some envelope ∧
        peer = peerInfo entry nodeId (some envelope) call.now := by
  cases hmove with
  | aside hepoch hminimum hpeers => exact .inl (hpeers ▸ hpeer)
  | acquire | skip | load | release | raise | loadRaised | readClock | record => exact .inl hpeer
  | @store task call entry rest added minimum envelope hphase hmember count =>
    by_cases hsame : nodeId = entryId entry
    · rw [hsame] at hpeer ⊢
      have hinfo : some (peerInfo entry (entryId entry) (some envelope) call.now) = some peer :=
        (AList.lookup_insert run.peers).symm.trans hpeer
      exact .inr ⟨task, call, entry, rest, added, minimum, envelope, rfl, hphase, hmember,
        (Option.some.inj hinfo).symm⟩
    · exact .inl ((AList.lookup_insert_ne hsame).symm.trans hpeer)
  | remove | prune => exact .inl (lookup_retainPeers.mp hpeer).1

/-- Assumes: the minimum, and what merges have loaded, is not below the bound. No step stores a peer
of a generation below it. -/
lemma NoneBelow.move (hbound : run.AtLeast bound) (hnone : run.NoneBelow bound) :
    next.NoneBelow bound := by
  intro nodeId peer generation hpeer hgeneration
  obtain hbefore | ⟨task, _, _, _, _, _, envelope, -, hphase, hmember, rfl⟩ :=
    lookup_move hmove hpeer
  · exact hnone nodeId peer generation hbefore hgeneration
  · have hloaded := hbound.loaded task
    rw [hphase] at hloaded
    obtain ⟨-, -, -, -, -, hminimum, -⟩ :=
      verifyMembership_eq_ok (verifyMembership_of_entryMembership hmember)
    obtain rfl : envelope.assertion.generation = generation := Option.some.inj hgeneration
    exact hloaded.trans ((le_max_right _ _).trans hminimum)

end

/-- While a merge checks an entry, no other merge is under way. -/
lemma Sound.atLeast_admitting (hsound : run.Sound) {call : MergeCall} {entry : Json}
    {rest : List Json} {added : ℕ}
    (hphase : run.task task = .admitting call entry rest added minimum) : run.AtLeast minimum := by
  have hloaded := hsound.loaded task
  rw [hphase] at hloaded
  refine ⟨hloaded, fun other ↦ ?_⟩
  by_cases hsame : other = task
  · rw [hsame, hphase]
    exact le_refl minimum
  · exact Task.loadedFrom_of_not_merges (hsound.others (by rw [hphase]; rfl) hsame)

variable {generation : ℕ}

/-- When an update drops peers, no merge is under way. -/
lemma Sound.atLeast_removing (hsound : run.Sound)
    (hphase : run.task task = .removing generation minimum) (hfree : run.holder = none) :
    run.AtLeast generation := by
  have hloaded := hsound.loaded task
  rw [hphase] at hloaded
  exact ⟨hloaded.1.trans hloaded.2, fun other ↦
    Task.loadedFrom_of_not_merges (hsound.not_merges hfree other)⟩

/-- An update that returns found the lock free and dropped the peers below the minimum. -/
lemma removing_done {last : Option CallResult}
    (hphase : run.task task = .removing generation minimum)
    (hdone : (run.step crates manager (.proceed task)).task task = .idle last) :
    run.holder = none ∧
      (run.step crates manager (.proceed task)).peers = (retainGenerations minimum run.peers).1 := by
  rw [step, proceed, hphase] at hdone ⊢
  dsimp only at hdone ⊢
  by_cases hfree : run.holder = none
  · rw [if_pos hfree]
    exact ⟨hfree, rfl⟩
  · rw [if_neg hfree, hphase] at hdone
    nomatch hdone

/-- What is left in the table is of no smaller generation. -/
lemma noneBelow_retainGenerations (hbound : bound ≤ minimum) {peers : PeerTable}
    (hpeers : run.peers = (retainGenerations minimum peers).1) : run.NoneBelow bound := by
  intro nodeId peer generation hpeer hgeneration
  rw [hpeers] at hpeer
  have hkept := (lookup_retainPeers.mp hpeer).2
  rw [hgeneration, Option.all_some, decide_eq_true_iff] at hkept
  exact hbound.trans hkept

lemma reading_done {what : PeerRead} {result : CallResult} (hphase : run.task task = .reading what)
    (hdone : (run.step crates manager (.proceed task)).task task = .idle (some result)) :
    result = what.result run.peers := by
  rw [step, proceed, hphase] at hdone
  dsimp only at hdone
  by_cases hfree : run.holder = none
  · rw [if_pos hfree, finish, task_goTo, if_pos rfl] at hdone
    exact (Option.some.inj (Task.idle.inj hdone)).symm
  · rw [if_neg hfree, hphase] at hdone
    nomatch hdone

end ManagerRun

def CallResult.found : CallResult → List PeerInfo
  | peers found => found
  | target found => found.toList
  | _ => []

/-- What a read returns is in the table. -/
lemma PeerRead.lookup_of_found {peers : PeerTable} {what : PeerRead} {peer : PeerInfo}
    (hpeer : peer ∈ (what.result peers).found) : ∃ nodeId, peers.lookup nodeId = some peer := by
  cases what with
  | getPeers => exact HashMap.mem_values_iff.mp hpeer
  | relayTarget nodeId => exact ⟨nodeId, Option.mem_toList.mp hpeer⟩
  | getRelayCandidates => exact HashMap.mem_values_iff.mp (List.mem_of_mem_filter hpeer)

/-! ### Runs -/

section Runs

variable (crates : PeerCrates) (manager : PeerManager) (events : List ManagerEvent)

/-- The moment before the event at a position, from a new peer manager on. -/
def managerAt (position : ℕ) : ManagerRun :=
  stateAt (fun run event ↦ ManagerRun.step crates manager run event) (ManagerRun.init manager)
    events position

variable (restricted : RestrictedPeerAdmission) {events} {position : ℕ}

lemma managerAt_succ {event : ManagerEvent} (hevent : events[position]? = some event) :
    managerAt crates manager events (position + 1) =
      (managerAt crates manager events position).step crates manager event :=
  stateAt_succ _ hevent

variable (events)

open ManagerRun

lemma sound_managerAt (position : ℕ) :
    (managerAt crates (manager.inDomain restricted) events position).Sound :=
  always_of_good sound_init
    (fun _ event _ hsound ↦ hsound.move (move_step crates manager restricted _ event))
    position

lemma atLeast_from {later : ℕ}
    (hbound : (managerAt crates (manager.inDomain restricted) events position).AtLeast bound)
    (hlater : position ≤ later) :
    (managerAt crates (manager.inDomain restricted) events later).AtLeast bound :=
  always_from hbound
    (fun _ event _ _ hkept ↦ hkept.move (move_step crates manager restricted _ event))
    hlater

/-- A peer of the table was stored by a merge that had checked its membership. -/
lemma stored_origin {nodeId : String} {peer : PeerInfo}
    (hpeer : (managerAt crates (manager.inDomain restricted) events position).peers.lookup nodeId =
      some peer) :
    ∃ earlier < position, ∃ task call entry rest added minimum envelope,
      events[earlier]? = some (.proceed task) ∧
      (managerAt crates (manager.inDomain restricted) events earlier).task task =
        .admitting call entry rest added minimum ∧
      entryMembership crates restricted minimum entry nodeId call.scope.text call.epoch =
        some envelope ∧
      peer = peerInfo entry nodeId (some envelope) call.now := by
  induction position with
  | zero => nomatch hpeer
  | succ position ih =>
    cases hevent : events[position]? with
    | none =>
      rw [managerAt, stateAt_succ_of_none _ hevent] at hpeer
      obtain ⟨earlier, hearlier, horigin⟩ := ih hpeer
      exact ⟨earlier, by omega, horigin⟩
    | some event =>
      rw [managerAt_succ _ _ hevent] at hpeer
      obtain hbefore | ⟨task, call, entry, rest, added, minimum, envelope, rfl, horigin⟩ :=
        lookup_move (move_step crates manager restricted _ event) hpeer
      · obtain ⟨earlier, hearlier, horigin⟩ := ih hbefore
        exact ⟨earlier, by omega, horigin⟩
      · exact ⟨position, by omega, task, call, entry, rest, added, minimum, envelope, hevent,
          horigin⟩

/-- After an update to a generation has returned, no older member is in the table. -/
lemma noneBelow_after_update {later task generation minimum : ℕ} {last : Option CallResult}
    (hevent : events[position]? = some (.proceed task))
    (hphase : (managerAt crates (manager.inDomain restricted) events position).task task =
      .removing generation minimum)
    (hdone : (managerAt crates (manager.inDomain restricted) events (position + 1)).task task =
      .idle last) (hlater : position < later) :
    (managerAt crates (manager.inDomain restricted) events later).NoneBelow generation := by
  have hsound := sound_managerAt crates manager events restricted position
  rw [managerAt_succ _ _ hevent] at hdone
  obtain ⟨hfree, hpeers⟩ := removing_done hphase hdone
  have hbound := hsound.atLeast_removing hphase hfree
  have hloaded := hsound.loaded task
  rw [hphase] at hloaded
  have hafter : (managerAt crates (manager.inDomain restricted) events
      (position + 1)).NoneBelow generation := by
    rw [managerAt_succ _ _ hevent]
    exact noneBelow_retainGenerations hloaded.1 hpeers
  refine always_from hafter (fun position event hposition _ hnone ↦ ?_) hlater
  exact NoneBelow.move (move_step crates manager restricted _ event)
    (atLeast_from crates manager events restricted hbound (by omega)) hnone

end Runs

/-- In a restricted domain every stored peer has a membership that was accepted for its identity,
the domain, the authority and the scope of the merge that stored it. The minimum that merges apply
never decreases. After an update to a generation has returned, no older member is in the table, and
no read returns one. -/
theorem restricted_peers_current (crates : PeerCrates) (manager : PeerManager)
    (restricted : RestrictedPeerAdmission) (events : List ManagerEvent) :
    (∀ i nodeId peer,
        (managerAt crates (manager.inDomain restricted) events i).peers.lookup nodeId = some peer →
        ∃ j < i, ∃ task call entry rest added minimum envelope, events[j]? = some (.proceed task) ∧
          (managerAt crates (manager.inDomain restricted) events j).task task =
            .admitting call entry rest added minimum ∧
          peer = peerInfo entry nodeId (some envelope) call.now ∧
          verifyMembership crates.toMembershipCrates envelope (restricted.policy.raised minimum)
            nodeId call.scope.text call.epoch = .ok () ∧
          envelope.assertion.domainId = restricted.policy.domainId ∧
          envelope.assertion.issuer =
            ⟨restricted.policy.authorityId, restricted.policy.authorityKeyId⟩) ∧
      (∀ i j first second call entry rest added minimum call' entry' rest' added' minimum', i ≤ j →
        events[i]? = some (.proceed first) → events[j]? = some (.proceed second) →
        (managerAt crates (manager.inDomain restricted) events i).task first =
          .admitting call entry rest added minimum →
        (managerAt crates (manager.inDomain restricted) events j).task second =
          .admitting call' entry' rest' added' minimum' →
        (restricted.policy.raised minimum).minimumGeneration ≤
          (restricted.policy.raised minimum').minimumGeneration) ∧
      ∀ i j task generation minimum last, i < j → events[i]? = some (.proceed task) →
        (managerAt crates (manager.inDomain restricted) events i).task task =
          .removing generation minimum →
        (managerAt crates (manager.inDomain restricted) events (i + 1)).task task = .idle last →
        (∀ nodeId peer older,
          (managerAt crates (manager.inDomain restricted) events j).peers.lookup nodeId =
            some peer →
          peer.membershipGeneration = some older → generation ≤ older) ∧
        ∀ reader what result, events[j]? = some (.proceed reader) →
          (managerAt crates (manager.inDomain restricted) events j).task reader = .reading what →
          (managerAt crates (manager.inDomain restricted) events (j + 1)).task reader =
            .idle (some result) →
          ∀ peer ∈ result.found, ∀ older, peer.membershipGeneration = some older →
            generation ≤ older := by
  refine ⟨?_, ?_, ?_⟩
  · intro i nodeId peer hpeer
    obtain ⟨j, hj, task, call, entry, rest, added, minimum, envelope, hevent, hphase, hmember,
      hinfo⟩ := stored_origin crates manager events restricted hpeer
    have hverified := verifyMembership_of_entryMembership hmember
    obtain ⟨hissuer, hdomain, -⟩ := verifyMembership_eq_ok hverified
    exact ⟨j, hj, task, call, entry, rest, added, minimum, envelope, hevent, hphase, hinfo,
      hverified, hdomain, hissuer⟩
  · intro i j first second call entry rest added minimum call' entry' rest' added' minimum' hij
      hfirst hsecond hphase hphase'
    have hbound := (sound_managerAt crates manager events restricted i).atLeast_admitting hphase
    have hloaded := (atLeast_from crates manager events restricted hbound hij).loaded second
    rw [hphase'] at hloaded
    exact max_le_max le_rfl hloaded
  · intro i j task generation minimum last hij hevent hphase hdone
    have hnone := noneBelow_after_update crates manager events restricted hevent hphase hdone hij
    refine ⟨hnone, ?_⟩
    intro reader what result hread hreading hreturned peer hpeer older holder
    rw [managerAt_succ _ _ hread] at hreturned
    rw [ManagerRun.reading_done hreading hreturned] at hpeer
    obtain ⟨nodeId, hlookup⟩ := PeerRead.lookup_of_found hpeer
    exact hnone nodeId peer older hlookup holder

end Iicp.Peer
