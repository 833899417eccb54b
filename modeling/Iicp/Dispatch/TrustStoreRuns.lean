import Iicp.Concurrent.EventMachine
import Iicp.Dispatch.TrustStore

/-!
# Processes that share a trust store

Any number of processes install and recover bundles in one directory. A call takes the lock by
creating the lock file, reads the state file, and decides. It answers, or it writes a new file and
renames it over the state file. Then it removes the lock file. Every operation may fail; a call that
fails while it takes the lock may leave the lock file behind.

`Move` says what an operation does (`move_step`): only a rename changes the state file, and it puts
there what a call wrote that read the file while it held the lock (`entry_move`). So versions and
the high-water mark never go back (`store_never_rolls_back`), if no check of the state file fails
unnoticed (`Reliable`): a failed existence query is taken for an absent file, and a recovery takes a
failed check of the permissions for a corrupt file. `mark_lost` is such a run.
-/

namespace Iicp.Dispatch

open Rust Dispatch Concurrent

abbrev CallResult := Except TrustBundleStoreError TrustBundleInstallResult

inductive CallPhase where
  | idle
  | waiting (call : StoreCall)
  | loading (call : StoreCall)
  | committing (call : StoreCall) (status : TrustBundleInstallStatus) (highWater : UInt64)
  | renamed (call : StoreCall) (status : TrustBundleInstallStatus) (highWater : UInt64)
  | releasing (result : CallResult) (wrote : Bool)

def CallPhase.holds : CallPhase → Bool
  | idle => false
  | waiting _ => false
  | _ => true

/-- The state file, whether the lock file exists, and the processes. -/
structure StoreRun where
  entry : Option Entry
  lockFile : Bool
  phase : ℕ → CallPhase

def StoreRun.start : StoreRun := ⟨none, false, fun _ ↦ .idle⟩

/-- The operations of a process: a call begins; it gives up waiting, because the directory cannot be
used or the lock is held too long; it tries to create the lock file, after which writing to that
file may fail; it loads the state; it fails to write or rename the new file; it renames the new
file; what follows the rename succeeds or fails; the lock file is removed, or this fails. -/
inductive StoreEvent where
  | begin (process : ℕ) (call : StoreCall)
  | giveUp (process : ℕ)
  | acquire (process : ℕ) (fault : Bool)
  | load (process : ℕ) (faults : LoadFaults)
  | fail (process : ℕ) (error : TrustBundleStoreError)
  | rename (process : ℕ)
  | finish (process : ℕ) (fault : Option TrustBundleStoreError)
  | release (process : ℕ) (removed : Bool)

def StoreEvent.process : StoreEvent → ℕ
  | begin process _ => process
  | giveUp process => process
  | acquire process _ => process
  | load process _ => process
  | fail process _ => process
  | rename process => process
  | finish process _ => process
  | release process _ => process

namespace StoreRun

variable (crates : StoreCrates) (run : StoreRun)

def goTo (process : ℕ) (next : CallPhase) : StoreRun :=
  { run with phase := Function.update run.phase process next }

def afterLoad (call : StoreCall)
    (current : Except TrustBundleStoreError (Option StoredDispatchTrustBundle)) : CallPhase :=
  match current with
  | .error error => .releasing (.error error) false
  | .ok current =>
    match call.decide crates current with
    | .answer status => .releasing (.ok ⟨status, current⟩) false
    | .commit status highWater => .committing call status highWater

/-- An operation that does not fit to where the process is has no effect. -/
def step (event : StoreEvent) : StoreRun :=
  match event, run.phase event.process with
  | .begin process call, .idle =>
    if call.authorized then run.goTo process (.waiting call) else run
  | .giveUp process, .waiting _ => run.goTo process .idle
  | .acquire process fault, .waiting call =>
    if run.lockFile then run
    else { run with lockFile := true }.goTo process (if fault then .idle else .loading call)
  | .load process faults, .loading call =>
    run.goTo process (afterLoad crates call (call.current (load crates faults run.entry)))
  | .fail process error, .committing _ _ _ => run.goTo process (.releasing (.error error) false)
  | .rename process, .committing call status highWater =>
    if run.entry = some .directory then
      run.goTo process (.releasing (.error renameOverDirectory) false)
    else
      { run with entry := some (.file (payload crates call.bundle highWater) true) }.goTo process
        (.renamed call status highWater)
  | .finish process fault, .renamed call status highWater =>
    let result : CallResult :=
      match fault with
      | some error => .error error
      | none => .ok ⟨status, some (stored crates call.bundle highWater)⟩
    run.goTo process (.releasing result true)
  | .release process removed, .releasing _ _ =>
    { run with lockFile := !removed }.goTo process .idle
  | _, _ => run

def Holds (state : StoredDispatchTrustBundle) : Prop :=
  load crates .none run.entry = .ok (some state)

/-- What a step does, for every operation and place of a call. -/
inductive Move : StoreEvent → StoreRun → Prop
  | stay (event : StoreEvent) : Move event run
  | begin {process : ℕ} {call : StoreCall} (hphase : run.phase process = .idle) :
      Move (.begin process call) (run.goTo process (.waiting call))
  | giveUp {process : ℕ} {call : StoreCall} (hphase : run.phase process = .waiting call) :
      Move (.giveUp process) (run.goTo process .idle)
  | acquire {process : ℕ} {call : StoreCall} (hphase : run.phase process = .waiting call)
      (hfree : run.lockFile = false) (fault : Bool) :
      Move (.acquire process fault)
        ({ run with lockFile := true }.goTo process (if fault then .idle else .loading call))
  | load {process : ℕ} {call : StoreCall} (hphase : run.phase process = .loading call)
      (faults : LoadFaults) :
      Move (.load process faults)
        (run.goTo process (afterLoad crates call (call.current (load crates faults run.entry))))
  | fail {process : ℕ} {call : StoreCall} {status : TrustBundleInstallStatus} {highWater : UInt64}
      (hphase : run.phase process = .committing call status highWater)
      (event : StoreEvent) (hprocess : event.process = process) (error : TrustBundleStoreError) :
      Move event (run.goTo process (.releasing (.error error) false))
  | rename {process : ℕ} {call : StoreCall} {status : TrustBundleInstallStatus} {highWater : UInt64}
      (hphase : run.phase process = .committing call status highWater) :
      Move (.rename process)
        ({ run with entry := some (.file (payload crates call.bundle highWater) true) }.goTo process
          (.renamed call status highWater))
  | finish {process : ℕ} {call : StoreCall} {status : TrustBundleInstallStatus} {highWater : UInt64}
      (hphase : run.phase process = .renamed call status highWater)
      (fault : Option TrustBundleStoreError) {result : CallResult}
      (hresult : ∀ found, result = .ok found → found.status = status) :
      Move (.finish process fault) (run.goTo process (.releasing result true))
  | release {process : ℕ} {result : CallResult} {wrote : Bool}
      (hphase : run.phase process = .releasing result wrote) (removed : Bool) :
      Move (.release process removed) ({ run with lockFile := !removed }.goTo process .idle)

lemma move_step (event : StoreEvent) : Move crates run event (run.step crates event) := by
  cases hphase : run.phase event.process <;> cases event <;>
    dsimp only [StoreEvent.process] at hphase <;> simp only [step, StoreEvent.process, hphase]
  case idle.begin call =>
    by_cases hauthorized : call.authorized
    · rw [if_pos hauthorized]
      exact .begin hphase
    · rw [if_neg hauthorized]
      exact .stay _
  case waiting.giveUp => exact .giveUp hphase
  case waiting.acquire =>
    cases hlock : run.lockFile with
    | true => exact .stay _
    | false => exact .acquire hphase hlock _
  case loading.load => exact .load hphase _
  case committing.fail => exact .fail hphase _ rfl _
  case committing.rename =>
    by_cases hdirectory : run.entry = some .directory
    · rw [if_pos hdirectory]
      exact .fail hphase _ rfl _
    · rw [if_neg hdirectory]
      exact .rename hphase
  case renamed.finish fault =>
    cases fault with
    | none => exact .finish hphase _ fun found hfound ↦ by cases hfound; rfl
    | some => exact .finish hphase _ fun found hfound ↦ nomatch hfound
  case releasing.release => exact .release hphase _
  all_goals exact .stay _

@[simp] lemma phase_goTo (process other : ℕ) (next : CallPhase) :
    (run.goTo process next).phase other = if other = process then next else run.phase other :=
  Function.update_apply _ _ _ _

/-! ### What holds at every moment -/

/-- What a place of a call says: a process that is about to write decided on the state that is
stored now, and the answer of a call tells whether it wrote. -/
def PhaseSound (entry : Option Entry) : CallPhase → Prop
  | .committing call status highWater =>
    ∃ current, load crates .none entry = .ok current ∧
      call.decide crates current = .commit status highWater
  | .renamed _ status _ => status = .installed ∨ status = .recovered
  | .releasing (.ok result) wrote =>
    wrote = true ↔ result.status = .installed ∨ result.status = .recovered
  | _ => True

/-- The file is absent or what some call wrote. -/
def EntrySound (entry : Option Entry) : Prop :=
  entry = none ∨ ∃ bundle highWater, bundle.bundleVersion ≤ highWater ∧
    (payload crates bundle highWater).length ≤ stateLimit ∧
    entry = some (.file (payload crates bundle highWater) true)

/-- One process at most holds the lock, the file is what some call wrote, and every process is where
it can be. -/
structure Sound : Prop where
  exclusive : ∀ first second, (run.phase first).holds = true → (run.phase second).holds = true →
    first = second
  locked : ∀ process, (run.phase process).holds = true → run.lockFile = true
  entry : EntrySound crates run.entry
  phases : ∀ process, PhaseSound crates run.entry (run.phase process)

/-- No check of the state file fails unnoticed: the query whether it exists does not fail, in a
recovery the check of its permissions does not fail, and a file that is put in its place is within
the limit on its size. -/
def Reliable (event : StoreEvent) : Prop :=
  match event, run.phase event.process with
  | .load _ faults, .loading (.install _ _) => faults.existsFails = false
  | .load _ faults, .loading (.recover _ _) =>
    faults.existsFails = false ∧ faults.fileCheck = none
  | .rename _, .committing call _ highWater =>
    (payload crates call.bundle highWater).length ≤ stateLimit
  | _, _ => True

variable {crates run} {status : TrustBundleInstallStatus} {state : StoredDispatchTrustBundle}
  {highWater : UInt64} {call : StoreCall} {process : ℕ} {event : StoreEvent} {next : StoreRun}

variable {entry : Option Entry}

lemma phaseSound_of_not_holds {phase : CallPhase}
    (h : phase.holds = false) : PhaseSound crates entry phase := by
  cases phase with
  | idle | waiting => trivial
  | loading | committing | renamed | releasing => nomatch h

/-- A process that goes on, without a change of the files, to a place where it may be. -/
lemma Sound.goTo (hsound : run.Sound crates) {next : CallPhase}
    (hholds : next.holds → (run.phase process).holds)
    (hnext : PhaseSound crates run.entry next) : (run.goTo process next).Sound crates := by
  have hphase : ∀ other, ((run.goTo process next).phase other).holds →
      (run.phase other).holds := by
    intro other hother
    rw [phase_goTo] at hother
    by_cases hsame : other = process
    · rw [if_pos hsame] at hother
      exact hsame ▸ hholds hother
    · rwa [if_neg hsame] at hother
  refine ⟨fun first second hfirst hsecond ↦
    hsound.exclusive first second (hphase first hfirst) (hphase second hsecond),
    fun other hother ↦ hsound.locked other (hphase other hother), hsound.entry, fun other ↦ ?_⟩
  rw [phase_goTo]
  by_cases hsame : other = process
  · rw [if_pos hsame]
    exact hnext
  · rw [if_neg hsame]
    exact hsound.phases other

/-- A process that goes on to a place where it may be while no other process holds the lock. -/
lemma sound_alone {next : CallPhase}
    (hothers : ∀ other, other ≠ process → (run.phase other).holds = false)
    (hlock : next.holds → run.lockFile) (hentry : EntrySound crates run.entry)
    (hnext : PhaseSound crates run.entry next) : (run.goTo process next).Sound crates := by
  have honly : ∀ other, ((run.goTo process next).phase other).holds → other = process := by
    intro other hholds
    by_contra hother
    rw [phase_goTo, if_neg hother, hothers other hother] at hholds
    nomatch hholds
  refine ⟨fun first second hfirst hsecond ↦ (honly first hfirst).trans (honly second hsecond).symm,
    fun other hother ↦ ?_, hentry, fun other ↦ ?_⟩
  · have hsame := honly other hother
    rw [phase_goTo, if_pos hsame] at hother
    exact hlock hother
  · rw [phase_goTo]
    by_cases hsame : other = process
    · rw [if_pos hsame]
      exact hnext
    · rw [if_neg hsame]
      exact phaseSound_of_not_holds (hothers other hsame)

lemma Sound.others (hsound : run.Sound crates) {other : ℕ}
    (hholds : (run.phase process).holds) (hother : other ≠ process) :
    (run.phase other).holds = false := by
  rw [Bool.eq_false_iff]
  exact fun h ↦ hother (hsound.exclusive other process h hholds)

lemma sound_start : StoreRun.start.Sound crates where
  exclusive := fun _ _ h ↦ nomatch h
  locked := fun _ h ↦ nomatch h
  entry := .inl rfl
  phases := fun _ ↦ trivial

/-- A load of a file reads it, or fails with an error that is that of a corrupt file only if the
check of the file failed. -/
lemma load_file_cases (crates : StoreCrates) {faults : LoadFaults}
    (hexists : faults.existsFails = false) (bytes : List UInt8) :
    load crates faults (some (.file bytes true)) = (readState crates bytes).map some ∨
      ∃ error, load crates faults (some (.file bytes true)) = .error error ∧
        ((∃ message, error = .corrupt message) → faults.fileCheck ≠ none) := by
  obtain ⟨existsFails, metadata, parentCheck, fileCheck, reading⟩ := faults
  obtain rfl : existsFails = false := hexists
  cases metadata with
  | some => exact .inr ⟨_, rfl, fun ⟨_, h⟩ ↦ nomatch h⟩
  | none =>
    cases parentCheck with
    | true => exact .inr ⟨_, rfl, fun ⟨_, h⟩ ↦ nomatch h⟩
    | false =>
      cases fileCheck with
      | some error => exact .inr ⟨_, rfl, fun _ ↦ Option.some_ne_none error⟩
      | none =>
        cases reading with
        | some => exact .inr ⟨_, rfl, fun ⟨_, h⟩ ↦ nomatch h⟩
        | none => exact .inl rfl

lemma decide_commit_status {current : Option StoredDispatchTrustBundle}
    (h : call.decide crates current = .commit status highWater) :
    status = .installed ∨ status = .recovered := by
  cases call with
  | install =>
    rw [StoreCall.decide, installDecision] at h
    split_ifs at h
    cases h
    exact .inl rfl
  | recover bundle authorization =>
    cases authorization with
    | none => cases h
    | some =>
      cases h
      exact .inr rfl

/-- The place after a load is one where a process may be. -/
lemma phaseSound_afterLoad
    {current : Except TrustBundleStoreError (Option StoredDispatchTrustBundle)}
    (hcurrent : ∀ found, current = .ok found → load crates .none entry = .ok found) :
    PhaseSound crates entry (afterLoad crates call current) := by
  cases current with
  | error => trivial
  | ok current =>
    rw [afterLoad]
    cases hdecide : call.decide crates current with
    | answer =>
      have hstatus := StoreCall.decide_answer hdecide
      exact ⟨Bool.noConfusion, fun h ↦ absurd h (not_or.mpr hstatus)⟩
    | commit => exact ⟨current, hcurrent current rfl, hdecide⟩

/-- A call that writes never lowers the mark. -/
lemma le_newMark (call : StoreCall) (state : StoredDispatchTrustBundle) :
    state.highWater ≤ call.newMark (some state) := by
  cases call with
  | install =>
    rw [UInt64.le_iff_toNat_le, StoreCall.newMark, UInt64.toNat_max]
    exact le_max_left _ _
  | recover =>
    rw [UInt64.le_iff_toNat_le, StoreCall.newMark, UInt64.toNat_max, UInt64.toNat_max]
    exact (le_max_left _ _).trans (le_max_left _ _)

/-- A bundle that is installed has a larger version, which is not below the mark. -/
lemma install_newer {bundle : DispatchTrustBundle} {expected : Option UInt64}
    (hdecide : installDecision crates bundle expected (some state) = .commit status highWater)
    (hstate : state.bundle.bundleVersion ≤ state.highWater) :
    state.bundle.bundleVersion < bundle.bundleVersion ∧ state.highWater ≤ bundle.bundleVersion := by
  rw [installDecision] at hdecide
  split_ifs at hdecide with hexpected hstale hsame
  have hmark : state.highWater ≤ bundle.bundleVersion := UInt64.not_lt.mp hstale
  have hother : state.bundle.bundleVersion ≠ bundle.bundleVersion :=
    fun heq ↦ hsame (congrArg some heq)
  exact ⟨UInt64.lt_of_le_of_ne (UInt64.le_trans hstate hmark) hother, hmark⟩

/-- Only a rename changes the state file. -/
lemma entry_move (hmove : Move crates run event next) :
    next.entry = run.entry ∨ ∃ process call status highWater, event = .rename process ∧
      run.phase process = .committing call status highWater ∧
      next.entry = some (.file (payload crates call.bundle highWater) true) ∧
      next.phase process = .renamed call status highWater := by
  cases hmove with
  | stay | begin | giveUp | acquire | load | fail | finish | release => exact .inl rfl
  | rename hphase => exact .inr ⟨_, _, _, _, rfl, hphase, rfl, by rw [phase_goTo, if_pos rfl]⟩

lemma entry_rename (hsound : run.Sound crates)
    (hphase : run.phase process = .committing call status highWater) :
    (run.step crates (.rename process)).entry =
      some (.file (payload crates call.bundle highWater) true) := by
  have hplace : run.entry ≠ some .directory := by
    intro hdirectory
    obtain hnone | ⟨_, _, -, -, hentry⟩ := hsound.entry
    · exact nomatch hnone.symm.trans hdirectory
    · exact nomatch hentry.symm.trans hdirectory
  simp only [step, StoreEvent.process, hphase]
  rw [if_neg hplace]
  rfl

section

variable (hread : ReadsPlain crates.floatText crates.fromSlice) (hsound : run.Sound crates)

include hread hsound

lemma Sound.load_entry :
    (run.entry = none ∧ load crates .none run.entry = .ok none) ∨
      ∃ bytes state, run.entry = some (.file bytes true) ∧ readState crates bytes = .ok state ∧
        load crates .none run.entry = .ok (some state) ∧
        state.bundle.bundleVersion ≤ state.highWater := by
  obtain hnone | ⟨_, _, hversion, hsize, hentry⟩ := hsound.entry
  · rw [hnone]
    exact .inl ⟨rfl, rfl⟩
  · have hstate := readState_payload hread hversion
    rw [if_neg (not_lt.mpr hsize)] at hstate
    rw [hentry, load_file, hstate]
    exact .inr ⟨_, _, rfl, hstate, rfl, hversion⟩

lemma Sound.version_le (hholds : run.Holds crates state) :
    state.bundle.bundleVersion ≤ state.highWater := by
  obtain ⟨-, hload⟩ | ⟨_, found, -, -, hload, hversion⟩ := hsound.load_entry hread
  · exact nomatch hload.symm.trans hholds
  · obtain rfl : found = state := Option.some.inj (Except.ok.inj (hload.symm.trans hholds))
    exact hversion

/-- What a call goes on with is what is stored. -/
lemma load_of_current {faults : LoadFaults} {current : Option StoredDispatchTrustBundle}
    (hexists : faults.existsFails = false)
    (hcheck : ∀ bundle authorization, call = .recover bundle authorization →
      faults.fileCheck = none)
    (hcurrent : call.current (load crates faults run.entry) = .ok current) :
    load crates .none run.entry = .ok current := by
  obtain ⟨hentry, hload⟩ | ⟨bytes, _, hentry, hstate, hload, -⟩ := hsound.load_entry hread
  · have hnone : load crates faults run.entry = .ok none := by
      rw [hentry]
      rfl
    rw [hnone] at hcurrent
    rw [hload]
    cases call <;> exact hcurrent
  · rw [hload]
    obtain hfound | ⟨error, herror, hcorrupt⟩ := load_file_cases crates hexists bytes
    · rw [hentry, hfound, hstate] at hcurrent
      cases call <;> exact hcurrent
    · rw [hentry, herror] at hcurrent
      cases call with
      | install => nomatch hcurrent
      | recover =>
        cases error with
        | corrupt message => exact absurd (hcheck _ _ rfl) (hcorrupt ⟨message, rfl⟩)
        | locked | permissions | io => nomatch hcurrent

/-- Assumes: the step is reliable. It keeps what holds at every moment. -/
lemma Sound.move (hmove : Move crates run event next)
    (hreliable : run.Reliable crates event) : next.Sound crates := by
  cases hmove with
  | stay => exact hsound
  | begin | giveUp => exact hsound.goTo (fun h ↦ nomatch h) trivial
  | @acquire process call hphase hfree fault =>
    refine sound_alone (fun other _ ↦ ?_) (fun _ ↦ rfl) hsound.entry ?_
    · rw [Bool.eq_false_iff]
      intro hholds
      exact absurd (hfree.symm.trans (hsound.locked other hholds)) Bool.false_ne_true
    · cases fault <;> trivial
  | @load process call hphase faults =>
    refine hsound.goTo (fun _ ↦ by rw [hphase]; rfl) (phaseSound_afterLoad fun found hfound ↦ ?_)
    simp only [Reliable, StoreEvent.process, hphase] at hreliable
    cases call with
    | install =>
      exact load_of_current hread hsound hreliable (by rintro _ _ ⟨⟩) hfound
    | recover =>
      exact load_of_current hread hsound hreliable.1 (fun _ _ _ ↦ hreliable.2) hfound
  | fail hphase => exact hsound.goTo (fun _ ↦ by rw [hphase]; rfl) trivial
  | @rename process call status highWater hphase =>
    have hholds : (run.phase process).holds := by rw [hphase]; rfl
    have hpending := hsound.phases process
    rw [hphase] at hpending
    obtain ⟨_, -, hdecide⟩ := hpending
    simp only [Reliable, StoreEvent.process, hphase] at hreliable
    exact sound_alone (fun other hother ↦ hsound.others hholds hother)
      (fun _ ↦ hsound.locked process hholds)
      (.inr ⟨call.bundle, highWater, (StoreCall.decide_commit hdecide).2, hreliable, rfl⟩)
      (decide_commit_status hdecide)
  | @finish process call status highWater hphase fault result hresult =>
    refine hsound.goTo (fun _ ↦ by rw [hphase]; rfl) ?_
    have hstatus := hsound.phases process
    rw [hphase] at hstatus
    cases result with
    | error => trivial
    | ok found => exact ⟨fun _ ↦ hresult found rfl ▸ hstatus, fun _ ↦ rfl⟩
  | @release process result wrote hphase removed =>
    have hholds : (run.phase process).holds := by rw [hphase]; rfl
    exact sound_alone (fun other hother ↦ hsound.others hholds hother) (fun h ↦ nomatch h)
      hsound.entry trivial

/-! ### What a step does to the stored state -/

/-- Assumes: a process is about to write, and its file is within the limit. After the rename its
bundle is stored, with the mark that follows from what was stored before. -/
lemma holds_rename (hphase : run.phase process = .committing call status highWater)
    (hsize : (payload crates call.bundle highWater).length ≤ stateLimit) :
    ∃ current, load crates .none run.entry = .ok current ∧
      call.decide crates current = .commit status highWater ∧
      load crates .none (some (.file (payload crates call.bundle highWater) true)) =
        .ok (some { stored crates call.bundle highWater with
          bundle := call.bundle.canonicalForm }) := by
  have hpending := hsound.phases process
  rw [hphase] at hpending
  obtain ⟨current, hcurrent, hdecide⟩ := hpending
  refine ⟨current, hcurrent, hdecide, ?_⟩
  rw [load_file, readState_payload hread (StoreCall.decide_commit hdecide).2,
    if_neg (not_lt.mpr hsize)]
  rfl

/-- Assumes: the step is reliable. It does not lower the mark. -/
lemma mark_le_move (hmove : Move crates run event next)
    (hreliable : run.Reliable crates event) (hholds : run.Holds crates state) :
    ∃ later, next.Holds crates later ∧ state.highWater ≤ later.highWater := by
  obtain hsame | ⟨process, call, _, _, rfl, hphase, hentry, -⟩ := entry_move hmove
  · exact ⟨state, by rw [Holds, hsame]; exact hholds, UInt64.le_refl _⟩
  · simp only [Reliable, StoreEvent.process, hphase] at hreliable
    obtain ⟨current, hcurrent, hdecide, hload⟩ := holds_rename hread hsound hphase hreliable
    obtain rfl : current = some state := Except.ok.inj (hcurrent.symm.trans hholds)
    refine ⟨_, by rw [Holds, hentry]; exact hload, ?_⟩
    rw [stored, (StoreCall.decide_commit hdecide).1]
    exact le_newMark call state

/-- An installation that renames its file stores its bundle, which is newer than what was stored. -/
lemma install_rename (hreliable : run.Reliable crates (.rename process))
    {bundle : DispatchTrustBundle} {expected : Option UInt64}
    (hphase : run.phase process = .committing (.install bundle expected) status highWater) :
    ∃ later, (run.step crates (.rename process)).Holds crates later ∧
      later.bundle = bundle.canonicalForm ∧
      ∀ state, run.Holds crates state →
        state.bundle.bundleVersion < later.bundle.bundleVersion ∧
          state.highWater ≤ later.bundle.bundleVersion := by
  simp only [Reliable, StoreEvent.process, hphase] at hreliable
  obtain ⟨current, hcurrent, hdecide, hload⟩ := holds_rename hread hsound hphase hreliable
  have hlater : (run.step crates (.rename process)).Holds crates
      { stored crates bundle highWater with bundle := bundle.canonicalForm } := by
    rw [Holds, entry_rename hsound hphase]
    exact hload
  refine ⟨_, hlater, rfl, fun state hholds ↦ ?_⟩
  obtain rfl : current = some state := Except.ok.inj (hcurrent.symm.trans hholds)
  have hnewer := install_newer hdecide (hsound.version_le hread hholds)
  exact ⟨hnewer.1, hnewer.2⟩

/-! ### What a call wrote -/

end

end StoreRun

/-- The call has renamed its file over the state file. -/
def CallPhase.wrote : CallPhase → Bool
  | renamed _ _ _ => true
  | releasing _ wrote => wrote
  | _ => false

namespace StoreRun

variable {crates : StoreCrates} {run : StoreRun} {event : StoreEvent} {next : StoreRun}

lemma phase_move (hmove : Move crates run event next)
    {process : ℕ} (hother : event.process ≠ process) : next.phase process = run.phase process := by
  cases hmove with
  | stay => rfl
  | begin | giveUp | acquire | load | rename | finish | release =>
    exact (phase_goTo _ _ _ _).trans (if_neg (Ne.symm hother))
  | fail hphase event hprocess =>
    exact (phase_goTo _ _ _ _).trans (if_neg (hprocess ▸ Ne.symm hother))

/-- A call that wrote has written until it ends. -/
lemma wrote_move (hmove : Move crates run event next) (hwrote : (run.phase event.process).wrote) :
    (next.phase event.process).wrote ∨ next.phase event.process = .idle := by
  cases hmove with
  | stay => exact .inl hwrote
  | begin hphase | giveUp hphase | acquire hphase | load hphase | rename hphase =>
    rw [StoreEvent.process, hphase] at hwrote
    nomatch hwrote
  | fail hphase event hprocess =>
    rw [hprocess, hphase] at hwrote
    nomatch hwrote
  | finish =>
    rw [StoreEvent.process, phase_goTo, if_pos rfl]
    exact .inl rfl
  | release =>
    rw [StoreEvent.process, phase_goTo, if_pos rfl]
    exact .inr rfl

/-- One process at most holds the lock, and the file is absent or all that a call writes, with a
mark that is not below the version. -/
structure Guarded (crates : StoreCrates) (run : StoreRun) : Prop where
  exclusive : ∀ first second, (run.phase first).holds → (run.phase second).holds → first = second
  locked : ∀ process, (run.phase process).holds → run.lockFile
  entry : run.entry = none ∨ ∃ bundle highWater, bundle.bundleVersion ≤ highWater ∧
    run.entry = some (.file (payload crates bundle highWater) true)
  marked : ∀ process call status highWater, run.phase process = .committing call status highWater →
    call.bundle.bundleVersion ≤ highWater

lemma Guarded.move (hguarded : run.Guarded crates) (hmove : Move crates run event next) :
    next.Guarded crates := by
  obtain ⟨hexclusive, hlocked, hentry, hmarked⟩ := hguarded
  cases hmove with
  | stay => exact ⟨hexclusive, hlocked, hentry, hmarked⟩
  | @load _ call =>
    -- whatever was read, the mark of what is written covers the version
    have hafter : ∀ current found status highWater,
        afterLoad crates call current = .committing found status highWater →
        found.bundle.bundleVersion ≤ highWater := by
      intro current
      fun_cases afterLoad crates call current <;> grind [→ StoreCall.decide_commit]
    constructor <;> grind [phase_goTo, CallPhase.holds, goTo]
  | _ => constructor <;> grind [phase_goTo, CallPhase.holds, goTo]

end StoreRun

/-! ### Runs -/

section Runs

variable (crates : StoreCrates) (events : List StoreEvent)

/-- The moment before the operation at a position, from an empty directory on. -/
def moment (position : ℕ) : StoreRun :=
  stateAt (fun run event ↦ StoreRun.step crates run event) .start events position

variable {events} {event : StoreEvent} {position : ℕ}

lemma moment_succ (hevent : events[position]? = some event) :
    moment crates events (position + 1) = (moment crates events position).step crates event :=
  stateAt_succ _ hevent

lemma move_moment (hevent : events[position]? = some event) :
    (moment crates events position).Move crates event (moment crates events (position + 1)) := by
  rw [moment_succ crates hevent]
  exact StoreRun.move_step crates _ event

/-- Whatever the processes do and whichever of their operations fail, at every moment of a run one
process at most holds the lock, and the state file is whole. -/
theorem moment_guarded (events : List StoreEvent) (position : ℕ) :
    (moment crates events position).Guarded crates := by
  refine always_of_good ⟨?_, ?_, .inl rfl, ?_⟩
    (fun _ event _ hguarded ↦ hguarded.move (StoreRun.move_step crates _ event)) position
  all_goals simp [StoreRun.start, CallPhase.holds]

variable {crates}

/-- A call that has not written has left the state file as it was, step by step. -/
lemma untouched_of_not_wrote {process start stop : ℕ} (hle : start ≤ stop)
    (hbusy : ∀ position, start < position → position ≤ stop →
      (moment crates events position).phase process ≠ .idle)
    (hwrote : ((moment crates events stop).phase process).wrote = false) :
    ∀ position event, start ≤ position → position < stop → events[position]? = some event →
      event.process = process →
      (moment crates events (position + 1)).entry = (moment crates events position).entry := by
  induction stop, hle using Nat.le_induction with
  | base => intro position event hfrom hto; omega
  | succ stop hle ih =>
    intro position event hfrom hto hevent hprocess
    obtain rfl | hearlier := (Nat.lt_succ_iff.mp hto).eq_or_lt
    · obtain hsame | ⟨_, call, _, highWater, rfl, -, -, hphase⟩ :=
        StoreRun.entry_move (move_moment crates hevent)
      · exact hsame
      · rw [← hprocess, StoreEvent.process, hphase] at hwrote
        nomatch hwrote
    · refine ih (fun other hafter hbefore ↦ hbusy other hafter (by omega)) ?_ position event hfrom
        hearlier hevent hprocess
      rw [Bool.eq_false_iff]
      intro hbefore
      cases hlast : events[stop]? with
      | none =>
        have hsame : moment crates events (stop + 1) = moment crates events stop :=
          stateAt_succ_of_none _ hlast
        rw [hsame, hbefore] at hwrote
        nomatch hwrote
      | some last =>
        have hmove := move_moment crates hlast
        by_cases hown : last.process = process
        · rw [← hown] at hbefore hwrote hbusy
          obtain hstill | hended := StoreRun.wrote_move hmove hbefore
          · rw [hstill] at hwrote
            nomatch hwrote
          · exact hbusy (stop + 1) (by omega) le_rfl hended
        · rw [StoreRun.phase_move hmove hown, hbefore] at hwrote
          nomatch hwrote

end Runs

/-- Assumes: the reader reads plain values back, and no check of the state file fails unnoticed. At
every moment the state file is absent or can be read. The stored mark never decreases and is not
below the stored version. An installation stores the canonical form of its bundle, whose version is
larger than the one before and not below the mark before. A call leaves the state file as it was
unless it renames its file, and among the calls that return a result these are the ones that return
that they installed or recovered. -/
theorem store_never_rolls_back {crates : StoreCrates}
    (hread : ReadsPlain crates.floatText crates.fromSlice) {events : List StoreEvent}
    (hreliable : ∀ position event, events[position]? = some event →
      (moment crates events position).Reliable crates event) :
    (∀ i, (moment crates events i).entry = none ∨
        ∃ state, (moment crates events i).Holds crates state) ∧
      (∀ i j state, i ≤ j → (moment crates events i).Holds crates state →
        ∃ later, (moment crates events j).Holds crates later ∧
          state.highWater ≤ later.highWater) ∧
      (∀ i state, (moment crates events i).Holds crates state →
        state.bundle.bundleVersion ≤ state.highWater) ∧
      (∀ i process bundle expected status highWater, events[i]? = some (.rename process) →
        (moment crates events i).phase process =
          .committing (.install bundle expected) status highWater →
        ∃ later, (moment crates events (i + 1)).Holds crates later ∧
          later.bundle = bundle.canonicalForm ∧
          ∀ state, (moment crates events i).Holds crates state →
            state.bundle.bundleVersion < later.bundle.bundleVersion ∧
              state.highWater ≤ later.bundle.bundleVersion) ∧
      (∀ start stop process, start ≤ stop →
        (∀ i, start < i → i ≤ stop → (moment crates events i).phase process ≠ .idle) →
        ((moment crates events stop).phase process).wrote = false →
        ∀ i event, start ≤ i → i < stop → events[i]? = some event → event.process = process →
          (moment crates events (i + 1)).entry = (moment crates events i).entry) ∧
      ∀ i process result wrote,
        (moment crates events i).phase process = .releasing (.ok result) wrote →
        (wrote ↔ result.status = .installed ∨ result.status = .recovered) := by
  have hsound : ∀ position, (moment crates events position).Sound crates := fun position ↦
    always_of_good StoreRun.sound_start (fun earlier event hevent hsound ↦ hsound.move hread
      (StoreRun.move_step crates _ event) (hreliable earlier event hevent)) position
  refine ⟨fun i ↦ ?_, fun i j state hle hholds ↦ ?_, fun i state hholds ↦ ?_, ?_, ?_, ?_⟩
  · obtain ⟨hentry, -⟩ | ⟨_, state, -, -, hload, -⟩ := (hsound i).load_entry hread
    · exact .inl hentry
    · exact .inr ⟨state, hload⟩
  · let later (run : StoreRun) : Prop :=
      ∃ last, run.Holds crates last ∧ state.highWater ≤ last.highWater
    have hthen : later (moment crates events i) := ⟨state, hholds, UInt64.le_refl _⟩
    refine always_from hthen (fun j event _ hevent hlater ↦ ?_) hle
    obtain ⟨_, hlast, hmark⟩ := hlater
    obtain ⟨next, hholds, hnext⟩ := StoreRun.mark_le_move hread (hsound j)
      (StoreRun.move_step crates _ event) (hreliable j event hevent) hlast
    exact ⟨next, hholds, UInt64.le_trans hmark hnext⟩
  · exact (hsound i).version_le hread hholds
  · intro i process bundle expected status highWater hevent hphase
    rw [moment_succ crates hevent]
    exact StoreRun.install_rename hread (hsound i) (hreliable i _ hevent) hphase
  · intro start stop process hle hbusy hwrote
    exact untouched_of_not_wrote hle hbusy hwrote
  · intro i process result wrote hphase
    have hanswer := (hsound i).phases process
    rw [hphase] at hanswer
    exact hanswer

/-- The state file for a bundle that names the issuer of the fixtures is within the limit. -/
lemma payload_fits (crates : StoreCrates) {bundleVersion highWater : UInt64}
    (hdigits : digitCount bundleVersion ≤ 20 ∧ digitCount highWater ≤ 20) :
    (payload crates (bundleNaming bundleVersion "did:web:directory.example") highWater).length ≤
      stateLimit := by
  have hlength : "did:web:directory.example".toList.length = 25 := by decide
  have hversion : (bundleNaming bundleVersion "did:web:directory.example").bundleVersion =
    bundleVersion := rfl
  rw [length_payload, length_canonical_bundleNaming crates.floatText bundleVersion
    issuer_printable, hversion, hlength, storedSize, stateLimit]
  omega

/-- Assumes: the reader reads plain values back. Such a bundle is stored when its file is in
place. -/
lemma holds_bundleNaming {crates : StoreCrates} {run : StoreRun}
    (hread : ReadsPlain crates.floatText crates.fromSlice) {bundleVersion highWater : UInt64}
    (hmark : bundleVersion ≤ highWater)
    (hdigits : digitCount bundleVersion ≤ 20 ∧ digitCount highWater ≤ 20)
    (hentry : run.entry = some (.file (payload crates
      (bundleNaming bundleVersion "did:web:directory.example") highWater) true)) :
    run.Holds crates (stored crates
      (bundleNaming bundleVersion "did:web:directory.example") highWater) := by
  rw [StoreRun.Holds, hentry, load_file, readState_payload hread hmark,
    if_neg (not_lt.mpr (payload_fits crates hdigits))]
  rfl

/-- The operations of a call that nothing disturbs, but for what its load meets. -/
def callEvents (process : ℕ) (call : StoreCall) (faults : LoadFaults) : List StoreEvent :=
  [.begin process call, .acquire process false, .load process faults, .rename process,
    .finish process none, .release process true]

/-- A recovery with version 1. -/
def recovery : StoreCall :=
  .recover (bundleNaming 1 "did:web:directory.example") (some ⟨"repair", 0⟩)

/-- Version 2 is installed into an empty store, and the recovery follows, whose load meets these
faults. -/
def recoveredEvents (faults : LoadFaults) : List StoreEvent :=
  callEvents 0 (.install (bundleNaming 2 "did:web:directory.example") none) .none ++
    callEvents 1 recovery faults

/-- A recovery whose check of the permissions fails takes the mark back to 1. -/
def markLostEvents : List StoreEvent :=
  recoveredEvents { LoadFaults.none with fileCheck := some .permissions }

section Recovered

variable {crates : StoreCrates} (hread : ReadsPlain crates.floatText crates.fromSlice)

include hread

lemma holds_installed {run : StoreRun} (hentry : run.entry =
    some (.file (payload crates (bundleNaming 2 "did:web:directory.example") 2) true)) :
    run.Holds crates (stored crates (bundleNaming 2 "did:web:directory.example") 2) :=
  holds_bundleNaming hread (by decide) (by decide) hentry

/-- The recovery keeps the mark that it finds. -/
lemma moment_recovered :
    moment crates (recoveredEvents .none) 9 =
      (moment crates (recoveredEvents .none) 8).goTo 1 (.committing recovery .recovered 2) := by
  have hload : load crates .none (moment crates (recoveredEvents .none) 8).entry = _ :=
    holds_installed hread rfl
  have hphase : (moment crates (recoveredEvents .none) 8).phase 1 = .loading recovery := rfl
  rw [moment_succ crates (rfl : (recoveredEvents .none)[8]? = some (.load 1 .none))]
  simp only [StoreRun.step, StoreEvent.process, hphase, hload]
  rfl

lemma reliable_recovered (position : ℕ) (event : StoreEvent)
    (hevent : (recoveredEvents .none)[position]? = some event) :
    (moment crates (recoveredEvents .none) position).Reliable crates event := by
  revert hevent
  rcases position with _ | _ | _ | _ | _ | _ | _ | _ | _ | _ | _ | _ | _ <;> rintro ⟨⟩
  · exact True.intro
  · exact True.intro
  · rfl
  · exact payload_fits _ (by decide)
  · exact True.intro
  · exact True.intro
  · exact True.intro
  · exact True.intro
  · exact ⟨rfl, rfl⟩
  · rw [moment_recovered hread]
    exact payload_fits _ (by decide)
  · exact True.intro
  · exact True.intro

lemma holds_recovered : (moment crates (recoveredEvents .none) 12).Holds crates
    (stored crates (bundleNaming 1 "did:web:directory.example") 2) := by
  refine holds_bundleNaming hread (by decide) (by decide) ?_
  rw [moment_succ crates (rfl : (recoveredEvents .none)[11]? = some (.release 1 true)),
    moment_succ crates (rfl : (recoveredEvents .none)[10]? = some (.finish 1 none)),
    moment_succ crates (rfl : (recoveredEvents .none)[9]? = some (.rename 1)), moment_recovered hread]
  rfl

lemma highWater_lost :
    ∃ state later, (moment crates markLostEvents 6).Holds crates state ∧
      (moment crates markLostEvents 12).Holds crates later ∧
      state.highWater = 2 ∧ later.highWater = 1 :=
  ⟨_, _, holds_installed hread rfl, @holds_bundleNaming crates _ hread 1 1 (by decide) (by decide) rfl,
    rfl, rfl⟩

end Recovered

/-- The recovery takes the store back to version 1, under the mark 2. -/
theorem store_never_rolls_back_recovered :
    (∀ position event, (recoveredEvents .none)[position]? = some event →
        (moment fixtureStoreCrates (recoveredEvents .none) position).Reliable fixtureStoreCrates
          event) ∧
      ∃ state later,
        (moment fixtureStoreCrates (recoveredEvents .none) 6).Holds fixtureStoreCrates state ∧
        (moment fixtureStoreCrates (recoveredEvents .none) 12).Holds fixtureStoreCrates later ∧
        state.highWater = 2 ∧ state.highWater ≤ later.highWater ∧
        later.bundle.bundleVersion = 1 := by
  have hread : ReadsPlain fixtureStoreCrates.floatText fixtureStoreCrates.fromSlice :=
    readsPlain_readBytes _
  have hreliable := reliable_recovered hread
  obtain ⟨-, hmark, -⟩ := store_never_rolls_back hread hreliable
  have hstate := holds_installed hread
    (rfl : (moment fixtureStoreCrates (recoveredEvents .none) 6).entry = _)
  obtain ⟨later, hlater, hle⟩ := hmark 6 12 _ (by decide) hstate
  obtain rfl := Option.some.inj (Except.ok.inj (hlater.symm.trans (holds_recovered hread)))
  exact ⟨hreliable, _, _, hstate, hlater, rfl, hle, rfl⟩

theorem mark_lost :
    ∃ state later, (moment fixtureStoreCrates markLostEvents 6).Holds fixtureStoreCrates state ∧
      (moment fixtureStoreCrates markLostEvents 12).Holds fixtureStoreCrates later ∧
      state.highWater = 2 ∧ later.highWater = 1 :=
  highWater_lost (readsPlain_readBytes _)

end Iicp.Dispatch
