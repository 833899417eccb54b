import Iicp.Concurrent.EventMachine
import Iicp.Node.Admission

/-!
# Concurrency slots and how executions end

A node counts the executions that hold a slot. A task over HTTP claims a slot by adding one to the
counter and taking it back if the counter was at the capacity; it gives its slot back by hand on
every path that returns. A call over the native transport claims a slot by a compare-and-exchange
loop on the counter of a gate, and gives it back by hand after its handler; a streamed call holds a
lease that gives it back whenever it is dropped. The two counters have their own executions each.

The model is a machine over one counter. Its events are the atomic operations on the counter and the
ways in which an execution goes on: a gate of the route lets it pass or refuses it, its handler
returns, a panic unwinds it, or its future is dropped where it waits. `slots_conserved_iff` says
when the counter is the number of executions with a slot.
-/

namespace Iicp.Node

open Concurrent

/-! ### Executions -/

/-- How an execution comes in: the HTTP route for tasks with its class of service, a call to a
server with a gate, or a streamed call. -/
inductive Route where
  | task (qos : String)
  | call
  | streamCall
  deriving DecidableEq, Repr

/-- Where an execution with a slot is. A task over HTTP passes the stages in this order; a call is
in the last one. -/
inductive Stage where
  | nonce
  | idempotency
  | opening
  | demand
  | handling
  deriving DecidableEq, Repr

/-- An execution before its next attempt, with the value of the counter that it has read, with an
increment that it has to take back, with a slot, or at its end. -/
inductive SlotPhase where
  | arrived
  | read (current : ℕ)
  | refusing
  | running (stage : Stage)
  | ended
  deriving DecidableEq, Repr

structure Execution where
  route : Route
  phase : SlotPhase
  deriving DecidableEq, Repr

namespace Execution

variable (execution : Execution)

def holdsSlot : Bool :=
  match execution.phase with
  | .running _ => true
  | _ => false

/-- Its attempt was refused and its increment is not yet taken back. -/
def isRefused : Bool :=
  match execution.phase with
  | .refusing => true
  | _ => false

/-- An increment of the counter is its own: that of its slot, or one that it is about to take back.
-/
def ownsIncrement : Bool :=
  match execution.phase with
  | .running _ => true
  | .refusing => true
  | _ => false

end Execution

structure Slots where
  active : ℕ
  executions : List Execution
  deriving DecidableEq, Repr

/-! ### Events -/

inductive SlotEvent where
  /-- An execution comes in. -/
  | arrive (route : Route)
  /-- A task adds one, and has a slot if the counter was below the capacity. -/
  | attempt (execution cap : ℕ)
  /-- A task takes its increment back; within its time it may try again. -/
  | giveBack (execution : ℕ) (inTime : Bool)
  /-- A call reads the counter of its gate. -/
  | load (execution maxConcurrent : ℕ)
  /-- A call exchanges the value that it has read for the next one. -/
  | exchange (execution maxConcurrent : ℕ)
  /-- A stage lets the execution pass. -/
  | pass (execution : ℕ)
  /-- A stage refuses the execution, or its handler returns. -/
  | finish (execution : ℕ)
  /-- A panic unwinds the execution. -/
  | unwind (execution : ℕ)
  /-- The future of the execution is dropped. -/
  | drop (execution : ℕ)
  deriving DecidableEq, Repr

def Stage.next : Stage → Option Stage
  | nonce => some idempotency
  | idempotency => some opening
  | opening => some demand
  | demand => some handling
  | handling => none

/-- The stages at which the future waits: for the lock of the nonces, and for the handler. -/
def Stage.waits : Stage → Bool
  | nonce => true
  | handling => true
  | _ => false

/-- The slot is given back when the execution is unwound or dropped. -/
def Route.hasLease : Route → Bool
  | streamCall => true
  | _ => false

namespace Slots

variable (slots : Slots) (number : ℕ) (execution : Execution)

def setPhase (phase : SlotPhase) : Slots :=
  { slots with executions := slots.executions.set number { execution with phase := phase } }

def release (phase : SlotPhase) : Slots :=
  { slots.setPhase number execution phase with active := slots.active - 1 }

/-- The optimistic claim of a task. -/
def attempt (number cap : ℕ) (execution : Execution) : Slots :=
  match execution.route, execution.phase with
  | .task _, .arrived =>
    { slots.setPhase number execution
        (if slots.active < cap then .running .nonce else .refusing) with
      active := slots.active + 1 }
  | _, _ => slots

/-- A class that may wait tries again within its time; the others fail fast. -/
def giveBack (inTime : Bool) (execution : Execution) : Slots :=
  match execution.route, execution.phase with
  | .task qos, .refusing =>
    slots.release number execution (if isQueueEligible qos && inTime then .arrived else .ended)
  | _, _ => slots

/-- What the loop of a gate does with a value of the counter. -/
def checkRead (number maxConcurrent current : ℕ) (execution : Execution) : Slots :=
  slots.setPhase number execution (if maxConcurrent ≤ current then .ended else .read current)

def load (number maxConcurrent : ℕ) (execution : Execution) : Slots :=
  match execution.route, execution.phase with
  | .task _, _ => slots
  | _, .arrived => slots.checkRead number maxConcurrent slots.active execution
  | _, _ => slots

def exchange (number maxConcurrent : ℕ) (execution : Execution) : Slots :=
  match execution.phase with
  | .read current =>
    if slots.active = current then
      { slots.setPhase number execution (.running .handling) with active := slots.active + 1 }
    else slots.checkRead number maxConcurrent slots.active execution
  | _ => slots

def pass : Slots :=
  match execution.phase with
  | .running stage =>
    match stage.next with
    | some next => slots.setPhase number execution (.running next)
    | none => slots
  | _ => slots

def finish : Slots :=
  match execution.phase with
  | .running _ => slots.release number execution .ended
  | _ => slots

/-- Without a lease a slot is not given back. -/
def unwind : Slots :=
  match execution.phase with
  | .running _ =>
    if execution.route.hasLease then slots.release number execution .ended
    else slots.setPhase number execution .ended
  | _ => slots

/-- A future is dropped where it waits: before another attempt, for the lock of the nonces, or for
the handler. -/
def drop : Slots :=
  match execution.phase with
  | .arrived => slots.setPhase number execution .ended
  | .running stage => if stage.waits then slots.unwind number execution else slots
  | _ => slots

def step (event : SlotEvent) : Slots :=
  let withExecution := fun (number : ℕ) (next : Execution → Slots) ↦
    match slots.executions[number]? with
    | none => slots
    | some execution => next execution
  match event with
  | .arrive route => { slots with executions := slots.executions ++ [⟨route, .arrived⟩] }
  | .attempt number cap => withExecution number (slots.attempt number cap)
  | .giveBack number inTime => withExecution number (slots.giveBack number inTime)
  | .load number maxConcurrent => withExecution number (slots.load number maxConcurrent)
  | .exchange number maxConcurrent => withExecution number (slots.exchange number maxConcurrent)
  | .pass number => withExecution number (slots.pass number)
  | .finish number => withExecution number (slots.finish number)
  | .unwind number => withExecution number (slots.unwind number)
  | .drop number => withExecution number (slots.drop number)

def idle : Slots := ⟨0, []⟩

def holders : ℕ := slots.executions.countP Execution.holdsSlot

/-- The number of refused attempts that have not yet taken their increment back. -/
def refusals : ℕ := slots.executions.countP Execution.isRefused

def owners : ℕ := slots.executions.countP Execution.ownsIncrement

end Slots

/-! ### Conservation -/

/-- The counter is the number of executions with a slot; so when all executions have ended it is
zero, and any capacity lets a new one in. -/
structure Conserved (slots : Slots) : Prop where
  counter : slots.active = slots.holders
  accepts : (∀ execution ∈ slots.executions, execution.phase = .ended) →
    slots.active = 0 ∧ ∀ cap, 0 < cap → slots.active < cap

/-- A refused attempt has not yet taken its increment back. -/
def InFlight (slots : Slots) : Prop :=
  ∃ execution ∈ slots.executions, execution.phase = .refusing

/-- The event ends an execution with a slot that is given back by hand: by a panic, or by dropping
its future where it waits. -/
def Leaks (slots : Slots) (event : SlotEvent) : Prop :=
  ∃ number execution stage, slots.executions[number]? = some execution ∧
    execution.phase = .running stage ∧ execution.route.hasLease = false ∧
    (event = .unwind number ∨ event = .drop number ∧ stage.waits = true)

/-! ### What an event can do -/

open Slots

section Change

variable {slots : Slots} {execution : Execution} {number maxConcurrent : ℕ}

/-- An event does nothing to the executions that are there, moves one without touching the counter,
gives it an increment, takes its increment back, or leaks its slot. -/
inductive Change (slots : Slots) (event : SlotEvent) : Slots → Prop where
  | nothing : Change slots event slots
  | arrive (route : Route) :
      Change slots event { slots with executions := slots.executions ++ [⟨route, .arrived⟩] }
  | move (number : ℕ) (execution : Execution) (phase : SlotPhase)
      (hexecution : slots.executions[number]? = some execution)
      (howns : { execution with phase := phase }.ownsIncrement = execution.ownsIncrement)
      (hholds : { execution with phase := phase }.holdsSlot = execution.holdsSlot) :
      Change slots event (slots.setPhase number execution phase)
  | claim (number : ℕ) (execution : Execution) (phase : SlotPhase)
      (hexecution : slots.executions[number]? = some execution)
      (hfree : execution.ownsIncrement = false ∧ execution.holdsSlot = false)
      (howns : { execution with phase := phase }.ownsIncrement = true)
      (hevent : (∃ maxConcurrent, event = .exchange number maxConcurrent) ∨
        ∃ cap, event = .attempt number cap ∧
          ({ execution with phase := phase }.holdsSlot = true ↔ slots.active < cap)) :
      Change slots event { slots.setPhase number execution phase with active := slots.active + 1 }
  | giveBack (number : ℕ) (execution : Execution) (phase : SlotPhase)
      (hexecution : slots.executions[number]? = some execution)
      (howned : execution.ownsIncrement = true)
      (hfree : { execution with phase := phase }.ownsIncrement = false ∧
        { execution with phase := phase }.holdsSlot = false) :
      Change slots event (slots.release number execution phase)
  | leak (number : ℕ) (execution : Execution)
      (hexecution : slots.executions[number]? = some execution)
      (howned : execution.ownsIncrement = true) (hleaks : Leaks slots event) :
      Change slots event (slots.setPhase number execution .ended)

section

variable (hexecution : slots.executions[number]? = some execution)

include hexecution

lemma change_attempt {cap : ℕ} :
    Change slots (.attempt number cap) (slots.attempt number cap execution) := by
  obtain ⟨route, phase⟩ := execution
  cases route with
  | task =>
    cases phase with
    | arrived =>
      by_cases hfree : slots.active < cap
      · simp only [attempt, if_pos hfree]
        exact .claim number _ _ hexecution ⟨rfl, rfl⟩ rfl (.inr ⟨cap, rfl, iff_of_true rfl hfree⟩)
      · simp only [attempt, if_neg hfree]
        exact .claim number _ _ hexecution ⟨rfl, rfl⟩ rfl
          (.inr ⟨cap, rfl, iff_of_false Bool.false_ne_true hfree⟩)
    | _ => exact .nothing
  | _ => exact .nothing

lemma change_giveBack {inTime : Bool} :
    Change slots (.giveBack number inTime) (slots.giveBack number inTime execution) := by
  obtain ⟨route, phase⟩ := execution
  cases route with
  | task =>
    cases phase with
    | refusing =>
      refine .giveBack number _ _ hexecution rfl ?_
      split_ifs <;> exact ⟨rfl, rfl⟩
    | _ => exact .nothing
  | _ => exact .nothing

/-- Without an increment the loop of a gate only moves on. -/
lemma change_checkRead {event : SlotEvent} {current : ℕ}
    (hfree : execution.ownsIncrement = false ∧ execution.holdsSlot = false) :
    Change slots event (slots.checkRead number maxConcurrent current execution) := by
  refine .move number execution _ hexecution ?_ ?_
  · rw [hfree.1]
    split_ifs <;> rfl
  · rw [hfree.2]
    split_ifs <;> rfl

lemma change_load :
    Change slots (.load number maxConcurrent) (slots.load number maxConcurrent execution) := by
  obtain ⟨route, phase⟩ := execution
  cases route with
  | task => exact .nothing
  | _ =>
    cases phase with
    | arrived => exact change_checkRead hexecution ⟨rfl, rfl⟩
    | _ => exact .nothing

lemma change_exchange :
    Change slots (.exchange number maxConcurrent)
      (slots.exchange number maxConcurrent execution) := by
  obtain ⟨_, phase⟩ := execution
  cases phase with
  | read =>
    simp only [exchange]
    split_ifs
    · exact .claim number _ _ hexecution ⟨rfl, rfl⟩ rfl (.inl ⟨maxConcurrent, rfl⟩)
    · exact change_checkRead hexecution ⟨rfl, rfl⟩
  | _ => exact .nothing

lemma change_pass : Change slots (.pass number) (slots.pass number execution) := by
  obtain ⟨_, phase⟩ := execution
  cases phase with
  | running =>
    simp only [Slots.pass]
    split
    · exact .move number _ _ hexecution rfl rfl
    · exact .nothing
  | _ => exact .nothing

lemma change_finish : Change slots (.finish number) (slots.finish number execution) := by
  obtain ⟨_, phase⟩ := execution
  cases phase with
  | running => exact .giveBack number _ _ hexecution rfl ⟨rfl, rfl⟩
  | _ => exact .nothing

/-- An execution with a slot is unwound, by the event itself or by a drop. -/
lemma change_unwind {event : SlotEvent} (hevent : ∀ stage, execution.phase = .running stage →
      event = .unwind number ∨ event = .drop number ∧ stage.waits) :
    Change slots event (slots.unwind number execution) := by
  obtain ⟨_, phase⟩ := execution
  cases phase with
  | running stage =>
    simp only [unwind]
    split_ifs with hlease
    · exact .giveBack number _ _ hexecution rfl ⟨rfl, rfl⟩
    · exact .leak number _ hexecution rfl
        ⟨number, _, stage, hexecution, rfl, by simpa using hlease, hevent stage rfl⟩
  | _ => exact .nothing

lemma change_drop : Change slots (.drop number) (slots.drop number execution) := by
  obtain ⟨_, phase⟩ := execution
  cases phase with
  | arrived => exact .move number _ _ hexecution rfl rfl
  | running =>
    simp only [drop]
    split_ifs with hwaits
    · refine change_unwind hexecution fun found hfound ↦ .inr ⟨rfl, ?_⟩
      rw [← SlotPhase.running.inj hfound]
      exact hwaits
    · exact .nothing
  | _ => exact .nothing

end

/-- Every event makes one of these changes. -/
lemma change_step (slots : Slots) (event : SlotEvent) : Change slots event (slots.step event) := by
  cases event with
  | arrive route => exact .arrive route
  | _ number =>
    dsimp only [step]
    cases hexecution : slots.executions[number]? with
    | none => exact .nothing
    | some =>
      dsimp only
      first
        | exact change_attempt hexecution
        | exact change_giveBack hexecution
        | exact change_load hexecution
        | exact change_exchange hexecution
        | exact change_pass hexecution
        | exact change_finish hexecution
        | exact change_drop hexecution
        | exact change_unwind hexecution fun _ _ ↦ .inl rfl

end Change

/-! ### Counting the executions -/

section Counting

variable {slots : Slots} {number : ℕ} {execution : Execution}

/-- A change of phase at one execution, seen by a count. -/
lemma countP_setPhase (test : Execution → Bool) (phase : SlotPhase)
    (hexecution : slots.executions[number]? = some execution) :
    (slots.setPhase number execution phase).executions.countP test + (test execution).toNat =
      slots.executions.countP test + (test { execution with phase := phase }).toNat := by
  obtain ⟨hrange, hfound⟩ := List.getElem?_eq_some_iff.mp hexecution
  have hcounted : (test execution).toNat ≤ slots.executions.countP test := by
    cases htest : test execution with
    | false => exact Nat.zero_le _
    | true => exact List.countP_pos_iff.mpr ⟨execution, List.mem_of_getElem? hexecution, htest⟩
  rw [setPhase, List.countP_set hrange, hfound]
  cases htest : test execution <;> cases test { execution with phase := phase } <;>
    simp only [htest, Bool.toNat_true, Bool.toNat_false, if_true, Bool.false_eq_true, if_false]
      at hcounted ⊢ <;> omega

/-- The increments are those of the slots and those of the refused attempts. -/
lemma owners_eq (slots : Slots) : slots.owners = slots.holders + slots.refusals := by
  obtain ⟨_, executions⟩ := slots
  dsimp only [owners, holders, refusals]
  induction executions with
  | nil => rfl
  | cons first rest ih =>
    rw [List.countP_cons, List.countP_cons, List.countP_cons, ih]
    obtain ⟨_, phase⟩ := first
    cases phase <;> simp [Execution.ownsIncrement, Execution.holdsSlot, Execution.isRefused] <;> omega

lemma refusals_eq_zero_iff (slots : Slots) : slots.refusals = 0 ↔ ¬ InFlight slots := by
  simp only [refusals, List.countP_eq_zero, InFlight, not_exists, not_and]
  refine forall₂_congr fun execution _ ↦ ?_
  obtain ⟨_, phase⟩ := execution
  cases phase <;> simp [Execution.isRefused]

/-- The equation of the counter gives all of the conservation. -/
lemma conserved_iff (slots : Slots) : Conserved slots ↔ slots.active = slots.holders := by
  refine ⟨Conserved.counter, fun hcounter ↦ ⟨hcounter, fun hended ↦ ?_⟩⟩
  have hnone : slots.holders = 0 := by
    refine List.countP_eq_zero.mpr fun execution hmem ↦ ?_
    rw [Execution.holdsSlot, hended execution hmem]
    exact Bool.false_ne_true
  rw [hcounter, hnone]
  exact ⟨rfl, fun cap hcap ↦ hcap⟩

/-- What the counter counts besides the increments stays the same. -/
lemma owners_of_change {event : SlotEvent} {next : Slots} (lost : ℕ)
    (hcounter : slots.active = slots.owners + lost) (hkept : ¬ Leaks slots event)
    (hchange : Change slots event next) : next.active = next.owners + lost := by
  cases hchange with
  | nothing => exact hcounter
  | arrive =>
    rw [owners, List.countP_append]
    exact hcounter
  | move number execution phase hexecution howns =>
    have hcount := countP_setPhase Execution.ownsIncrement phase hexecution
    rw [howns] at hcount
    exact hcounter.trans (congrArg (· + lost) (Nat.add_right_cancel hcount).symm)
  | claim number execution phase hexecution hfree howns =>
    have hcount := countP_setPhase Execution.ownsIncrement phase hexecution
    rw [hfree.1, howns] at hcount
    simp only [owners, Bool.toNat_true, Bool.toNat_false] at hcounter hcount ⊢
    omega
  | giveBack number execution phase hexecution howned hfree =>
    have hcount := countP_setPhase Execution.ownsIncrement phase hexecution
    rw [howned, hfree.1] at hcount
    simp only [owners, release, Bool.toNat_true, Bool.toNat_false] at hcounter hcount ⊢
    omega
  | leak number execution hexecution howned hleaks => exact absurd hleaks hkept

end Counting

/-- An execution that is unwound or dropped with a slot and without a lease only ends. -/
lemma step_of_leaks {slots : Slots} {event : SlotEvent} (hleaks : Leaks slots event) :
    ∃ number execution, slots.executions[number]? = some execution ∧
      execution.ownsIncrement ∧
      slots.step event = slots.setPhase number execution .ended := by
  obtain ⟨number, ⟨route, _⟩, stage, hexecution, rfl, hlease, hevent⟩ := hleaks
  have hunwind : slots.unwind number ⟨route, .running stage⟩ =
      slots.setPhase number ⟨route, .running stage⟩ .ended := by
    dsimp only at hlease
    simp only [unwind, hlease, Bool.false_eq_true, if_false]
  refine ⟨number, _, hexecution, rfl, ?_⟩
  obtain rfl | ⟨rfl, hwaits⟩ := hevent
  · simp only [step, hexecution, hunwind]
  · simp only [step, hexecution, drop, hwaits, if_true, hunwind]

/-- A leaked slot is counted, and nobody holds it. -/
lemma owners_of_leaks {slots : Slots} {event : SlotEvent} {lost : ℕ}
    (hcounter : slots.active = slots.owners + lost) (hleaks : Leaks slots event) :
    (slots.step event).active = (slots.step event).owners + (lost + 1) := by
  obtain ⟨number, execution, hexecution, howned, hstep⟩ := step_of_leaks hleaks
  have hcount := countP_setPhase Execution.ownsIncrement .ended hexecution
  rw [howned] at hcount
  have hless : (slots.setPhase number execution .ended).owners + 1 = slots.owners := hcount
  have hsame : (slots.setPhase number execution .ended).active = slots.active := rfl
  rw [hstep]
  omega

/-! ### The theorem -/

section Run

variable (events : List SlotEvent)

/-- A slot was leaked before a position of a run. -/
def LeakedBefore (position : ℕ) : Prop :=
  ∃ earlier event, earlier < position ∧ events[earlier]? = some event ∧
    Leaks (stateAt step .idle events earlier) event

lemma leakedBefore_succ (position : ℕ) :
    LeakedBefore events (position + 1) ↔ LeakedBefore events position ∨
      ∃ event, events[position]? = some event ∧
        Leaks (stateAt step .idle events position) event := by
  constructor
  · rintro ⟨earlier, event, hbefore, hleak⟩
    obtain hearlier | rfl := Nat.lt_succ_iff_lt_or_eq.mp hbefore
    · exact .inl ⟨earlier, event, hearlier, hleak⟩
    · exact .inr ⟨event, hleak⟩
  · rintro (⟨earlier, event, hbefore, hleak⟩ | ⟨event, hleak⟩)
    · exact ⟨earlier, event, Nat.lt_succ_of_lt hbefore, hleak⟩
    · exact ⟨position, event, position.lt_succ_self, hleak⟩

/-- Besides the increments the counter counts the leaked slots, and nothing else. -/
lemma active_stateAt (position : ℕ) :
    ∃ lost, (stateAt step .idle events position).active =
        (stateAt step .idle events position).owners + lost ∧
      (lost = 0 ↔ ¬ LeakedBefore events position) := by
  induction position with
  | zero => exact ⟨0, rfl, iff_of_true rfl fun ⟨_, _, hbefore, _⟩ ↦ Nat.not_lt_zero _ hbefore⟩
  | succ position ih =>
    obtain ⟨lost, hactive, hlost⟩ := ih
    rw [leakedBefore_succ]
    cases hevent : events[position]? with
    | none =>
      rw [stateAt_succ_of_none step hevent]
      exact ⟨lost, hactive, by simpa using hlost⟩
    | some event =>
      rw [stateAt_succ step hevent]
      by_cases hleaks : Leaks (stateAt step .idle events position) event
      · exact ⟨lost + 1, owners_of_leaks hactive hleaks, by simp [hleaks]⟩
      · exact ⟨lost, owners_of_change lost hactive hleaks (change_step _ event),
          by simpa [hleaks] using hlost⟩

end Run

/-- The counter is that of the executions with a slot at a moment of a run, whatever has arrived and
however executions have ended, exactly when no refused attempt is in flight at that moment and no
execution without a lease was unwound or dropped with a slot before. -/
theorem slots_conserved_iff (events : List SlotEvent) (position : ℕ) :
    Conserved (stateAt step .idle events position) ↔
      ¬ InFlight (stateAt step .idle events position) ∧ ¬ LeakedBefore events position := by
  obtain ⟨lost, hactive, hlost⟩ := active_stateAt events position
  rw [conserved_iff, ← refusals_eq_zero_iff, ← hlost, hactive, owners_eq]
  omega

/-- A task gets the only slot of a node and its client goes away while the handler runs. No
execution is in progress, the counter is one, and the next task is refused. -/
theorem disconnected_task_leaks :
    let events : List SlotEvent :=
      [.arrive (.task "interactive"), .attempt 0 1, .pass 0, .pass 0, .pass 0, .pass 0, .drop 0,
        .arrive (.task "interactive"), .attempt 1 1]
    stateAt step .idle events 7 = ⟨1, [⟨.task "interactive", .ended⟩]⟩ ∧
      ¬ Conserved (stateAt step .idle events 7) ∧
      stateAt step .idle events 9 =
        ⟨2, [⟨.task "interactive", .ended⟩, ⟨.task "interactive", .refusing⟩]⟩ := by
  refine ⟨by decide, fun hconserved ↦ ?_, by decide⟩
  have hzero := (hconserved.accepts (by decide)).1
  revert hzero
  decide

end Iicp.Node
