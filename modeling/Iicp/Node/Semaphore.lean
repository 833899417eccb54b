import Iicp.Node.Slots

/-!
# Admission over HTTP as a counting semaphore

A task claims a slot by adding one to the counter and taking it back if the counter was at the
capacity. Between the two operations the refused attempt is seen by every other attempt as if it
held a slot. A counting semaphore would never have more holders than the capacity, and refuse only
an attempt during which at some instant all slots were held (`Semaphore`).

The first half always holds (`holders_le`). The second half fails exactly if an attempt begins while
fewer tasks than the capacity hold a slot and the refused attempts that are not yet undone fill the
rest (`admission_semaphore_iff`). From then on its own increment keeps the last slot from everybody,
so that the slots do not fill up before it is undone (`holders_lt_during`).
-/

namespace Iicp.Node

open Concurrent Slots

/-! ### Runs of admission -/

/-- The events of calls of `admit` under a fixed capacity, and of completions. -/
def SlotEvent.isAdmission (capacity : ℕ) : SlotEvent → Bool
  | .arrive (.task _) => true
  | .attempt _ cap => cap == capacity
  | .giveBack _ _ => true
  | .pass _ => true
  | .finish _ => true
  | _ => false

/-- The call of `admit` with this number is before an attempt. -/
def Slots.Waits (slots : Slots) (number : ℕ) : Prop :=
  ∃ qos, slots.executions[number]? = some ⟨.task qos, .arrived⟩

/-- The attempt of the call with this number was refused and is not yet undone. -/
def Slots.IsRefusing (slots : Slots) (number : ℕ) : Prop :=
  ∃ qos, slots.executions[number]? = some ⟨.task qos, .refusing⟩

def moment (events : List SlotEvent) (position : ℕ) : Slots :=
  stateAt step .idle events position

def FailedAttempt (capacity : ℕ) (events : List SlotEvent) (position number : ℕ) : Prop :=
  events[position]? = some (.attempt number capacity) ∧ (moment events position).Waits number ∧
    (moment events (position + 1)).IsRefusing number

/-- The instants of a refused attempt: when it reads the counter, and then until it is undone. -/
def During (events : List SlotEvent) (position number instant : ℕ) : Prop :=
  position ≤ instant ∧
    ∀ later, position < later → later ≤ instant → (moment events later).IsRefusing number

/-- Admission in this run is that of a counting semaphore. -/
structure Semaphore (capacity : ℕ) (events : List SlotEvent) : Prop where
  bounded : ∀ position, (moment events position).holders ≤ capacity
  justified : ∀ position number, FailedAttempt capacity events position number →
    ∃ instant, During events position number instant ∧ capacity ≤ (moment events instant).holders

/-- An attempt begins while slots are free, and refused attempts that are not yet undone fill the
rest. -/
def Crowded (capacity : ℕ) (slots : Slots) (event : SlotEvent) : Prop :=
  ∃ number, event = .attempt number capacity ∧ slots.Waits number ∧
    slots.holders < capacity ∧ capacity ≤ slots.holders + slots.refusals

/-! ### Steps -/

section Steps

variable {capacity number : ℕ} {slots : Slots} {event : SlotEvent}

lemma not_leaks_of_isAdmission (hevent : event.isAdmission capacity) : ¬ Leaks slots event := by
  rintro ⟨_, _, _, -, -, -, rfl | ⟨rfl, -⟩⟩
  · nomatch hevent
  · nomatch hevent

/-- A count of holders only grows by an attempt that finds room. -/
lemma holders_of_change {next : Slots} (hevent : event.isAdmission capacity)
    (hchange : Change slots event next) :
    next.holders ≤ slots.holders ∨
      slots.active < capacity ∧ next.holders = slots.holders + 1 := by
  cases hchange with
  | nothing => exact .inl le_rfl
  | arrive =>
    left
    rw [holders, List.countP_append]
    exact le_rfl
  | move number execution phase hexecution howns hholds =>
    have hcount := countP_setPhase Execution.holdsSlot phase hexecution
    rw [hholds] at hcount
    exact .inl (Nat.add_right_cancel hcount).le
  | claim number execution phase hexecution hfree howns hclaims =>
    have hcount := countP_setPhase Execution.holdsSlot phase hexecution
    rw [hfree.2] at hcount
    obtain ⟨_, rfl⟩ | ⟨cap, rfl, hroom⟩ := hclaims
    · nomatch hevent
    have hcap : cap = capacity := eq_of_beq hevent
    cases hnow : { execution with phase := phase }.holdsSlot with
    | false =>
      rw [hnow] at hcount
      exact .inl (Nat.add_right_cancel hcount).le
    | true =>
      rw [hnow] at hcount
      exact .inr ⟨hcap ▸ hroom.mp hnow, hcount⟩
  | giveBack number execution phase hexecution howned hfree =>
    have hcount := countP_setPhase Execution.holdsSlot phase hexecution
    rw [hfree.2] at hcount
    exact .inl (Nat.le.intro hcount)
  | leak number execution hexecution howned hleaks =>
    exact absurd hleaks (not_leaks_of_isAdmission hevent)

lemma refusals_pos (hrefusing : slots.IsRefusing number) : 0 < slots.refusals := by
  obtain ⟨_, hexecution⟩ := hrefusing
  exact List.countP_pos_iff.mpr ⟨_, List.mem_of_getElem? hexecution, rfl⟩

/-- A call that waits finds, after its attempt, what the counter decided. -/
lemma executions_attempt {qos : String}
    (hwaits : slots.executions[number]? = some ⟨.task qos, .arrived⟩) :
    (slots.step (.attempt number capacity)).executions[number]? =
      some ⟨.task qos, if slots.active < capacity then .running .nonce else .refusing⟩ := by
  obtain ⟨hrange, -⟩ := List.getElem?_eq_some_iff.mp hwaits
  simp only [step, hwaits, attempt, setPhase]
  exact List.getElem?_set_self hrange

/-- An attempt is refused exactly if the counter is at the capacity. -/
lemma isRefusing_attempt_iff (hwaits : slots.Waits number) :
    (slots.step (.attempt number capacity)).IsRefusing number ↔ capacity ≤ slots.active := by
  obtain ⟨_, hexecution⟩ := hwaits
  unfold IsRefusing
  rw [executions_attempt hexecution]
  by_cases hroom : slots.active < capacity
  · simp [hroom]
  · simp [hroom, Nat.le_of_not_lt hroom]

end Steps

/-! ### Runs -/

section Runs

variable {capacity position : ℕ} {events : List SlotEvent}

lemma moment_succ {event : SlotEvent} (hevent : events[position]? = some event) :
    moment events (position + 1) = (moment events position).step event :=
  stateAt_succ step hevent

variable (hevents : ∀ event ∈ events, event.isAdmission capacity = true)

include hevents

/-- The counter is the number of holders and of refused attempts. -/
lemma active_moment (position : ℕ) :
    (moment events position).active =
      (moment events position).holders + (moment events position).refusals := by
  rw [← owners_eq]
  refine @always_of_good _ _ step .idle events (fun slots ↦ slots.active = slots.owners) rfl
    (fun earlier event hevent hcounter ↦ ?_) position
  exact owners_of_change 0 hcounter
    (not_leaks_of_isAdmission (hevents event (List.mem_of_getElem? hevent))) (change_step _ event)

lemma holders_le (position : ℕ) : (moment events position).holders ≤ capacity := by
  refine @always_of_good _ _ step .idle events (fun slots ↦ slots.holders ≤ capacity)
    (Nat.zero_le capacity) (fun earlier event hevent hbound ↦ ?_) position
  have hactive := active_moment hevents earlier
  obtain hfewer | ⟨hroom, hmore⟩ :=
    holders_of_change (hevents event (List.mem_of_getElem? hevent)) (change_step _ event)
  · exact hfewer.trans hbound
  · change (moment events earlier).active < capacity at hroom
    change _ = (moment events earlier).holders + 1 at hmore
    omega

/-- Assumes: an attempt begins while slots are free, and is refused. They do not fill up before the
attempt is undone. -/
lemma holders_lt_during {number : ℕ} (hfailed : FailedAttempt capacity events position number)
    (hfree : (moment events position).holders < capacity) (instant : ℕ)
    (hduring : During events position number instant) :
    (moment events instant).holders < capacity := by
  obtain ⟨hattempt, hwaits, hrefused⟩ := hfailed
  obtain ⟨hafter, hrefusing⟩ := hduring
  induction instant, hafter using Nat.le_induction with
  | base => exact hfree
  | succ instant hafter ih =>
    have hbefore := ih fun later hlater hle ↦ hrefusing later hlater (Nat.le_succ_of_le hle)
    cases hevent : events[instant]? with
    | none =>
      rw [moment, stateAt_succ_of_none step hevent]
      exact hbefore
    | some event =>
      rw [moment_succ hevent]
      obtain hfewer | ⟨hroom, hmore⟩ :=
        holders_of_change (hevents event (List.mem_of_getElem? hevent)) (change_step _ event)
      · exact lt_of_le_of_lt hfewer hbefore
      have hactive := active_moment hevents instant
      obtain rfl | hlater := hafter.eq_or_lt
      · rw [moment_succ hattempt] at hrefused
        have hfull := (isRefusing_attempt_iff hwaits).mp hrefused
        omega
      · have hown := refusals_pos (hrefusing instant hlater (Nat.le_succ instant))
        omega

/-- An attempt that is crowded out by attempts that are being refused is refused without need. -/
lemma not_semaphore_of_crowded {event : SlotEvent} (hevent : events[position]? = some event)
    (hcrowded : Crowded capacity (moment events position) event) : ¬ Semaphore capacity events := by
  intro hsemaphore
  obtain ⟨number, rfl, hwaits, hfree, hfull⟩ := hcrowded
  rw [← active_moment hevents] at hfull
  have hfailed : FailedAttempt capacity events position number := by
    refine ⟨hevent, hwaits, ?_⟩
    rw [moment_succ hevent]
    exact (isRefusing_attempt_iff hwaits).mpr hfull
  obtain ⟨instant, hduring, hheld⟩ := hsemaphore.justified position number hfailed
  exact absurd hheld (Nat.not_le.mpr (holders_lt_during hevents hfailed hfree instant hduring))

/-- Where no attempt is crowded out, a refused attempt begins while all slots are held. -/
lemma semaphore_of_not_crowded (hroom : ∀ position event, events[position]? = some event →
      ¬ Crowded capacity (moment events position) event) : Semaphore capacity events where
  bounded := holders_le hevents
  justified := by
    rintro position number ⟨hattempt, hwaits, hrefused⟩
    have hbegin : During events position number position :=
      ⟨le_rfl, fun later hlater hle ↦ absurd hle (Nat.not_le.mpr hlater)⟩
    refine ⟨position, hbegin, Nat.le_of_not_lt fun hfree ↦ ?_⟩
    apply hroom position _ hattempt
    refine ⟨number, rfl, hwaits, hfree, ?_⟩
    rw [← active_moment hevents]
    rw [moment_succ hattempt] at hrefused
    exact (isRefusing_attempt_iff hwaits).mp hrefused

end Runs

/-! ### The theorem -/

/-- Assumes: a run of calls of `admit`, of any class of service, and of completions under a fixed
capacity. Admission is that of a counting semaphore exactly when no attempt begins while slots are
free and attempts that are being refused fill the rest. -/
theorem admission_semaphore_iff (capacity : ℕ) (events : List SlotEvent)
    (hevents : ∀ event ∈ events, event.isAdmission capacity) :
    Semaphore capacity events ↔ ∀ position event, events[position]? = some event →
      ¬ Crowded capacity (moment events position) event := by
  constructor
  · intro hsemaphore position event hevent hcrowded
    exact not_semaphore_of_crowded hevents hevent hcrowded hsemaphore
  · exact semaphore_of_not_crowded hevents

/-- Two tasks share one slot: the second is refused while the first holds it, waits, and gets it. -/
def handover : List SlotEvent :=
  [.arrive (.task "best_effort"), .arrive (.task "interactive"), .attempt 0 1, .attempt 1 1,
    .giveBack 1 true, .finish 0, .attempt 1 1]

theorem handover_semaphore :
    (∀ event ∈ handover, event.isAdmission 1) ∧ FailedAttempt 1 handover 3 1 ∧
      Semaphore 1 handover ∧ (moment handover 7).holders = 1 := by
  have hevents : ∀ event ∈ handover, event.isAdmission 1 := by decide
  have hrefused : FailedAttempt 1 handover 3 1 :=
    ⟨by decide, ⟨"interactive", by decide⟩, ⟨"interactive", by decide⟩⟩
  have hroom : ∀ position < 7, ¬ ((moment handover position).holders < 1 ∧
      1 ≤ (moment handover position).holders + (moment handover position).refusals) := by decide
  refine ⟨hevents, hrefused, (admission_semaphore_iff 1 handover hevents).mpr ?_, by decide⟩
  rintro position _ hevent ⟨_, -, -, hfree, hfull⟩
  exact hroom position (List.getElem?_eq_some_iff.mp hevent).1 ⟨hfree, hfull⟩

/-- A task is refused while the only slot is held, and before it takes its increment back the holder
completes. Another task is now refused, and gives up, although nobody holds the slot. -/
def refusalOvertaken : List SlotEvent :=
  [.arrive (.task "best_effort"), .arrive (.task "best_effort"), .arrive (.task "best_effort"),
    .attempt 0 1, .attempt 1 1, .finish 0, .attempt 2 1, .giveBack 2 false, .giveBack 1 false]

theorem refused_without_holders :
    (∀ event ∈ refusalOvertaken, event.isAdmission 1) ∧ FailedAttempt 1 refusalOvertaken 6 2 ∧
      (∀ instant, 6 ≤ instant → (moment refusalOvertaken instant).holders = 0) ∧
      (moment refusalOvertaken 9).executions[2]? = some ⟨.task "best_effort", .ended⟩ ∧
      ¬ Semaphore 1 refusalOvertaken := by
  have hevents : ∀ event ∈ refusalOvertaken, event.isAdmission 1 := by decide
  have hwaits : (moment refusalOvertaken 6).Waits 2 := ⟨"best_effort", by decide⟩
  have hcrowded : Crowded 1 (moment refusalOvertaken 6) (.attempt 2 1) :=
    ⟨2, rfl, hwaits, by decide, by decide⟩
  refine ⟨hevents, ⟨by decide, hwaits, ⟨"best_effort", by decide⟩⟩, fun instant hafter ↦ ?_,
    by decide, not_semaphore_of_crowded hevents (by decide) hcrowded⟩
  let unheld (slots : Slots) : Prop := slots.holders = 0
  have hthen : unheld (moment refusalOvertaken 6) := by decide
  refine always_from hthen (fun instant event hafter hevent _ ↦ ?_) hafter
  have hrange : instant < 9 := (List.getElem?_eq_some_iff.mp hevent).1
  rw [← stateAt_succ step hevent]
  interval_cases instant <;> decide

end Iicp.Node
