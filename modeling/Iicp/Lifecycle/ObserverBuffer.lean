import Iicp.Lifecycle.Record
import Iicp.Window.NumberedLog

/-!
# The buffer from which observers read

A `BoundedObserverBuffer` keeps the last events that were published to it. An event is accepted when
its number is above that of the last one, and numbers may be left out. What is kept is a window of
all events accepted (`Follows`), and a reader whose cursor reaches the window gets all later ones.

An accepted event sets whether the buffer is closed, and `publish` does not look at it. So a final
event closes the buffer for good only if no event is accepted after it (`observer_window_iff`).
-/

namespace Iicp.Lifecycle

open Window List

structure ObserverLagged where
  earliestAvailable : ℕ
  latestSequence : ℕ
  deriving DecidableEq, Repr

structure BoundedObserverBuffer where
  capacity : ℕ
  maxObservers : ℕ
  events : List LifecycleEvent
  observers : Finset String
  closed : Bool

namespace BoundedObserverBuffer

def new (capacity maxObservers : ℕ) : BoundedObserverBuffer :=
  ⟨max capacity 1, max maxObservers 1, [], ∅, false⟩

variable (buffer : BoundedObserverBuffer)

def subscribe (observerId : String) : Except LifecycleError BoundedObserverBuffer :=
  if observerId ∉ buffer.observers ∧ buffer.maxObservers ≤ buffer.observers.card then
    .error (.conflict "observer capacity exhausted")
  else .ok { buffer with observers := insert observerId buffer.observers }

def disconnect (observerId : String) : BoundedObserverBuffer :=
  { buffer with observers := buffer.observers.erase observerId }

def publish (event : LifecycleEvent) : Except LifecycleError BoundedObserverBuffer :=
  if buffer.events.getLast?.any fun last ↦ event.sequence ≤ last.sequence then
    .error (.conflict "observer sequence must increase")
  else
    let events := buffer.events ++ [event]
    .ok { buffer with closed := event.isFinal, events := events.drop (events.length - buffer.capacity) }

def poll (afterSequence : ℕ) : Except ObserverLagged (List LifecycleEvent) :=
  let later := buffer.events.filter fun event ↦ afterSequence < event.sequence
  match buffer.events.head?, buffer.events.getLast? with
  | some first, some last =>
    if min (afterSequence + 1) (2 ^ 64 - 1) < first.sequence then
      .error ⟨first.sequence, last.sequence⟩
    else .ok later
  | _, _ => .ok later

end BoundedObserverBuffer

/-! ### Runs -/

inductive ObserverCall where
  | subscribe (observerId : String)
  | disconnect (observerId : String)
  | publish (event : LifecycleEvent)
  | poll (afterSequence : ℕ)

/-- One call, on the buffer and all events accepted before it. -/
def ObserverCall.step (run : BoundedObserverBuffer × List LifecycleEvent) :
    ObserverCall → BoundedObserverBuffer × List LifecycleEvent
  | .subscribe observerId =>
    match run.1.subscribe observerId with
    | .ok buffer => (buffer, run.2)
    | .error _ => run
  | .disconnect observerId => (run.1.disconnect observerId, run.2)
  | .publish event =>
    match run.1.publish event with
    | .ok buffer => (buffer, run.2 ++ [event])
    | .error _ => run
  | .poll _ => run

/-- The buffer after some calls, and the events accepted. -/
def observed (capacity maxObservers : ℕ) (calls : List ObserverCall) :
    BoundedObserverBuffer × List LifecycleEvent :=
  calls.foldl ObserverCall.step (.new capacity maxObservers, [])

/-- The buffer keeps a window of the accepted events, and is closed if the last of them is final. -/
structure Follows (bound observers : ℕ) (run : BoundedObserverBuffer × List LifecycleEvent) :
    Prop where
  capacity : run.1.capacity = bound
  maxObservers : run.1.maxObservers = observers
  observers : run.1.observers.card ≤ observers
  events : run.1.events = run.2.rtake bound
  increasing : run.2.Pairwise (·.sequence < ·.sequence)
  closed : run.1.closed = run.2.getLast?.any (·.isFinal)

open BoundedObserverBuffer

section Runs

variable {bound observers : ℕ} {run : BoundedObserverBuffer × List LifecycleEvent}

/-- Assumes: numbers that increase, and a number above the last. It is above all of them. -/
lemma pairwise_concat {accepted : List LifecycleEvent} {event : LifecycleEvent}
    (hincreasing : accepted.Pairwise (·.sequence < ·.sequence))
    (hlast : ∀ last ∈ accepted.getLast?, last.sequence < event.sequence) :
    (accepted ++ [event]).Pairwise (·.sequence < ·.sequence) := by
  refine pairwise_append.mpr ⟨hincreasing, pairwise_singleton _ _, ?_⟩
  intro earlier hearlier later hlater
  obtain rfl := mem_singleton.mp hlater
  cases hend : accepted.getLast? with
  | none =>
    rw [getLast?_eq_none_iff.mp hend] at hearlier
    cases hearlier
  | some last =>
    have hlt := hlast last hend
    obtain ⟨_, rfl⟩ := getLast?_eq_some_iff.mp hend
    obtain hmem | hmem := mem_append.mp hearlier
    · have hbefore := (pairwise_append.mp hincreasing).2.2 earlier hmem last
        (mem_singleton_self last)
      exact hbefore.trans hlt
    · rwa [mem_singleton.mp hmem]

lemma Follows.step (hbound : 0 < bound) (h : Follows bound observers run) (call : ObserverCall) :
    Follows bound observers (call.step run) := by
  cases call with
  | subscribe observerId =>
    simp only [ObserverCall.step, subscribe]
    split_ifs with hfull
    · exact h
    · refine { h with observers := ?_ }
      rw [h.maxObservers] at hfull
      by_cases hmem : observerId ∈ run.1.observers
      · simpa [hmem] using h.observers
      · rw [Finset.card_insert_of_notMem hmem]
        exact not_le.mp fun hle ↦ hfull ⟨hmem, hle⟩
  | disconnect =>
    exact { h with observers := (Finset.card_le_card (Finset.erase_subset _ _)).trans h.observers }
  | publish event =>
    simp only [ObserverCall.step, publish, h.events, h.capacity, getLast?_rtake hbound]
    split_ifs with hold
    · exact h
    · refine ⟨rfl, h.maxObservers, h.observers, ?_, ?_, by simp⟩
      · dsimp only
        rw [← drop_excess_rtake hbound event]
        split_ifs with hfull
        · rfl
        · rw [Nat.sub_eq_zero_of_le (not_lt.mp hfull), drop_zero]
      · exact pairwise_concat h.increasing fun last hlast ↦ by
          simpa [Option.mem_def.mp hlast] using hold
  | poll => exact h

lemma follows_observed (capacity maxObservers : ℕ) (calls : List ObserverCall) :
    Follows (max capacity 1) (max maxObservers 1) (observed capacity maxObservers calls) := by
  unfold observed
  induction calls using reverseRecOn with
  | nil => exact ⟨rfl, rfl, Nat.zero_le _, (rtake_nil _).symm, .nil, rfl⟩
  | append_singleton calls call ih =>
    rw [foldl_append]
    exact ih.step (by omega) call

/-- What a reader gets is all of the accepted events past its cursor: those that the window has lost
are numbered below its first event. -/
lemma Follows.poll_eq (hbound : 0 < bound) (h : Follows bound observers run) {afterSequence : ℕ}
    {later : List LifecycleEvent} (hpoll : run.1.poll afterSequence = .ok later) :
    later = run.2.filter fun event ↦ afterSequence < event.sequence := by
  have hsplit : run.2 = run.2.take (run.2.length - bound) ++ run.2.rtake bound :=
    (take_append_drop _ _).symm
  have hbefore := h.increasing
  rw [hsplit, pairwise_append] at hbefore
  cases hfirst : (run.2.rtake bound).head? with
  | none =>
    have hempty : run.2 = [] := by
      by_contra hne
      exact rtake_ne_nil hbound hne (head?_eq_none_iff.mp hfirst)
    simpa [poll, h.events, hempty, rtake] using hpoll.symm
  | some first =>
    have hkept : first ∈ run.2.rtake bound := mem_of_head? hfirst
    obtain ⟨_, hlast⟩ := Option.ne_none_iff_exists'.mp
      (mt getLast?_eq_none_iff.mp (ne_nil_of_mem hkept))
    simp only [poll, h.events, hfirst, hlast] at hpoll
    split_ifs at hpoll with hlagged
    have hlost : (run.2.take (run.2.length - bound)).filter
        (fun event ↦ afterSequence < event.sequence) = [] := by
      refine filter_eq_nil_iff.mpr fun event hevent ↦ ?_
      have hlt := hbefore.2.2 event hevent first hkept
      simp only [decide_eq_true_eq]
      omega
    rw [hsplit, filter_append, hlost, nil_append]
    exact (Except.ok.inj hpoll).symm

/-- A closed buffer stays closed and accepts nothing in a call exactly when the call offers no event
above the last one. -/
lemma Follows.closes_iff (hbound : 0 < bound) (h : Follows bound observers run)
    (hclosed : run.1.closed) (call : ObserverCall) :
    (call.step run).1.closed ∧ (call.step run).2 = run.2 ↔
      ∀ event, call = .publish event →
        ∃ last ∈ run.2.getLast?, event.sequence ≤ last.sequence := by
  cases call with
  | subscribe =>
    simp only [ObserverCall.step, subscribe]
    split_ifs <;> simp [hclosed]
  | disconnect => simp [ObserverCall.step, disconnect, hclosed]
  | publish =>
    simp only [ObserverCall.step, publish, h.events, getLast?_rtake hbound]
    split_ifs with hold
    · simpa [hclosed, Option.any_eq_true] using hold
    · simpa [Option.any_eq_true] using hold
  | poll => simp [ObserverCall.step, hclosed]

lemma accepted_grows (calls : List ObserverCall)
    (run : BoundedObserverBuffer × List LifecycleEvent) :
    run.2 <+: (calls.foldl ObserverCall.step run).2 := by
  induction calls generalizing run with
  | nil => exact prefix_rfl
  | cons call _ ih =>
    refine .trans ?_ (ih _)
    cases call with
    | subscribe | publish =>
      simp only [ObserverCall.step]
      split <;> simp
    | disconnect | poll => exact prefix_rfl

/-- A closed buffer stays closed and accepts nothing in a run exactly when the run offers no event
above the last one. -/
lemma Follows.closes_run_iff (hbound : 0 < bound) (h : Follows bound observers run)
    (hclosed : run.1.closed) (calls : List ObserverCall) :
    (calls.foldl ObserverCall.step run).1.closed ∧ (calls.foldl ObserverCall.step run).2 = run.2 ↔
      ∀ event, .publish event ∈ calls → ∃ last ∈ run.2.getLast?, event.sequence ≤ last.sequence := by
  induction calls generalizing run with
  | nil => simp [hclosed]
  | cons call rest ih =>
    have hcall := h.closes_iff hbound hclosed call
    have hnext := h.step hbound call
    rw [foldl_cons]
    constructor
    · rintro ⟨hend, hsame⟩
      have hprefix : (call.step run).2 <+: run.2 := hsame ▸ accepted_grows rest (call.step run)
      have hkept := hprefix.eq_of_length_le (accepted_grows [call] run).length_le
      have hstill : (call.step run).1.closed := by rw [hnext.closed, hkept, ← h.closed, hclosed]
      have hrest := (ih hnext hstill).mp ⟨hend, hsame.trans hkept.symm⟩
      intro event hmem
      obtain rfl | hmem := mem_cons.mp hmem
      · exact hcall.mp ⟨hstill, hkept⟩ event rfl
      · exact hkept ▸ hrest event hmem
    · intro hlow
      obtain ⟨hstill, hkept⟩ := hcall.mpr fun event hevent ↦ hlow event (hevent ▸ mem_cons_self)
      rw [← hkept]
      exact (ih hnext hstill).mpr fun event hmem ↦ hkept ▸ hlow event (mem_cons_of_mem _ hmem)

end Runs

/-- Whatever the calls, the buffer is a bounded window without gaps, and is closed when the last event
accepted is final. Later calls leave a closed buffer closed, and add no event, exactly when they do
not publish an event above the last one. -/
theorem observer_window_iff (capacity maxObservers : ℕ) (calls : List ObserverCall) :
    let run := observed capacity maxObservers calls
    run.1.events.Pairwise (·.sequence < ·.sequence) ∧ run.1.events.length ≤ max capacity 1 ∧
      run.1.observers.card ≤ max maxObservers 1 ∧
      (∀ afterSequence later, run.1.poll afterSequence = .ok later →
        later = run.2.filter fun event ↦ afterSequence < event.sequence) ∧
      run.1.closed = run.2.getLast?.any (·.isFinal) ∧
      ∀ later, run.1.closed →
        ((observed capacity maxObservers (calls ++ later)).1.closed ∧
            (observed capacity maxObservers (calls ++ later)).2 = run.2 ↔
          ∀ event, .publish event ∈ later →
            ∃ last ∈ run.2.getLast?, event.sequence ≤ last.sequence) := by
  have h := follows_observed capacity maxObservers calls
  have hbound : 0 < max capacity 1 := by omega
  refine ⟨?_, ?_, h.observers, fun _ _ hpoll ↦ h.poll_eq hbound hpoll, h.closed, ?_⟩
  · rw [h.events]
    exact h.increasing.sublist (drop_sublist _ _)
  · rw [h.events, length_rtake]
    exact min_le_left _ _
  · intro later hclosed
    rw [observed, foldl_append]
    exact h.closes_run_iff hbound hclosed later

/-- An event after the final one is accepted, and opens the buffer again. -/
theorem closed_buffer_reopened :
    let final : LifecycleEvent := ⟨"task", 0, "completed", true, 0, .null⟩
    let later : LifecycleEvent := ⟨"task", 1, "running", false, 0, .null⟩
    (observed 2 1 [.publish final]).1.closed ∧
      (observed 2 1 [.publish final, .publish later]).1.closed = false ∧
      (observed 2 1 [.publish final, .publish later]).2 = [final, later] :=
  ⟨rfl, rfl, rfl⟩

end Iicp.Lifecycle
