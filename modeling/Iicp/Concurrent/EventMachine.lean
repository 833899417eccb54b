import Mathlib.Data.List.GetD
import Mathlib.Tactic

/-!
# Machines that are driven by events

A machine takes a state and an event to the next state. `runEvents` is the state after a list of
events, and `stateAt` the state before the event at a position, so that a statement about every
moment of a run is a statement about every position.

An invariant that every event keeps holds after every list of events (`runEvents_invariant`). Where
only some events keep it, `always_iff` says when a property holds at every moment: exactly when no
event of the run is bad, if the property follows from an invariant that the other events keep, and a
bad event breaks the property at once. `always_of_good` is one direction, and `always_from` is the
same from a position on.

`streamAt` is the state before an event of a run that never ends; a run in rounds of the same length
is described by what a round does (`streamAt_inRounds`).
-/

namespace Iicp.Concurrent

open List

variable {σ ε : Type} (step : σ → ε → σ) {position : ℕ}

def runEvents (start : σ) (events : List ε) : σ := events.foldl step start

lemma runEvents_append (start : σ) (first second : List ε) :
    runEvents step start (first ++ second) =
      runEvents step (runEvents step start first) second := List.foldl_append

/-- The state before the event at a position, which is the last state from the end on. -/
def stateAt (start : σ) (events : List ε) (position : ℕ) : σ :=
  runEvents step start (events.take position)

lemma stateAt_succ {start : σ} {events : List ε} {event : ε}
    (hevent : events[position]? = some event) :
    stateAt step start events (position + 1) =
      step (stateAt step start events position) event := by
  obtain ⟨_, rfl⟩ := List.getElem?_eq_some_iff.mp hevent
  rw [stateAt, stateAt, List.take_add_one, hevent, runEvents, List.foldl_append]
  rfl

lemma stateAt_succ_of_none {start : σ} {events : List ε} (hend : events[position]? = none) :
    stateAt step start events (position + 1) = stateAt step start events position := by
  rw [stateAt, stateAt, List.take_add_one, hend, Option.toList_none, append_nil]

variable {step}

/-- Assumes: every event keeps the invariant. It holds after every list of events. -/
lemma runEvents_invariant {invariant : σ → Prop}
    (hstep : ∀ state event, invariant state → invariant (step state event)) (events : List ε) :
    ∀ start, invariant start → invariant (runEvents step start events) := by
  induction events with
  | nil => intro start hstart; exact hstart
  | cons event rest ih => intro start hstart; exact ih _ (hstep start event hstart)

section Always

variable {start : σ} {events : List ε} {invariant : σ → Prop}

/-- Assumes: the events from a position on keep the invariant, and it holds there. It holds at every
later moment. -/
lemma always_from (hthen : invariant (stateAt step start events position))
    (hgood : ∀ later event, position ≤ later → events[later]? = some event →
      invariant (stateAt step start events later) →
      invariant (step (stateAt step start events later) event)) {later : ℕ}
    (hlater : position ≤ later) : invariant (stateAt step start events later) := by
  induction later, hlater using Nat.le_induction with
  | base => exact hthen
  | succ later hlater ih =>
    cases hevent : events[later]? with
    | none =>
      rw [stateAt_succ_of_none step hevent]
      exact ih
    | some event =>
      rw [stateAt_succ step hevent]
      exact hgood later event hlater hevent ih

/-- Assumes: the events of the run keep the invariant. It holds at every moment. -/
lemma always_of_good (hstart : invariant start)
    (hgood : ∀ position event, events[position]? = some event →
      invariant (stateAt step start events position) →
      invariant (step (stateAt step start events position) event)) (position : ℕ) :
    invariant (stateAt step start events position) :=
  always_from hstart (fun later event _ ↦ hgood later event) position.zero_le

/-- The property holds at every moment exactly when no event is bad. -/
lemma always_iff {property : σ → Prop} {bad : σ → ε → Prop} (hstart : invariant start)
    (hproperty : ∀ state, invariant state → property state)
    (hgood : ∀ position event, events[position]? = some event →
      invariant (stateAt step start events position) →
      ¬ bad (stateAt step start events position) event →
      invariant (step (stateAt step start events position) event))
    (hbad : ∀ position event, events[position]? = some event →
      invariant (stateAt step start events position) →
      bad (stateAt step start events position) event →
      ¬ property (step (stateAt step start events position) event)) :
    (∀ position, property (stateAt step start events position)) ↔
      ∀ position event, events[position]? = some event →
        ¬ bad (stateAt step start events position) event := by
  constructor
  · intro hholds
    have hfine : ∀ position event, events[position]? = some event →
        invariant (stateAt step start events position) →
        ¬ bad (stateAt step start events position) event := by
      intro position event hevent hinvariant hworse
      apply hbad position event hevent hinvariant hworse
      rw [← stateAt_succ step hevent]
      exact hholds (position + 1)
    intro position event hevent
    refine hfine position event hevent (always_of_good hstart ?_ position)
    exact fun earlier event hevent hinvariant ↦
      hgood earlier event hevent hinvariant (hfine earlier event hevent hinvariant)
  · intro hfine position
    exact hproperty _ (always_of_good hstart (fun earlier event hevent hinvariant ↦
        hgood earlier event hevent hinvariant (hfine earlier event hevent)) position)

end Always

/-! ### Runs without an end -/

section Streams

/-- The state before the event at a position of a run without an end. -/
def streamAt (step : σ → ε → σ) (start : σ) (events : ℕ → ε) : ℕ → σ
  | 0 => start
  | position + 1 => step (streamAt step start events position) (events position)

variable {start : σ} {events : ℕ → ε}

lemma streamAt_add (position count : ℕ) :
    streamAt step start events (position + count) =
      runEvents step (streamAt step start events position)
        ((range count).map fun offset ↦ events (position + offset)) := by
  induction count with
  | zero => rfl
  | succ count ih =>
    rw [range_succ, map_append, runEvents, List.foldl_append]
    exact congrArg (fun state ↦ step state (events (position + count))) ih

/-- Rounds of the same length, one after the other. -/
def inRounds (length : ℕ) (rounds : ℕ → List ε) (other : ε) (position : ℕ) : ε :=
  (rounds (position / length)).getD (position % length) other

lemma inRounds_mem {length : ℕ} {rounds : ℕ → List ε} (hpos : 0 < length)
    (hlength : ∀ round, (rounds round).length = length) (other : ε) (position : ℕ) :
    inRounds length rounds other position ∈ rounds (position / length) := by
  have hrange : position % length < (rounds (position / length)).length := by
    rw [hlength]
    exact Nat.mod_lt position hpos
  rw [inRounds, getD_eq_getElem _ _ hrange]
  exact getElem_mem hrange

/-- A round leads from its first moment to the first moment of the next round. -/
lemma streamAt_inRounds {length : ℕ} {rounds : ℕ → List ε}
    (hlength : ∀ round, (rounds round).length = length) (other : ε) (round : ℕ) :
    streamAt step start (inRounds length rounds other) (length * (round + 1)) =
      runEvents step (streamAt step start (inRounds length rounds other) (length * round))
        (rounds round) := by
  have hevents : (range length).map
      (fun offset ↦ inRounds length rounds other (length * round + offset)) = rounds round := by
    apply ext_getElem
    · rw [length_map, length_range, hlength]
    · intro offset hoffset hrange
      have hlt : offset < length := by rwa [hlength] at hrange
      have hround : (length * round + offset) / length = round := by
        rw [Nat.mul_add_div (by omega), Nat.div_eq_of_lt hlt, Nat.add_zero]
      have hplace : (length * round + offset) % length = offset := by
        rw [Nat.mul_add_mod, Nat.mod_eq_of_lt hlt]
      rw [getElem_map, getElem_range, inRounds, hround, hplace, getD_eq_getElem _ _ hrange]
  rw [Nat.mul_succ, streamAt_add, hevents]

end Streams

end Iicp.Concurrent
