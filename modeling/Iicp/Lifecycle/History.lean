import Iicp.Lifecycle.Record
import Iicp.Window.NumberedLog

/-!
# Task histories

The history of a task is what the port has emitted for its current record: `emitted` reads it off a
log of operations and answers. A submission that creates a record starts a new history with the
record's events, and a transition that succeeds adds its event; nothing else emits.

`History` states what a history of one task looks like: it starts in the accepted state, its events
are numbered from zero, carry the task's id and are final exactly in terminal states, and each state
leads to the next by a legal transition. Since no transition leaves a terminal state, only the last
event of a history can be final (`History.not_terminal_of_mem_dropLast`).
-/

namespace Iicp.Lifecycle

open Rust Concurrent Window List

/-! ### Reading a history off a log -/

/-- The history of a task after one more operation. -/
def emittedBy (taskId : String) (past : List LifecycleEvent) :
    LogEntry LifecyclePersistence → List LifecycleEvent
  | ⟨.submit task _ _ _, result⟩ =>
    match (result : Outcome LifecycleError (LifecycleRecord × Bool)) with
    | .ok (record, true) => if task = taskId then record.events else past
    | _ => past
  | ⟨.transition task _ _ _, result⟩ =>
    match (result : Outcome LifecycleError LifecycleEvent) with
    | .ok event => if task = taskId then past ++ [event] else past
    | _ => past
  | ⟨.status _ _, _⟩ => past

/-- The events emitted for a task since its record was created. -/
def emitted (taskId : String) (log : List (LogEntry LifecyclePersistence)) :
    List LifecycleEvent :=
  log.foldl (emittedBy taskId) []

lemma emitted_concat (taskId : String) (log : List (LogEntry LifecyclePersistence))
    (entry : LogEntry LifecyclePersistence) :
    emitted taskId (log ++ [entry]) = emittedBy taskId (emitted taskId log) entry := by
  simp only [emitted, foldl_append, foldl_cons, foldl_nil]

/-! ### Histories of one task -/

/-- The history of one task: numbered from zero, owned by the task, final exactly in terminal
states, starting as accepted and moving by legal transitions. -/
structure History (taskId : String) (log : List LifecycleEvent) : Prop where
  numbered : Numbered LifecycleEvent.sequence log
  owned : ∀ event ∈ log, event.taskId = taskId
  flagged : ∀ event ∈ log, event.isFinal = terminal event.state
  linked : log.IsChain fun first second ↦ legalTransition first.state second.state = true
  begins : ∃ event, log.head? = some event ∧ event.state = "accepted"

namespace History

variable {taskId : String} {log : List LifecycleEvent} {event last : LifecycleEvent}

lemma ne_nil (hlog : History taskId log) : log ≠ [] := by
  rintro rfl
  obtain ⟨_, hhead, _⟩ := hlog.begins
  simp at hhead

lemma singleton (htask : event.taskId = taskId) (hsequence : event.sequence = 0)
    (hstate : event.state = "accepted") (hfinal : event.isFinal = false) :
    History taskId [event] where
  numbered := numbered_singleton hsequence
  owned := by simpa using htask
  flagged := by
    intro other hother
    obtain rfl := mem_singleton.mp hother
    rw [hfinal, hstate]
    decide
  linked := isChain_singleton _
  begins := ⟨event, rfl, hstate⟩

/-- Assumes: an event with the next number, of the task, flagged by its state, and reached by a
legal transition from the last state. Adding it gives a history. -/
lemma concat (hlog : History taskId log) (hlast : log.getLast? = some last)
    (htask : event.taskId = taskId) (hsequence : event.sequence = log.length)
    (hfinal : event.isFinal = terminal event.state)
    (hlegal : legalTransition last.state event.state) : History taskId (log ++ [event]) where
  numbered := hlog.numbered.concat hsequence
  owned := by
    intro other hother
    rcases mem_append.mp hother with hold | hnew
    · exact hlog.owned other hold
    · obtain rfl := mem_singleton.mp hnew
      exact htask
  flagged := by
    intro other hother
    rcases mem_append.mp hother with hold | hnew
    · exact hlog.flagged other hold
    · obtain rfl := mem_singleton.mp hnew
      exact hfinal
  linked := by
    refine isChain_append.mpr ⟨hlog.linked, isChain_singleton _, ?_⟩
    intro first hfirst second hsecond
    rw [hlast] at hfirst
    obtain rfl := Option.some.inj hfirst
    obtain rfl := Option.some.inj hsecond
    exact hlegal
  begins := by
    obtain ⟨first, hhead, hstate⟩ := hlog.begins
    exact ⟨first, by rw [head?_append_of_ne_nil _ hlog.ne_nil, hhead], hstate⟩

/-- An event before the last one is in a state that some transition leaves. -/
lemma not_terminal_of_mem_dropLast (hlog : History taskId log) (hevent : event ∈ log.dropLast) :
    terminal event.state = false := by
  obtain ⟨i, hi, rfl⟩ := getElem_of_mem hevent
  rw [length_dropLast] at hi
  have hnext := isChain_iff_getElem.mp hlog.linked i (by omega)
  rw [getElem_dropLast]
  by_contra hterminal
  rw [Bool.not_eq_false] at hterminal
  rw [legalTransition_of_terminal hterminal] at hnext
  exact Bool.false_ne_true hnext

lemma state_cases (hlog : History taskId log) :
    ∀ (i : ℕ) (hi : i < log.length), log[i].state ∈ activeStates ∨ terminal log[i].state
  | 0, hi => by
    obtain ⟨_, hhead, hstate⟩ := hlog.begins
    rw [head?_eq_getElem?, List.getElem?_eq_getElem hi] at hhead
    obtain rfl := Option.some.inj hhead
    rw [hstate]
    exact .inl (by decide)
  | i + 1, hi => by
    have hnext := isChain_iff_getElem.mp hlog.linked i hi
    rcases hlog.state_cases i (by omega) with hactive | hterminal
    · exact legalTransition_active hactive hnext
    · rw [legalTransition_of_terminal hterminal] at hnext
      exact absurd hnext Bool.false_ne_true

lemma last_state_cases (hlog : History taskId log) (hlast : log.getLast? = some last) :
    last.state ∈ activeStates ∨ terminal last.state := by
  rw [getLast?_eq_getElem?] at hlast
  obtain ⟨h, rfl⟩ := List.getElem?_eq_some_iff.mp hlast
  exact hlog.state_cases _ h

/-- A history of an ended task has exactly one final event, and that of a running task none. -/
lemma countP_isFinal (hlog : History taskId log) (hlast : log.getLast? = some last) :
    log.countP (·.isFinal) = if terminal last.state then 1 else 0 := by
  have hsplit : log = log.dropLast ++ [last] := (dropLast_append_getLast? last hlast).symm
  have hearly : log.dropLast.countP (·.isFinal) = 0 := by
    rw [countP_eq_zero]
    intro event hevent
    rw [hlog.flagged event (mem_of_mem_dropLast hevent), hlog.not_terminal_of_mem_dropLast hevent]
    exact Bool.false_ne_true
  have hmember : last ∈ log := mem_of_getLast? hlast
  have hflag := hlog.flagged last hmember
  conv_lhs => rw [hsplit]
  rw [countP_append, hearly, countP_singleton, hflag, zero_add]

end History

end Iicp.Lifecycle
