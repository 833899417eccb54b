import Iicp.Rust.Outcome
import Iicp.Rust.Json

/-!
# The client's check of a response sequence

A client accepts the responses of one streamed call in order. `NativeResponseSequence.accept` checks
that a response belongs to the call, carries the next sequence number, pairs its status with an
event of that status and is final exactly when the status is; `finish` asks for a final response.

`accept_eq_ok_iff` says which responses are accepted and what the sequence is then. The counter of
the sequence is a 64-bit value whose overflow is a panic.
-/

namespace Iicp.Native

open Rust

/-- The lifecycle part of a response. -/
structure NativeLifecycleEnvelope where
  taskId : String
  sequence : UInt64
  event : String
  isFinal : Bool
  deriving DecidableEq

/-- A decoded response of a streamed call. -/
structure NativeResponseFrame where
  (sessionId callId status : String)
  isFinal : Bool
  lifecycle : NativeLifecycleEnvelope
  result : Json
  error : Json
  tokensUsed : Option UInt64
  deriving DecidableEq

structure NativeResponseSequenceError where
  code : String
  deriving DecidableEq, Repr

/-- What the client keeps of the responses it has accepted. -/
structure NativeResponseSequence where
  (sessionId callId taskId : String)
  nextSequence : ℕ
  terminalSeen : Bool
  deriving DecidableEq

def statusMatches (status event : String) : Bool :=
  if status = "partial" then event == "partial"
  else if status = "success" then event == "completed"
  else if status = "error" then event == "failed" || event == "cancelled"
  else if status = "timeout" then event == "timed_out" || event == "expired"
  else false

namespace NativeResponseSequence

/-- The sequence of a call of which nothing has been received. -/
def new (sessionId callId taskId : String) : NativeResponseSequence :=
  ⟨sessionId, callId, taskId, 0, false⟩

def accept (self : NativeResponseSequence) (frame : NativeResponseFrame) :
    Outcome NativeResponseSequenceError NativeResponseSequence :=
  if self.terminalSeen then .err ⟨"response_after_terminal"⟩
  else if frame.sessionId ≠ self.sessionId then .err ⟨"session_id_drift"⟩
  else if frame.callId ≠ self.callId then .err ⟨"call_id_drift"⟩
  else if frame.lifecycle.taskId ≠ self.taskId then .err ⟨"task_id_drift"⟩
  else if frame.lifecycle.sequence.toNat ≠ self.nextSequence then .err ⟨"sequence_drift"⟩
  else if frame.isFinal ≠ frame.lifecycle.isFinal then .err ⟨"finality_disagreement"⟩
  else if !statusMatches frame.status frame.lifecycle.event then
    .err ⟨"status_event_disagreement"⟩
  else if (frame.status == "partial" && frame.isFinal) ||
      (frame.status != "partial" && !frame.isFinal) then .err ⟨"terminal_flag_mismatch"⟩
  else do
    let next ← addU64 self.nextSequence 1
    .ok { self with nextSequence := next, terminalSeen := frame.isFinal }

def finish (self : NativeResponseSequence) : Outcome NativeResponseSequenceError Unit :=
  if self.terminalSeen then .ok () else .err ⟨"missing_terminal_response"⟩

/-- A response that belongs at this place of this call, except that its event is left open: it has
the ids of the call, the next number, and a finality that agrees with its status. -/
structure Placed (state : NativeResponseSequence) (frame : NativeResponseFrame) : Prop where
  notEnded : state.terminalSeen = false
  sessionId : frame.sessionId = state.sessionId
  callId : frame.callId = state.callId
  taskId : frame.lifecycle.taskId = state.taskId
  sequence : frame.lifecycle.sequence.toNat = state.nextSequence
  lifecycleFinal : frame.lifecycle.isFinal = frame.isFinal
  isFinal : frame.isFinal = (frame.status != "partial")

variable {frame : NativeResponseFrame} {self : NativeResponseSequence}

/-- Assumes: a response at its place. What remains to be checked is its event and the room of the
counter. -/
lemma accept_of_placed (h : self.Placed frame) :
    self.accept frame =
      if statusMatches frame.status frame.lifecycle.event then do
        let next ← addU64 self.nextSequence 1
        .ok { self with nextSequence := next, terminalSeen := frame.isFinal }
      else .err ⟨"status_event_disagreement"⟩ := by
  have hflag : ¬ ((frame.status == "partial" && frame.isFinal) ||
      (frame.status != "partial" && !frame.isFinal)) := by
    rw [h.isFinal]
    cases hstatus : frame.status == "partial" <;> simp [bne, hstatus]
  have hopen : ¬ self.terminalSeen := by simp [h.notEnded]
  rw [accept, if_neg hopen, if_neg (not_not.mpr h.sessionId), if_neg (not_not.mpr h.callId),
    if_neg (not_not.mpr h.taskId), if_neg (not_not.mpr h.sequence),
    if_neg (not_not.mpr h.lifecycleFinal.symm), if_neg hflag]
  by_cases hevent : statusMatches frame.status frame.lifecycle.event
  · rw [if_neg (by simp [hevent]), if_pos hevent]
  · rw [if_pos (by simpa using hevent), if_neg hevent]

/-- Assumes: a response at its place. It is accepted exactly when its event is one of its status
and the counter has room. -/
lemma accept_eq_ok_iff (h : self.Placed frame) (next : NativeResponseSequence) :
    self.accept frame = .ok next ↔
      statusMatches frame.status frame.lifecycle.event ∧ self.nextSequence + 1 < 2 ^ 64 ∧
        next = { self with nextSequence := self.nextSequence + 1, terminalSeen := frame.isFinal } := by
  rw [accept_of_placed h]
  by_cases hevent : statusMatches frame.status frame.lifecycle.event
  · rw [if_pos hevent, and_iff_right hevent]
    by_cases hroom : self.nextSequence + 1 < 2 ^ 64
    · rw [addU64_of_lt hroom, Outcome.ok_bind, Outcome.ok.injEq, and_iff_right hroom, eq_comm]
    · rw [addU64_of_le (not_lt.mp hroom), Outcome.panicked_bind]
      exact ⟨nofun, fun hok ↦ absurd hok.1 hroom⟩
  · rw [if_neg hevent]
    exact ⟨nofun, fun hok ↦ absurd hok.1 hevent⟩

/-- A response that is accepted is at its place, and the sequence goes on after it. -/
lemma placed_of_accept {next : NativeResponseSequence} (haccept : self.accept frame = .ok next) :
    self.Placed frame ∧
      next = { self with nextSequence := self.nextSequence + 1, terminalSeen := frame.isFinal } := by
  have hplaced : self.Placed frame := by
    unfold accept at haccept
    split_ifs at haccept with hended hsession hcall htask hsequence hfinal hevent hflag
    refine ⟨by simpa using hended, not_not.mp hsession, not_not.mp hcall, not_not.mp htask,
      not_not.mp hsequence, (not_not.mp hfinal).symm, ?_⟩
    cases hstatus : frame.status == "partial" <;> simp_all [bne]
  exact ⟨hplaced, ((accept_eq_ok_iff hplaced next).mp haccept).2.2⟩

end NativeResponseSequence

end Iicp.Native
