import Iicp.Concurrent.EventMachine
import Iicp.Native.ResponseSequence
import Iicp.Rust.HashMap
import Iicp.Window.NumberedLog

/-!
# Streamed calls through a relay

A relay forwards a streamed call to a worker and hands the worker's frames to the consumer of the
call. The two sides share a map of the pending streams, a channel of 32 places for each call, and a
slot for the reason of a failure. A delivery checks the frame under the lock of the map; when the
check fails or the channel is full, it records the reason and then removes the stream, with the lock
held. The consumer takes a recorded reason, waits for the channel, and at its end removes its
stream.

The events of the model are the steps that the two sides can take in any order. An event that needs
the lock does nothing while a delivery holds it. The ids of calls are distinct, so a call is known
by its id. A delivery that exhausts the 64-bit counter of a stream leaves the stream alone.
`stream_delivery_faithful` says what each consumer has got after every sequence of events.
-/

namespace Iicp.Relay

open Concurrent AList Native Rust Window

/-! ### Calls -/

def maxRelayStreamEvents : ℕ := 32

/-- What a consumer is given. -/
inductive RelayItem where
  | event (frame : NativeResponseFrame)
  | error (reason : String)
  deriving DecidableEq

/-- Where a consumer is: not polled yet, about to look for a failure, waiting for the channel, about
to read why the channel was closed, at its last item, or gone. -/
inductive Phase where
  | created
  | checking
  | waiting
  | reading
  | finishing
  | finished
  deriving DecidableEq, Repr

/-- The consumer's side of a call: its ids, whether the call was sent, the channel, the failure
slot, and what it has been given so far. -/
structure StreamCall where
  sessionId : String
  taskId : String
  timeoutSecs : ℕ
  sent : Bool
  buffer : List NativeResponseFrame
  failure : Option String
  phase : Phase
  items : List RelayItem
  deriving DecidableEq

/-- The two kinds of sessions. -/
inductive Transport where
  | tcp
  | httpPoll
  deriving DecidableEq, Repr

/-- What a consumer is told when its call could not be sent. -/
def Transport.closed : Transport → String
  | tcp => "relay session write channel closed"
  | httpPoll => "relay poll session closed"

/-- A delivery that has failed and holds the lock of the map, before or after it recorded the
reason. -/
structure FailedDelivery where
  callId : String
  reason : String
  recorded : Bool
  deriving DecidableEq, Repr

structure RelayStreams where
  streamPending : HashMap String NativeResponseSequence
  calls : HashMap String StreamCall
  holder : Option FailedDelivery

namespace StreamCall

def yield (call : StreamCall) (item : RelayItem) (phase : Phase) : StreamCall :=
  { call with items := call.items ++ [item], phase := phase }

end StreamCall

namespace RelayStreams

variable (streams : RelayStreams) (callId : String) (call : StreamCall)

def setCall : RelayStreams :=
  { streams with calls := streams.calls.insert callId call }

/-- The guard of a consumer removes its stream and the consumer is gone. -/
def dropGuard : RelayStreams :=
  { streams with
    streamPending := streams.streamPending.erase callId
    calls := streams.calls.insert callId { call with phase := .finished } }

def taskText (task : Json) (key callId : String) : String :=
  ((task.get key).bind Json.asStr).getD callId

def forwardStream (task : Json) (timeoutSecs : ℕ) (sent : Bool) : RelayStreams :=
  let taskId := taskText task "task_id" callId
  let sessionId := taskText task "session_id" callId
  { streams with
    streamPending := streams.streamPending.insert callId
      (NativeResponseSequence.new sessionId callId taskId)
    calls := streams.calls.insert callId
      ⟨sessionId, taskId, timeoutSecs, sent, [], none, .created, []⟩ }

/-- A frame of the worker. The channel takes it if there is a place and the consumer is there. -/
def deliverStreamEvent (event : NativeResponseFrame) : RelayStreams :=
  match streams.streamPending.lookup callId, streams.calls.lookup callId with
  | some sequence, some call =>
    match sequence.accept event with
    | .err error => { streams with holder := some ⟨callId, error.code, false⟩ }
    | .panicked => streams
    | .ok next =>
      if call.buffer.length < maxRelayStreamEvents ∧ call.phase ≠ .finished then
        { streams with
          streamPending := streams.streamPending.insert callId next
          calls := streams.calls.insert callId { call with buffer := call.buffer ++ [event] } }
      else { streams with holder := some ⟨callId, "relay_backpressure_exceeded", false⟩ }
  | _, _ => streams

/-- A delivery that has failed records the reason, then removes the stream and releases the lock. -/
def settle (delivery : FailedDelivery) : RelayStreams :=
  if delivery.recorded then
    { streams with streamPending := streams.streamPending.erase delivery.callId, holder := none }
  else
    match streams.calls.lookup delivery.callId with
    | none => { streams with holder := some { delivery with recorded := true } }
    | some call =>
      { streams.setCall delivery.callId { call with failure := some delivery.reason } with
        holder := some { delivery with recorded := true } }

def pollCall (transport : Transport) (callId : String) (call : StreamCall) : RelayStreams :=
  match call.phase with
  | .created =>
    if call.sent then streams.setCall callId { call with phase := .checking }
    else streams.setCall callId (call.yield (.error transport.closed) .finishing)
  | .checking =>
    match call.failure with
    | some reason =>
      streams.setCall callId ({ call with failure := none }.yield (.error reason) .finishing)
    | none => streams.setCall callId { call with phase := .waiting }
  | .waiting =>
    match call.buffer with
    | event :: rest =>
      streams.setCall callId ({ call with buffer := rest }.yield (.event event)
        (if event.isFinal then .finishing else .checking))
    | [] =>
      if callId ∈ streams.streamPending then streams
      else streams.setCall callId { call with phase := .reading }
  | .reading =>
    streams.setCall callId (call.yield
      (.error (call.failure.getD "relay stream closed before terminal")) .finishing)
  | .finishing => if streams.holder.isSome then streams else streams.dropGuard callId call
  | .finished => streams

/-- The wait of a consumer ends without a frame. -/
def expireCall : RelayStreams :=
  if call.phase = .waiting then
    streams.setCall callId (call.yield (.error ("relay stream timeout (" ++
      toString call.timeoutSecs ++ "s) for call " ++ callId)) .finishing)
  else streams

end RelayStreams

/-! ### Events -/

inductive StreamEvent where
  | forwardStream (callId : String) (task : Json) (timeoutSecs : ℕ) (sent : Bool)
  | onStreamResponse (callId : String) (event : NativeResponseFrame)
  | settle
  | poll (callId : String)
  | expire (callId : String)
  | drop (callId : String)

variable (transport : Transport)

/-- What an event does. A call, a frame and a drop need the lock of the map. -/
def RelayStreams.step (streams : RelayStreams) (event : StreamEvent) :
    RelayStreams :=
  match event with
  | .forwardStream callId task timeoutSecs sent =>
    if streams.holder.isSome then streams
    else streams.forwardStream callId task timeoutSecs sent
  | .onStreamResponse callId frame =>
    if streams.holder.isSome then streams else streams.deliverStreamEvent callId frame
  | .settle =>
    match streams.holder with
    | none => streams
    | some delivery => streams.settle delivery
  | .poll callId =>
    match streams.calls.lookup callId with
    | none => streams
    | some call => streams.pollCall transport callId call
  | .expire callId =>
    match streams.calls.lookup callId with
    | none => streams
    | some call => streams.expireCall callId call
  | .drop callId =>
    match streams.calls.lookup callId with
    | none => streams
    | some call => if streams.holder.isSome then streams else streams.dropGuard callId call

def RelayStreams.empty : RelayStreams := ⟨∅, ∅, none⟩

open RelayStreams

/-- The streams of a session after a sequence of events. -/
def RelayStreams.run (events : List StreamEvent) : RelayStreams :=
  runEvents (RelayStreams.step transport) .empty events

/-! ### What a consumer has got -/

def RelayItem.frame? : RelayItem → Option NativeResponseFrame
  | event frame => some frame
  | error _ => none

def frameNumber (frame : NativeResponseFrame) : ℕ := frame.lifecycle.sequence.toNat

/-- A frame is one of the call with these ids. -/
structure OfCall (callId : String) (call : StreamCall) (frame : NativeResponseFrame) : Prop where
  sessionId : frame.sessionId = call.sessionId
  callId : frame.callId = callId
  taskId : frame.lifecycle.taskId = call.taskId

/-- An item after which more can follow. -/
def RelayItem.Continues (item : RelayItem) : Prop :=
  ∃ frame, item = .event frame ∧ frame.isFinal = false

/-- A consumer has got frames of its own call that are numbered from zero without a gap; all items
but the last are frames that are not final; and once it has finished, its stream is not pending. -/
structure FaithfulPrefix (streams : RelayStreams) (callId : String) (call : StreamCall) : Prop where
  own : ∀ frame, .event frame ∈ call.items → OfCall callId call frame
  numbered : Numbered frameNumber (call.items.filterMap RelayItem.frame?)
  ends : ∀ item ∈ call.items.dropLast, item.Continues
  removed : call.phase = .finished → callId ∉ streams.streamPending

/-! ### The invariant of a call -/

/-- The frames that a call has accepted: those that its consumer has got, then those in the channel.
-/
def StreamCall.frames (call : StreamCall) : List NativeResponseFrame :=
  call.items.filterMap RelayItem.frame? ++ call.buffer

def Phase.isOpen : Phase → Bool
  | finishing => false
  | finished => false
  | _ => true

/-- The check of a pending stream has the ids of the call and expects the next frame. -/
structure Expects (callId : String) (call : StreamCall) (sequence : NativeResponseSequence) :
    Prop where
  sessionId : sequence.sessionId = call.sessionId
  callId : sequence.callId = callId
  taskId : sequence.taskId = call.taskId
  next : sequence.nextSequence = call.frames.length

structure StreamCall.Sound (callId : String) (entry : Option NativeResponseSequence)
    (call : StreamCall) : Prop where
  own : ∀ frame ∈ call.frames, OfCall callId call frame
  numbered : Numbered frameNumber call.frames
  ends : ∀ item ∈ call.items.dropLast, item.Continues
  more : call.phase.isOpen = true → ∀ item ∈ call.items, item.Continues
  expects : ∀ sequence, entry = some sequence → Expects callId call sequence
  gone : call.phase = .finished → entry = none

def RelayStreams.Sound (streams : RelayStreams) : Prop :=
  ∀ callId call, streams.calls.lookup callId = some call →
    call.Sound callId (streams.streamPending.lookup callId)

section Calls

variable {callId : String} {entry : Option NativeResponseSequence} {call : StreamCall}

open StreamCall

lemma sound_new (sessionId taskId : String) (timeoutSecs : ℕ) (sent : Bool) :
    Sound callId (some (NativeResponseSequence.new sessionId callId taskId))
      ⟨sessionId, taskId, timeoutSecs, sent, [], none, .created, []⟩ := by
  constructor
  · simp [frames]
  · intro number hnumber
    simp [frames] at hnumber
  · simp
  · simp
  · rintro _ hsequence
    obtain rfl := Option.some.inj hsequence
    exact ⟨rfl, rfl, rfl, rfl⟩
  · simp

section

variable (hsound : call.Sound callId entry)

include hsound

/-- A step of the consumer keeps the ids and the accepted frames, and may remove the entry. -/
lemma StreamCall.Sound.change {after : StreamCall} {left : Option NativeResponseSequence}
    (hsession : after.sessionId = call.sessionId) (htask : after.taskId = call.taskId)
    (hframes : after.frames = call.frames) (hends : ∀ item ∈ after.items.dropLast, item.Continues)
    (hmore : after.phase.isOpen → ∀ item ∈ after.items, item.Continues)
    (hleft : left = entry ∨ left = none) (hgone : after.phase = .finished → left = none) :
    after.Sound callId left := by
  refine ⟨?_, hframes ▸ hsound.numbered, hends, hmore, ?_, hgone⟩
  · intro frame hframe
    have hown := hsound.own frame (hframes ▸ hframe)
    exact ⟨hown.sessionId.trans hsession.symm, hown.callId, hown.taskId.trans htask.symm⟩
  · intro sequence hsequence
    obtain rfl | rfl := hleft
    · have hexpects := hsound.expects sequence hsequence
      exact ⟨hexpects.sessionId.trans hsession.symm, hexpects.callId,
        hexpects.taskId.trans htask.symm, hexpects.next.trans (congrArg List.length hframes).symm⟩
    · nomatch hsequence

variable (hopen : call.phase.isOpen = true)

include hopen

lemma StreamCall.Sound.proceed (phase : Phase) (hphase : phase ≠ .finished) :
    { call with phase := phase }.Sound callId entry :=
  hsound.change rfl rfl rfl hsound.ends (fun _ ↦ hsound.more hopen) (.inl rfl)
    fun hfinished ↦ absurd hfinished hphase

/-- The consumer is given an item, which is the first frame of the channel if it is a frame. -/
lemma StreamCall.Sound.yield {item : RelayItem} {phase : Phase}
    {buffer : List NativeResponseFrame} (hbuffer : call.buffer = item.frame?.toList ++ buffer)
    (hcontinues : phase.isOpen → item.Continues) (hphase : phase ≠ .finished)
    (failure : Option String) :
    ({ call with buffer := buffer, failure := failure }.yield item phase).Sound callId entry := by
  have hitems := hsound.more hopen
  refine hsound.change rfl rfl ?_ ?_ ?_ (.inl rfl) fun hfinished ↦ absurd hfinished hphase
  · simp only [StreamCall.yield, frames, hbuffer, List.filterMap_append,
      List.append_assoc]
    cases item <;> rfl
  · simpa [StreamCall.yield] using hitems
  · intro hphase other hother
    obtain hearlier | rfl := List.mem_append.mp hother |>.imp_right List.mem_singleton.mp
    · exact hitems other hearlier
    · exact hcontinues hphase

lemma StreamCall.Sound.fail (reason : String) (failure : Option String) :
    ({ call with failure := failure }.yield (.error reason) .finishing).Sound callId entry :=
  hsound.yield hopen rfl (by simp [Phase.isOpen]) (by simp) failure

end

/-- A frame that the check accepts goes into the channel. -/
lemma StreamCall.Sound.deliver {sequence next : NativeResponseSequence}
    {frame : NativeResponseFrame} (hsound : call.Sound callId (some sequence))
    (haccept : sequence.accept frame = .ok next) :
    { call with buffer := call.buffer ++ [frame] }.Sound callId (some next) := by
  obtain ⟨hplaced, rfl⟩ := NativeResponseSequence.placed_of_accept haccept
  have hexpects := hsound.expects sequence rfl
  have hframes : { call with buffer := call.buffer ++ [frame] }.frames = call.frames ++ [frame] := by
    simp [frames]
  refine ⟨?_, ?_, hsound.ends, hsound.more, ?_, fun hgone ↦ nomatch hsound.gone hgone⟩
  · intro other hother
    rw [hframes, List.mem_append, List.mem_singleton] at hother
    obtain hearlier | rfl := hother
    · have hown := hsound.own other hearlier
      exact ⟨hown.sessionId, hown.callId, hown.taskId⟩
    · exact ⟨hplaced.sessionId.trans hexpects.sessionId, hplaced.callId.trans hexpects.callId,
        hplaced.taskId.trans hexpects.taskId⟩
  · rw [hframes]
    exact hsound.numbered.concat (hplaced.sequence.trans hexpects.next)
  · intro other hother
    obtain rfl := Option.some.inj hother
    refine ⟨hexpects.sessionId, hexpects.callId, hexpects.taskId, ?_⟩
    rw [hframes, List.length_append, ← hexpects.next]
    rfl

end Calls

/-! ### Events keep the calls sound -/

section Steps

variable {streams after : RelayStreams} {callId : String}
variable (hsound : streams.Sound)

include hsound

/-- An event that concerns one call leaves the others sound. -/
lemma sound_of_others
    (hcalls : ∀ other ≠ callId, after.calls.lookup other = streams.calls.lookup other)
    (hpending : ∀ other ≠ callId,
      after.streamPending.lookup other = streams.streamPending.lookup other)
    (hown : ∀ call, after.calls.lookup callId = some call →
      call.Sound callId (after.streamPending.lookup callId)) : after.Sound := by
  intro other call hcall
  by_cases hother : other = callId
  · subst hother
    exact hown call hcall
  · rw [hpending other hother]
    exact hsound other call ((hcalls other hother).symm.trans hcall)

variable {call : StreamCall}

lemma sound_setCall (hcall : call.Sound callId (streams.streamPending.lookup callId)) :
    (streams.setCall callId call).Sound := by
  refine sound_of_others hsound (fun other hother ↦ lookup_insert_ne hother)
    (fun other _ ↦ rfl) fun found hfound ↦ ?_
  rw [setCall, lookup_insert] at hfound
  exact Option.some.inj hfound ▸ hcall

lemma sound_dropGuard (hcall : call.Sound callId (streams.streamPending.lookup callId)) :
    (streams.dropGuard callId call).Sound := by
  refine sound_of_others hsound (fun other hother ↦ lookup_insert_ne hother)
    (fun other hother ↦ lookup_erase_ne hother) fun found hfound ↦ ?_
  rw [dropGuard, lookup_insert] at hfound
  obtain rfl := Option.some.inj hfound
  have hnone : (streams.dropGuard callId call).streamPending.lookup callId = none :=
    lookup_erase _ _
  exact hcall.change rfl rfl rfl hcall.ends (by simp [Phase.isOpen]) (.inr hnone) fun _ ↦ hnone

lemma sound_forwardStream (task : Json) (timeoutSecs : ℕ) (sent : Bool) :
    (streams.forwardStream callId task timeoutSecs sent).Sound := by
  refine sound_of_others hsound (fun other hother ↦ lookup_insert_ne hother)
    (fun other hother ↦ lookup_insert_ne hother) fun found hfound ↦ ?_
  rw [forwardStream, lookup_insert] at hfound
  obtain rfl := Option.some.inj hfound
  rw [forwardStream, lookup_insert]
  exact sound_new _ _ _ _

lemma sound_deliverStreamEvent (event : NativeResponseFrame) :
    (streams.deliverStreamEvent callId event).Sound := by
  unfold deliverStreamEvent
  split
  · rename_i sequence call hpending hcall
    split
    · exact hsound
    · exact hsound
    · rename_i next haccept
      split_ifs
      · refine sound_of_others hsound (fun other hother ↦ lookup_insert_ne hother)
          (fun other hother ↦ lookup_insert_ne hother) fun found hfound ↦ ?_
        rw [lookup_insert] at hfound ⊢
        obtain rfl := Option.some.inj hfound
        have hold := hsound callId call hcall
        rw [hpending] at hold
        exact hold.deliver haccept
      · exact hsound
  · exact hsound

lemma sound_settle (delivery : FailedDelivery) : (streams.settle delivery).Sound := by
  unfold settle
  split_ifs
  · refine sound_of_others hsound (fun other _ ↦ rfl)
      (fun other hother ↦ lookup_erase_ne hother) fun call hcall ↦ ?_
    have hold := hsound delivery.callId call hcall
    rw [lookup_erase]
    exact hold.change rfl rfl rfl hold.ends hold.more (.inr rfl) fun _ ↦ rfl
  · split
    · exact hsound
    · rename_i call hcall
      have hold := hsound delivery.callId call hcall
      exact sound_setCall hsound (hold.change rfl rfl rfl hold.ends hold.more (.inl rfl) hold.gone)

lemma sound_pollCall (transport : Transport) (hcall : streams.calls.lookup callId = some call) :
    (streams.pollCall transport callId call).Sound := by
  have hold := hsound callId call hcall
  unfold pollCall
  cases hphase : call.phase with
  | created =>
    have hopen : call.phase.isOpen := by rw [hphase]; rfl
    dsimp only
    split_ifs
    · exact sound_setCall hsound (hold.proceed hopen .checking (by simp))
    · exact sound_setCall hsound (hold.fail hopen transport.closed call.failure)
  | checking =>
    have hopen : call.phase.isOpen := by rw [hphase]; rfl
    dsimp only
    split
    · exact sound_setCall hsound (hold.fail hopen _ none)
    · exact sound_setCall hsound (hold.proceed hopen .waiting (by simp))
  | waiting =>
    have hopen : call.phase.isOpen := by rw [hphase]; rfl
    dsimp only
    split
    · rename_i event rest hbuffer
      refine sound_setCall hsound (hold.yield hopen hbuffer ?_ ?_ _)
      · intro hcontinues
        cases hfinal : event.isFinal with
        | true => simp [hfinal, Phase.isOpen] at hcontinues
        | false => exact ⟨event, rfl, hfinal⟩
      · split_ifs <;> simp
    · split_ifs
      · exact hsound
      · exact sound_setCall hsound (hold.proceed hopen .reading (by simp))
  | reading =>
    have hopen : call.phase.isOpen := by rw [hphase]; rfl
    exact sound_setCall hsound (hold.fail hopen _ call.failure)
  | finishing =>
    dsimp only
    split_ifs
    · exact hsound
    · exact sound_dropGuard hsound hold
  | finished => exact hsound

lemma sound_expireCall (hcall : streams.calls.lookup callId = some call) :
    (streams.expireCall callId call).Sound := by
  unfold expireCall
  split_ifs with hwaiting
  · have hopen : call.phase.isOpen := by rw [hwaiting]; rfl
    exact sound_setCall hsound ((hsound callId call hcall).fail hopen _ call.failure)
  · exact hsound

end Steps

/-- Every event keeps the calls sound. -/
lemma sound_step {streams : RelayStreams} (hsound : streams.Sound)
    (event : StreamEvent) : (streams.step transport event).Sound := by
  cases event with
  | forwardStream callId task timeoutSecs sent =>
    dsimp only [step]
    split_ifs
    · exact hsound
    · exact sound_forwardStream hsound task timeoutSecs sent
  | onStreamResponse callId frame =>
    dsimp only [step]
    split_ifs
    · exact hsound
    · exact sound_deliverStreamEvent hsound frame
  | settle =>
    dsimp only [step]
    split
    · exact hsound
    · exact sound_settle hsound _
  | poll =>
    dsimp only [step]
    split
    · exact hsound
    · rename_i call hcall
      exact sound_pollCall hsound transport hcall
  | expire =>
    dsimp only [step]
    split
    · exact hsound
    · rename_i call hcall
      exact sound_expireCall hsound hcall
  | drop callId =>
    dsimp only [step]
    split
    · exact hsound
    · rename_i call hcall
      split_ifs
      · exact hsound
      · exact sound_dropGuard hsound (hsound callId call hcall)

lemma sound_run (events : List StreamEvent) : (run transport events).Sound := by
  have hstep : ∀ (streams : RelayStreams) (event : StreamEvent), streams.Sound →
      (streams.step transport event).Sound :=
    fun streams event hsound ↦ sound_step transport hsound event
  have hempty : empty.Sound := by
    intro callId call hcall
    nomatch hcall
  exact runEvents_invariant hstep events empty hempty

/-- After every sequence of events (calls, frames of any kind, polls, timeouts and drops, in any
order) each consumer has got a faithful part of its stream. -/
theorem stream_delivery_faithful (transport : Transport) (events : List StreamEvent)
    (callId : String) (call : StreamCall)
    (hcall : (run transport events).calls.lookup callId = some call) :
    FaithfulPrefix (run transport events) callId call := by
  have hsound := sound_run transport events callId call hcall
  refine ⟨?_, hsound.numbered.of_append, hsound.ends, ?_⟩
  · intro frame hframe
    refine hsound.own frame (List.mem_append_left _ (List.mem_filterMap.mpr ⟨_, hframe, rfl⟩))
  · intro hfinished
    rw [← lookup_eq_none]
    exact hsound.gone hfinished

/-- The frames of a call that a task names no ids for. -/
def partialFrame : NativeResponseFrame :=
  ⟨"call-1", "call-1", "partial", false, ⟨"call-1", 0, "partial", false⟩, .null, .null, none⟩

def lastFrame : NativeResponseFrame :=
  ⟨"call-1", "call-1", "success", true, ⟨"call-1", 1, "completed", true⟩, .null, .null, none⟩

/-- A call that is answered by two frames, with a frame of another call and one too many in between.
-/
theorem answered_stream_faithful :
    FaithfulPrefix (run .tcp
        [.forwardStream "call-1" (.object []) 120 true, .onStreamResponse "call-1" partialFrame,
          .poll "call-1", .onStreamResponse "call-2" lastFrame, .poll "call-1", .poll "call-1",
          .onStreamResponse "call-1" lastFrame, .poll "call-1", .poll "call-1",
          .onStreamResponse "call-1" lastFrame, .settle, .settle, .poll "call-1"])
      "call-1"
      ⟨"call-1", "call-1", 120, true, [], some "response_after_terminal", .finished,
        [.event partialFrame, .event lastFrame]⟩ :=
  stream_delivery_faithful .tcp _ "call-1" _ (by decide +kernel)

end Iicp.Relay
