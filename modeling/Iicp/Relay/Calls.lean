import Iicp.Relay.Stream

/-!
# Buffered calls through a relay

`forward_task` registers a one-time channel under the id of its call, sends the call to the worker,
and waits for the channel or a timeout. A response of the worker takes the channel out of the map
and sends the result through it. The future of a caller can also be dropped where it waits, when the
client of the relay goes away.

The model is a machine over the events of all callers and of the worker. Callers are counted in the
order in which they begin, and the map holds for an id the caller whose channel it is. Results are
always routed to their own callers (`calls_always_directed`), and the map holds exactly the calls
that wait, exactly if no caller is dropped while it waits (`calls_settled_iff`).
-/

namespace Iicp.Relay

open Concurrent List Option Rust

/-! ### Callers -/

inductive TaskResult where
  | ok (value : Json)
  | error (reason : String)
  deriving DecidableEq

/-- Where a caller is: registered and about to send, at its wait, returned, or dropped at its wait.
-/
inductive CallPhase where
  | sending
  | waiting
  | returned
  | dropped
  deriving DecidableEq, Repr

/-- A caller with the value in its channel and the results that it has received. -/
structure TaskCall where
  callId : String
  timeoutSecs : ℕ
  phase : CallPhase
  delivered : Option Json
  results : List TaskResult
  deriving DecidableEq

namespace TaskCall

variable (call : TaskCall)

def live : Bool :=
  match call.phase with
  | .sending => true
  | .waiting => true
  | _ => false

/-- The future has not ended, and no result was handed to it. -/
def isWaiting : Bool := call.live && call.delivered.isNone

def finish (result : TaskResult) : TaskCall :=
  { call with phase := .returned, results := call.results ++ [result] }

end TaskCall

/-- The calls of a session, with the responses of the worker so far. -/
structure RelayCalls where
  pending : HashMap String ℕ
  calls : List TaskCall
  responses : List (String × Json)

def RelayCalls.empty : RelayCalls := ⟨∅, [], []⟩

/-! ### Events -/

inductive CallEvent where
  | forwardTask (callId : String) (timeoutSecs : ℕ)
  | send (caller : ℕ) (sent : Bool)
  | onResponse (callId : String) (result : Json)
  | receive (caller : ℕ)
  | expire (caller : ℕ)
  | cancel (caller : ℕ)

namespace RelayCalls

variable (state : RelayCalls) (caller : ℕ) (call : TaskCall)

/-- The caller goes on, and its entry stays. -/
def setCall : RelayCalls :=
  { state with calls := state.calls.set caller call }

/-- The caller goes on, and the entry of its id is removed. -/
def settleCall : RelayCalls :=
  { state with
    pending := state.pending.erase call.callId
    calls := state.calls.set caller call }

def forwardTask (callId : String) (timeoutSecs : ℕ) : RelayCalls :=
  { state with
    pending := state.pending.insert callId state.calls.length
    calls := state.calls ++ [⟨callId, timeoutSecs, .sending, none, []⟩] }

/-- The call is sent to the worker, or the session is closed. -/
def sendCall (transport : Transport) (caller : ℕ) (call : TaskCall) (sent : Bool) : RelayCalls :=
  if call.phase = .sending then
    if sent then state.setCall caller { call with phase := .waiting }
    else state.settleCall caller (call.finish (.error transport.closed))
  else state

/-- A response takes the channel out of the map; the channel of a caller that has ended takes no
value. -/
def onResponse (callId : String) (result : Json) : RelayCalls :=
  let heard := { state with responses := state.responses ++ [(callId, result)] }
  match state.pending.lookup callId with
  | none => heard
  | some caller =>
    match state.calls[caller]? with
    | none => { heard with pending := state.pending.erase callId }
    | some call =>
      if call.live then
        { heard with
          pending := state.pending.erase callId
          calls := state.calls.set caller { call with delivered := some result } }
      else { heard with pending := state.pending.erase callId }

/-- The caller looks at its channel. Without a value the channel is closed if its sender is gone. -/
def receive : RelayCalls :=
  if call.phase = .waiting then
    match call.delivered with
    | some value => state.setCall caller (call.finish (.ok value))
    | none =>
      if state.pending.lookup call.callId = some caller then state
      else state.setCall caller (call.finish (.error "relay session closed"))
  else state

/-- The wait of the caller ends with a timeout. -/
def expire : RelayCalls :=
  if call.phase = .waiting then
    state.settleCall caller (call.finish (.error ("relay forward timeout (" ++
      toString call.timeoutSecs ++ "s) for call " ++ call.callId)))
  else state

/-- The future of the caller is dropped where it waits. -/
def cancel : RelayCalls :=
  if call.phase = .waiting then state.setCall caller { call with phase := .dropped } else state

end RelayCalls

def RelayCalls.step (transport : Transport) (state : RelayCalls) (event : CallEvent) : RelayCalls :=
  match event with
  | .forwardTask callId timeoutSecs => state.forwardTask callId timeoutSecs
  | .onResponse callId result => state.onResponse callId result
  | .send caller sent =>
    match state.calls[caller]? with
    | none => state
    | some call => state.sendCall transport caller call sent
  | .receive caller =>
    match state.calls[caller]? with
    | none => state
    | some call => state.receive caller call
  | .expire caller =>
    match state.calls[caller]? with
    | none => state
    | some call => state.expire caller call
  | .cancel caller =>
    match state.calls[caller]? with
    | none => state
    | some call => state.cancel caller call

/-! ### Routing and the map -/

/-- A caller has received at most one result, and a value only if it was the response to its own
call. -/
structure Routed (state : RelayCalls) (call : TaskCall) : Prop where
  once : call.results.length ≤ 1
  own : ∀ value, .ok value ∈ call.results → (call.callId, value) ∈ state.responses

/-- Results are routed to their callers, and the map holds exactly the calls that wait. -/
structure Settled (state : RelayCalls) : Prop where
  routed : ∀ call ∈ state.calls, Routed state call
  exact_pending : ∀ callId, callId ∈ state.pending ↔
    ∃ call ∈ state.calls, call.callId = callId ∧ call.isWaiting = true

/-- The event drops a caller at its wait, and no result was handed to it. -/
def Abandons (state : RelayCalls) (event : CallEvent) : Prop :=
  ∃ caller call, event = .cancel caller ∧ state.calls[caller]? = some call ∧
    call.phase = .waiting ∧ call.delivered = none

/-! ### The invariant -/

open TaskCall

/-- The map holds exactly the callers that wait, each under its id; what a caller has received, or
has in its channel, was a response to its call. -/
structure RelayCalls.Sound (state : RelayCalls) : Prop where
  distinct : (state.calls.map TaskCall.callId).Nodup
  entry : ∀ callId caller, state.pending.lookup callId = some caller →
    ∃ call, state.calls[caller]? = some call ∧ call.callId = callId ∧ call.isWaiting = true
  waiting : ∀ (caller : ℕ) (call : TaskCall), state.calls[caller]? = some call →
    call.isWaiting = true → state.pending.lookup call.callId = some caller
  delivered : ∀ call ∈ state.calls, ∀ value, call.delivered = some value →
    (call.callId, value) ∈ state.responses
  fresh : ∀ call ∈ state.calls, call.live = true → call.results = []
  routed : ∀ call ∈ state.calls, Routed state call

section Sound

variable {state after : RelayCalls} {caller : ℕ} {call : TaskCall}

lemma map_callId_set {calls : List TaskCall} {next : TaskCall}
    (hcall : calls[caller]? = some call) (hid : next.callId = call.callId) :
    (calls.set caller next).map TaskCall.callId = calls.map TaskCall.callId := by
  have hrange : caller < calls.length := (List.getElem?_eq_some_iff.mp hcall).1
  apply List.ext_getElem?
  intro position
  rw [List.getElem?_map, List.getElem?_map]
  by_cases hposition : position = caller
  · rw [hposition, List.getElem?_set_self hrange, hcall, map_some, map_some, hid]
  · rw [List.getElem?_set_ne (Ne.symm hposition)]

/-- More responses change nothing for those who have their results. -/
lemma Routed.mono (hrouted : Routed state call)
    (hresponses : state.responses ⊆ after.responses) : Routed after call :=
  ⟨hrouted.once, fun value hvalue ↦ hresponses (hrouted.own value hvalue)⟩

/-- A caller that has received nothing is given its one result. -/
lemma routed_finish (hfresh : call.results = []) {result : TaskResult}
    (hresult : ∀ value, result = .ok value → (call.callId, value) ∈ state.responses) :
    Routed state (call.finish result) := by
  constructor
  · simp [finish, hfresh]
  · intro value hvalue
    simp only [finish, hfresh, nil_append, mem_singleton] at hvalue
    exact hresult value hvalue.symm

variable (hsound : state.Sound) (hcall : state.calls[caller]? = some call)

include hsound hcall

/-- Two callers with one id are the same. -/
lemma RelayCalls.Sound.caller_unique {other : ℕ} {found : TaskCall}
    (hfound : state.calls[other]? = some found) (hsame : found.callId = call.callId) :
    other = caller := by
  have hrange : other < (state.calls.map TaskCall.callId).length := by
    rw [length_map]
    exact (List.getElem?_eq_some_iff.mp hfound).1
  apply (List.getElem?_inj hrange hsound.distinct).mp
  rw [List.getElem?_map, List.getElem?_map, hcall, hfound, map_some, map_some, hsame]

/-- The entry of a caller's id is the caller itself while it waits, and is not there otherwise. -/
lemma RelayCalls.Sound.own_entry :
    state.pending.lookup call.callId = if call.isWaiting then some caller else none := by
  split_ifs with hwaiting
  · exact hsound.waiting caller call hcall hwaiting
  · cases hlookup : state.pending.lookup call.callId with
    | none => rfl
    | some other =>
      obtain ⟨_, hfound, hid, hfoundWaits⟩ := hsound.entry call.callId other hlookup
      obtain rfl := hsound.caller_unique hcall hfound hid
      rw [hcall] at hfound
      exact absurd (some.inj hfound ▸ hfoundWaits) hwaiting

/-- Assumes: one caller goes on, and the entry of its id is there exactly if it waits then. The
state is sound again. -/
lemma RelayCalls.Sound.change (next : TaskCall) (hid : next.callId = call.callId)
    (hcalls : after.calls = state.calls.set caller next)
    (hresponses : state.responses ⊆ after.responses)
    (hothers : ∀ callId ≠ call.callId, after.pending.lookup callId = state.pending.lookup callId)
    (hown : after.pending.lookup call.callId = if next.isWaiting then some caller else none)
    (hdelivered : ∀ value, next.delivered = some value → (call.callId, value) ∈ after.responses)
    (hfresh : next.live → next.results = []) (hrouted : Routed after next) : after.Sound := by
  have hrange : caller < state.calls.length := (List.getElem?_eq_some_iff.mp hcall).1
  have hself : after.calls[caller]? = some next := by rw [hcalls, List.getElem?_set_self hrange]
  have hother : ∀ other ≠ caller, after.calls[other]? = state.calls[other]? := by
    intro other hother
    rw [hcalls, List.getElem?_set_ne (Ne.symm hother)]
  constructor
  · rw [hcalls, map_callId_set hcall hid]
    exact hsound.distinct
  · intro callId other hlookup
    by_cases hcallId : callId = call.callId
    · subst hcallId
      rw [hown] at hlookup
      split_ifs at hlookup with hwaiting
      obtain rfl := some.inj hlookup
      exact ⟨next, hself, hid, hwaiting⟩
    · rw [hothers callId hcallId] at hlookup
      obtain ⟨found, hfound, rfl, hwaiting⟩ := hsound.entry callId other hlookup
      have hne : other ≠ caller := by
        rintro rfl
        rw [hcall] at hfound
        exact hcallId (congrArg TaskCall.callId (some.inj hfound)).symm
      exact ⟨found, (hother other hne).trans hfound, rfl, hwaiting⟩
  · intro other found hfound hwaiting
    by_cases hne : other = caller
    · subst hne
      rw [hself] at hfound
      obtain rfl := some.inj hfound
      rw [hid, hown, if_pos hwaiting]
    · rw [hother other hne] at hfound
      have hcallId : found.callId ≠ call.callId := fun hsame ↦
        hne (hsound.caller_unique hcall hfound hsame)
      rw [hothers _ hcallId]
      exact hsound.waiting other found hfound hwaiting
  · intro found hfound value hvalue
    rw [hcalls] at hfound
    obtain hold | rfl := mem_or_eq_of_mem_set hfound
    · exact hresponses (hsound.delivered found hold value hvalue)
    · rw [hid]
      exact hdelivered value hvalue
  · intro found hfound hlive
    rw [hcalls] at hfound
    obtain hold | rfl := mem_or_eq_of_mem_set hfound
    · exact hsound.fresh found hold hlive
    · exact hfresh hlive
  · intro found hfound
    rw [hcalls] at hfound
    obtain hold | rfl := mem_or_eq_of_mem_set hfound
    · exact (hsound.routed found hold).mono hresponses
    · exact hrouted

/-- A caller returns an error and removes its entry. -/
lemma RelayCalls.Sound.settleCall (hlive : call.live) (reason : String) :
    (state.settleCall caller (call.finish (.error reason))).Sound := by
  have hmem : call ∈ state.calls := mem_of_getElem? hcall
  refine hsound.change hcall (call.finish (.error reason)) rfl rfl (Subset.refl _)
    (fun callId hother ↦ AList.lookup_erase_ne hother) (AList.lookup_erase _ _)
    (hsound.delivered call hmem) (by simp [finish, live]) ?_
  exact routed_finish (hsound.fresh call hmem hlive) (by simp)

/-- A caller that does not wait any more goes on without its entry. -/
lemma RelayCalls.Sound.setCall (next : TaskCall) (hid : next.callId = call.callId)
    (hsame : next.isWaiting = call.isWaiting)
    (hdelivered : next.delivered = call.delivered) (hfresh : next.live → next.results = [])
    (hrouted : Routed state next) : (state.setCall caller next).Sound := by
  refine hsound.change hcall next hid rfl (Subset.refl _) (fun _ _ ↦ rfl) ?_ ?_ hfresh
    ⟨hrouted.once, hrouted.own⟩
  · rw [hsame]
    exact hsound.own_entry hcall
  · rw [hdelivered]
    exact hsound.delivered call (mem_of_getElem? hcall)

omit hcall

lemma RelayCalls.Sound.forwardTask {callId : String}
    (hnew : callId ∉ state.calls.map TaskCall.callId) (timeoutSecs : ℕ) :
    (state.forwardTask callId timeoutSecs).Sound := by
  have hlast : (state.forwardTask callId timeoutSecs).calls[state.calls.length]? =
      some ⟨callId, timeoutSecs, .sending, none, []⟩ := by
    simp [RelayCalls.forwardTask]
  have hcases : ∀ call ∈ (state.forwardTask callId timeoutSecs).calls,
      call ∈ state.calls ∨ call = ⟨callId, timeoutSecs, .sending, none, []⟩ := by
    intro call hcall
    exact (mem_append.mp hcall).imp_right mem_singleton.mp
  constructor
  · rw [RelayCalls.forwardTask, map_append]
    exact Nodup.append hsound.distinct (nodup_singleton _) (by simpa using hnew)
  · intro other caller hlookup
    by_cases hsame : other = callId
    · subst hsame
      rw [RelayCalls.forwardTask, AList.lookup_insert] at hlookup
      obtain rfl := some.inj hlookup
      exact ⟨_, hlast, rfl, rfl⟩
    · rw [RelayCalls.forwardTask, AList.lookup_insert_ne hsame] at hlookup
      obtain ⟨found, hfound, hid, hwaiting⟩ := hsound.entry other caller hlookup
      refine ⟨found, ?_, hid, hwaiting⟩
      rw [RelayCalls.forwardTask, List.getElem?_append_left (List.getElem?_eq_some_iff.mp hfound).1]
      exact hfound
  · intro caller call hcall hwaiting
    by_cases hold : caller < state.calls.length
    · rw [RelayCalls.forwardTask, List.getElem?_append_left hold] at hcall
      have hother : call.callId ≠ callId := by
        rintro rfl
        exact hnew (mem_map_of_mem (mem_of_getElem? hcall))
      rw [RelayCalls.forwardTask, AList.lookup_insert_ne hother]
      exact hsound.waiting caller call hcall hwaiting
    · have hrange := (List.getElem?_eq_some_iff.mp hcall).1
      rw [RelayCalls.forwardTask, List.length_append, List.length_singleton] at hrange
      obtain rfl : caller = state.calls.length := by omega
      rw [hlast] at hcall
      obtain rfl := some.inj hcall
      exact AList.lookup_insert _
  · intro call hcall value hvalue
    obtain hold | rfl := hcases call hcall
    · exact hsound.delivered call hold value hvalue
    · nomatch hvalue
  · intro call hcall hlive
    obtain hold | rfl := hcases call hcall
    · exact hsound.fresh call hold hlive
    · rfl
  · intro call hcall
    obtain hold | rfl := hcases call hcall
    · exact ⟨(hsound.routed call hold).once, (hsound.routed call hold).own⟩
    · exact ⟨by simp, by simp⟩

lemma RelayCalls.Sound.onResponse (callId : String) (result : Json) :
    (state.onResponse callId result).Sound := by
  unfold RelayCalls.onResponse
  dsimp only
  split
  · have hmore : state.responses ⊆ state.responses ++ [(callId, result)] :=
      subset_append_left _ _
    exact ⟨hsound.distinct, hsound.entry, hsound.waiting,
      fun call hcall value hvalue ↦ hmore (hsound.delivered call hcall value hvalue),
      hsound.fresh, fun call hcall ↦ (hsound.routed call hcall).mono hmore⟩
  · rename_i caller hlookup
    obtain ⟨call, hcall, rfl, hwaiting⟩ := hsound.entry callId caller hlookup
    have hlive : call.live := (Bool.and_eq_true_iff.mp hwaiting).1
    have hmem := mem_of_getElem? hcall
    rw [hcall]
    dsimp only
    rw [if_pos hlive]
    refine hsound.change hcall { call with delivered := some result } rfl rfl
      (subset_append_left _ _)
      (fun other hother ↦ AList.lookup_erase_ne hother) ?_ ?_ (hsound.fresh call hmem) ?_
    · simp [isWaiting]
    · intro value hvalue
      obtain rfl := some.inj hvalue
      simp
    · exact ⟨(hsound.routed call hmem).once, fun value hvalue ↦
        mem_append_left _ ((hsound.routed call hmem).own value hvalue)⟩

end Sound

/-! ### Runs -/

section Runs

variable {state : RelayCalls} {caller : ℕ} {call : TaskCall} (transport : Transport)

lemma live_of_waiting (hphase : call.phase = .waiting) : call.live := by
  unfold live
  rw [hphase]

/-- An event keeps the state sound, if it begins no call with an id that was used and drops no
caller that waits. -/
lemma RelayCalls.Sound.step (hsound : state.Sound) {event : CallEvent}
    (hnew : ∀ callId timeoutSecs, event = .forwardTask callId timeoutSecs →
      callId ∉ state.calls.map TaskCall.callId) (hkept : ¬ Abandons state event) :
    (state.step transport event).Sound := by
  cases event with
  | forwardTask callId timeoutSecs =>
    exact hsound.forwardTask (hnew callId timeoutSecs rfl) timeoutSecs
  | onResponse callId result => exact hsound.onResponse callId result
  | send =>
    dsimp only [RelayCalls.step]
    split
    · exact hsound
    rename_i call hcall
    unfold sendCall
    split_ifs with hphase hsent
    · have hlive : call.live := by unfold live; rw [hphase]
      have hmem := mem_of_getElem? hcall
      refine hsound.setCall hcall { call with phase := .waiting } rfl ?_ rfl
        (fun _ ↦ hsound.fresh call hmem hlive) ?_
      · simp [isWaiting, live, hphase]
      · exact ⟨(hsound.routed call hmem).once, (hsound.routed call hmem).own⟩
    · exact hsound.settleCall hcall (by unfold live; rw [hphase]) _
    · exact hsound
  | receive caller =>
    dsimp only [RelayCalls.step]
    split
    · exact hsound
    rename_i call hcall
    have hmem := mem_of_getElem? hcall
    unfold receive
    by_cases hphase : call.phase = .waiting
    · rw [if_pos hphase]
      have hlive := live_of_waiting hphase
      cases hdelivered : call.delivered with
      | some value =>
        refine hsound.setCall hcall (call.finish (.ok value)) rfl ?_ rfl (by simp [finish, live]) ?_
        · simp [isWaiting, finish, live, hdelivered]
        · refine routed_finish (hsound.fresh call hmem hlive) ?_
          intro received hreceived
          obtain rfl := TaskResult.ok.inj hreceived
          exact hsound.delivered call hmem value hdelivered
      | none =>
        have hwaits : call.isWaiting := by simp [isWaiting, hlive, hdelivered]
        dsimp only
        rw [if_pos (hsound.waiting caller call hcall hwaits)]
        exact hsound
    · rw [if_neg hphase]
      exact hsound
  | expire =>
    dsimp only [RelayCalls.step]
    split
    · exact hsound
    rename_i call hcall
    unfold expire
    split_ifs with hphase
    · exact hsound.settleCall hcall (live_of_waiting hphase) _
    · exact hsound
  | cancel caller =>
    dsimp only [RelayCalls.step]
    split
    · exact hsound
    rename_i call hcall
    have hmem := mem_of_getElem? hcall
    unfold cancel
    split_ifs with hphase
    · obtain ⟨_, hdelivered⟩ := ne_none_iff_exists'.mp fun hnone ↦
        hkept ⟨caller, call, rfl, hcall, hphase, hnone⟩
      refine hsound.setCall hcall { call with phase := .dropped } rfl ?_ rfl (by simp [live]) ?_
      · simp [isWaiting, live, hdelivered]
      · exact ⟨(hsound.routed call hmem).once, (hsound.routed call hmem).own⟩
    · exact hsound

lemma settled_of_sound (hsound : state.Sound) : Settled state := by
  refine ⟨hsound.routed, fun callId ↦ ?_⟩
  rw [HashMap.mem_iff_lookup]
  constructor
  · rintro ⟨caller, hlookup⟩
    obtain ⟨call, hcall, hid, hwaiting⟩ := hsound.entry callId caller hlookup
    exact ⟨call, mem_of_getElem? hcall, hid, hwaiting⟩
  · rintro ⟨_, hcall, rfl, hwaiting⟩
    obtain ⟨caller, hrange, rfl⟩ := getElem_of_mem hcall
    exact ⟨caller, hsound.waiting caller _ (List.getElem?_eq_getElem hrange) hwaiting⟩

open RelayCalls

/-- The entry of a caller that is dropped while it waits stays. -/
lemma not_settled_of_abandons (hsound : state.Sound) {event : CallEvent}
    (habandons : Abandons state event) : ¬ Settled (state.step transport event) := by
  obtain ⟨caller, call, rfl, hcall, hphase, hdelivered⟩ := habandons
  have hwaits : call.isWaiting := by
    simp [isWaiting, live_of_waiting hphase, hdelivered]
  have hstep : state.step transport (.cancel caller) =
      state.setCall caller { call with phase := .dropped } := by
    simp [RelayCalls.step, cancel, hcall, hphase]
  rw [hstep]
  intro hsettled
  have hpending : call.callId ∈ state.pending :=
    HashMap.mem_iff_lookup.mpr ⟨caller, hsound.waiting caller call hcall hwaits⟩
  obtain ⟨_, hother, hid, hotherWaits⟩ := (hsettled.exact_pending call.callId).mp hpending
  obtain ⟨position, hposition⟩ := mem_iff_getElem?.mp hother
  by_cases hsame : position = caller
  · have hrange : caller < state.calls.length := (List.getElem?_eq_some_iff.mp hcall).1
    rw [hsame, setCall, List.getElem?_set_self hrange] at hposition
    obtain rfl := some.inj hposition
    simp [isWaiting, live] at hotherWaits
  · rw [setCall, List.getElem?_set_ne (Ne.symm hsame)] at hposition
    exact hsame (hsound.caller_unique hcall hposition hid)

def CallEvent.begun : CallEvent → Option String
  | forwardTask callId _ => some callId
  | _ => none

lemma map_callId_step (state : RelayCalls) (event : CallEvent) :
    (state.step transport event).calls.map TaskCall.callId =
      state.calls.map TaskCall.callId ++ event.begun.toList := by
  cases event with
  | forwardTask => simp [RelayCalls.step, forwardTask, CallEvent.begun]
  | onResponse =>
    refine Eq.trans ?_ (append_nil _).symm
    dsimp only [RelayCalls.step, onResponse]
    split
    · rfl
    · split
      · rfl
      · rename_i call hcall
        split_ifs
        · exact map_callId_set hcall rfl
        · rfl
  | send caller sent | receive caller | expire caller | cancel caller =>
    refine Eq.trans ?_ (append_nil _).symm
    dsimp only [RelayCalls.step]
    split
    · rfl
    · rename_i call hcall
      simp only [sendCall, receive, expire, cancel]
      repeat' split
      all_goals first | rfl | exact map_callId_set hcall rfl

/-- The ids of the callers are those of the calls that were begun. -/
lemma callIds_stateAt (events : List CallEvent) (position : ℕ) :
    (stateAt (RelayCalls.step transport) .empty events position).calls.map TaskCall.callId =
      (events.take position).filterMap CallEvent.begun := by
  induction position with
  | zero => rfl
  | succ position ih =>
    rw [take_add_one, filterMap_append, ← ih]
    cases hevent : events[position]? with
    | none =>
      rw [stateAt_succ_of_none _ hevent]
      simp
    | some event =>
      rw [stateAt_succ _ hevent, map_callId_step]
      cases hbegun : event.begun <;> simp [hbegun]

end Runs

/-- Assumes: the ids of the calls are distinct. At every moment of a run each caller has received at
most one result, which is a response to its own call, and the map holds exactly the calls that wait,
exactly if no caller is dropped while it waits. -/
theorem calls_settled_iff (transport : Transport) (events : List CallEvent)
    (hdistinct : (events.filterMap CallEvent.begun).Nodup) :
    (∀ position, Settled (stateAt (RelayCalls.step transport) .empty events position)) ↔
      ∀ position event, events[position]? = some event →
        ¬ Abandons (stateAt (RelayCalls.step transport) .empty events position) event := by
  have hstart : RelayCalls.empty.Sound := by
    constructor <;> simp [RelayCalls.empty]
  refine always_iff hstart (fun state ↦ settled_of_sound) ?_ ?_
  · intro position event hevent hsound hkept
    refine hsound.step transport ?_ hkept
    rintro callId _ rfl
    rw [callIds_stateAt]
    have hbegins : ((events.take (position + 1)).filterMap CallEvent.begun).Nodup :=
      hdistinct.sublist ((take_sublist _ _).filterMap _)
    rw [take_add_one, hevent, filterMap_append, nodup_append] at hbegins
    exact fun hmem ↦ hbegins.2.2 callId hmem callId (by simp [CallEvent.begun]) rfl
  · intro position event _ hsound habandons
    exact not_settled_of_abandons transport hsound habandons

/-- Two calls: the second is answered, twice, and the first has a timeout and then a late response.
-/
def answeredCalls : List CallEvent :=
  [.forwardTask "call-1" 120, .send 0 true, .forwardTask "call-2" 120, .send 1 true,
    .onResponse "call-2" (.bool true), .onResponse "call-2" (.bool false), .receive 1, .expire 0,
    .onResponse "call-1" .null]

theorem answeredCalls_settled :
    Settled (stateAt (RelayCalls.step .tcp) .empty answeredCalls answeredCalls.length) :=
  (calls_settled_iff .tcp answeredCalls (by decide)).mpr (by
    rintro _ _ hevent ⟨_, _, rfl, -⟩
    have hmem := mem_of_getElem? hevent
    simp [answeredCalls] at hmem) answeredCalls.length

/-- A caller is dropped while it waits: its entry stays, and nobody waits. -/
theorem dropped_call_pending :
    "call-1" ∈ (stateAt (RelayCalls.step .httpPoll) .empty
        [.forwardTask "call-1" 120, .send 0 true, .cancel 0] 3).pending ∧
      (stateAt (RelayCalls.step .httpPoll) .empty
        [.forwardTask "call-1" 120, .send 0 true, .cancel 0] 3).calls.map isWaiting =
          [false] ∧
      ¬ Settled (stateAt (RelayCalls.step .httpPoll) .empty
        [.forwardTask "call-1" 120, .send 0 true, .cancel 0] 3) := by
  have hpending : "call-1" ∈ (stateAt (RelayCalls.step .httpPoll) .empty
      [.forwardTask "call-1" 120, .send 0 true, .cancel 0] 3).pending := by decide
  have hcalls : (stateAt (RelayCalls.step .httpPoll) .empty
      [.forwardTask "call-1" 120, .send 0 true, .cancel 0] 3).calls =
        [⟨"call-1", 120, .dropped, none, []⟩] := by rfl
  refine ⟨hpending, by rw [hcalls]; rfl, fun hsettled ↦ ?_⟩
  obtain ⟨call, hcall, -, hwaiting⟩ := (hsettled.exact_pending "call-1").mp hpending
  rw [hcalls, mem_singleton] at hcall
  subst hcall
  nomatch hwaiting

/-! ### Routing in every run -/

/-- What a caller has in its channel or has received are responses to its own call, and its only
result comes when it ends. -/
structure TaskCall.Heard (responses : List (String × Json)) (call : TaskCall) : Prop where
  own : ∀ value, call.delivered = some value ∨ .ok value ∈ call.results →
    (call.callId, value) ∈ responses
  once : call.results.length ≤ 1
  fresh : call.live → call.results = []

/-- An entry of the map leads to a caller with its id, and callers hear nothing meant for others. -/
structure RelayCalls.Directed (state : RelayCalls) : Prop where
  entry : ∀ callId caller, state.pending.lookup callId = some caller →
    (state.calls.map TaskCall.callId)[caller]? = some callId
  heard : ∀ call ∈ state.calls, call.Heard state.responses

/-- Every event keeps the calls directed. -/
lemma RelayCalls.Directed.step {state : RelayCalls} (hstate : state.Directed)
    (transport : Transport) (event : CallEvent) : (state.step transport event).Directed := by
  constructor
  · intro callId caller hlookup
    have hentry := hstate.entry callId caller
    have herase : ∀ erased, (state.pending.erase erased).lookup callId = some caller →
        state.pending.lookup callId = some caller := by
      grind [AList.lookup_erase, AList.lookup_erase_ne]
    rw [map_callId_step]
    cases event with
    | forwardTask =>
      simp only [RelayCalls.step, forwardTask, CallEvent.begun] at hlookup ⊢
      grind [AList.lookup_insert, AList.lookup_insert_ne]
    | _ =>
      grind [RelayCalls.step, onResponse, sendCall, receive, expire, cancel, setCall, settleCall]
  · intro call hcall
    have hold := hstate.heard call
    cases event with
    | forwardTask =>
      obtain hbefore | hnew := mem_append.mp hcall
      · exact hold hbefore
      · rw [mem_singleton.mp hnew]
        exact ⟨by simp, by simp, by simp⟩
    | onResponse callId =>
      have hown := fun call hcall ↦ (hstate.heard call hcall).own
      have honce := fun call hcall ↦ (hstate.heard call hcall).once
      have hfresh := fun call hcall ↦ (hstate.heard call hcall).fresh
      -- the caller that the map names has the id of the response
      have hid : ∀ caller called, state.pending.lookup callId = some caller →
          state.calls[caller]? = some called → called.callId = callId := by
        intro caller called hlookup hcalled
        simpa [hcalled] using hstate.entry callId caller hlookup
      constructor <;> grind [RelayCalls.step, onResponse, live]
    | _ caller =>
      cases hcalled : state.calls[caller]? with
      | none => grind [RelayCalls.step]
      | some called =>
        have hheard := hstate.heard called (mem_of_getElem? hcalled)
        grind [RelayCalls.step, sendCall, receive, expire, cancel, setCall, settleCall, Heard,
          finish, live]

/-- At every moment of every run, also if ids come twice and callers that wait are dropped, no caller
hears a response to another id or a second result. -/
theorem calls_always_directed (transport : Transport) (events : List CallEvent) (position : ℕ) :
    (stateAt (RelayCalls.step transport) .empty events position).Directed :=
  always_of_good ⟨by simp [RelayCalls.empty], by simp [RelayCalls.empty]⟩
    (fun _ event _ hstate ↦ hstate.step transport event) position

end Iicp.Relay
