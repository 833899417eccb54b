import Iicp.Node.Transports

/-!
# What a refused task leaves behind

A request for a task that is refused before the handler is called should leave the node as it was,
so that the corrected request can be sent again with its nonce and its task id. `Framed` is that
frame: the nonces and the task ids that the node remembers, and its counter of active jobs, are what
they were, apart from entries that have expired.

The route remembers the nonce before it looks at the task id, and both before it opens the envelope
and checks the demand for an encrypted answer. `refusal_framed_iff` says which refused requests
leave the frame: those that have passed the gates up to the replay of the nonce and come with a
nonce, or with a task id that the node registers. The slot is given back on all of these paths
(`guards_state`).
-/

namespace Iicp.Node

open Rust Serve Confidentiality Http

/-! ### The frame -/

def liveTaskIds (idempotency : IdempotencyGuard) (now : ℕ) : List (String × ℕ) :=
  idempotency.seen.filter fun entry ↦ now < entry.2

/-- The node is as before the request, apart from entries that expire. The counter of active jobs is
compared for a request that no other task gets in the way of while it waits. -/
structure Framed (world : Surroundings) (state later : AppState) : Prop where
  nonces : freshNonces later.nonceCache world.nonceInstant =
    freshNonces state.nonceCache world.nonceInstant
  taskIds : liveTaskIds later.idempotency world.idempotencyInstant =
    liveTaskIds state.idempotency world.idempotencyInstant
  jobs : (∀ poll ∈ world.polls, poll.activeJobs = state.activeJobs) →
    later.activeJobs = state.activeJobs
  resend : ∀ again request, world.nonceInstant ≤ again.nonceInstant →
    world.idempotencyInstant ≤ again.idempotencyInstant →
    (NonceFresh again later request ↔ NonceFresh again state request) ∧
      (TaskIdFresh again later request ↔ TaskIdFresh again state request)

/-- The guards remember something of the request: it comes with a new nonce, or without a nonce and
with a new task id. -/
def SpendsGuards (world : Surroundings) (state : AppState) (request : TaskRequest) : Prop :=
  NonceFresh world state request ∧ (request.nonce.isSome = true ∨
    state.enableIdempotency = true ∧ request.taskId ≠ "" ∧ 0 < state.idempotency.ttl ∧
      TaskIdFresh world state request)

/-- The request is not too long, passes the rate of its origin, the policy, the drain and the claim of
a slot, and the guards remember something of it. -/
def Spends (world : Surroundings) (headers : Headers) (state : AppState) (body : HttpBody) : Prop :=
  ∃ request, body.length ≤ maxHttpTaskBodyBytes ∧
    body.value.bind TaskRequest.deserialize = some request ∧
    (rateGate world headers state).1 = .ok () ∧
    permitsIntent state.allowToolExecution request.intent = true ∧
    drainAnswer state.backendStability world = .ok () ∧
    (admitSlot state world (qosClass request)).1 = true ∧ SpendsGuards world state request

/-! ### Remembered entries -/

section Live

variable (world : Surroundings) (cache : List (String × ℕ)) (idempotency : IdempotencyGuard)
  {now : ℕ}

lemma freshNonces_freshNonces {earlier : ℕ} (hle : earlier ≤ now) :
    freshNonces (freshNonces cache earlier) now = freshNonces cache now := by
  unfold freshNonces
  rw [List.filter_filter]
  refine List.filter_congr fun entry _ ↦ ?_
  have hage : (earlier - entry.2) / 10 ^ 9 ≤ (now - entry.2) / 10 ^ 9 :=
    Nat.div_le_div_right (by omega)
  by_cases hfresh : (now - entry.2) / 10 ^ 9 < nonceTtlSecs
  · simp only [hfresh, hage.trans_lt hfresh, decide_true, Bool.and_true]
  · simp only [hfresh, decide_false, Bool.false_and]

lemma liveTaskIds_filter (ttl : ℕ) {earlier : ℕ} (hle : earlier ≤ now) :
    liveTaskIds ⟨ttl, liveTaskIds idempotency earlier⟩ now = liveTaskIds idempotency now := by
  unfold liveTaskIds
  rw [List.filter_filter]
  refine List.filter_congr fun entry _ ↦ ?_
  by_cases hlive : now < entry.2
  · simp only [hlive, hle.trans_lt hlive, decide_true, Bool.and_true]
  · simp only [hlive, decide_false, Bool.false_and]

/-- A cache after the nonce of a request has been remembered. -/
def remember (nonce : Option String) : List (String × ℕ) :=
  match nonce with
  | none => cache
  | some nonce => (nonce, world.nonceInstant) :: freshNonces cache world.nonceInstant

/-- A remembered nonce is seen for some time. -/
lemma freshNonces_remember_iff (nonce : Option String) :
    freshNonces (remember world cache nonce) world.nonceInstant =
      freshNonces cache world.nonceInstant ↔ ¬ nonce.isSome := by
  cases nonce with
  | none => simp [remember]
  | some nonce =>
    have hlonger : freshNonces (remember world cache (some nonce)) world.nonceInstant =
        (nonce, world.nonceInstant) :: freshNonces cache world.nonceInstant := by
      rw [remember, freshNonces, List.filter_cons_of_pos (by simp [nonceTtlSecs])]
      exact congrArg _ (freshNonces_freshNonces cache le_rfl)
    rw [hlonger]
    exact iff_of_false (List.cons_ne_self _ _) (fun hnone ↦ hnone rfl)

/-- A task id is new if it is empty or not remembered. -/
lemma checkAndRegister_fst (taskId : String) (now : ℕ) :
    (checkAndRegister idempotency taskId now).1 ↔
      taskId = "" ∨ taskId ∉ (liveTaskIds idempotency now).map Prod.fst := by
  unfold checkAndRegister liveTaskIds
  dsimp only
  split_ifs with hempty hseen
  · exact iff_of_true rfl (.inl hempty)
  · exact iff_of_false id (not_or.mpr ⟨hempty, fun hnew ↦ hnew hseen⟩)
  · exact iff_of_true rfl (.inr hseen)

lemma checkAndRegister_of_seen {taskId : String}
    (hseen : ¬ (checkAndRegister idempotency taskId now).1) :
    checkAndRegister idempotency taskId now =
      (false, ⟨idempotency.ttl, liveTaskIds idempotency now⟩) := by
  rw [checkAndRegister_fst, not_or, not_not] at hseen
  unfold checkAndRegister
  rw [if_neg hseen.1]
  exact if_pos hseen.2

/-- A new task id is remembered unless it is empty or remembered for no time. -/
lemma liveTaskIds_register_iff {taskId : String}
    (hnew : (checkAndRegister idempotency taskId now).1) :
    liveTaskIds (checkAndRegister idempotency taskId now).2 now = liveTaskIds idempotency now ↔
      ¬ (taskId ≠ "" ∧ 0 < idempotency.ttl) := by
  by_cases hempty : taskId = ""
  · simp [checkAndRegister, hempty]
  have hfresh := ((checkAndRegister_fst idempotency taskId now).mp hnew).resolve_left hempty
  have hafter : (checkAndRegister idempotency taskId now).2 =
      ⟨idempotency.ttl, (taskId, now + idempotency.ttl) :: liveTaskIds idempotency now⟩ := by
    unfold checkAndRegister
    rw [if_neg hempty]
    exact congrArg Prod.snd (if_neg hfresh)
  rw [hafter]
  by_cases hlasts : 0 < idempotency.ttl
  · have hlonger : liveTaskIds ⟨idempotency.ttl,
        (taskId, now + idempotency.ttl) :: liveTaskIds idempotency now⟩ now =
          (taskId, now + idempotency.ttl) :: liveTaskIds idempotency now := by
      rw [liveTaskIds, List.filter_cons_of_pos (by simpa using hlasts)]
      exact congrArg _ (liveTaskIds_filter idempotency idempotency.ttl le_rfl)
    rw [hlonger]
    exact iff_of_false (List.cons_ne_self _ _) (fun hnone ↦ hnone ⟨hempty, hlasts⟩)
  · refine iff_of_true ?_ (fun hspent ↦ hlasts hspent.2)
    rw [liveTaskIds, List.filter_cons_of_neg (by simpa using hlasts)]
    exact liveTaskIds_filter idempotency idempotency.ttl le_rfl

end Live

variable {world : Surroundings} {state later : AppState} {headers : Headers} {refusal : Refusal}

lemma framed_iff (henabled : later.enableIdempotency = state.enableIdempotency)
    (hjobs : (∀ poll ∈ world.polls, poll.activeJobs = state.activeJobs) →
      later.activeJobs = state.activeJobs) :
    Framed world state later ↔
      freshNonces later.nonceCache world.nonceInstant =
        freshNonces state.nonceCache world.nonceInstant ∧
      liveTaskIds later.idempotency world.idempotencyInstant =
        liveTaskIds state.idempotency world.idempotencyInstant := by
  refine ⟨fun hframed ↦ ⟨hframed.nonces, hframed.taskIds⟩, fun ⟨hnonces, hids⟩ ↦ ?_⟩
  refine ⟨hnonces, hids, hjobs, fun again request hnonce hid ↦ ⟨?_, ?_⟩⟩
  · unfold NonceFresh
    rw [← freshNonces_freshNonces later.nonceCache hnonce, hnonces,
      freshNonces_freshNonces state.nonceCache hnonce]
  · unfold TaskIdFresh
    rw [checkAndRegister_fst, checkAndRegister_fst, henabled,
      ← liveTaskIds_filter later.idempotency 0 hid, hids,
      liveTaskIds_filter state.idempotency 0 hid]

lemma framed_refl (henabled : later.enableIdempotency = state.enableIdempotency)
    (hnonces : later.nonceCache = state.nonceCache) (hids : later.idempotency = state.idempotency)
    (hjobs : (∀ poll ∈ world.polls, poll.activeJobs = state.activeJobs) →
      later.activeJobs = state.activeJobs) : Framed world state later :=
  (framed_iff henabled hjobs).mpr ⟨by rw [hnonces], by rw [hids]⟩

/-! ### What the guards leave -/

section Guards

variable (world : Surroundings) {state : AppState} {request : TaskRequest}

lemma nonceGate_of_fresh (hfresh : NonceFresh world state request) :
    (nonceGate world request.nonce state).2 =
      { state with nonceCache := remember world state.nonceCache request.nonce } := by
  unfold nonceGate remember
  cases hnonce : request.nonce with
  | none => rfl
  | some nonce =>
    dsimp only
    rw [if_neg (hfresh nonce hnonce)]

lemma nonceGate_of_seen (hseen : ¬ NonceFresh world state request) :
    (nonceGate world request.nonce state).2 =
      { state with
        nonceCache := freshNonces state.nonceCache world.nonceInstant
        activeJobs := state.activeJobs - 1 } := by
  unfold NonceFresh at hseen
  push Not at hseen
  obtain ⟨_, hnonce, hfound⟩ := hseen
  rw [Option.mem_def.mp hnonce]
  exact congrArg Prod.snd (if_pos hfound)

lemma idempotencyGate_of_fresh (hfresh : TaskIdFresh world state request) :
    (idempotencyGate world request.taskId state).2 =
      { state with
        idempotency :=
          if state.enableIdempotency then
            (checkAndRegister state.idempotency request.taskId world.idempotencyInstant).2
          else state.idempotency } := by
  unfold idempotencyGate
  by_cases henabled : state.enableIdempotency
  · have hnew := hfresh henabled
    rw [if_pos henabled, if_neg (by simpa using henabled)]
    rcases hregister : checkAndRegister state.idempotency request.taskId world.idempotencyInstant with
      ⟨_ | _, guard⟩
    · rw [hregister] at hnew
      nomatch hnew
    · rfl
  · rw [if_neg henabled, if_pos (by simpa using henabled)]

lemma idempotencyGate_of_seen (hseen : ¬ TaskIdFresh world state request) :
    (idempotencyGate world request.taskId state).2 =
      { state with
        idempotency := ⟨state.idempotency.ttl,
          liveTaskIds state.idempotency world.idempotencyInstant⟩
        activeJobs := state.activeJobs - 1 } := by
  unfold TaskIdFresh at hseen
  push Not at hseen
  obtain ⟨henabled, hknown⟩ := hseen
  unfold idempotencyGate
  rw [henabled, checkAndRegister_of_seen state.idempotency hknown]
  rfl

/-- The envelope and the demand for an encrypted answer only give the slot back. -/
lemma openTask_refused_state {crates : Crates}
    (hrefused : (openTask crates headers request state).1 = .err refusal) :
    (openTask crates headers request state).2 =
      { state with activeJobs := state.activeJobs - 1 } := by
  unfold openTask at hrefused ⊢
  cases hopens : openConf crates state.cxPrivateKey request with
  | ok opened =>
    have hgate : openGate crates request state = (.ok opened, state) := by
      rw [openGate, hopens]
    rw [bind_of_ok (congrArg Prod.fst hgate), hgate] at hrefused ⊢
    obtain ⟨opened, sharedSecret⟩ := opened
    dsimp only at hrefused ⊢
    by_cases hpasses : (responseGate (withTrace headers opened) sharedSecret state).1 = .ok ()
    · rw [bind_of_ok hpasses] at hrefused
      nomatch hrefused
    · rw [bind_state_of_not_ok (fun _ ↦ hpasses)]
      unfold responseGate at hpasses ⊢
      split_ifs at hpasses ⊢ with hdemanded
      · rfl
      · exact absurd rfl hpasses
  | err =>
    have hgate : ∀ opened, (openGate crates request state).1 ≠ .ok opened := by
      intro opened
      rw [openGate, hopens]
      nofun
    rw [bind_state_of_not_ok hgate, openGate, hopens]
    rfl
  | panicked =>
    have hgate : openGate crates request state = (.panicked, state) := by
      rw [openGate, hopens]
    rw [bind_eq_err_iff, hgate] at hrefused
    obtain hpanics | ⟨_, hpanics, -⟩ := hrefused
    · nomatch hpanics
    · nomatch hpanics

/-- The guards and what comes after them, for a request with a slot. -/
def guards (crates : Crates) (headers : Headers) (request : TaskRequest) : Serve Invocation := do
  nonceGate world request.nonce
  idempotencyGate world request.taskId
  openTask crates headers request

/-- A refused request gives its slot back, and leaves the remembered entries unless the guards have
remembered something of it. -/
lemma guards_state {crates : Crates}
    (hrefused : (guards world crates headers request state).1 = .err refusal) :
    let after := (guards world crates headers request state).2
    after.activeJobs = state.activeJobs - 1 ∧ after.enableIdempotency = state.enableIdempotency ∧
    (freshNonces after.nonceCache world.nonceInstant =
        freshNonces state.nonceCache world.nonceInstant ∧
      liveTaskIds after.idempotency world.idempotencyInstant =
        liveTaskIds state.idempotency world.idempotencyInstant ↔
      ¬ SpendsGuards world state request) := by
  dsimp only
  unfold guards SpendsGuards at *
  by_cases hfresh : NonceFresh world state request
  swap
  · rw [bind_state_of_not_ok (fun _ hpasses ↦ hfresh ((nonceGate_passes_iff _ _ _).mp hpasses)),
      nonceGate_of_seen world hfresh]
    refine ⟨rfl, rfl, iff_of_true ⟨?_, rfl⟩ (fun hspends ↦ hfresh hspends.1)⟩
    exact freshNonces_freshNonces state.nonceCache le_rfl
  have hnonce := (nonceGate_passes_iff world state request).mpr hfresh
  rw [bind_of_ok hnonce, nonceGate_of_fresh world hfresh] at hrefused ⊢
  have hremembered := freshNonces_remember_iff world state.nonceCache request.nonce
  generalize hcached : { state with
    nonceCache := remember world state.nonceCache request.nonce } = cached at hrefused ⊢
  have hids : TaskIdFresh world cached request ↔ TaskIdFresh world state request := by
    subst hcached
    exact Iff.rfl
  by_cases hnew : TaskIdFresh world state request
  swap
  · have hseen := fun hcachedNew ↦ hnew (hids.mp hcachedNew)
    rw [bind_state_of_not_ok
      (fun _ hpasses ↦ hseen ((idempotencyGate_passes_iff _ _ _).mp hpasses)),
      idempotencyGate_of_seen world hseen]
    subst hcached
    refine ⟨rfl, rfl, ?_⟩
    have hlive := liveTaskIds_filter state.idempotency state.idempotency.ttl
      (le_refl world.idempotencyInstant)
    dsimp only
    rw [hlive, hremembered]
    simp [hfresh, hnew]
  have hid := (idempotencyGate_passes_iff world cached request).mpr (hids.mpr hnew)
  rw [bind_of_ok hid, idempotencyGate_of_fresh world (hids.mpr hnew)] at hrefused ⊢
  rw [openTask_refused_state hrefused]
  subst hcached
  refine ⟨rfl, rfl, ?_⟩
  dsimp only
  rw [hremembered]
  by_cases henabled : state.enableIdempotency
  · rw [if_pos henabled, liveTaskIds_register_iff state.idempotency (hnew henabled)]
    simp only [hfresh, henabled, hnew, true_and, and_true, not_or]
  · rw [if_neg henabled]
    simp [hfresh, henabled]

end Guards

/-! ### The claim of a slot -/

/-- Assumes: the other tasks do not change the counter while the request waits. It is one higher
exactly if the request gets a slot. -/
lemma pollSlots_of_quiet (windows : List Window) (maxConcurrent activeJobs : ℕ) (polls : List Poll)
    (hquiet : ∀ poll ∈ polls, poll.activeJobs = activeJobs) :
    (pollSlots windows maxConcurrent polls activeJobs).2 =
      activeJobs + (pollSlots windows maxConcurrent polls activeJobs).1.toNat := by
  induction polls with
  | nil => rfl
  | cons poll rest ih =>
    rw [List.forall_mem_cons] at hquiet
    obtain ⟨hpoll, hrest⟩ := hquiet
    rw [pollSlots, hpoll]
    split_ifs with hfree
    · rfl
    · exact ih hrest

lemma admitSlot_of_quiet (hquiet : ∀ poll ∈ world.polls, poll.activeJobs = state.activeJobs)
    (qos : String) :
    (admitSlot state world qos).2 =
      state.activeJobs + (admitSlot state world qos).1.toNat := by
  unfold admitSlot
  split_ifs with hfree hwaits
  · rfl
  · rfl
  · exact pollSlots_of_quiet _ _ _ _ hquiet

/-- A request that waits for a slot and then comes to the guards. -/
lemma claimed_framed_iff {crates : Crates} {request : TaskRequest}
    (hrefused : ((slotGate world (qosClass request) >>= fun _ ↦
      guards world crates headers request) state).1 = .err refusal) :
    Framed world state ((slotGate world (qosClass request) >>= fun _ ↦
        guards world crates headers request) state).2 ↔
      ¬ ((admitSlot state world (qosClass request)).1 ∧ SpendsGuards world state request) := by
  by_cases hslot : (admitSlot state world (qosClass request)).1
  · have hpasses := (slotGate_passes_iff world state (qosClass request)).mpr hslot
    rw [bind_of_ok hpasses, slotGate_state] at hrefused ⊢
    obtain ⟨hjobs, henabled, hkept⟩ := guards_state world hrefused
    rw [and_iff_right hslot]
    refine (@framed_iff world state _ henabled fun hquiet ↦ ?_).trans hkept
    rw [hjobs]
    dsimp only
    rw [admitSlot_of_quiet hquiet, hslot]
    rfl
  · rw [bind_state_of_not_ok
      fun _ hpasses ↦ hslot ((slotGate_passes_iff world state (qosClass request)).mp hpasses),
      slotGate_state]
    refine iff_of_true (framed_refl rfl rfl rfl fun hquiet ↦ ?_) (fun hspends ↦ hslot hspends.1)
    dsimp only
    rw [admitSlot_of_quiet hquiet, Bool.eq_false_iff.mpr hslot]
    rfl

/-- A request whose origin is within its rate. -/
lemma counted_framed_iff {crates : Crates} {request : TaskRequest} {route : Serve Invocation}
    (hroute : route = do
      policyGate request.intent
      drainGate world
      slotGate world (qosClass request)
      guards world crates headers request) (hrefused : (route state).1 = .err refusal) :
    Framed world state (route state).2 ↔
      ¬ (permitsIntent state.allowToolExecution request.intent ∧
        drainAnswer state.backendStability world = .ok () ∧
        (admitSlot state world (qosClass request)).1 ∧ SpendsGuards world state request) := by
  subst hroute
  by_cases hpolicy : permitsIntent state.allowToolExecution request.intent
  swap
  · rw [bind_state_of_not_ok
      fun _ hpasses ↦ hpolicy ((policyGate_passes_iff state request.intent).mp hpasses),
      policyGate_state]
    exact iff_of_true (framed_refl rfl rfl rfl fun _ ↦ rfl) fun hall ↦ hpolicy hall.1
  rw [bind_of_ok ((policyGate_passes_iff state request.intent).mpr hpolicy), policyGate_state]
    at hrefused ⊢
  have hgate : (drainGate world state).1 = drainAnswer state.backendStability world := rfl
  by_cases hdrain : drainAnswer state.backendStability world = .ok ()
  swap
  · rw [bind_state_of_not_ok fun _ ↦ hgate ▸ hdrain]
    exact iff_of_true (framed_refl rfl rfl rfl fun _ ↦ rfl) fun hall ↦ hdrain hall.2.1
  rw [bind_of_ok (hgate.trans hdrain)] at hrefused ⊢
  rw [and_iff_right hpolicy, and_iff_right hdrain]
  exact claimed_framed_iff hrefused

lemma framed_buckets_iff (buckets : List (String × ℕ × ℕ)) :
    Framed world { state with taskRateBuckets := buckets } later ↔ Framed world state later :=
  ⟨fun hframed ↦ ⟨hframed.nonces, hframed.taskIds, hframed.jobs, hframed.resend⟩,
    fun hframed ↦ ⟨hframed.nonces, hframed.taskIds, hframed.jobs, hframed.resend⟩⟩

/-! ### The theorem -/

/-- Assumes: the request is refused before the handler is called. The node is as before the request
exactly when no guard has remembered anything of it. -/
theorem refusal_framed_iff (crates : Crates) (world : Surroundings) (headers : Headers)
    (body : HttpBody) (state : AppState) (refusal : Refusal)
    (hrefused : (taskEndpoint crates world headers body state).1 = .err refusal) :
    Framed world state (taskEndpoint crates world headers body state).2 ↔
      ¬ Spends world headers state body := by
  by_cases hshort : body.length ≤ maxHttpTaskBodyBytes
  swap
  · rw [taskEndpoint_of_long crates world headers (not_le.mp hshort)]
    exact iff_of_true (framed_refl rfl rfl rfl fun _ ↦ rfl) fun ⟨_, hfits, _⟩ ↦ hshort hfits
  rw [taskEndpoint_of_short crates world headers hshort] at *
  unfold admitTask Spends at *
  cases hbody : body.value.bind TaskRequest.deserialize with
  | none =>
    exact iff_of_true (framed_refl rfl rfl rfl fun _ ↦ rfl) (fun ⟨_, _, hsome, _⟩ ↦ nomatch hsome)
  | some request =>
    rw [hbody] at hrefused
    dsimp only at hrefused ⊢
    obtain ⟨buckets, hstate⟩ := rateGate_state world headers state
    by_cases hrate : (rateGate world headers state).1 = .ok ()
    · rw [bind_of_ok hrate, hstate] at hrefused ⊢
      refine ((framed_buckets_iff buckets).symm.trans (counted_framed_iff rfl hrefused)).trans
        (not_congr ⟨fun hall ↦ ⟨request, hshort, rfl, hrate, hall⟩, ?_⟩)
      rintro ⟨_, -, hfound, -, hall⟩
      obtain rfl := Option.some.inj hfound
      exact hall
    · rw [bind_state_of_not_ok fun _ ↦ hrate, hstate]
      exact iff_of_true (framed_refl rfl rfl rfl fun _ ↦ rfl) fun ⟨_, _, _, hpasses, _⟩ ↦ hrate hpasses

/-- A task, posted in 256 bytes in a quiet moment. -/
def post (task : Task) (state : AppState) : Outcome Refusal Invocation × AppState :=
  taskEndpoint vectorCrates.toCrates quietMoment ⟨none, none⟩ (task.posted 256) state

lemma post_eq (task : Task) (state : AppState) : post task state =
    admitTask vectorCrates.toCrates quietMoment ⟨none, none⟩ (some task.body) state := rfl

/-- A task that the policy refuses is not remembered. -/
theorem toolTask_framed :
    (post toolTask idleState).1 = .err ⟨403, none, errorBody "tool_execution_denied"
        "Tool-execution intents are not permitted by this node's CIP policy" []⟩ ∧
      Framed quietMoment idleState (post toolTask idleState).2 := by
  have hrefused : (post toolTask idleState).1 = .err ⟨403, none, errorBody "tool_execution_denied"
      "Tool-execution intents are not permitted by this node's CIP policy" []⟩ := by
    rw [post_eq, admitTask, Option.bind_some, Task.deserialize_body]
    rfl
  refine ⟨hrefused, (refusal_framed_iff _ _ _ _ _ _ hrefused).mpr ?_⟩
  rintro ⟨request, -, hbody, -, hpermits, -⟩
  obtain rfl := Option.some.inj (toolTask.deserialize_body.symm.trans hbody)
  have hdenied : permitsIntent idleState.allowToolExecution toolTask.request.intent = false := by
    decide
  rw [hdenied] at hpermits
  cases hpermits

/-- A task with a nonce, that asks for an encrypted answer or does not. -/
def chatTask (nonce : String) (cxResponseEncryption : Option String) : Task where
  taskId := "t1"
  intent := "urn:iicp:intent:llm:chat:v1"
  payload := .object [("prompt", .string "hi")]
  iicpConf := none
  cxResponseEncryption := cxResponseEncryption
  constraints := none
  auth := none
  nonce := some nonce
  sourceNodeId := none

/-- The idle node after it has refused the demand of an encrypted answer. -/
lemma post_demanding_state : (post (chatTask "n1" (some "required")) idleState).2 =
    { idleState with
      nonceCache := [("n1", 0)]
      idempotency := ⟨300 * 10 ^ 9, [("t1", 300 * 10 ^ 9)]⟩ } := by
  rw [post_eq, admitTask, Option.bind_some, Task.deserialize_body]
  rfl

/-- A task asks for an encrypted answer without an envelope and is refused. Without the demand it
would have been served. Sent again without the demand it is refused as a replay, and with another
nonce as a duplicate of a task that was never executed. -/
theorem corrected_task_refused :
    (post (chatTask "n1" (some "required")) idleState).1 = .err ⟨400, none, errorBody "IICP-CX-03"
        "encrypted response requested without an encrypted request" []⟩ ∧
      ¬ Framed quietMoment idleState (post (chatTask "n1" (some "required")) idleState).2 ∧
      (post (chatTask "n1" none) (post (chatTask "n1" (some "required")) idleState).2).1 =
        .err ⟨409, none, errorBody "IICP-E011" "replay_detected" []⟩ ∧
      (post (chatTask "n2" none) (post (chatTask "n1" (some "required")) idleState).2).1 =
        .err ⟨409, none, errorBody "IICP-E010" "duplicate_task" []⟩ ∧
      (post (chatTask "n1" none) idleState).1 = .ok ⟨(chatTask "n1" none).request, none, false⟩ := by
  refine ⟨?_, fun hframed ↦ ?_, ?_, ?_, ?_⟩
  · rw [post_eq, admitTask, Option.bind_some, Task.deserialize_body]
    rfl
  · have hnonces := hframed.nonces
    rw [post_demanding_state] at hnonces
    revert hnonces
    decide
  · rw [post_demanding_state, post_eq, admitTask, Option.bind_some, Task.deserialize_body]
    rfl
  · rw [post_demanding_state, post_eq, admitTask, Option.bind_some, Task.deserialize_body]
    rfl
  · rw [post_eq, admitTask, Option.bind_some, Task.deserialize_body]
    rfl

end Iicp.Node
