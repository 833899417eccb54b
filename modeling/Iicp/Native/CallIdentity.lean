import Iicp.Lifecycle.Store

/-!
# The identities of native calls

A native call that has negotiated the lifecycle profile names its task, itself and an idempotency
key. The registry accepts it if no accepted call had its name and the task still has its key. The
lifecycle store is stricter: it also refuses a key that another task has. The calls of a registry
can be submitted to a fresh store without a conflict exactly if no two of their tasks share a key
(`accepted_calls_submitted_iff`).

`Agrees` relates the two: the store has a record for the tasks of the registry, with their keys.
-/

namespace Iicp.Native

open Rust Function Lifecycle

def lifecycleProfile : String := "urn:iicp:profile:service-lifecycle:v1"

inductive NativeCallIdentityError where
  | missingTaskId
  | missingCallId
  | missingIdempotencyKey
  | callIdReuse
  | taskIdentityConflict
  deriving DecidableEq, Repr

/-- The keys of the tasks and the names of the calls that were accepted. -/
structure NativeCallIdentityRegistry where
  tasks : String → Option String
  calls : Finset String

/-- What a call says about its identity. -/
structure CallIdentity where
  (taskId callId idempotencyKey : String)
  deriving DecidableEq, Repr

def required (call : Json) (key : String) (error : NativeCallIdentityError) :
    Outcome NativeCallIdentityError String :=
  .okOr error (((call.get key).bind Json.asStr).filter (· != ""))

/-- The identity of a call that has negotiated the profile. -/
def identityOf (call : Json) : Outcome NativeCallIdentityError CallIdentity := do
  let taskId ← required call "task_id" .missingTaskId
  let callId ← required call "call_id" .missingCallId
  let idempotencyKey ← required call "idempotency_key" .missingIdempotencyKey
  .ok ⟨taskId, callId, idempotencyKey⟩

namespace NativeCallIdentityRegistry

def new : NativeCallIdentityRegistry := ⟨fun _ ↦ none, ∅⟩

variable (registry : NativeCallIdentityRegistry)

/-- Accepts a call. The answer holds the identity, which a call without the profile has not. -/
def accept (call : Json) :
    NativeCallIdentityRegistry × Outcome NativeCallIdentityError (Option CallIdentity) :=
  if (call.get "profile").bind Json.asStr ≠ some lifecycleProfile then (registry, .ok none)
  else
    match identityOf call with
    | .ok identity =>
      if identity.callId ∈ registry.calls then (registry, .err .callIdReuse)
      else if (registry.tasks identity.taskId).any (· != identity.idempotencyKey) then
        (registry, .err .taskIdentityConflict)
      else
        (⟨update registry.tasks identity.taskId (some identity.idempotencyKey),
          insert identity.callId registry.calls⟩, .ok (some identity))
    | .err error => (registry, .err error)
    | .panicked => (registry, .panicked)

/-- The identities that are accepted, each with the clock reading of its call. -/
def accepted (registry : NativeCallIdentityRegistry) : List (Json × ℕ) → List (CallIdentity × ℕ)
  | [] => []
  | (call, now) :: rest =>
    match (registry.accept call).2 with
    | .ok (some identity) => (identity, now) :: (registry.accept call).1.accepted rest
    | _ => (registry.accept call).1.accepted rest

/-- A call leaves the registry as it is, or its identity is noted, with the key that its task had. -/
lemma accept_cases (call : Json) :
    ((registry.accept call).1 = registry ∧ ∀ identity, (registry.accept call).2 ≠ .ok (some identity)) ∨
      ∃ identity, (registry.accept call).2 = .ok (some identity) ∧
        (registry.accept call).1.tasks =
          update registry.tasks identity.taskId (some identity.idempotencyKey) ∧
        ∀ key, registry.tasks identity.taskId = some key → key = identity.idempotencyKey := by
  unfold accept
  split_ifs with hprofile
  · exact .inl ⟨rfl, by simp⟩
  · cases identityOf call with
    | ok identity =>
      dsimp only
      split_ifs with hcall htask
      · exact .inl ⟨rfl, by simp⟩
      · exact .inl ⟨rfl, by simp⟩
      · refine .inr ⟨identity, rfl, rfl, fun key hkey ↦ ?_⟩
        simpa [hkey] using htask
    | err | panicked => exact .inl ⟨rfl, by simp⟩

end NativeCallIdentityRegistry

/-! ### Submissions -/

def submitIdentity (digest : String → String) (store : LifecycleStore) (entry : CallIdentity × ℕ) :
    LifecycleStore × Outcome LifecycleError (LifecycleRecord × Bool) :=
  store.submit entry.1.taskId entry.1.idempotencyKey (digest entry.1.taskId) entry.2

/-- No submission of a sequence is in conflict. -/
def Unconflicted (digest : String → String) : LifecycleStore → List (CallIdentity × ℕ) → Prop
  | _, [] => True
  | store, entry :: rest =>
    (∀ message, (submitIdentity digest store entry).2 ≠ .err (.conflict message)) ∧
      Unconflicted digest (submitIdentity digest store entry).1 rest

def Apart (has : String → String → Prop) : Prop :=
  ∀ first second key, has first key → has second key → first = second

open NativeCallIdentityRegistry

section Simulation

variable {digest : String → String} {known : String → Option String} {store : LifecycleStore}
  {identity : CallIdentity}

variable (digest known store) in
/-- The store has a record for the known tasks, with their keys and digests. -/
def Agrees : Prop :=
  ∀ taskId, (store.get taskId).map (fun record ↦ (record.idempotencyKey, record.requestDigest)) =
    (known taskId).map fun key ↦ (key, digest taskId)

lemma Agrees.known_eq_some_iff (h : Agrees digest known store) (taskId key : String) :
    known taskId = some key ↔
      ∃ record, store.get taskId = some record ∧ record.idempotencyKey = key := by
  have htask := h taskId
  cases hknown : known taskId <;> cases hget : store.get taskId <;> simp_all

lemma apart_update (hapart : Apart (known · = some ·))
    (hown : ∀ other, known other = some identity.idempotencyKey → other = identity.taskId) :
    Apart (update known identity.taskId (some identity.idempotencyKey) · = some ·) := by
  intro first second key
  dsimp only
  by_cases hfirst : first = identity.taskId <;> by_cases hsecond : second = identity.taskId
  · rw [hfirst, hsecond]
    exact fun _ _ ↦ rfl
  · rw [hfirst, update_self, update_of_ne hsecond]
    rintro ⟨rfl⟩ hknown
    exact (hown second hknown).symm
  · rw [hsecond, update_self, update_of_ne hfirst]
    rintro hknown ⟨rfl⟩
    exact hown first hknown
  · rw [update_of_ne hfirst, update_of_ne hsecond]
    exact hapart first second key

section Submit

variable (hkey : ∀ key, known identity.taskId = some key → key = identity.idempotencyKey) (now : ℕ)

include hkey

/-- An identity is in conflict exactly if another task has its key; otherwise the store agrees with
the identity among what is known, and its key is its own. -/
lemma Agrees.submit (h : Agrees digest known store) (hapart : Apart (known · = some ·)) :
    (∀ message, (submitIdentity digest store (identity, now)).2 ≠ .err (.conflict message)) ∧
        (∀ other, known other = some identity.idempotencyKey → other = identity.taskId) ∧
        Agrees digest (update known identity.taskId (some identity.idempotencyKey))
          (submitIdentity digest store (identity, now)).1 ∨
      (∃ message, (submitIdentity digest store (identity, now)).2 = .err (.conflict message)) ∧
        ∃ other ≠ identity.taskId, known other = some identity.idempotencyKey := by
  unfold submitIdentity
  obtain ⟨record, hget, hsame, -, heq⟩ | ⟨record, hget, hdiffers, -⟩ | ⟨hnone, hused, heq⟩ |
      ⟨hnone, hfree, heq⟩ := store.submit_cases identity.taskId identity.idempotencyKey
        (digest identity.taskId) now
  · have hknown := (h.known_eq_some_iff _ _).mpr ⟨record, hget, hsame⟩
    refine .inl ?_
    rw [heq, ← hknown, update_eq_self]
    exact ⟨by simp, fun other hother ↦ hapart _ _ _ (hother.trans hknown) hknown, h⟩
  · have hknown := (h.known_eq_some_iff _ _).mpr ⟨record, hget, rfl⟩
    have htask := h identity.taskId
    rw [hget, hknown] at htask
    exact absurd (Prod.mk.inj (Option.some.inj htask)).2
      (hdiffers.resolve_left (not_not.mpr (hkey _ hknown)))
  · obtain ⟨other, record, hget, hsame⟩ := (store.keyInUse_iff _).mp hused
    refine .inr ⟨⟨_, congrArg Prod.snd heq⟩, other, ?_, ?_⟩
    · rintro rfl
      exact absurd (hget.symm.trans hnone) (Option.some_ne_none record)
    · exact (h.known_eq_some_iff _ _).mpr ⟨record, hget, hsame⟩
  · refine .inl ?_
    rw [heq]
    refine ⟨by simp, fun other hother ↦ ?_, fun other ↦ ?_⟩
    · have hstored := (h.known_eq_some_iff _ _).mp hother
      rw [(store.keyInUse_iff _).mpr ⟨other, hstored⟩] at hfree
      exact Bool.noConfusion hfree
    · rw [LifecycleStore.get_put]
      split_ifs with hother
      · rw [hother, update_self]
        rfl
      · rw [update_of_ne hother, h]

variable (known) in
omit hkey in
/-- A task has a key by what is known or by one of the identities. -/
def Named (identities : List (CallIdentity × ℕ)) (taskId key : String) : Prop :=
  known taskId = some key ∨
    ∃ entry ∈ identities, entry.1.taskId = taskId ∧ entry.1.idempotencyKey = key

lemma named_update_iff (identities : List (CallIdentity × ℕ)) (taskId key : String) :
    Named (update known identity.taskId (some identity.idempotencyKey)) identities taskId
      key ↔ Named known ((identity, now) :: identities) taskId key := by
  rw [Named, Named, List.exists_mem_cons_iff, ← or_assoc]
  refine or_congr ?_ Iff.rfl
  by_cases htask : taskId = identity.taskId
  · rw [htask, update_self, Option.some.injEq]
    exact ⟨fun hsame ↦ .inr ⟨rfl, hsame⟩, fun h ↦ h.elim (fun h ↦ (hkey key h).symm) And.right⟩
  · rw [update_of_ne htask, or_iff_left fun hsame ↦ htask hsame.1.symm]

end Submit

/-- The submissions of the accepted calls meet no conflict exactly if no two tasks share a key. -/
lemma Agrees.unconflicted_iff {registry : NativeCallIdentityRegistry}
    (h : Agrees digest registry.tasks store) (hapart : Apart (registry.tasks · = some ·))
    (calls : List (Json × ℕ)) :
    Unconflicted digest store (registry.accepted calls) ↔
      Apart (Named registry.tasks (registry.accepted calls)) := by
  induction calls generalizing registry store with
  | nil =>
    simpa [accepted, Unconflicted, Apart, Named] using hapart
  | cons call rest ih =>
    obtain ⟨call, now⟩ := call
    rw [accepted]
    obtain ⟨hsame, hnone⟩ | ⟨identity, hanswer, hnext, hkey⟩ := registry.accept_cases call
    · rw [hsame]
      split
      · next identity hidentity => exact absurd hidentity (hnone identity)
      · exact ih h hapart
    · rw [hanswer]
      dsimp only
      rw [Unconflicted]
      obtain ⟨hfree, hown, hagrees⟩ | ⟨⟨message, hconflict⟩, _, hother, hused⟩ :=
        h.submit hkey now hapart
      · rw [and_iff_right hfree, ih (hnext ▸ hagrees), hnext]
        · simp only [Apart, named_update_iff hkey now]
        · rw [hnext]
          exact apart_update hapart hown
      · refine iff_of_false (fun hall ↦ hall.1 message hconflict) fun hkeys ↦ hother ?_
        exact hkeys _ _ identity.idempotencyKey (.inl hused)
          (.inr ⟨(identity, now), List.mem_cons_self, rfl, rfl⟩)

end Simulation

/-- The accepted lifecycle calls of a registry, submitted in order to a fresh store with one digest
for each task, meet no conflict exactly if no two of their tasks share a key. A call that is refused
leaves the registry as it is. -/
theorem accepted_calls_submitted_iff (calls : List (Json × ℕ)) (digest : String → String)
    (maxEvents terminalStatusTtlMs : ℕ) :
    (Unconflicted digest (.new maxEvents terminalStatusTtlMs) (new.accepted calls) ↔
      ∀ first ∈ new.accepted calls, ∀ second ∈ new.accepted calls,
          first.1.idempotencyKey = second.1.idempotencyKey → first.1.taskId = second.1.taskId) ∧
    ∀ (registry : NativeCallIdentityRegistry) call error,
      (registry.accept call).2 = .err error → (registry.accept call).1 = registry := by
  constructor
  · rw [Agrees.unconflicted_iff (fun _ ↦ rfl) fun _ _ _ h ↦ by cases h]
    simp only [Apart, Named, new, reduceCtorEq, false_or]
    constructor
    · intro hkeys first hfirst second hsecond hsame
      exact hkeys _ _ _ ⟨first, hfirst, rfl, rfl⟩ ⟨second, hsecond, rfl, hsame.symm⟩
    · rintro hkeys _ _ _ ⟨first, hfirst, rfl, hkey⟩ ⟨second, hsecond, rfl, rfl⟩
      exact hkeys first hfirst second hsecond hkey
  · intro registry call error herror
    obtain ⟨hsame, -⟩ | ⟨_, hanswer, -⟩ := registry.accept_cases call
    · exact hsame
    · rw [hanswer] at herror
      cases herror

/-- A lifecycle call with one key for all tasks. -/
def sampleCall (taskId callId : String) : Json :=
  .object [("call_id", .string callId), ("idempotency_key", .string "k-1"),
    ("profile", .string lifecycleProfile), ("task_id", .string taskId)]

/-- Two tasks share a key: both calls are accepted, and the second submission is in conflict. -/
theorem shared_key_accepted :
    new.accepted [(sampleCall "t-1" "c-1", 0), (sampleCall "t-2" "c-2", 0)] =
      [(⟨"t-1", "c-1", "k-1"⟩, 0), (⟨"t-2", "c-2", "k-1"⟩, 0)] ∧
    (submitIdentity (fun _ ↦ "digest") (submitIdentity (fun _ ↦ "digest") (.new 64 0)
      (⟨"t-1", "c-1", "k-1"⟩, 0)).1 (⟨"t-2", "c-2", "k-1"⟩, 0)).2 =
        .err (.conflict "idempotency identifier reused with a different task identifier") := by
  decide +kernel

end Iicp.Native
