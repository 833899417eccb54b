import Iicp.Lifecycle.Record

/-!
# The evaluator of the distributed lifecycle profile

`evaluate_distributed_lifecycle` gives the verdict of the profile on a vector, a JSON value with a
kind and the fields of that kind. Missing fields read as null, and a field that is not a signed
64-bit integer takes the default of its rule. Two rules add one to such an integer, and the addition
panics at the largest one.

The observe rule decides whether a replay from a cursor has a gap: `evaluate_observe` gives its
verdict for a cursor and a first retained sequence number.
-/

namespace Iicp.Lifecycle

open Rust Json

/-- The detail fields that the profile allows. -/
def allowed : List String :=
  ["event_id", "progress", "reason_code", "outcome", "receipt_digest", "checkpoint_digest"]

variable (vector : Json)

/-- The rule for appending an event: the next number, unless the event was seen. -/
def appendEventVerdict : Outcome Empty String :=
  if (vector.field "event_id_seen").isTrue then .ok "duplicate_event_ignored"
  else do
    let expected ← match (vector.field "latest_sequence").asI64 with
      | some latest => do
        let next ← addI64 latest 1
        .ok (some next)
      | none => .ok none
    if (vector.field "sequence").asI64 = expected then .ok "event_appended"
    else .ok "sequence_gap_rejected"

/-- The rule for observing from a cursor: is the event after the cursor before the first retained
one? -/
def observeVerdict : Outcome Empty String := do
  let next ← addI64 ((vector.field "after_sequence").asI64.getD (-1)) 1
  let gap := decide (next < (vector.field "first_retained_sequence").asI64.getD 0)
  if gap && (vector.field "terminal").isTrue then .ok "terminal_snapshot_with_replay_gap"
  else if gap then .ok "resume_unavailable"
  else .ok "replay_available"

def evaluateDistributedLifecycle : Outcome Empty String :=
  match (vector.field "kind").asStr with
  | some "owner_write" =>
    if sameValue (vector.field "writer_epoch") (vector.field "current_epoch") then
      .ok "write_accepted"
    else .ok "stale_owner_rejected"
  | some "failover_submit" =>
    if !(vector.field "request_digest_matches").isTrue ||
        !(vector.field "idempotency_key_matches").isTrue then .ok "conflict_no_new_execution"
    else if (vector.field "execution_started").isTrue then .ok "existing_execution_recovered"
    else .ok "existing_record_recovered"
  | some "append_event" => appendEventVerdict vector
  | some "observe" => observeVerdict vector
  | some "terminal_retention" =>
    if (vector.field "ttl_ms").asI64.getD 0 < (vector.field "age_ms").asI64.getD 0 then
      .ok "unknown_task_after_expiry"
    else .ok "terminal_snapshot_available"
  | some "mutation_admission" =>
    if (vector.field "quorum_available").isTrue then .ok "mutation_allowed"
    else .ok "temporarily_unavailable_no_write"
  | some "content_minimization" =>
    if (vector.field "detail").asObject.any fun detail ↦
        detail.all fun entry ↦ allowed.contains entry.1 then .ok "accepted"
    else .ok "reject_before_write"
  | _ => .ok "unsupported_vector"

variable (afterSequence : Int64)

def observeVector (firstRetained : ℕ) (ended : Bool) : Json :=
  .object [("after_sequence", ofI64 afterSequence), ("first_retained_sequence", ofU64 firstRetained),
    ("kind", .string "observe"), ("terminal", .bool ended)]

def gapVerdicts : List String := ["resume_unavailable", "terminal_snapshot_with_replay_gap"]

/-- The verdict on an observation: a panic at the largest cursor, and otherwise a gap when the event
after the cursor is before the first retained one; a first number beyond the signed range counts as
zero. -/
lemma evaluate_observe {firstRetained : ℕ} (hrange : firstRetained < 2 ^ 64) (ended : Bool) :
    evaluateDistributedLifecycle (observeVector afterSequence firstRetained ended) =
      if afterSequence.toInt + 1 < 2 ^ 63 then
        if afterSequence.toInt + 1 < if firstRetained < 2 ^ 63 then (firstRetained : ℤ) else 0 then
          .ok (if ended then "terminal_snapshot_with_replay_gap" else "resume_unavailable")
        else .ok "replay_available"
      else .panicked := by
  have hlow : -2 ^ 63 ≤ afterSequence.toInt := afterSequence.le_toInt
  have hfirst : (ofU64 firstRetained).asI64.getD 0 =
      if firstRetained < 2 ^ 63 then (firstRetained : ℤ) else 0 := by
    rw [asI64_ofU64 hrange]
    split_ifs
    · rfl
    · rfl
  change (addI64 ((ofI64 afterSequence).asI64.getD (-1)) 1 >>= fun next ↦
    if decide (next < (ofU64 firstRetained).asI64.getD 0) && ended then _
    else if decide (next < (ofU64 firstRetained).asI64.getD 0) then _ else _) = _
  rw [asI64_ofI64, hfirst, Option.getD_some, addI64]
  generalize (if firstRetained < 2 ^ 63 then (firstRetained : ℤ) else 0) = counted
  by_cases hnext : afterSequence.toInt + 1 < 2 ^ 63
  · rw [if_pos ⟨by omega, hnext⟩, Outcome.ok_bind, if_pos hnext]
    by_cases hgap : afterSequence.toInt + 1 < counted
    · cases ended <;> simp [hgap]
    · simp [hgap]
  · rw [if_neg fun h ↦ hnext h.2, Outcome.panicked_bind, if_neg hnext]

/-- The observe rule gives a verdict, the same on a gap as the given decision, for a running and for
an ended task alike. -/
lemma observe_agrees_iff {firstRetained : ℕ} (hrange : firstRetained < 2 ^ 64) (refused : Prop) :
    (∀ ended, ∃ verdict,
        evaluateDistributedLifecycle (observeVector afterSequence firstRetained ended) =
          .ok verdict ∧ (refused ↔ verdict ∈ gapVerdicts)) ↔
      afterSequence.toInt + 1 < 2 ^ 63 ∧
        (refused ↔ afterSequence.toInt + 1 <
          if firstRetained < 2 ^ 63 then (firstRetained : ℤ) else 0) := by
  simp only [evaluate_observe afterSequence hrange]
  generalize (if firstRetained < 2 ^ 63 then (firstRetained : ℤ) else 0) = counted
  by_cases hnext : afterSequence.toInt + 1 < 2 ^ 63
  · simp only [if_pos hnext, and_iff_right hnext]
    by_cases hgap : afterSequence.toInt + 1 < counted
    · simp [hgap, gapVerdicts]
    · simp [hgap, gapVerdicts]
  · simp only [if_neg hnext]
    constructor
    · intro hverdicts
      obtain ⟨_, hverdict, _⟩ := hverdicts true
      nomatch hverdict
    · exact fun h ↦ absurd h.1 hnext

end Iicp.Lifecycle
