import Iicp.Concurrent.EventMachine
import Iicp.Rust.Json

/-!
# The outcomes of tasks on their way to the directory

Every task that ends counts up one of two counters. The heartbeat loop drains the counters into a
batch with an identity of its own, and sends the batch with every heartbeat until the directory has
acknowledged it; only then the counters are drained again. The two counters are drained one after
the other, and tasks end in between.

The model has the loop with the places where other steps come in between (`TickPhase`), the tasks,
and a directory that applies a batch once for each identity, whenever a heartbeat with it arrives:
heartbeats are delayed and arrive more than once, and a heartbeat that has failed for the loop may
have arrived. An answer of success comes after the batch was applied. `outcomes_reported_once` says
what becomes of the outcomes.
-/

namespace Iicp.Node

open Concurrent List Rust

/-! ### Batches -/

structure PendingMetricBatch where
  id : String
  (tasksSuccess tasksFailed latencyTotalMs : ℕ)
  deriving DecidableEq

/-- A directory that does not name a batch acknowledges the one that was sent. -/
def metricsBatchAcknowledged (response : Json) (batchId : String) : Bool :=
  match (response.field "metrics_batch_accepted").asStr with
  | none => true
  | some accepted => accepted == batchId

inductive MetricBatchDelivery where
  | failed
  | accepted (response : Option Json)

def reconcileMetricBatch (pending : Option PendingMetricBatch) (delivery : MetricBatchDelivery) :
    Option PendingMetricBatch :=
  match delivery with
  | .failed => pending
  | .accepted (some response) =>
    if pending.any fun batch ↦ metricsBatchAcknowledged response batch.id then none else pending
  | .accepted none => none

structure HeartbeatMetrics where
  tasksSuccess : ℕ
  tasksFailed : ℕ
  avgLatencyMs : Option Float

/-- What a heartbeat says about tasks. Without outcomes its metrics are empty. -/
structure MetricsReport where
  metricsBatchId : Option String
  metrics : Option HeartbeatMetrics

namespace MetricsReport

def avgLatency (latencyTotalMs total : ℕ) : Float :=
  Float.round (Float.ofNat latencyTotalMs / Float.ofNat total * 100.0) / 100.0

def of (pending : Option PendingMetricBatch) : MetricsReport :=
  let ok := (pending.map PendingMetricBatch.tasksSuccess).getD 0
  let fail := (pending.map PendingMetricBatch.tasksFailed).getD 0
  let latencyTotalMs := (pending.map PendingMetricBatch.latencyTotalMs).getD 0
  { metricsBatchId := pending.map PendingMetricBatch.id
    metrics :=
      if 0 < ok ∨ 0 < fail then
        some {
          tasksSuccess := ok
          tasksFailed := fail
          avgLatencyMs :=
            if 0 < ok + fail ∧ 0 < latencyTotalMs then some (avgLatency latencyTotalMs (ok + fail))
            else none }
      else none }

def successes (report : MetricsReport) : ℕ :=
  (report.metrics.map HeartbeatMetrics.tasksSuccess).getD 0

def failures (report : MetricsReport) : ℕ :=
  (report.metrics.map HeartbeatMetrics.tasksFailed).getD 0

/-- A directory applies a batch unless it has applied one with the same identity. -/
def record (applied : List MetricsReport) (report : MetricsReport) : List MetricsReport :=
  match report.metricsBatchId with
  | none => applied
  | some id =>
    if applied.any fun earlier ↦ earlier.metricsBatchId == some id then applied
    else applied ++ [report]

end MetricsReport

/-! ### The heartbeat loop among tasks -/

/-- What comes back for a heartbeat. A body that cannot be read is none. -/
inductive HeartbeatAnswer where
  | transportError
  | response (status : ℕ) (body : Option Json)

namespace HeartbeatAnswer

def isSuccess : HeartbeatAnswer → Bool
  | .transportError => false
  | .response status _ => 200 ≤ status && status < 300

/-- What the loop makes of an answer. For a node that the directory does not know the batch is not
touched. -/
def delivery : HeartbeatAnswer → Option MetricBatchDelivery
  | .transportError => some .failed
  | .response status body =>
    if 200 ≤ status ∧ status < 300 then some (.accepted body)
    else if status = 401 ∨ status = 404 ∨ status = 410 then none
    else some .failed

end HeartbeatAnswer

inductive TickPhase where
  | waiting
  /-- The first counter is drained. -/
  | drainedSuccess (ok : ℕ)
  /-- Both counters are drained. -/
  | drainedFailed (ok fail : ℕ)
  /-- There is a batch or none. -/
  | ready
  /-- The heartbeat is on its way. -/
  | sent (report : MetricsReport)

namespace TickPhase

/-- What the loop has drained and not yet put into a batch. -/
def successes : TickPhase → ℕ
  | .drainedSuccess ok => ok
  | .drainedFailed ok _ => ok
  | _ => 0

def failures : TickPhase → ℕ
  | .drainedFailed _ fail => fail
  | _ => 0

def draining : TickPhase → Bool
  | .drainedSuccess _ => true
  | .drainedFailed _ _ => true
  | _ => false

def unsent : TickPhase → Bool
  | .ready => true
  | phase => phase.draining

end TickPhase

inductive MetricsEvent where
  | taskSucceeded
  | taskFailed
  | addLatency (latencyMs : ℕ)
  /-- The next step of the loop, with the identity that it draws if it makes a batch. -/
  | advance (uuid : String)
  /-- A heartbeat that was sent arrives at the directory. -/
  | arrive (index : ℕ)
  | answer (answer : HeartbeatAnswer)

/-- The counters and the loop, with the tasks that have ended, the ticks, the identities of the
batches that were made, the cleared batches, the heartbeats that were sent, and what the directory
has applied. -/
structure MetricsRun where
  (tasksSuccess tasksFailed tasksLatencyTotalMs : ℕ)
  pendingMetrics : Option PendingMetricBatch
  phase : TickPhase
  (succeeded failed ticks : ℕ)
  created : List String
  cleared : List PendingMetricBatch
  (requests applied : List MetricsReport)

namespace MetricsRun

def start : MetricsRun := ⟨0, 0, 0, none, .waiting, 0, 0, 0, [], [], [], []⟩

variable (run : MetricsRun)

def batches : List PendingMetricBatch := run.cleared ++ run.pendingMetrics.toList

/-- The loop puts what it has drained into a batch, if there is anything. -/
def createBatch (uuid : String) (ok fail : ℕ) : MetricsRun :=
  if 0 < ok ∨ 0 < fail then
    { run with
      tasksLatencyTotalMs := 0
      pendingMetrics := some ⟨uuid, ok, fail, run.tasksLatencyTotalMs⟩
      created := run.created ++ [uuid]
      phase := .ready }
  else { run with tasksLatencyTotalMs := 0, phase := .ready }

/-- The next step of the loop, up to the heartbeat. -/
def advance (uuid : String) : MetricsRun :=
  match run.phase with
  | .waiting =>
    match run.pendingMetrics with
    | none =>
      { run with
        tasksSuccess := 0, phase := .drainedSuccess run.tasksSuccess, ticks := run.ticks + 1 }
    | some _ => { run with phase := .ready, ticks := run.ticks + 1 }
  | .drainedSuccess ok => { run with tasksFailed := 0, phase := .drainedFailed ok run.tasksFailed }
  | .drainedFailed ok fail => run.createBatch uuid ok fail
  | .ready =>
    { run with
      phase := .sent (.of run.pendingMetrics)
      requests := run.requests ++ [.of run.pendingMetrics] }
  | .sent _ => run

def reconciled (answer : HeartbeatAnswer) : Option PendingMetricBatch :=
  match answer.delivery with
  | none => run.pendingMetrics
  | some delivery => reconcileMetricBatch run.pendingMetrics delivery

/-- The answer to the heartbeat. Success is answered after the batch was applied. -/
def answered (answer : HeartbeatAnswer) : MetricsRun :=
  match run.phase with
  | .sent report =>
    { run with
      pendingMetrics := run.reconciled answer
      phase := .waiting
      cleared :=
        if (run.reconciled answer).isNone then run.cleared ++ run.pendingMetrics.toList
        else run.cleared
      applied := if answer.isSuccess then report.record run.applied else run.applied }
  | _ => run

def step (event : MetricsEvent) : MetricsRun :=
  match event with
  | .taskSucceeded => { run with tasksSuccess := run.tasksSuccess + 1, succeeded := run.succeeded + 1 }
  | .taskFailed => { run with tasksFailed := run.tasksFailed + 1, failed := run.failed + 1 }
  | .addLatency latencyMs =>
    { run with tasksLatencyTotalMs := run.tasksLatencyTotalMs + latencyMs }
  | .advance uuid => run.advance uuid
  | .arrive index =>
    match run.requests[index]? with
    | none => run
    | some report => { run with applied := report.record run.applied }
  | .answer answer => run.answered answer

end MetricsRun

/-! ### The counts -/

/-- The counts at a moment: every outcome is in a cleared batch, in the pending one, on the way into
a batch, or in the counter. -/
structure Accounted (run : MetricsRun) : Prop where
  successes : run.succeeded = (run.cleared.map PendingMetricBatch.tasksSuccess).sum +
    (run.pendingMetrics.toList.map PendingMetricBatch.tasksSuccess).sum + run.phase.successes +
    run.tasksSuccess
  failures : run.failed = (run.cleared.map PendingMetricBatch.tasksFailed).sum +
    (run.pendingMetrics.toList.map PendingMetricBatch.tasksFailed).sum + run.phase.failures +
    run.tasksFailed
  /-- The counters are drained while there is no batch. -/
  draining : run.phase.draining = true → run.pendingMetrics = none
  nonempty : ∀ batch ∈ run.pendingMetrics, 0 < batch.tasksSuccess ∨ 0 < batch.tasksFailed
  sent : ∀ report, run.phase = .sent report → report = .of run.pendingMetrics
  /-- Every tick sends one heartbeat. -/
  ticks : run.requests.length + run.phase.unsent.toNat = run.ticks

def MetricsRun.pendingApplied (run : MetricsRun) : List PendingMetricBatch :=
  run.pendingMetrics.toList.filter fun batch ↦
    run.applied.any fun report ↦ report.metricsBatchId == some batch.id

/-- What the directory has applied at a moment. -/
structure Delivered (run : MetricsRun) : Prop where
  successes : (run.applied.map MetricsReport.successes).sum =
    (run.cleared.map PendingMetricBatch.tasksSuccess).sum +
      (run.pendingApplied.map PendingMetricBatch.tasksSuccess).sum
  failures : (run.applied.map MetricsReport.failures).sum =
    (run.cleared.map PendingMetricBatch.tasksFailed).sum +
      (run.pendingApplied.map PendingMetricBatch.tasksFailed).sum
  once : ∀ batch ∈ run.cleared,
    (run.applied.map MetricsReport.metricsBatchId).count (some batch.id) = 1

/-- From one moment to the next a batch is kept or cleared, and no other takes its place. A
heartbeat that is sent has the report of the pending batch. -/
structure Resent (run next : MetricsRun) : Prop where
  batch : ∀ batch, run.pendingMetrics = some batch →
    next.pendingMetrics = some batch ∧ next.cleared = run.cleared ∨
      next.pendingMetrics = none ∧ next.cleared = run.cleared ++ [batch]
  cleared : run.pendingMetrics = none → next.cleared = run.cleared
  requests : next.requests = run.requests ∨
    next.requests = run.requests ++ [.of run.pendingMetrics]

open MetricsRun

section Counts

variable {run next : MetricsRun} {answer : HeartbeatAnswer}

/-- An answer leaves the batch or takes it away. -/
lemma reconciled_eq (run : MetricsRun) (answer : HeartbeatAnswer) :
    run.reconciled answer = run.pendingMetrics ∨ run.reconciled answer = none := by
  unfold reconciled
  cases answer.delivery with
  | none => exact .inl rfl
  | some delivery =>
    cases delivery with
    | failed => exact .inl rfl
    | accepted response =>
      cases response with
      | none => exact .inr rfl
      | some =>
        dsimp only [reconcileMetricBatch]
        split_ifs
        · exact .inr rfl
        · exact .inl rfl

lemma isSuccess_of_reconciled {batch : PendingMetricBatch}
    (hpending : run.pendingMetrics = some batch) (hcleared : run.reconciled answer = none) :
    answer.isSuccess := by
  unfold reconciled at hcleared
  cases answer with
  | transportError => exact absurd hcleared (by simp [HeartbeatAnswer.delivery,
      reconcileMetricBatch, hpending])
  | response status =>
    by_cases hsuccess : 200 ≤ status ∧ status < 300
    · simp [HeartbeatAnswer.isSuccess, hsuccess]
    · by_cases hunknown : status = 401 ∨ status = 404 ∨ status = 410 <;>
        simp [HeartbeatAnswer.delivery, hsuccess, hunknown, reconcileMetricBatch, hpending]
          at hcleared

/-- What an answer does. A batch that is cleared was sent with the heartbeat, and applied. -/
inductive Answer (run : MetricsRun) (answer : HeartbeatAnswer) : MetricsRun → Prop where
  | kept (report : MetricsReport) (hphase : run.phase = .sent report) :
      Answer run answer { run with
        phase := .waiting
        applied := if answer.isSuccess then report.record run.applied else run.applied }
  | cleared (report : MetricsReport) (batch : PendingMetricBatch) (hphase : run.phase = .sent report)
      (hpending : run.pendingMetrics = some batch) :
      Answer run answer { run with
        pendingMetrics := none
        phase := .waiting
        cleared := run.cleared ++ [batch]
        applied := report.record run.applied }
  | ignored : Answer run answer run

lemma answered_of_kept {report : MetricsReport} (hphase : run.phase = .sent report)
    (hkept : run.reconciled answer = run.pendingMetrics) :
    run.answered answer = { run with
      phase := .waiting
      applied := if answer.isSuccess then report.record run.applied else run.applied } := by
  unfold answered
  cases hpending : run.pendingMetrics <;> simp [hphase, hkept, hpending]

lemma answer_answered (run : MetricsRun) (answer : HeartbeatAnswer) :
    Answer run answer (run.answered answer) := by
  cases hphase : run.phase with
  | sent report =>
    obtain hkept | hcleared := reconciled_eq run answer
    · rw [answered_of_kept hphase hkept]
      exact .kept report hphase
    · cases hpending : run.pendingMetrics with
      | none =>
        rw [answered_of_kept hphase (hcleared.trans hpending.symm)]
        exact .kept report hphase
      | some batch =>
        have hsuccess := isSuccess_of_reconciled hpending hcleared
        simpa [answered, hphase, hcleared, hpending, hsuccess] using
          Answer.cleared report batch hphase hpending
  | _ =>
    have hignored : run.answered answer = run := by
      rw [answered, hphase]
    rw [hignored]
    exact .ignored

/-- The steps of the loop up to the heartbeat. -/
inductive Advance (run : MetricsRun) (uuid : String) : MetricsRun → Prop where
  | drainSuccess (hphase : run.phase = .waiting) (hnone : run.pendingMetrics = none) :
      Advance run uuid { run with
        tasksSuccess := 0, phase := .drainedSuccess run.tasksSuccess, ticks := run.ticks + 1 }
  | keep (hphase : run.phase = .waiting) :
      Advance run uuid { run with phase := .ready, ticks := run.ticks + 1 }
  | drainFailed (ok : ℕ) (hphase : run.phase = .drainedSuccess ok) :
      Advance run uuid { run with tasksFailed := 0, phase := .drainedFailed ok run.tasksFailed }
  | create (ok fail : ℕ) (hphase : run.phase = .drainedFailed ok fail) (hany : 0 < ok ∨ 0 < fail) :
      Advance run uuid { run with
        tasksLatencyTotalMs := 0
        pendingMetrics := some ⟨uuid, ok, fail, run.tasksLatencyTotalMs⟩
        created := run.created ++ [uuid]
        phase := .ready }
  | nothing (hphase : run.phase = .drainedFailed 0 0) :
      Advance run uuid { run with tasksLatencyTotalMs := 0, phase := .ready }
  | send (hphase : run.phase = .ready) :
      Advance run uuid { run with
        phase := .sent (.of run.pendingMetrics)
        requests := run.requests ++ [.of run.pendingMetrics] }
  | wait : Advance run uuid run

lemma advance_advance (run : MetricsRun) (uuid : String) : Advance run uuid (run.advance uuid) := by
  unfold advance
  split
  case h_1 hphase =>
    split
    case h_1 hnone => exact .drainSuccess hphase hnone
    case h_2 => exact .keep hphase
  case h_2 ok hphase => exact .drainFailed ok hphase
  case h_3 ok fail hphase =>
    unfold createBatch
    split_ifs with hany
    · exact .create ok fail hphase hany
    · obtain ⟨rfl, rfl⟩ : ok = 0 ∧ fail = 0 := by omega
      exact .nothing hphase
  case h_4 hphase => exact .send hphase
  case h_5 => exact .wait

lemma Accounted.of_advance (hrun : Accounted run) {uuid : String} (hadvance : Advance run uuid next) :
    Accounted next := by
  have hsuccesses := hrun.successes
  have hfailures := hrun.failures
  have hticks := hrun.ticks
  cases hadvance with
  | drainSuccess hphase hnone =>
    rw [hphase] at hsuccesses hfailures hticks
    refine ⟨?_, ?_, fun _ ↦ hnone, hrun.nonempty, nofun, ?_⟩
    · simpa [TickPhase.successes] using hsuccesses
    · simpa [TickPhase.failures] using hfailures
    · simpa [TickPhase.unsent, TickPhase.draining] using hticks
  | keep hphase =>
    rw [hphase] at hsuccesses hfailures hticks
    refine ⟨hsuccesses, hfailures, nofun, hrun.nonempty, nofun, ?_⟩
    simpa [TickPhase.unsent, TickPhase.draining] using hticks
  | drainFailed ok hphase =>
    have hnone := hrun.draining (by rw [hphase]; rfl)
    rw [hphase] at hsuccesses hfailures hticks
    refine ⟨hsuccesses, ?_, fun _ ↦ hnone, hrun.nonempty, nofun, hticks⟩
    simpa [TickPhase.failures] using hfailures
  | create ok fail hphase hany =>
    have hnone := hrun.draining (by rw [hphase]; rfl)
    rw [hphase, hnone] at hsuccesses hfailures
    rw [hphase] at hticks
    refine ⟨?_, ?_, nofun, ?_, nofun, hticks⟩
    · simpa [TickPhase.successes] using hsuccesses
    · simpa [TickPhase.failures] using hfailures
    · intro batch hbatch
      rw [← Option.some.inj hbatch]
      exact hany
  | nothing hphase =>
    rw [hphase] at hsuccesses hfailures hticks
    exact ⟨hsuccesses, hfailures, nofun, hrun.nonempty, nofun, hticks⟩
  | send hphase =>
    rw [hphase] at hsuccesses hfailures hticks
    refine ⟨hsuccesses, hfailures, nofun, hrun.nonempty, ?_, ?_⟩
    · intro report hreport
      exact (TickPhase.sent.inj hreport).symm
    · simpa [TickPhase.unsent, TickPhase.draining] using hticks
  | wait => exact hrun

lemma Accounted.of_answer (hrun : Accounted run) (hanswer : Answer run answer next) :
    Accounted next := by
  have hsuccesses := hrun.successes
  have hfailures := hrun.failures
  have hticks := hrun.ticks
  cases hanswer with
  | kept report hphase =>
    rw [hphase] at hsuccesses hfailures hticks
    exact ⟨hsuccesses, hfailures, nofun, hrun.nonempty, nofun, hticks⟩
  | cleared report batch hphase hpending =>
    rw [hphase, hpending] at hsuccesses hfailures
    rw [hphase] at hticks
    refine ⟨?_, ?_, nofun, nofun, nofun, hticks⟩
    · simpa [TickPhase.successes] using hsuccesses
    · simpa [TickPhase.failures] using hfailures
  | ignored => exact hrun

lemma Accounted.step (hrun : Accounted run) (event : MetricsEvent) : Accounted (run.step event) := by
  have hsuccesses := hrun.successes
  have hfailures := hrun.failures
  cases event with
  | taskSucceeded =>
    refine ⟨?_, hfailures, hrun.draining, hrun.nonempty, hrun.sent, hrun.ticks⟩
    dsimp only [MetricsRun.step]
    omega
  | taskFailed =>
    refine ⟨hsuccesses, ?_, hrun.draining, hrun.nonempty, hrun.sent, hrun.ticks⟩
    dsimp only [MetricsRun.step]
    omega
  | addLatency =>
    exact ⟨hsuccesses, hfailures, hrun.draining, hrun.nonempty, hrun.sent, hrun.ticks⟩
  | advance uuid => exact hrun.of_advance (advance_advance run uuid)
  | arrive index =>
    dsimp only [MetricsRun.step]
    cases run.requests[index]? with
    | none => exact hrun
    | some =>
      exact ⟨hsuccesses, hfailures, hrun.draining, hrun.nonempty, hrun.sent, hrun.ticks⟩
  | answer answer => exact hrun.of_answer (answer_answered run answer)

end Counts

/-! ### The directory -/

namespace MetricsReport

@[simp] lemma counts_of (batch : PendingMetricBatch) :
    (of (some batch)).successes = batch.tasksSuccess ∧
      (of (some batch)).failures = batch.tasksFailed := by
  by_cases hany : 0 < batch.tasksSuccess ∨ 0 < batch.tasksFailed
  · simp [successes, failures, of, hany]
  · obtain ⟨hsuccess, hfailed⟩ : batch.tasksSuccess = 0 ∧ batch.tasksFailed = 0 := by omega
    simp [successes, failures, of, hsuccess, hfailed]

lemma record_of_none (applied : List MetricsReport) : record applied (of none) = applied := rfl

/-- A batch is applied, or one with its identity was. -/
lemma record_of_some (applied : List MetricsReport) (batch : PendingMetricBatch) :
    (∃ earlier ∈ applied, earlier.metricsBatchId = some batch.id) ∧
        record applied (of (some batch)) = applied ∨
      (∀ earlier ∈ applied, earlier.metricsBatchId ≠ some batch.id) ∧
        record applied (of (some batch)) = applied ++ [of (some batch)] := by
  by_cases happlied : ∃ earlier ∈ applied, earlier.metricsBatchId = some batch.id
  · refine .inl ⟨happlied, if_pos ?_⟩
    simpa using happlied
  · have hother : ∀ earlier ∈ applied, earlier.metricsBatchId ≠ some batch.id :=
      fun earlier hearlier hsame ↦ happlied ⟨earlier, hearlier, hsame⟩
    refine .inr ⟨hother, if_neg ?_⟩
    simpa using hother

end MetricsReport

open MetricsReport

/-- What the directory has applied are batches that were made, no identity twice, and the cleared
ones among them. -/
structure AppliedOnce (run : MetricsRun) : Prop where
  known : ∀ batch ∈ run.batches, batch.id ∈ run.created
  distinct : (run.batches.map PendingMetricBatch.id).Nodup
  requests : ∀ report ∈ run.requests, report = of none ∨
    ∃ batch ∈ run.batches, report = of (some batch)
  applied : ∀ report ∈ run.applied, ∃ batch ∈ run.batches, report = of (some batch)
  appliedOnce : (run.applied.map metricsBatchId).Nodup
  cleared : ∀ batch ∈ run.cleared, of (some batch) ∈ run.applied

section Applied

variable {run next : MetricsRun}

/-- Assumes: the same batches were made and sent and applied, and the cleared ones are applied. -/
lemma AppliedOnce.congr (hrun : AppliedOnce run) (hbatches : next.batches = run.batches)
    (hcreated : next.created = run.created) (hrequests : next.requests = run.requests)
    (happlied : next.applied = run.applied)
    (hcleared : ∀ batch ∈ next.cleared, of (some batch) ∈ next.applied) : AppliedOnce next := by
  refine ⟨?_, ?_, ?_, ?_, ?_, hcleared⟩
  · rw [hbatches, hcreated]
    exact hrun.known
  · rw [hbatches]
    exact hrun.distinct
  · rw [hbatches, hrequests]
    exact hrun.requests
  · rw [hbatches, happlied]
    exact hrun.applied
  · rw [happlied]
    exact hrun.appliedOnce

lemma AppliedOnce.eq_of_id (hrun : AppliedOnce run) {first second : PendingMetricBatch}
    (hfirst : first ∈ run.batches) (hsecond : second ∈ run.batches) (hid : first.id = second.id) :
    first = second :=
  inj_on_of_nodup_map hrun.distinct hfirst hsecond hid

/-- The directory gets a heartbeat with a batch. -/
lemma AppliedOnce.record (hrun : AppliedOnce run) {batch : PendingMetricBatch}
    (hbatch : batch ∈ run.batches) :
    AppliedOnce { run with applied := MetricsReport.record run.applied (of (some batch)) } ∧
      of (some batch) ∈ MetricsReport.record run.applied (of (some batch)) := by
  obtain ⟨⟨earlier, hearlier, hid⟩, hsame⟩ | ⟨hother, hadded⟩ :=
    record_of_some run.applied batch
  · obtain ⟨applied, happlied, rfl⟩ := hrun.applied earlier hearlier
    obtain rfl : applied = batch := hrun.eq_of_id happlied hbatch (Option.some.inj hid)
    rw [hsame]
    exact ⟨hrun, hearlier⟩
  · rw [hadded]
    refine ⟨⟨hrun.known, hrun.distinct, hrun.requests, ?_, ?_, ?_⟩, by simp⟩
    · intro report hreport
      obtain hold | hnew := mem_append.mp hreport
      · exact hrun.applied report hold
      · exact ⟨batch, hbatch, mem_singleton.mp hnew⟩
    · rw [map_append, nodup_append]
      refine ⟨hrun.appliedOnce, nodup_singleton _, ?_⟩
      rintro _ hfirst _ hsecond rfl
      obtain ⟨earlier, hearlier, rfl⟩ := mem_map.mp hfirst
      exact hother earlier hearlier (mem_singleton.mp hsecond)
    · intro cleared hcleared
      exact mem_append_left _ (hrun.cleared cleared hcleared)

lemma AppliedOnce.arrive (hrun : AppliedOnce run) {report : MetricsReport}
    (hreport : report = of none ∨ ∃ batch ∈ run.batches, report = of (some batch)) :
    AppliedOnce { run with applied := MetricsReport.record run.applied report } := by
  obtain rfl | ⟨_, hbatch, rfl⟩ := hreport
  · rw [record_of_none]
    exact hrun
  · exact (hrun.record hbatch).1

/-- The report of the pending batch is that of a batch, or empty. -/
lemma of_pending (run : MetricsRun) : of run.pendingMetrics = of none ∨
    ∃ batch ∈ run.batches, of run.pendingMetrics = of (some batch) := by
  cases hpending : run.pendingMetrics with
  | none => exact .inl rfl
  | some batch => exact .inr ⟨batch, by simp [batches, hpending], rfl⟩

variable (hrun : AppliedOnce run)

include hrun

/-- Assumes: what the loop drains is not mixed with a batch, and the identity that it draws is that
of no batch before. -/
lemma AppliedOnce.of_advance (haccounted : Accounted run) {uuid : String}
    (hnew : uuid ∉ run.created) (hadvance : Advance run uuid next) : AppliedOnce next := by
  cases hadvance with
  | drainSuccess | keep | drainFailed | nothing | wait =>
    exact hrun.congr rfl rfl rfl rfl hrun.cleared
  | create ok fail hphase =>
    obtain ⟨hknown, hdistinct, hrequests, happlied, honce, hcleared⟩ := hrun
    have hnone := haccounted.draining (by rw [hphase]; rfl)
    have hbatches : run.batches = run.cleared := by simp [batches, hnone]
    rw [hbatches] at hknown hdistinct hrequests happlied
    refine ⟨?_, ?_, ?_, ?_, honce, hcleared⟩
    · intro batch hbatch
      obtain hold | hadded := mem_append.mp hbatch
      · exact mem_append_left _ (hknown batch hold)
      · rw [mem_singleton.mp hadded]
        exact mem_append_right _ (mem_singleton_self _)
    · dsimp only [batches, Option.toList_some]
      rw [map_append, map_singleton, ← concat_eq_append]
      refine Nodup.concat ?_ hdistinct
      intro hfound
      obtain ⟨batch, hbatch, hid⟩ := mem_map.mp hfound
      have hsame : batch.id = uuid := hid
      exact hnew (hsame ▸ hknown batch hbatch)
    · intro report hreport
      obtain hempty | ⟨batch, hbatch, heq⟩ := hrequests report hreport
      · exact .inl hempty
      · exact .inr ⟨batch, mem_append_left _ hbatch, heq⟩
    · intro report hreport
      obtain ⟨batch, hbatch, heq⟩ := happlied report hreport
      exact ⟨batch, mem_append_left _ hbatch, heq⟩
  | send =>
    refine ⟨hrun.known, hrun.distinct, ?_, hrun.applied, hrun.appliedOnce, hrun.cleared⟩
    intro report hreport
    obtain hold | hsent := mem_append.mp hreport
    · exact hrun.requests report hold
    · rw [mem_singleton.mp hsent]
      exact of_pending run

lemma AppliedOnce.of_answer (haccounted : Accounted run) {answer : HeartbeatAnswer}
    (hanswer : Answer run answer next) : AppliedOnce next := by
  cases hanswer with
  | kept report hphase =>
    split_ifs
    · have harrived := hrun.arrive (of_pending run)
      rw [haccounted.sent report hphase]
      exact harrived.congr rfl rfl rfl rfl harrived.cleared
    · exact hrun.congr rfl rfl rfl rfl hrun.cleared
  | cleared report batch hphase hpending =>
    have hbatch : batch ∈ run.batches := by simp [batches, hpending]
    obtain ⟨hrecorded, hmem⟩ := hrun.record hbatch
    rw [haccounted.sent report hphase, hpending]
    refine hrecorded.congr (by simp [batches, hpending]) rfl rfl rfl ?_
    intro other hother
    obtain hold | hlast := mem_append.mp hother
    · exact hrecorded.cleared other hold
    · rw [mem_singleton.mp hlast]
      exact hmem
  | ignored => exact hrun

lemma AppliedOnce.step (haccounted : Accounted run) {event : MetricsEvent}
    (hnew : ∀ uuid, event = .advance uuid → uuid ∉ run.created) : AppliedOnce (run.step event) := by
  cases event with
  | taskSucceeded | taskFailed | addLatency => exact hrun.congr rfl rfl rfl rfl hrun.cleared
  | advance uuid => exact hrun.of_advance haccounted (hnew uuid rfl) (advance_advance run uuid)
  | arrive index =>
    dsimp only [MetricsRun.step]
    cases hreport : run.requests[index]? with
    | none => exact hrun
    | some report => exact hrun.arrive (hrun.requests report (mem_of_getElem? hreport))
  | answer answer => exact hrun.of_answer haccounted (answer_answered run answer)

/-- The directory has applied the cleared batches, and the pending one if so, each once. -/
lemma AppliedOnce.perm :
    run.applied.Perm ((run.cleared ++ run.pendingApplied).map fun batch ↦ of (some batch)) := by
  have hsublist : (run.cleared ++ run.pendingApplied).Sublist run.batches :=
    Sublist.append_left filter_sublist _
  have hdistinct : ((run.cleared ++ run.pendingApplied).map fun batch ↦ of (some batch)).Nodup := by
    refine Nodup.of_map metricsBatchId ?_
    rw [map_map]
    have hids := (hrun.distinct.sublist (hsublist.map _)).map (Option.some_injective String)
    rwa [map_map] at hids
  refine (perm_ext_iff_of_nodup hrun.appliedOnce.of_map hdistinct).mpr fun report ↦ ?_
  rw [mem_map]
  constructor
  · intro hreport
    obtain ⟨batch, hbatch, rfl⟩ := hrun.applied report hreport
    refine ⟨batch, ?_, rfl⟩
    obtain hcleared | hpending := mem_append.mp hbatch
    · exact mem_append_left _ hcleared
    · have happlied : (run.applied.any fun report ↦ report.metricsBatchId == some batch.id) :=
        any_eq_true.mpr ⟨_, hreport, beq_self_eq_true _⟩
      exact mem_append_right _ (mem_filter.mpr ⟨hpending, happlied⟩)
  · rintro ⟨batch, hbatch, rfl⟩
    obtain hcleared | hpending := mem_append.mp hbatch
    · exact hrun.cleared batch hcleared
    · obtain ⟨hmem, hany⟩ := mem_filter.mp hpending
      obtain ⟨report, hreport, hid⟩ := any_eq_true.mp hany
      obtain ⟨other, hother, rfl⟩ := hrun.applied report hreport
      have hsame : other = batch :=
        hrun.eq_of_id hother (mem_append_right _ hmem) (Option.some.inj (eq_of_beq hid))
      exact hsame ▸ hreport

lemma AppliedOnce.delivered : Delivered run where
  successes := by
    rw [(hrun.perm.map successes).sum_eq]
    simp [Function.comp_def]
  failures := by
    rw [(hrun.perm.map failures).sum_eq]
    simp [Function.comp_def]
  once batch hbatch :=
    count_eq_one_of_mem hrun.appliedOnce (mem_map_of_mem (hrun.cleared batch hbatch))

end Applied

/-! ### The theorem -/

section Resending

variable {run next : MetricsRun}

lemma Resent.of_same (hpending : next.pendingMetrics = run.pendingMetrics)
    (hcleared : next.cleared = run.cleared)
    (hrequests : next.requests = run.requests ∨
      next.requests = run.requests ++ [of run.pendingMetrics]) : Resent run next where
  batch _ hbatch := .inl ⟨hpending.trans hbatch, hcleared⟩
  cleared _ := hcleared
  requests := hrequests

lemma Resent.of_advance (hrun : Accounted run) {uuid : String} (hadvance : Advance run uuid next) :
    Resent run next := by
  cases hadvance with
  | drainSuccess | keep | drainFailed | nothing | wait => exact .of_same rfl rfl (.inl rfl)
  | create ok fail hphase =>
    have hnone := hrun.draining (by rw [hphase]; rfl)
    refine ⟨fun batch hbatch ↦ ?_, fun _ ↦ rfl, .inl rfl⟩
    rw [hnone] at hbatch
    nomatch hbatch
  | send => exact .of_same rfl rfl (.inr rfl)

lemma Resent.of_answer {answer : HeartbeatAnswer} (hanswer : Answer run answer next) :
    Resent run next := by
  cases hanswer with
  | kept | ignored => exact .of_same rfl rfl (.inl rfl)
  | cleared report batch hphase hpending =>
    refine ⟨fun other hother ↦ ?_, fun hnone ↦ ?_, .inl rfl⟩
    · rw [hpending] at hother
      rw [Option.some.inj hother]
      exact .inr ⟨rfl, rfl⟩
    · rw [hpending] at hnone
      nomatch hnone

lemma Resent.of_step (hrun : Accounted run) (event : MetricsEvent) : Resent run (run.step event) := by
  cases event with
  | taskSucceeded | taskFailed | addLatency => exact .of_same rfl rfl (.inl rfl)
  | advance uuid => exact .of_advance hrun (advance_advance run uuid)
  | arrive index =>
    dsimp only [MetricsRun.step]
    cases run.requests[index]? <;> exact .of_same rfl rfl (.inl rfl)
  | answer answer => exact .of_answer (answer_answered run answer)

end Resending

lemma accounted_start : Accounted .start := ⟨rfl, rfl, nofun, nofun, nofun, rfl⟩

lemma appliedOnce_start : AppliedOnce .start :=
  ⟨nofun, nodup_nil, nofun, nofun, nodup_nil, nofun⟩

/-- In every interleaving of tasks, ticks and answers a batch is kept and sent until it is cleared,
and every outcome is in one place. If no identity is drawn twice, the directory has applied the
outcomes of the cleared batches once, and those of the pending batch at most once. -/
theorem outcomes_reported_once (events : List MetricsEvent) :
    let moment := stateAt MetricsRun.step .start events
    (∀ position, Resent (moment position) (moment (position + 1))) ∧
      (∀ position, Accounted (moment position)) ∧
      ((∀ position uuid, events[position]? = some (.advance uuid) →
          uuid ∉ (moment position).created) →
        ∀ position, Delivered (moment position)) := by
  intro moment
  have haccounted : ∀ position, Accounted (moment position) := fun position ↦
    always_of_good accounted_start (fun _ event _ hrun ↦ hrun.step event) position
  refine ⟨fun position ↦ ?_, haccounted, fun hnew position ↦ ?_⟩
  · cases hevent : events[position]? with
    | none =>
      rw [show moment (position + 1) = moment position from stateAt_succ_of_none _ hevent]
      exact .of_same rfl rfl (.inl rfl)
    | some event =>
      rw [show moment (position + 1) = (moment position).step event from stateAt_succ _ hevent]
      exact .of_step (haccounted position) event
  · have honce : AppliedOnce (moment position) := by
      refine always_of_good appliedOnce_start (fun earlier event hevent hrun ↦ ?_) position
      exact hrun.step (haccounted earlier) fun uuid hdraw ↦ hnew earlier uuid (hdraw ▸ hevent)
    exact honce.delivered

/-- A heartbeat with a batch arrives and its answer is lost, so that the batch is sent and arrives
again. -/
def answerLost : List MetricsEvent :=
  [.taskSucceeded, .advance "id-1", .taskFailed, .advance "id-2", .advance "id-3", .advance "id-4",
    .arrive 0, .answer .transportError, .taskSucceeded, .advance "id-5", .advance "id-6", .arrive 1,
    .answer (.response 200 none)]

theorem outcomes_reported_once_answerLost :
    let run := stateAt MetricsRun.step .start answerLost 13
    Delivered run ∧ run.cleared = [⟨"id-3", 1, 1, 0⟩] ∧ run.tasksSuccess = 1 ∧
      run.requests.length = 2 ∧ run.applied.length = 1 := by
  refine ⟨(outcomes_reported_once answerLost).2.2 (fun position uuid hevent ↦ ?_) 13, by decide,
    by decide, by decide, by decide⟩
  have hposition : position < 13 := (List.getElem?_eq_some_iff.mp hevent).1
  interval_cases position <;> cases hevent <;> decide

end Iicp.Node
