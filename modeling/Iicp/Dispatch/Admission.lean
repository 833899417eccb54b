import Iicp.Concurrent.EventMachine
import Iicp.Relational.Table
import Iicp.Rust.Text

/-!
# The admission of dispatch tickets

A provider admits a ticket once. The store keeps a row for every ticket that was consumed, and a
ticket with a row is refused. Rows are moved to a terminal state when their task ends, and are
deleted some time after the ticket has expired. Every call is one transaction that excludes the
others, so a run of any number of processes is a sequence of calls.

A ticket is accepted while `now - clockSkewS < expiresAt`, and its row is deleted when
`expiresAt < now - retentionS`. Both are chosen by the caller. `ticket_admitted_once` is for skews
that are not larger than the retention of a cleanup before them; `readmitted_after_cleanup` is a run
where a shorter retention lets a ticket in twice.
-/

namespace Iicp.Dispatch

open Concurrent Relational Rust

/-! ### Claims, decisions and records -/

structure DispatchAdmissionClaim where
  (jti providerId intent : String)
  notBefore : ℕ
  expiresAt : ℕ
  deriving DecidableEq, Repr

structure DispatchAdmissionDecision where
  code : String
  accepted : Bool
  state : Option String
  deriving DecidableEq, Repr

namespace DispatchAdmissionDecision

def reject (code : String) : DispatchAdmissionDecision := ⟨code, false, none⟩

def accept : DispatchAdmissionDecision := ⟨"accepted", true, some "accepted"⟩

end DispatchAdmissionDecision

structure DispatchAdmissionRecord where
  (jti providerDigest intentDigest state : String)
  (expiresAt consumedAt updatedAt : ℕ)
  deriving DecidableEq, Repr

inductive DispatchAdmissionError where
  | storage (message : String)
  | unknown
  | transition (message : String)
  deriving DecidableEq, Repr

def terminal (state : String) : Bool :=
  state == "completed" || state == "failed" || state == "cancelled" || state == "expired" ||
    state == "rejected"

abbrev AdmissionTable := Table DispatchAdmissionRecord String DispatchAdmissionRecord.jti

abbrev AdmissionResult (α : Type) := Outcome DispatchAdmissionError α

/-! ### The store -/

def isAsciiAlphanumeric (byte : UInt8) : Bool :=
  48 ≤ byte && byte ≤ 57 || 65 ≤ byte && byte ≤ 90 || 97 ≤ byte && byte ≤ 122

/-- Between 16 and 256 bytes, letters and digits and four signs. -/
def validJti (jti : String) : Bool :=
  let bytes := utf8Bytes jti
  !(bytes.length < 16 || 256 < bytes.length ||
    !bytes.all fun byte ↦ isAsciiAlphanumeric byte || (utf8Bytes "._:-").contains byte)

/-- The checks that need no store. -/
def claimRejection (claim : DispatchAdmissionClaim) (expectedProviderId expectedIntent : String)
    (now clockSkewS : ℕ) : Option String :=
  if !validJti claim.jti then some "reject_invalid_jti"
  else if claim.providerId ≠ expectedProviderId then some "reject_provider_binding"
  else if claim.intent ≠ expectedIntent then some "reject_intent_binding"
  else if saturatingAddU64 now clockSkewS < claim.notBefore then some "reject_not_yet_valid"
  else if claim.expiresAt ≤ now - clockSkewS then some "reject_expired"
  else none

/-- The message for a value that the signed columns cannot hold. -/
def outOfRange : DispatchAdmissionError :=
  .storage "out of range integral type conversion attempted"

section Store

variable (sha256 : String → String) (db : AdmissionTable) (claim : DispatchAdmissionClaim)

def acceptedRecord (now : ℕ) : DispatchAdmissionRecord where
  jti := claim.jti
  providerDigest := "sha256:" ++ sha256 claim.providerId
  intentDigest := "sha256:" ++ sha256 claim.intent
  state := "accepted"
  expiresAt := claim.expiresAt
  consumedAt := now
  updatedAt := now

def consumeRow (now : ℕ) :
    AdmissionTable × AdmissionResult DispatchAdmissionDecision :=
  match hfound : db.find? claim.jti with
  | some record =>
    (db, .ok {
      code := if terminal record.state then "reject_terminal" else "reject_replay"
      accepted := false
      state := some record.state })
  | none =>
    if claim.expiresAt < 2 ^ 63 ∧ now < 2 ^ 63 then
      (db.insert (acceptedRecord sha256 claim now) ((db.find?_eq_none_iff _).mp hfound),
        .ok .accept)
    else (db, .err outOfRange)

variable (expectedProviderId expectedIntent : String)

/-- A fault is any failure of the database up to the commit, which leaves the table as it was. -/
def consumeSync (now clockSkewS : ℕ) (fault : Option String) :
    AdmissionTable × AdmissionResult DispatchAdmissionDecision :=
  match claimRejection claim expectedProviderId expectedIntent now clockSkewS with
  | some code => (db, .ok (.reject code))
  | none =>
    match fault with
    | some message => (db, .err (.storage message))
    | none => consumeRow sha256 db claim now

/-- The update of `transitionSync`, with the row that is read back. -/
def updateRow (jti state : String) (now : ℕ) :
    AdmissionTable × AdmissionResult DispatchAdmissionRecord :=
  if now < 2 ^ 63 then
    let next := db.modify jti (fun row ↦ { row with state := state, updatedAt := now }) fun _ ↦ rfl
    match next.find? jti with
    | none => (db, .err (.storage "Query returned no rows"))
    | some record => (next, .ok record)
  else (db, .err outOfRange)

def transitionSync (jti state : String) (now : ℕ) (fault : Option String) :
    AdmissionTable × AdmissionResult DispatchAdmissionRecord :=
  if !terminal state then (db, .err (.transition state))
  else
    match fault with
    | some message => (db, .err (.storage message))
    | none =>
      match db.find? jti with
      | none => (db, .err .unknown)
      | some existing =>
        if terminal existing.state && existing.state != state then
          (db, .err (.transition ("already terminal as " ++ existing.state)))
        else if existing.state != state then updateRow db jti state now
        else (db, .ok existing)

/-- The rows that a cleanup deletes: those that have expired before the cutoff, the oldest first, up
to a limit. -/
def doomedRows (cutoff limit : ℕ) : List String :=
  (((db.rows.filter fun row ↦ row.expiresAt < cutoff).insertionSort
    fun first second ↦ first.expiresAt ≤ second.expiresAt).take limit).map
    DispatchAdmissionRecord.jti

def cleanup (now retentionS limit : ℕ) (fault : Option String) :
    AdmissionTable × AdmissionResult ℕ :=
  let cutoff := now - retentionS
  match fault with
  | some message => (db, .err (.storage message))
  | none =>
    if cutoff < 2 ^ 63 ∧ max limit 1 < 2 ^ 63 then
      let doomed := doomedRows db cutoff (max limit 1)
      (db.delete fun row ↦ doomed.contains row.jti, .ok doomed.length)
    else (db, .err outOfRange)

end Store

/-! ### Runs -/

inductive AdmissionCall where
  | consume (claim : DispatchAdmissionClaim) (expectedProviderId expectedIntent : String)
      (now clockSkewS : ℕ) (fault : Option String)
  | transition (jti state : String) (now : ℕ) (fault : Option String)
  | cleanup (now retentionS limit : ℕ) (fault : Option String)
  deriving DecidableEq

namespace AdmissionCall

def now : AdmissionCall → ℕ
  | .consume _ _ _ now _ _ => now
  | .transition _ _ now _ => now
  | .cleanup now _ _ _ => now

def step (sha256 : String → String) (db : AdmissionTable) : AdmissionCall → AdmissionTable
  | .consume claim expectedProviderId expectedIntent now clockSkewS fault =>
    (consumeSync sha256 db claim expectedProviderId expectedIntent now clockSkewS fault).1
  | .transition jti state now fault => (transitionSync db jti state now fault).1
  | .cleanup now retentionS limit fault => (Dispatch.cleanup db now retentionS limit fault).1

/-- The ticket that a call is answered to accept. -/
def admits (sha256 : String → String) (db : AdmissionTable) :
    AdmissionCall → Option DispatchAdmissionClaim
  | .consume claim expectedProviderId expectedIntent now clockSkewS fault =>
    match (consumeSync sha256 db claim expectedProviderId expectedIntent now clockSkewS fault).2 with
    | .ok decision => if decision.accepted then some claim else none
    | _ => none
  | _ => none

def isCleanup : AdmissionCall → Bool
  | .cleanup _ _ _ _ => true
  | _ => false

end AdmissionCall

open AdmissionCall

def Clocked (calls : List AdmissionCall) : Prop :=
  calls.Pairwise fun earlier later ↦ earlier.now ≤ later.now

/-- A ticket is not consumed with a skew that is larger than the retention of a cleanup before. -/
def SkewCovered (calls : List AdmissionCall) : Prop :=
  calls.Pairwise fun earlier later ↦
    match earlier, later with
    | .cleanup _ retentionS _ _, .consume _ _ _ _ clockSkewS _ => clockSkewS ≤ retentionS
    | _, _ => True

/-! ### What a call does -/

/-- A call leaves the table alone, accepts a ticket that has no row and is in time, moves a row to a
terminal state for the first time, or deletes rows that have expired before its cutoff. -/
inductive Effect (sha256 : String → String) (db : AdmissionTable) :
    AdmissionCall → AdmissionTable → Prop where
  | same (call : AdmissionCall) (hrefused : call.admits sha256 db = none) : Effect sha256 db call db
  | accepted (claim : DispatchAdmissionClaim) (expectedProviderId expectedIntent : String)
      (now clockSkewS : ℕ) (fault : Option String) (next : AdmissionTable)
      (hnone : db.find? claim.jti = none) (htime : now - clockSkewS < claim.expiresAt)
      (hfind : ∀ jti, next.find? jti =
        if jti = claim.jti then some (acceptedRecord sha256 claim now) else db.find? jti) :
      Effect sha256 db (.consume claim expectedProviderId expectedIntent now clockSkewS fault) next
  | ended (jti state : String) (now : ℕ) (fault : Option String) (next : AdmissionTable)
      (existing : DispatchAdmissionRecord) (hfound : db.find? jti = some existing)
      (hopen : terminal existing.state = false)
      (hfind : ∀ other, next.find? other =
        if other = jti then some { existing with state := state, updatedAt := now }
        else db.find? other) : Effect sha256 db (.transition jti state now fault) next
  | cleaned (now retentionS limit : ℕ) (fault : Option String) (next : AdmissionTable)
      (hfind : ∀ jti record, db.find? jti = some record →
        next.find? jti = some record ∨ record.expiresAt < now - retentionS) :
      Effect sha256 db (.cleanup now retentionS limit fault) next

section Effects

variable (sha256 : String → String) (db : AdmissionTable) (claim : DispatchAdmissionClaim)

def Refused (answer : AdmissionResult DispatchAdmissionDecision) : Prop :=
  ∀ decision, answer = .ok decision → decision.accepted = false

/-- A ticket without a row is accepted and gets one, or nothing changes. -/
lemma consumeRow_cases (now : ℕ) :
    db.find? claim.jti = none ∧
        (∀ jti, (consumeRow sha256 db claim now).1.find? jti =
          if jti = claim.jti then some (acceptedRecord sha256 claim now) else db.find? jti) ∨
      (consumeRow sha256 db claim now).1 = db ∧ Refused (consumeRow sha256 db claim now).2 := by
  unfold consumeRow
  split
  case h_1 record hfound =>
    refine .inr ⟨rfl, fun decision hdecision ↦ ?_⟩
    rw [← Outcome.ok.inj hdecision]
  case h_2 hfound =>
    split_ifs with hrange
    · refine .inl ⟨hfound, fun jti ↦ ?_⟩
      exact Table.find?_insert db (acceptedRecord sha256 claim now)
        ((db.find?_eq_none_iff _).mp hfound) jti
    · refine .inr ⟨rfl, fun decision hdecision ↦ ?_⟩
      cases hdecision

variable (expectedProviderId expectedIntent : String)

lemma consumeSync_cases (now clockSkewS : ℕ) (fault : Option String) :
    let result := consumeSync sha256 db claim expectedProviderId expectedIntent now clockSkewS fault
    db.find? claim.jti = none ∧ now - clockSkewS < claim.expiresAt ∧
        (∀ jti, result.1.find? jti =
          if jti = claim.jti then some (acceptedRecord sha256 claim now) else db.find? jti) ∨
      result.1 = db ∧ Refused result.2 := by
  unfold consumeSync
  cases hclaim : claimRejection claim expectedProviderId expectedIntent now clockSkewS with
  | some =>
    refine .inr ⟨rfl, fun decision hdecision ↦ ?_⟩
    rw [← Outcome.ok.inj hdecision]
    rfl
  | none =>
    cases fault with
    | some => exact .inr ⟨rfl, nofun⟩
    | none =>
      obtain ⟨hnone, hfind⟩ | hrefused := consumeRow_cases sha256 db claim now
      · unfold claimRejection at hclaim
        split_ifs at hclaim with hjti hprovider hintent hbefore hexpired
        exact .inl ⟨hnone, Nat.lt_of_not_le hexpired, hfind⟩
      · exact .inr hrefused

lemma effect_consume (now clockSkewS : ℕ) (fault : Option String) :
    Effect sha256 db (.consume claim expectedProviderId expectedIntent now clockSkewS fault)
      (consumeSync sha256 db claim expectedProviderId expectedIntent now clockSkewS fault).1 := by
  obtain ⟨hnone, htime, hfind⟩ | ⟨hsame, hrefused⟩ :=
    consumeSync_cases sha256 db claim expectedProviderId expectedIntent now clockSkewS fault
  · exact .accepted claim _ _ now clockSkewS fault _ hnone htime hfind
  · rw [hsame]
    refine .same _ ?_
    unfold admits
    dsimp only
    split
    · rename_i decision hdecision
      rw [hrefused decision hdecision]
      rfl
    · rfl

lemma effect_transition (jti state : String) (now : ℕ) (fault : Option String) :
    Effect sha256 db (.transition jti state now fault) (transitionSync db jti state now fault).1 := by
  have hsame : Effect sha256 db (.transition jti state now fault) db := .same _ rfl
  unfold transitionSync
  split_ifs with hstate
  · exact hsame
  cases fault with
  | some => exact hsame
  | none =>
    cases hfound : db.find? jti with
    | none => exact hsame
    | some existing =>
      dsimp only
      split_ifs with hother hchange
      · exact hsame
      · unfold updateRow
        split_ifs with hrange
        · have hfind := Table.find?_modify db jti
            (fun row ↦ { row with state := state, updatedAt := now }) (fun _ ↦ rfl)
          have hread := hfind jti
          rw [if_pos rfl, hfound, Option.map_some] at hread
          dsimp only
          rw [hread]
          refine .ended jti state now none _ existing hfound ?_ fun other ↦ ?_
          · simpa [hchange] using hother
          · rw [hfind]
            split_ifs with hsame
            · rw [hsame, hfound, Option.map_some]
            · rfl
        · exact hsame
      · exact hsame

/-- A row that a cleanup deletes has expired before the cutoff. -/
lemma expiresAt_of_mem_doomedRows {cutoff limit : ℕ} {jti : String}
    {record : DispatchAdmissionRecord} (hfound : db.find? jti = some record)
    (hdoomed : jti ∈ doomedRows db cutoff limit) : record.expiresAt < cutoff := by
  obtain ⟨row, hrow, hjti⟩ := List.mem_map.mp hdoomed
  have hsorted := List.mem_of_mem_take hrow
  rw [List.mem_insertionSort, List.mem_filter] at hsorted
  have hsame : db.find? jti = some row := (db.find?_eq_some_iff jti row).mpr ⟨hsorted.1, hjti⟩
  rw [hfound] at hsame
  rw [Option.some.inj hsame]
  simpa using hsorted.2

lemma effect_cleanup (now retentionS limit : ℕ) (fault : Option String) :
    Effect sha256 db (.cleanup now retentionS limit fault)
      (cleanup db now retentionS limit fault).1 := by
  refine .cleaned now retentionS limit fault _ fun jti record hfound ↦ ?_
  unfold cleanup
  cases fault with
  | some => exact .inl hfound
  | none =>
    dsimp only
    split_ifs with hrange
    · by_cases hdoomed : jti ∈ doomedRows db (now - retentionS) (max limit 1)
      · exact .inr (expiresAt_of_mem_doomedRows db hfound hdoomed)
      · left
        rw [Table.find?_eq_some_iff] at hfound ⊢
        refine ⟨List.mem_filter.mpr ⟨hfound.1, ?_⟩, hfound.2⟩
        simpa [hfound.2] using hdoomed
    · exact .inl hfound

lemma effect_step (call : AdmissionCall) : Effect sha256 db call (call.step sha256 db) := by
  cases call with
  | consume claim expectedProviderId expectedIntent now clockSkewS fault =>
    exact effect_consume sha256 db claim expectedProviderId expectedIntent now clockSkewS fault
  | transition jti state now fault => exact effect_transition sha256 db jti state now fault
  | cleanup now retentionS limit fault => exact effect_cleanup sha256 db now retentionS limit fault

end Effects

section Consequences

variable {sha256 : String → String} {db next : AdmissionTable} {call : AdmissionCall}
variable (heffect : Effect sha256 db call next)

include heffect

/-- A call that accepts a ticket finds no row of it, is in time, and leaves a row. -/
lemma Effect.of_admits {claim : DispatchAdmissionClaim}
    (hadmits : call.admits sha256 db = some claim) :
    ∃ expectedProviderId expectedIntent now clockSkewS fault,
      call = .consume claim expectedProviderId expectedIntent now clockSkewS fault ∧
      now - clockSkewS < claim.expiresAt ∧ db.find? claim.jti = none ∧
      next.find? claim.jti = some (acceptedRecord sha256 claim now) := by
  cases heffect with
  | same _ hrefused =>
    rw [hrefused] at hadmits
    nomatch hadmits
  | accepted given expectedProviderId expectedIntent now clockSkewS fault _ hnone htime hfind =>
    have hgiven : given = claim := by
      unfold admits at hadmits
      dsimp only at hadmits
      split at hadmits
      · split_ifs at hadmits
        exact Option.some.inj hadmits
      · nomatch hadmits
    subst hgiven
    refine ⟨expectedProviderId, expectedIntent, now, clockSkewS, fault, rfl, htime, hnone, ?_⟩
    rw [hfind, if_pos rfl]
  | ended | cleaned => nomatch hadmits

variable {record : DispatchAdmissionRecord}

/-- A row stays with its expiry, unless a cleanup deletes it. -/
lemma Effect.find? {jti : String} (hfound : db.find? jti = some record) :
    (∃ kept, next.find? jti = some kept ∧ kept.expiresAt = record.expiresAt) ∨
      ∃ now retentionS limit fault, call = .cleanup now retentionS limit fault ∧
        record.expiresAt < now - retentionS := by
  cases heffect with
  | same => exact .inl ⟨record, hfound, rfl⟩
  | accepted claim _ _ now _ _ _ hnone _ hfind =>
    left
    have hother : jti ≠ claim.jti := by
      rintro rfl
      rw [hnone] at hfound
      nomatch hfound
    refine ⟨record, ?_, rfl⟩
    rw [hfind, if_neg hother, hfound]
  | ended ended state now _ _ existing hexisting _ hfind =>
    left
    by_cases hsame : jti = ended
    · subst hsame
      rw [hexisting] at hfound
      refine ⟨_, (hfind jti).trans (if_pos rfl), ?_⟩
      rw [← Option.some.inj hfound]
    · refine ⟨record, ?_, rfl⟩
      rw [hfind, if_neg hsame, hfound]
  | cleaned now retentionS limit fault _ hfind =>
    obtain hkept | hexpired := hfind jti record hfound
    · exact .inl ⟨record, hkept, rfl⟩
    · exact .inr ⟨now, retentionS, limit, fault, rfl, hexpired⟩

lemma Effect.find?_of_terminal {jti : String}
    (hfound : db.find? jti = some record) (hterminal : terminal record.state)
    (hcall : call.isCleanup = false) : next.find? jti = some record := by
  cases heffect with
  | same => exact hfound
  | accepted claim _ _ now _ _ _ hnone _ hfind =>
    have hother : jti ≠ claim.jti := by
      rintro rfl
      rw [hnone] at hfound
      nomatch hfound
    rw [hfind, if_neg hother, hfound]
  | ended ended state now _ _ existing hexisting hopen hfind =>
    have hother : jti ≠ ended := by
      rintro rfl
      rw [hexisting] at hfound
      rw [Option.some.inj hfound, hterminal] at hopen
      nomatch hopen
    rw [hfind, if_neg hother, hfound]
  | cleaned => nomatch hcall

end Consequences

/-! ### The theorem -/

section Runs

variable {sha256 : String → String} {calls : List AdmissionCall}

/-- What holds between a call and a later one, by their positions. -/
lemma related_of_pairwise {related : AdmissionCall → AdmissionCall → Prop}
    (hpairwise : calls.Pairwise related) {earlier later : ℕ} {first second : AdmissionCall}
    (hlater : earlier < later) (hfirst : calls[earlier]? = some first)
    (hsecond : calls[later]? = some second) : related first second := by
  obtain ⟨hearlier, rfl⟩ := List.getElem?_eq_some_iff.mp hfirst
  obtain ⟨hrange, rfl⟩ := List.getElem?_eq_some_iff.mp hsecond
  exact List.pairwise_iff_getElem.mp hpairwise earlier later hearlier hrange hlater

/-- The row of a ticket is there until a cleanup after its expiry. -/
lemma kept_or_cleaned {jti : String} {expiresAt first position : ℕ} (hposition : first ≤ position)
    (hfirst : ∃ record, (stateAt (step sha256) .empty calls first).find? jti = some record ∧
        record.expiresAt = expiresAt) :
    (∃ record, (stateAt (step sha256) .empty calls position).find? jti = some record ∧
        record.expiresAt = expiresAt) ∨
      ∃ earlier < position, ∃ now retentionS limit fault,
        calls[earlier]? = some (.cleanup now retentionS limit fault) ∧
          expiresAt < now - retentionS := by
  induction position, hposition using Nat.le_induction with
  | base => exact .inl hfirst
  | succ position _ ih =>
    obtain ⟨record, hfound, rfl⟩ | ⟨earlier, hearlier, hcleaned⟩ := ih
    swap
    · exact .inr ⟨earlier, Nat.lt_succ_of_lt hearlier, hcleaned⟩
    cases hcall : calls[position]? with
    | none =>
      rw [stateAt_succ_of_none _ hcall]
      exact .inl ⟨record, hfound, rfl⟩
    | some call =>
      rw [stateAt_succ _ hcall]
      obtain hkept | ⟨now, retentionS, limit, fault, rfl, hexpired⟩ :=
        (effect_step sha256 _ call).find? hfound
      · exact .inl hkept
      · exact .inr ⟨position, Nat.lt_succ_self position, now, retentionS, limit, fault, hcall,
          hexpired⟩

lemma not_admitted_later (hclock : Clocked calls) (hskew : SkewCovered calls)
    {first second : ℕ} (hlater : first < second) {firstCall secondCall : AdmissionCall}
    (hfirst : calls[first]? = some firstCall) (hsecond : calls[second]? = some secondCall)
    {claim other : DispatchAdmissionClaim}
    (hadmitted : firstCall.admits sha256 (stateAt (step sha256) .empty calls first) =
      some claim)
    (hagain : secondCall.admits sha256 (stateAt (step sha256) .empty calls second) =
      some other)
    (hjti : claim.jti = other.jti) : claim.expiresAt ≠ other.expiresAt := by
  intro hexpiry
  obtain ⟨_, _, firstNow, _, _, -, -, -, hrow⟩ := (effect_step sha256 _ firstCall).of_admits hadmitted
  obtain ⟨_, _, now, clockSkewS, _, rfl, htime, hnone, -⟩ :=
    (effect_step sha256 _ secondCall).of_admits hagain
  rw [← stateAt_succ (step sha256) hfirst] at hrow
  obtain ⟨_, hfound, -⟩ | ⟨_, hbefore, cleanedAt, retentionS, _, _, hcleanup, hexpired⟩ :=
    kept_or_cleaned hlater ⟨_, hrow, rfl⟩
  · rw [hjti, hnone] at hfound
    nomatch hfound
  · have hnow : cleanedAt ≤ now := related_of_pairwise hclock hbefore hcleanup hsecond
    have hcovered : clockSkewS ≤ retentionS :=
      related_of_pairwise hskew hbefore hcleanup hsecond
    have hexpires : (acceptedRecord sha256 claim firstNow).expiresAt = other.expiresAt := hexpiry
    rw [hexpires] at hexpired
    omega

end Runs

/-- In every run of calls on a store a ticket is accepted at most once, if time does not go back and
no ticket is consumed with a skew that is larger than the retention of a cleanup before; and in every
run no call but a cleanup changes a row in a terminal state. -/
theorem ticket_admitted_once (sha256 : String → String) (calls : List AdmissionCall) :
    let table := stateAt (step sha256) .empty calls
    (Clocked calls → SkewCovered calls → ∀ (first second : ℕ) (firstCall secondCall : AdmissionCall)
        (claim other : DispatchAdmissionClaim), calls[first]? = some firstCall →
        calls[second]? = some secondCall → firstCall.admits sha256 (table first) = some claim →
        secondCall.admits sha256 (table second) = some other → claim.jti = other.jti →
        claim.expiresAt = other.expiresAt → first = second) ∧
      (∀ (position : ℕ) (call : AdmissionCall) (jti : String) (record : DispatchAdmissionRecord),
        calls[position]? = some call → call.isCleanup = false →
        (table position).find? jti = some record → terminal record.state →
        (table (position + 1)).find? jti = some record) := by
  intro table
  constructor
  · intro hclock hskew first second firstCall secondCall claim other hfirst hsecond hadmitted hagain
      hjti hexpiry
    obtain hlater | hsame | hlater := Nat.lt_trichotomy first second
    · exact absurd hexpiry
        (not_admitted_later hclock hskew hlater hfirst hsecond hadmitted hagain hjti)
    · exact hsame
    · exact absurd hexpiry.symm
        (not_admitted_later hclock hskew hlater hsecond hfirst hagain hadmitted hjti.symm)
  · intro position call jti record hcall hkind hfound hterminal
    rw [show table (position + 1) = call.step sha256 (table position) from stateAt_succ _ hcall]
    exact (effect_step sha256 _ call).find?_of_terminal hfound hterminal hkind

def ticketSha256 (text : String) : String :=
  if text = "provider-a" then "271819043bd61c691eec37b5de0e2fd4" ++ "23c7c669377c089d4cefe3c4836d1daa"
  else if text = "urn:iicp:intent:llm:chat:v1" then
    "29d6ec8da85bf63f73682c31e91edcbc" ++ "a31d5356005309ec8fa6d7c3a930dea7"
  else ""

def ticketUntil (expiresAt : ℕ) : DispatchAdmissionClaim where
  jti := "admission-ticket-00000001"
  providerId := "provider-a"
  intent := "urn:iicp:intent:llm:chat:v1"
  notBefore := 0
  expiresAt := expiresAt

def consumeAt (claim : DispatchAdmissionClaim) (now clockSkewS : ℕ) : AdmissionCall :=
  .consume claim "provider-a" "urn:iicp:intent:llm:chat:v1" now clockSkewS none

/-- A ticket is consumed, its row is deleted, and the ticket is presented again. -/
def presentedTwice (retentionS clockSkewS : ℕ) : List AdmissionCall :=
  [consumeAt (ticketUntil 100) 90 clockSkewS, .cleanup 110 retentionS 10 none,
    consumeAt (ticketUntil 100) 120 clockSkewS]

lemma clocked_presentedTwice (retentionS clockSkewS : ℕ) :
    Clocked (presentedTwice retentionS clockSkewS) := by
  simp [Clocked, presentedTwice, consumeAt, now]

/-- With a retention that covers the skew the ticket is accepted once. -/
theorem ticket_admitted_once_presented :
    let calls := presentedTwice 120 30
    let table := stateAt (step ticketSha256) .empty calls
    (consumeAt (ticketUntil 100) 90 30).admits ticketSha256 (table 0) = some (ticketUntil 100) ∧
      Clocked calls ∧ SkewCovered calls ∧
      (consumeAt (ticketUntil 100) 120 30).admits ticketSha256 (table 2) ≠
        some (ticketUntil 100) := by
  intro calls table
  have haccepted : (consumeAt (ticketUntil 100) 90 30).admits ticketSha256 (table 0) =
      some (ticketUntil 100) := by rfl
  have hclock : Clocked calls := clocked_presentedTwice 120 30
  have hskew : SkewCovered calls := by
    simp [calls, SkewCovered, presentedTwice, consumeAt]
  refine ⟨haccepted, hclock, hskew, fun hagain ↦ ?_⟩
  have hsame := (ticket_admitted_once ticketSha256 calls).1 hclock hskew 0 2 _ _ _ _ rfl rfl
    haccepted hagain rfl rfl
  nomatch hsame

/-- Without a retention the row is gone while the ticket is still in time, and it is accepted
twice. -/
theorem readmitted_after_cleanup :
    let calls := presentedTwice 0 60
    let table := stateAt (step ticketSha256) .empty calls
    Clocked calls ∧
      (consumeAt (ticketUntil 100) 90 60).admits ticketSha256 (table 0) = some (ticketUntil 100) ∧
      (consumeAt (ticketUntil 100) 120 60).admits ticketSha256 (table 2) =
        some (ticketUntil 100) := by
  intro calls table
  exact ⟨clocked_presentedTwice 0 60, by rfl, by rfl⟩

end Iicp.Dispatch
