import Iicp.Concurrent.EventMachine
import Iicp.Dispatch.TrustBundle
import Iicp.Window.Expiring

/-!
# Tickets that a trust bundle vouches for

`verifyDispatchTicketV2` checks a ticket against a bundle: the bundle is in force, the first key of
the named identity may sign such a ticket, the claims are the expected ones, the signature is valid,
and the ticket was not accepted before. `LocalDispatchReplayCache` remembers accepted tickets until
they expire.

`checkTicket` is every check before the cache is asked. It gives the same answer for a bundle and
for its canonical form (`checkTicket_canonicalForm`, `canonical_bundle_same_meaning`). The cache is
a table of entries that expire, and one call is one use of it (`Used`, `local_replay_exact`).

The decoder of keys and signatures and the signature scheme are `TicketTrustCrates`.
-/

namespace Iicp.Dispatch

open Rust List Concurrent Window

structure DispatchTicketBindings where
  (issuer providerId intent constraintsDigest : String)
  audience : Option String
  deriving DecidableEq, Repr

structure DispatchTrustDecision where
  accepted : Bool
  code : String
  anchored : Bool
  keyId : Option String
  deriving DecidableEq, Repr

def DispatchTrustDecision.reject (code : String) (keyId : Option String) : DispatchTrustDecision where
  accepted := false
  code := code
  anchored := false
  keyId := keyId

/-- The functions of other crates: how a float is written, the decoder of the URL-safe alphabet,
which bytes are a key, and the verification of a signature. -/
structure TicketTrustCrates where
  floatText : UInt64 → List Char
  b64urlDecode : String → Option (List UInt8)
  usableKey : List UInt8 → Bool
  verifies : (key message signature : List UInt8) → Bool

/-- The tickets that were accepted, with the times at which they expire. -/
abbrev LocalDispatchReplayCache := HashMap String ℕ

namespace LocalDispatchReplayCache

/-- Whether a ticket is remembered; tickets that have expired are forgotten. -/
def contains (cache : LocalDispatchReplayCache) (jti : String) (now : ℕ) :
    LocalDispatchReplayCache × Bool :=
  let seen := HashMap.retain cache fun _ expiry ↦ now < expiry
  (seen, jti ∈ seen)

def remember (cache : LocalDispatchReplayCache) (jti : String) (expiresAt : ℕ) :
    LocalDispatchReplayCache := cache.insert jti expiresAt

end LocalDispatchReplayCache

/-! ### The checks -/

def domain : List UInt8 := utf8Bytes "IICP-DISPATCH-TICKET-V2" ++ [0]

def claimIs (claims : Json) (name text : String) : Bool := (claims.field name).asStr == some text

/-- What is left of a ticket for the cache and the answer. -/
structure CheckedTicket where
  keyId : String
  jti : String
  expiresAt : ℕ
  deriving DecidableEq, Repr

section Checks

variable (crates : TicketTrustCrates) (claims : Json) (signatureB64url : String)
  (bindings : DispatchTicketBindings) (now : ℕ)

/-- Verifies the signature of the claims, if the key and the signature have the right form. -/
def verifySignature (publicKeyB64url : String) : Option Bool := do
  let publicBytes ← (crates.b64urlDecode publicKeyB64url).filter (·.length = 32)
  let signatureBytes ← (crates.b64urlDecode signatureB64url).filter (·.length = 64)
  guard (crates.usableKey publicBytes)
  let message := domain ++ textBytes (canonicalTicketClaims crates.floatText claims)
  some (crates.verifies publicBytes message signatureBytes)

def signatureValid (publicKeyB64url : String) : Bool :=
  (verifySignature crates claims signatureB64url publicKeyB64url).getD false

/-- The claims are those that the caller expects. -/
def bound : Bool :=
  claimIs claims "issuer" bindings.issuer && claimIs claims "provider_id" bindings.providerId &&
    claimIs claims "intent" bindings.intent &&
    claimIs claims "constraints_digest" bindings.constraintsDigest &&
    bindings.audience.all (claimIs claims "audience")

/-- The checks with the key that the claims name. -/
def checkWithKey (key : DispatchTrustKey) (keyId : String) :
    Except DispatchTrustDecision CheckedTicket :=
  let reject (code : String) : Except DispatchTrustDecision CheckedTicket :=
    .error (.reject code (some keyId))
  if key.state = "revoked" then reject "reject_key_revoked"
  else if now < key.validFrom.toNat ∨ key.validUntil.toNat < now then reject "reject_key_expired"
  else if !key.allowedProfiles.isEmpty && !key.allowedProfiles.any (· == profile) then
    reject "reject_profile_not_allowed"
  else if !key.issuers.isEmpty && !key.issuers.any (claimIs claims "issuer") then
    reject "reject_issuer"
  else if !key.audiences.isEmpty && !key.audiences.any (claimIs claims "audience") then
    reject "reject_audience"
  else if !bound claims bindings then reject "reject_claim_mismatch"
  else
    match (claims.field "expires_at").asU64, (claims.field "jti").asStr with
    | some expiresAt, some jti =>
      if expiresAt ≤ now ∨ jti = "" then reject "reject_claim_mismatch"
      else if !signatureValid crates claims signatureB64url key.publicKeyB64url then
        reject "reject_signature"
      else .ok ⟨keyId, jti, expiresAt⟩
    | _, _ => reject "reject_claim_mismatch"

/-- Every check before the cache is asked. -/
def checkTicket (bundle : DispatchTrustBundle) (minimumBundleVersion : ℕ) :
    Except DispatchTrustDecision CheckedTicket :=
  if bundle.bundleVersion.toNat < minimumBundleVersion then
    .error (.reject "reject_bundle_rollback" none)
  else if bundle.validFrom.any fun start ↦ now < start.toNat then
    .error (.reject "reject_bundle_not_yet_valid" none)
  else if bundle.validUntil.any fun stop ↦ stop.toNat < now then
    .error (.reject "reject_bundle_expired" none)
  else if !claimIs claims "profile" profile then
    .error (.reject "reject_required_profile_downgrade" none)
  else
    match (claims.field "key_id").asStr with
    | none => .error (.reject "reject_unknown_key" none)
    | some keyId =>
      match bundle.keys.find? fun candidate ↦ candidate.keyId = keyId with
      | none => .error (.reject "reject_unknown_key" (some keyId))
      | some key => checkWithKey crates claims signatureB64url bindings now key keyId

/-- The decision on a ticket, and the cache after it. -/
def verifyDispatchTicketV2 (bundle : DispatchTrustBundle) (minimumBundleVersion : ℕ)
    (replayCache : Option LocalDispatchReplayCache) :
    DispatchTrustDecision × Option LocalDispatchReplayCache :=
  match checkTicket crates claims signatureB64url bindings now bundle minimumBundleVersion with
  | .error decision => (decision, replayCache)
  | .ok ticket =>
    let accept : DispatchTrustDecision := ⟨true, "accept_anchored", true, some ticket.keyId⟩
    match replayCache with
    | none => (accept, none)
    | some cache =>
      let (seen, replayed) := cache.contains ticket.jti now
      if replayed then (.reject "reject_local_replay" (some ticket.keyId), some seen)
      else (accept, some (seen.remember ticket.jti ticket.expiresAt))

end Checks

/-! ### A bundle and its canonical form -/

section CanonicalForm

variable (crates : TicketTrustCrates) (claims : Json) (signatureB64url : String)
  (bindings : DispatchTicketBindings) (now : ℕ) (bundle : DispatchTrustBundle)

/-- A restriction to some texts does not depend on their order. -/
lemma restricts_sortByKey (texts : List String) (test : String → Bool) :
    (!(sortByKey id texts).isEmpty && !(sortByKey id texts).any test) =
      (!texts.isEmpty && !texts.any test) := by
  have hperm := perm_sortByKey id texts
  rw [hperm.isEmpty_eq, hperm.any_eq]

/-- To allow no profile in particular is to allow the one of the tickets. -/
lemma restricts_profiles (profiles : List String) :
    (!(if profiles.isEmpty then [profile] else profiles).isEmpty &&
        !(if profiles.isEmpty then [profile] else profiles).any (· == profile)) =
      (!profiles.isEmpty && !profiles.any (· == profile)) := by
  by_cases hnone : profiles.isEmpty
  · simp [hnone]
  · simp [hnone]

lemma checkWithKey_canonicalForm (key : DispatchTrustKey) (keyId : String) :
    checkWithKey crates claims signatureB64url bindings now key.canonicalForm keyId =
      checkWithKey crates claims signatureB64url bindings now key keyId := by
  unfold checkWithKey DispatchTrustKey.canonicalForm
  dsimp only
  rw [restricts_sortByKey, restricts_profiles, restricts_sortByKey, restricts_sortByKey]

/-- The first key of an identity is the same in the canonical form. -/
lemma find?_canonicalForm (keyId : String) :
    bundle.canonicalForm.keys.find? (fun candidate ↦ candidate.keyId = keyId) =
      (bundle.keys.find? fun candidate ↦ candidate.keyId = keyId).map
        DispatchTrustKey.canonicalForm := by
  rw [DispatchTrustBundle.canonicalForm, find?_map, ← head?_filter, ← head?_filter,
    ← filter_sortByKey DispatchTrustKey.keyId]
  rfl

lemma checkTicket_canonicalForm (minimumBundleVersion : ℕ) :
    checkTicket crates claims signatureB64url bindings now bundle.canonicalForm
        minimumBundleVersion =
      checkTicket crates claims signatureB64url bindings now bundle minimumBundleVersion := by
  unfold checkTicket
  cases (claims.field "key_id").asStr with
  | none => rfl
  | some keyId =>
    dsimp only
    rw [find?_canonicalForm]
    cases bundle.keys.find? fun candidate ↦ candidate.keyId = keyId with
    | none => rfl
    | some =>
      dsimp only [Option.map_some]
      rw [checkWithKey_canonicalForm]
      rfl

end CanonicalForm

/-- Assumes: the reader reads plain values back from what the JSON library writes. The canonical
bytes of a bundle are read as a bundle with the same canonical bytes. They do not depend on the
order of the lists of a key, nor on the order of keys with different names. Tickets are decided in
the same way under both bundles. -/
theorem canonical_bundle_same_meaning {floatText : UInt64 → List Char}
    {read : List UInt8 → Option Json} (hread : ReadsPlain floatText read)
    (bundle : DispatchTrustBundle) :
    ∃ parsed, readBundle read (canonicalDispatchTrustBundle floatText bundle) = some parsed ∧
      canonicalDispatchTrustBundle floatText parsed =
        canonicalDispatchTrustBundle floatText bundle ∧
      (∀ keys, Forall₂ DispatchTrustKey.SameLists bundle.keys keys →
        canonicalDispatchTrustBundle floatText { bundle with keys := keys } =
          canonicalDispatchTrustBundle floatText bundle) ∧
      (∀ keys, bundle.keys.Perm keys →
        (∀ keyId, bundle.keys.filter (fun key ↦ key.keyId = keyId) =
          keys.filter fun key ↦ key.keyId = keyId) →
        canonicalDispatchTrustBundle floatText { bundle with keys := keys } =
          canonicalDispatchTrustBundle floatText bundle) ∧
      ∀ (crates : TicketTrustCrates) (claims : Json) (signatureB64url : String)
        (bindings : DispatchTicketBindings) (now minimumBundleVersion : ℕ)
        (replayCache : Option LocalDispatchReplayCache),
        (verifyDispatchTicketV2 crates claims signatureB64url bindings now parsed
            minimumBundleVersion replayCache).1 =
          (verifyDispatchTicketV2 crates claims signatureB64url bindings now bundle
            minimumBundleVersion replayCache).1 := by
  have hbytes : ∀ other : DispatchTrustBundle, other.canonicalForm = bundle.canonicalForm →
      canonicalDispatchTrustBundle floatText other =
        canonicalDispatchTrustBundle floatText bundle := by
    intro other hform
    rw [canonicalDispatchTrustBundle_eq, hform, canonicalDispatchTrustBundle_eq]
  refine ⟨bundle.canonicalForm, readBundle_canonicalDispatchTrustBundle hread bundle,
    hbytes _ bundle.canonicalForm_canonicalForm, ?_, ?_, ?_⟩
  · intro keys hsame
    exact hbytes _ (bundle.canonicalForm_eq_of_sameLists hsame)
  · intro keys _ hfilter
    refine hbytes _ ?_
    simp only [DispatchTrustBundle.canonicalForm, sortByKey_eq_of_filter_eq hfilter]
  · intro crates claims signatureB64url bindings now minimumBundleVersion replayCache
    rw [verifyDispatchTicketV2, checkTicket_canonicalForm, verifyDispatchTicketV2]

def fixtureBundle : DispatchTrustBundle where
  bundleVersion := 1
  keys := [{
    keyId := "dir-2026-active"
    publicKeyB64url := "0EqyMnQrtKs6E2i9RhXk5tAiSrcaAWuvhSCjMsl3hzc"
    state := "active"
    validFrom := 1900000000
    validUntil := 2100000000
    allowedProfiles := []
    issuers := []
    audiences := [] }]
  issuer := none
  validFrom := none
  validUntil := none

theorem canonical_bundle_same_meaning_fixture :
    ReadsPlain (fun _ ↦ []) readBytes ∧
      ∃ parsed, readBundle readBytes (canonicalDispatchTrustBundle (fun _ ↦ []) fixtureBundle) =
          some parsed ∧
        canonicalDispatchTrustBundle (fun _ ↦ []) parsed =
          canonicalDispatchTrustBundle (fun _ ↦ []) fixtureBundle := by
  obtain ⟨parsed, hparsed, hbytes, -⟩ :=
    canonical_bundle_same_meaning (readsPlain_readBytes fun _ ↦ []) fixtureBundle
  exact ⟨readsPlain_readBytes _, parsed, hparsed, hbytes⟩

/-! ### What a call does to the cache -/

structure VerifyCall where
  claims : Json
  signatureB64url : String
  bundle : DispatchTrustBundle
  bindings : DispatchTicketBindings
  now : ℕ
  minimumBundleVersion : ℕ

namespace VerifyCall

def jti (call : VerifyCall) : Option String := (call.claims.field "jti").asStr

def expiresAt (call : VerifyCall) : Option ℕ := (call.claims.field "expires_at").asU64

section Calls

variable (crates : TicketTrustCrates) (cache : LocalDispatchReplayCache) (call : VerifyCall)

def verify : DispatchTrustDecision × Option LocalDispatchReplayCache :=
  verifyDispatchTicketV2 crates call.claims call.signatureB64url call.bindings call.now call.bundle
    call.minimumBundleVersion (some cache)

def decision : DispatchTrustDecision := (call.verify crates cache).1

def next : LocalDispatchReplayCache := (call.verify crates cache).2.getD cache

/-- The outcomes of a call: a refusal by the checks, a refusal as a replay, or an acceptance. -/
inductive Effect : DispatchTrustDecision → LocalDispatchReplayCache → Prop
  | refused {decision : DispatchTrustDecision} (haccepted : decision.accepted = false)
      (hcode : decision.code ≠ "reject_local_replay") : Effect decision cache
  | replayed {keyId jti : String} {expiry : ℕ} (hjti : call.jti = some jti)
      (hlive : liveAt cache call.now jti = some expiry) :
      Effect (.reject "reject_local_replay" (some keyId)) (evict call.now cache)
  | accepted {keyId jti : String} {expiry : ℕ} (hjti : call.jti = some jti)
      (hexpiry : call.expiresAt = some expiry) (hnow : call.now < expiry)
      (hfresh : liveAt cache call.now jti = none) :
      Effect ⟨true, "accept_anchored", true, some keyId⟩ ((evict call.now cache).insert jti expiry)

end Calls

end VerifyCall

/-- The checks refuse with a code of their own, or let a ticket pass that has not expired. -/
lemma checkWithKey_cases (crates : TicketTrustCrates) (claims : Json) (signatureB64url : String)
    (bindings : DispatchTicketBindings) (now : ℕ) (key : DispatchTrustKey) (keyId : String) :
    (∃ code, code ≠ "reject_local_replay" ∧
        checkWithKey crates claims signatureB64url bindings now key keyId =
          .error (.reject code (some keyId))) ∨
      ∃ jti expiresAt, (claims.field "jti").asStr = some jti ∧
        (claims.field "expires_at").asU64 = some expiresAt ∧ now < expiresAt ∧
        checkWithKey crates claims signatureB64url bindings now key keyId =
          .ok ⟨keyId, jti, expiresAt⟩ := by
  unfold checkWithKey
  cases hexpires : (claims.field "expires_at").asU64 with
  | none =>
    left
    dsimp only
    split_ifs <;> exact ⟨_, by decide, rfl⟩
  | some expiresAt =>
    cases hjti : (claims.field "jti").asStr with
    | none =>
      left
      dsimp only
      split_ifs <;> exact ⟨_, by decide, rfl⟩
    | some jti =>
      by_cases hpast : expiresAt ≤ now ∨ jti = ""
      · left
        simp only [hpast, if_true]
        split_ifs <;> exact ⟨_, by decide, rfl⟩
      · simp only [hpast, if_false]
        split_ifs
        case neg => exact .inr ⟨jti, expiresAt, rfl, rfl, not_le.mp (not_or.mp hpast).1, rfl⟩
        all_goals exact .inl ⟨_, by decide, rfl⟩

lemma checkTicket_cases (crates : TicketTrustCrates) (claims : Json) (signatureB64url : String)
    (bindings : DispatchTicketBindings) (now : ℕ) (bundle : DispatchTrustBundle)
    (minimumBundleVersion : ℕ) :
    (∃ code keyId, code ≠ "reject_local_replay" ∧
        checkTicket crates claims signatureB64url bindings now bundle minimumBundleVersion =
          .error (.reject code keyId)) ∨
      ∃ keyId jti expiresAt, (claims.field "jti").asStr = some jti ∧
        (claims.field "expires_at").asU64 = some expiresAt ∧ now < expiresAt ∧
        checkTicket crates claims signatureB64url bindings now bundle minimumBundleVersion =
          .ok ⟨keyId, jti, expiresAt⟩ := by
  unfold checkTicket
  split_ifs with hrollback hstart hstop hprofile
  · exact .inl ⟨_, _, by decide, rfl⟩
  · exact .inl ⟨_, _, by decide, rfl⟩
  · exact .inl ⟨_, _, by decide, rfl⟩
  · exact .inl ⟨_, _, by decide, rfl⟩
  · cases (claims.field "key_id").asStr with
    | none => exact .inl ⟨_, _, by decide, rfl⟩
    | some keyId =>
      dsimp only
      cases bundle.keys.find? fun candidate ↦ candidate.keyId = keyId with
      | none => exact .inl ⟨_, _, by decide, rfl⟩
      | some key =>
        obtain ⟨code, hcode, herror⟩ | ⟨jti, expiresAt, hticket⟩ :=
          checkWithKey_cases crates claims signatureB64url bindings now key keyId
        · exact .inl ⟨code, some keyId, hcode, herror⟩
        · exact .inr ⟨keyId, jti, expiresAt, hticket⟩

namespace VerifyCall

variable (crates : TicketTrustCrates) (cache : LocalDispatchReplayCache) (call : VerifyCall)

/-- A call that passes the checks asks what is live in the cache. -/
lemma verify_eq : call.verify crates cache =
    match checkTicket crates call.claims call.signatureB64url call.bindings call.now call.bundle
      call.minimumBundleVersion with
    | .error decision => (decision, some cache)
    | .ok ticket =>
      if liveAt cache call.now ticket.jti = none then
        (⟨true, "accept_anchored", true, some ticket.keyId⟩,
          some ((evict call.now cache).insert ticket.jti ticket.expiresAt))
      else (.reject "reject_local_replay" (some ticket.keyId), some (evict call.now cache)) := by
  rw [verify, verifyDispatchTicketV2]
  cases checkTicket crates call.claims call.signatureB64url call.bindings call.now call.bundle
    call.minimumBundleVersion with
  | error => rfl
  | ok ticket =>
    by_cases hlive : liveAt cache call.now ticket.jti = none
    · have hmem : ticket.jti ∉ HashMap.retain cache fun _ expiry ↦ call.now < expiry :=
        fun hmem ↦ mem_evict.mp hmem hlive
      simp [LocalDispatchReplayCache.contains, LocalDispatchReplayCache.remember, hmem, hlive, evict]
    · have hmem : ticket.jti ∈ HashMap.retain cache fun _ expiry ↦ call.now < expiry :=
        mem_evict.mpr hlive
      simp [LocalDispatchReplayCache.contains, hmem, hlive, evict]

lemma effect_verify : Effect cache call (call.decision crates cache) (call.next crates cache) := by
  rw [decision, next, verify_eq]
  obtain ⟨_, _, hcode, herror⟩ | ⟨_, jti, _, hjti, hexpires, hnow, hok⟩ :=
    checkTicket_cases crates call.claims call.signatureB64url call.bindings call.now call.bundle
      call.minimumBundleVersion
  · rw [herror]
    exact .refused rfl hcode
  · rw [hok]
    dsimp only
    by_cases hlive : liveAt cache call.now jti = none
    · rw [if_pos hlive]
      exact .accepted hjti hexpires hnow hlive
    · obtain ⟨_, hexpiry⟩ := Option.ne_none_iff_exists'.mp hlive
      rw [if_neg hlive]
      exact .replayed hjti hexpiry

/-- The ticket of a call: its name and when it expires. -/
def ticket : Option (String × ℕ) :=
  call.jti.bind fun jti ↦ call.expiresAt.map fun expiry ↦ (jti, expiry)

variable {cache call}

/-- A call uses the cache once, and records its ticket if it accepts it. -/
lemma Effect.used {decision : DispatchTrustDecision} {next : LocalDispatchReplayCache}
    (h : Effect cache call decision next) :
    Used call.now cache (if decision.accepted then call.ticket else none) next := by
  cases h with
  | refused haccepted =>
    rw [haccepted]
    exact .kept (AgreeFrom.refl _ cache)
  | replayed => exact .kept (agreeFrom_evict cache le_rfl)
  | accepted hjti hexpiry hnow hfresh =>
    rw [ticket, hjti, hexpiry]
    exact .recorded hfresh ((agreeFrom_evict cache le_rfl).insert _ _)

/-- Caches in which the same tickets are live give the same decision and are such caches again. -/
lemma decision_eq_of_agree {other : LocalDispatchReplayCache}
    (hagree : AgreeFrom call.now cache other) :
    call.decision crates cache = call.decision crates other ∧
      AgreeFrom call.now (call.next crates cache) (call.next crates other) := by
  simp only [decision, next, verify_eq]
  cases checkTicket crates call.claims call.signatureB64url call.bindings call.now call.bundle
    call.minimumBundleVersion with
  | error => exact ⟨rfl, hagree⟩
  | ok ticket =>
    have hevicted : AgreeFrom call.now (evict call.now cache) (evict call.now other) :=
      ((agreeFrom_evict cache le_rfl).trans hagree).trans (agreeFrom_evict other le_rfl).symm
    dsimp only
    rw [hagree call.now le_rfl ticket.jti]
    by_cases hlive : liveAt other call.now ticket.jti = none
    · rw [if_pos hlive, if_pos hlive]
      exact ⟨rfl, hevicted.insert _ _⟩
    · rw [if_neg hlive, if_neg hlive]
      exact ⟨rfl, hevicted⟩

end VerifyCall

/-! ### Runs of calls -/

section Runs

variable (crates : TicketTrustCrates) {call : VerifyCall}

/-- The cache after calls that share it, which starts empty. -/
def cacheAfter (calls : List VerifyCall) : LocalDispatchReplayCache :=
  runEvents (fun cache call ↦ call.next crates cache) ∅ calls

def decisionAt (calls : List VerifyCall) (position : ℕ) (call : VerifyCall) :
    DispatchTrustDecision := call.decision crates (cacheAfter crates (calls.take position))

/-- Caches in which the same tickets are live stay such caches. -/
lemma agree_runEvents {calls : List VerifyCall} {start stop : ℕ}
    {cache other : LocalDispatchReplayCache} (hagree : AgreeFrom start cache other)
    (hfrom : ∀ call ∈ calls, start ≤ call.now) (hclock : calls.Pairwise fun a b ↦ a.now ≤ b.now)
    (hstart : start ≤ stop) (hstop : ∀ call ∈ calls, call.now ≤ stop) :
    AgreeFrom stop (runEvents (fun cache call ↦ call.next crates cache) cache calls)
      (runEvents (fun cache call ↦ call.next crates cache) other calls) := by
  induction calls generalizing start cache other with
  | nil => exact hagree.later hstart
  | cons call rest ih =>
    rw [pairwise_cons] at hclock
    have hnext := VerifyCall.decision_eq_of_agree crates (hagree.later (hfrom call mem_cons_self))
    exact ih hnext.2 hclock.1 hclock.2 (hstop call mem_cons_self)
      fun later hlater ↦ hstop later (mem_cons_of_mem _ hlater)

/-- A refused call changes nothing that is live from its time on. -/
lemma agree_of_refused {cache : LocalDispatchReplayCache}
    (hrefused : (call.decision crates cache).accepted = false) :
    AgreeFrom call.now (call.next crates cache) cache := by
  have heffect := call.effect_verify crates cache
  generalize call.decision crates cache = decision at *
  generalize call.next crates cache = next at *
  cases heffect with
  | refused => exact AgreeFrom.refl _ cache
  | replayed => exact agreeFrom_evict cache le_rfl
  | accepted => exact absurd hrefused.symm Bool.false_ne_true

variable (calls : List VerifyCall) {position : ℕ}

/-- Each call of a run is one use of the cache. -/
lemma used_decisionAt (hcall : calls[position]? = some call) :
    Used call.now (cacheAfter crates (calls.take position))
      (if (decisionAt crates calls position call).accepted then call.ticket else none)
      (cacheAfter crates (calls.take (position + 1))) := by
  have hnext : cacheAfter crates (calls.take (position + 1)) =
      call.next crates (cacheAfter crates (calls.take position)) := stateAt_succ _ hcall
  rw [hnext]
  exact (call.effect_verify crates _).used

def recordAt (position : ℕ) : Option (String × ℕ) :=
  calls[position]?.bind fun call ↦
    if (decisionAt crates calls position call).accepted then call.ticket else none

def timeAt (position : ℕ) : ℕ := (calls[position]?.map VerifyCall.now).getD 0

variable {calls}

lemma timeAt_of_getElem? (hcall : calls[position]? = some call) :
    timeAt calls position = call.now := by
  rw [timeAt, hcall]
  rfl

lemma used_run (position : ℕ) (hrange : position < calls.length) :
    Used (timeAt calls position) (cacheAfter crates (calls.take position))
      (recordAt crates calls position) (cacheAfter crates (calls.take (position + 1))) := by
  have hcall : calls[position]? = some calls[position] := List.getElem?_eq_getElem hrange
  rw [timeAt_of_getElem? hcall, recordAt, hcall]
  exact used_decisionAt crates calls hcall

lemma timeAt_mono (hclock : calls.Pairwise fun a b ↦ a.now ≤ b.now) (i j : ℕ) (hle : i ≤ j)
    (hrange : j < calls.length) : timeAt calls i ≤ timeAt calls j := by
  obtain rfl | hlt := hle.eq_or_lt
  · exact le_rfl
  · have hfirst : calls[i]? = some calls[i] := List.getElem?_eq_getElem (hlt.trans hrange)
    have hsecond : calls[j]? = some calls[j] := List.getElem?_eq_getElem hrange
    rw [timeAt_of_getElem? hfirst, timeAt_of_getElem? hsecond]
    exact pairwise_iff_getElem.mp hclock i j (hlt.trans hrange) hrange hlt

lemma recordAt_of_accepted (hcall : calls[position]? = some call)
    (haccepted : (decisionAt crates calls position call).accepted) :
    ∃ jti expiry, call.jti = some jti ∧ call.expiresAt = some expiry ∧ call.now < expiry ∧
      recordAt crates calls position = some (jti, expiry) := by
  have hrecord : recordAt crates calls position = call.ticket := by
    rw [recordAt, hcall, Option.bind_some, if_pos haccepted]
  have heffect := call.effect_verify crates (cacheAfter crates (calls.take position))
  rw [decisionAt] at haccepted
  generalize call.decision crates (cacheAfter crates (calls.take position)) = decision at *
  generalize call.next crates (cacheAfter crates (calls.take position)) = next at *
  cases heffect with
  | refused hrefused => exact absurd (hrefused.symm.trans haccepted) Bool.false_ne_true
  | replayed => exact absurd haccepted Bool.false_ne_true
  | accepted hjti hexpiry hnow =>
    refine ⟨_, _, hjti, hexpiry, hnow, ?_⟩
    rw [hrecord, VerifyCall.ticket, hjti, hexpiry]
    rfl

lemma accepted_of_recordAt {jti : String} {expiry : ℕ}
    (hrecord : recordAt crates calls position = some (jti, expiry)) :
    ∃ call, calls[position]? = some call ∧
      (decisionAt crates calls position call).accepted ∧ call.jti = some jti ∧
      call.expiresAt = some expiry := by
  obtain ⟨call, hcall, hticket⟩ := Option.bind_eq_some_iff.mp hrecord
  obtain ⟨haccepted, hticket⟩ := (Option.ite_none_right_eq_some).mp hticket
  obtain ⟨_, hjti, hexpiry⟩ := Option.bind_eq_some_iff.mp hticket
  obtain ⟨_, htime, heq⟩ := Option.map_eq_some_iff.mp hexpiry
  obtain ⟨rfl, rfl⟩ := Prod.mk.inj heq
  exact ⟨call, hcall, haccepted, hjti, htime⟩

end Runs

/-- Assumes: calls that share a cache, at times that do not decrease. No two of them accept a ticket
with the same name and expiry. A refused call has no effect on the decisions of later calls. A call
is refused as a replay only if a ticket of the same name was accepted before and has not expired. -/
theorem local_replay_exact (crates : TicketTrustCrates) {calls : List VerifyCall}
    (hclock : calls.Pairwise fun a b ↦ a.now ≤ b.now) :
    (∀ i j first second, i < j → calls[i]? = some first → calls[j]? = some second →
        (decisionAt crates calls i first).accepted →
        (decisionAt crates calls j second).accepted →
        ¬ (first.jti = second.jti ∧ first.expiresAt = second.expiresAt)) ∧
      (∀ before call after, calls = before ++ call :: after →
        (decisionAt crates calls before.length call).accepted = false →
        ∀ k later, after[k]? = some later →
          decisionAt crates (before ++ call :: after) (before.length + 1 + k) later =
            decisionAt crates (before ++ after) (before.length + k) later) ∧
      ∀ j call, calls[j]? = some call →
        (decisionAt crates calls j call).code = "reject_local_replay" →
        ∃ i < j, ∃ earlier expiry, calls[i]? = some earlier ∧
          (decisionAt crates calls i earlier).accepted ∧ earlier.jti = call.jti ∧
          earlier.expiresAt = some expiry ∧ call.now < expiry := by
  refine ⟨?_, ?_, ?_⟩
  · rintro i j _ _ hij hfirst hsecond haccepted hagain ⟨hjti, hexpiry⟩
    obtain ⟨jti, expiry, hname, htime, -, hrecord⟩ :=
      recordAt_of_accepted crates hfirst haccepted
    obtain ⟨other, otherExpiry, hotherName, hotherTime, hnow, hotherRecord⟩ :=
      recordAt_of_accepted crates hsecond hagain
    obtain rfl : jti = other := Option.some.inj (hname.symm.trans (hjti.trans hotherName))
    obtain rfl : expiry = otherExpiry :=
      Option.some.inj (htime.symm.trans (hexpiry.trans hotherTime))
    have hrange : j < calls.length := (List.getElem?_eq_some_iff.mp hsecond).1
    have hexpired := expired_of_recorded_again (used_run crates) (timeAt_mono hclock) hrecord
      hotherRecord hij hrange
    rw [timeAt_of_getElem? hsecond] at hexpired
    omega
  · rintro before call after rfl hrefused k later hlater
    rw [decisionAt, take_left] at hrefused
    obtain ⟨hrange, rfl⟩ := List.getElem?_eq_some_iff.mp hlater
    have hparts : after = after.take k ++ after[k] :: after.drop (k + 1) := by
      rw [← drop_eq_getElem_cons hrange, take_append_drop]
    have hafter := pairwise_cons.mp (pairwise_append.mp hclock).2.1
    have hsplit := hafter.2
    rw [hparts, pairwise_append] at hsplit
    have hagree := agree_runEvents crates (agree_of_refused crates hrefused)
      (fun other hother ↦ hafter.1 other (mem_of_mem_take hother)) hsplit.1
      (hafter.1 _ (getElem_mem hrange))
      fun other hother ↦ hsplit.2.2 other hother _ mem_cons_self
    rw [decisionAt, decisionAt, Nat.add_assoc, take_length_add_append, take_length_add_append,
      Nat.add_comm 1 k, take_succ_cons, cacheAfter, runEvents, foldl_append, cacheAfter, runEvents,
      foldl_append]
    exact (VerifyCall.decision_eq_of_agree crates hagree).1
  · intro j call hcall hcode
    have hrange : j < calls.length := (List.getElem?_eq_some_iff.mp hcall).1
    obtain ⟨jti, expiry, hjti, hlive⟩ : ∃ jti expiry, call.jti = some jti ∧
        liveAt (cacheAfter crates (calls.take j)) call.now jti = some expiry := by
      have heffect := call.effect_verify crates (cacheAfter crates (calls.take j))
      rw [decisionAt] at hcode
      generalize call.decision crates (cacheAfter crates (calls.take j)) = decision at *
      generalize call.next crates (cacheAfter crates (calls.take j)) = next at *
      cases heffect with
      | refused haccepted hother => exact absurd hcode hother
      | replayed hjti hlive => exact ⟨_, _, hjti, hlive⟩
      | accepted =>
        exact absurd (show "accept_anchored" = "reject_local_replay" from hcode) (by decide)
    have hnow : ∀ i < j, timeAt calls i ≤ call.now := by
      intro i hi
      rw [← timeAt_of_getElem? hcall]
      exact timeAt_mono hclock i j hi.le hrange
    obtain ⟨i, hi, hrecord⟩ := recorded_of_live (used_run crates) rfl hrange.le hnow hlive
    obtain ⟨earlier, hearlier, haccepted, hname, htime⟩ := accepted_of_recordAt crates hrecord
    exact ⟨i, hi, earlier, expiry, hearlier, haccepted, hname.trans hjti.symm, htime,
      (liveAt_eq_some_iff.mp hlive).2⟩

def fixtureCall (now : ℕ) : VerifyCall where
  claims := .object [("constraints_digest", .string
      "sha256:aaaaaaaaaaaaaaaaaaaaaaaaaaaaaaaaaaaaaaaaaaaaaaaaaaaaaaaaaaaaaaaa"),
    ("expires_at", .ofU64 2000000300),
    ("intent", .string "urn:iicp:intent:llm:chat:v1"),
    ("issuer", .string "https://directory.example"), ("jti", .string "ticket-0001"),
    ("key_id", .string "dir-2026-active"), ("profile", .string profile),
    ("provider_id", .string "provider-a")]
  signatureB64url :=
    "vgoDcGLb5oBPto7i0aiKzYms3W8DJdgOouRes7Eee8_v2WjJa-WdMpaEXRakaMv5C1kmiLEYIQwpWuauzOPgCA"
  bundle := fixtureBundle
  bindings := {
    issuer := "https://directory.example"
    providerId := "provider-a"
    intent := "urn:iicp:intent:llm:chat:v1"
    constraintsDigest := "sha256:aaaaaaaaaaaaaaaaaaaaaaaaaaaaaaaaaaaaaaaaaaaaaaaaaaaaaaaaaaaaaaaa"
    audience := none }
  now := now
  minimumBundleVersion := 1

/-- The signature is genuine; of decoded texts only the length matters. -/
def fixtureCrates : TicketTrustCrates where
  floatText := fun _ ↦ []
  b64urlDecode := fun text ↦ some (replicate (text.length * 3 / 4) 0)
  usableKey := fun _ ↦ true
  verifies := fun _ _ _ ↦ true

theorem local_replay_exact_fixture :
    ([fixtureCall 2000000000, fixtureCall 2000000001].Pairwise fun a b ↦ a.now ≤ b.now) ∧
      (decisionAt fixtureCrates [fixtureCall 2000000000, fixtureCall 2000000001] 0
        (fixtureCall 2000000000)).accepted ∧
      ¬ (decisionAt fixtureCrates [fixtureCall 2000000000, fixtureCall 2000000001] 1
        (fixtureCall 2000000001)).accepted := by
  have hclock : [fixtureCall 2000000000, fixtureCall 2000000001].Pairwise
      fun a b ↦ a.now ≤ b.now := by
    simp [fixtureCall]
  have hfirst : (decisionAt fixtureCrates [fixtureCall 2000000000, fixtureCall 2000000001] 0
      (fixtureCall 2000000000)).accepted := by
    decide +kernel
  refine ⟨hclock, hfirst, fun hsecond ↦ ?_⟩
  exact (local_replay_exact fixtureCrates hclock).1 0 1 _ _ Nat.zero_lt_one rfl rfl hfirst hsecond
    ⟨rfl, rfl⟩

end Iicp.Dispatch
