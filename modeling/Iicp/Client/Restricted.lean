import Iicp.Client.IntentPolicy
import Iicp.Client.Types

/-!
# Restricted trust domains

A client of a restricted trust domain accepts an answer of its directory only with a decision about
its own membership: `validateDecision` reads the decision out of the answer and compares it with the
context of the client and with the operation that was asked for. `validateDecision_eq_ok` says what
an accepted decision says.
-/

namespace Iicp.Client

open Rust Outcome

def restrictedProfileId : String := "urn:iicp:profile:restricted-trust-domain:v1"

def decisionSchema : String := "iicp.restricted-trust-domain.directory-decision.v0"

structure DirectoryDecision where
  (schema profile decision operation domainId authorityId subjectKind : String)
  membershipGeneration : ℕ
  membershipExpiresAt : ℕ
  deriving DecidableEq, Repr

def DirectoryDecision.fromValue (value : Json) : Option DirectoryDecision := do
  let parts ← knownParts
    (["schema", "profile", "decision", "operation", "domain_id", "authority_id", "subject_kind",
      "membership_generation", "membership_expires_at"].map plain) value
  let schema ← required Json.asStr (parts "schema")
  let profile ← required Json.asStr (parts "profile")
  let decision ← required Json.asStr (parts "decision")
  let operation ← required Json.asStr (parts "operation")
  let domainId ← required Json.asStr (parts "domain_id")
  let authorityId ← required Json.asStr (parts "authority_id")
  let subjectKind ← required Json.asStr (parts "subject_kind")
  let membershipGeneration ← required Json.asU64 (parts "membership_generation")
  let membershipExpiresAt ← required Json.asU64 (parts "membership_expires_at")
  some ⟨schema, profile, decision, operation, domainId, authorityId, subjectKind,
    membershipGeneration, membershipExpiresAt⟩

def decisionRefused (message : String) : IicpError :=
  .policyRefused "restricted_directory_decision_refused" message

def validateContext (context : RestrictedDirectoryContext) : Outcome IicpError Unit :=
  require (trim context.domainId != "" && trim context.authorityId != "" &&
      trim context.subjectId != "" &&
      ["node", "client", "directory"].contains context.subjectKind &&
      context.minimumMembershipGeneration != 0)
    (decisionRefused "restricted directory context is incomplete")

/-- The decision is about this context and this operation, and has not expired. -/
def DirectoryDecision.matches (decision : DirectoryDecision) (context : RestrictedDirectoryContext)
    (operation : String) (now : ℕ) : Bool :=
  decision.schema == decisionSchema && decision.profile == restrictedProfileId &&
    decision.decision == "eligible" && decision.operation == operation &&
    decision.domainId == context.domainId && decision.authorityId == context.authorityId &&
    decision.subjectKind == context.subjectKind &&
    context.minimumMembershipGeneration ≤ decision.membershipGeneration &&
    now < decision.membershipExpiresAt

def validateDecision (body : Json) (context : RestrictedDirectoryContext) (operation : String)
    (now : ℕ) : Outcome IicpError RestrictedEligibility := do
  let raw ← okOr (decisionRefused "restricted directory decision is missing")
    (body.get "restricted_domain_decision")
  let decision ← okOr (decisionRefused "restricted directory decision is malformed")
    (DirectoryDecision.fromValue raw)
  require (decision.matches context operation now)
    (decisionRefused "restricted directory decision does not match the request context")
  .ok ⟨decision.domainId, decision.authorityId, decision.membershipGeneration,
    decision.membershipExpiresAt⟩

/-- An accepted decision is for the domain and the authority of the context, for the operation, and
for a membership that is recent enough and has not expired. -/
lemma validateDecision_eq_ok {body : Json} {context : RestrictedDirectoryContext}
    {operation : String} {now : ℕ} {eligibility : RestrictedEligibility}
    (h : validateDecision body context operation now = .ok eligibility) :
    eligibility.domainId = context.domainId ∧ eligibility.authorityId = context.authorityId ∧
      context.minimumMembershipGeneration ≤ eligibility.membershipGeneration ∧
      now < eligibility.membershipExpiresAt := by
  simp only [validateDecision, bind_eq_ok_iff, okOr_eq_ok_iff, require_eq_ok_iff, exists_const] at h
  obtain ⟨_, -, _, -, hmatches, heligible⟩ := h
  obtain rfl := ok.inj heligible
  simp only [DirectoryDecision.matches, Bool.and_eq_true, beq_iff_eq, decide_eq_true_eq] at hmatches
  obtain ⟨⟨⟨⟨⟨-, hdomain⟩, hauthority⟩, -⟩, hgeneration⟩, hexpires⟩ := hmatches
  exact ⟨hdomain, hauthority, hgeneration, hexpires⟩

end Iicp.Client
