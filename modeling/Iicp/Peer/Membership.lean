import Iicp.Rust.Serde
import Iicp.Rust.Str
import Iicp.Rust.Text

/-!
# Memberships of a restricted trust domain

A directory signs an assertion about a member of its domain, and the member signs what it sends to
others. `verifyMembership` checks an assertion against the policy of a node: the form, the authority
and the domain, the subject, the times, the generation, the scope and the signature.
`verifyGossip` checks in addition what a member has signed.

The parser of identifiers, the encodings, the canonical form of a value, the signature scheme and
the hash are `MembershipCrates`.
-/

namespace Iicp.Peer

open Rust Json Outcome

def membershipSchema : String := "iicp.restricted-trust-domain.membership-assertion.v0"

def restrictedProfile : String := "urn:iicp:profile:restricted-trust-domain:v1"

def membershipDomain : List UInt8 := utf8Bytes "IICP-RTD-MEMBERSHIP-V0\n"

def gossipDomain : List UInt8 := utf8Bytes "IICP-RTD-GOSSIP-V0\n"

structure MembershipSubject where
  (kind id keyId publicKeyEd25519 : String)
  deriving DecidableEq, Repr

structure MembershipIssuer where
  id : String
  keyId : String
  deriving DecidableEq, Repr

structure MembershipAssertion where
  (schema profile assertionId domainId : String)
  subject : MembershipSubject
  issuer : MembershipIssuer
  (issuedAt expiresAt generation : ℕ)
  (scopes audience : List String)
  deriving DecidableEq, Repr

structure DetachedSignature where
  algorithm : String
  keyId : Option String
  value : String
  deriving DecidableEq, Repr

structure MembershipEnvelope where
  assertion : MembershipAssertion
  signature : DetachedSignature
  deriving DecidableEq, Repr

structure GossipProof where
  senderId : String
  domainId : String
  sentAt : ℕ
  (replayId payloadSha256 membershipAssertionId : String)
  deriving DecidableEq, Repr

structure GossipEnvelope where
  proof : GossipProof
  signature : DetachedSignature
  deriving DecidableEq, Repr

structure MembershipPolicy where
  (domainId authorityId authorityKeyId authorityPublicKeyEd25519 : String)
  minimumGeneration : ℕ
  maximumClockSkewSeconds : ℕ
  deriving DecidableEq, Repr

inductive MembershipRefusal where
  | malformedEvidence
  | unsupportedEvidence
  | invalidAuthority
  | invalidSignature
  | wrongDomain
  | wrongSubject
  | expired
  | notYetValid
  | revokedGeneration
  | missingScope
  | invalidPayloadBinding
  | replayDetected
  | replayCapacity
  | staleGossip
  | missingDirectoryCredential
  deriving DecidableEq, Repr

def MembershipRefusal.code : MembershipRefusal → String
  | malformedEvidence => "membership_malformed"
  | unsupportedEvidence => "membership_unsupported"
  | invalidAuthority => "membership_authority_invalid"
  | invalidSignature => "membership_signature_invalid"
  | wrongDomain => "membership_domain_mismatch"
  | wrongSubject => "membership_subject_mismatch"
  | expired => "membership_expired"
  | notYetValid => "membership_not_yet_valid"
  | revokedGeneration => "membership_generation_revoked"
  | missingScope => "membership_scope_missing"
  | invalidPayloadBinding => "gossip_payload_mismatch"
  | replayDetected => "gossip_replay"
  | replayCapacity => "gossip_replay_capacity"
  | staleGossip => "gossip_stale"
  | missingDirectoryCredential => "directory_membership_missing"

/-- The functions of other crates: which texts are identifiers, the URL-safe encoding, the canonical
bytes of a value, which bytes are a key, the signature scheme and the digest in hexadecimal. -/
structure MembershipCrates where
  parsesUuid : String → Bool
  b64urlDecode : String → Option (List UInt8)
  b64urlEncode : List UInt8 → String
  canonical : Json → Option (List UInt8)
  usableKey : List UInt8 → Bool
  verifies : (key message signature : List UInt8) → Bool
  publicKey : (seed : List UInt8) → List UInt8
  sign : (seed message : List UInt8) → List UInt8
  sha256Hex : List UInt8 → String

/-! ### As JSON -/

def MembershipSubject.toValue (subject : MembershipSubject) : Json :=
  .object [("id", .string subject.id), ("key_id", .string subject.keyId),
    ("kind", .string subject.kind), ("public_key_ed25519", .string subject.publicKeyEd25519)]

def MembershipIssuer.toValue (issuer : MembershipIssuer) : Json :=
  .object [("id", .string issuer.id), ("key_id", .string issuer.keyId)]

def MembershipAssertion.toValue (assertion : MembershipAssertion) : Json :=
  .object [("assertion_id", .string assertion.assertionId),
    ("audience", .array (assertion.audience.map .string)),
    ("domain_id", .string assertion.domainId), ("expires_at", .ofU64 assertion.expiresAt),
    ("generation", .ofU64 assertion.generation), ("issued_at", .ofU64 assertion.issuedAt),
    ("issuer", assertion.issuer.toValue), ("profile", .string assertion.profile),
    ("schema", .string assertion.schema), ("scopes", .array (assertion.scopes.map .string)),
    ("subject", assertion.subject.toValue)]

def DetachedSignature.toValue (signature : DetachedSignature) : Json :=
  .object (present [("algorithm", some (.string signature.algorithm)),
    ("key_id", signature.keyId.map .string), ("value", some (.string signature.value))])

def MembershipEnvelope.toValue (envelope : MembershipEnvelope) : Json :=
  .object [("assertion", envelope.assertion.toValue), ("signature", envelope.signature.toValue)]

def GossipProof.toValue (proof : GossipProof) : Json :=
  .object [("domain_id", .string proof.domainId),
    ("membership_assertion_id", .string proof.membershipAssertionId),
    ("payload_sha256", .string proof.payloadSha256), ("replay_id", .string proof.replayId),
    ("sender_id", .string proof.senderId), ("sent_at", .ofU64 proof.sentAt)]

def GossipEnvelope.toValue (envelope : GossipEnvelope) : Json :=
  .object [("proof", envelope.proof.toValue), ("signature", envelope.signature.toValue)]

variable (value : Json)

def MembershipSubject.fromValue : Option MembershipSubject := do
  let parts ← knownParts (["kind", "id", "key_id", "public_key_ed25519"].map plain) value
  let kind ← required asStr (parts "kind")
  let id ← required asStr (parts "id")
  let keyId ← required asStr (parts "key_id")
  let publicKeyEd25519 ← required asStr (parts "public_key_ed25519")
  some ⟨kind, id, keyId, publicKeyEd25519⟩

def MembershipIssuer.fromValue : Option MembershipIssuer := do
  let parts ← knownParts (["id", "key_id"].map plain) value
  let id ← required asStr (parts "id")
  let keyId ← required asStr (parts "key_id")
  some ⟨id, keyId⟩

def MembershipAssertion.fromValue (value : Json) : Option MembershipAssertion := do
  let parts ← knownParts
    (["schema", "profile", "assertion_id", "domain_id", "subject", "issuer", "issued_at",
      "expires_at", "generation", "scopes", "audience"].map plain) value
  let schema ← required asStr (parts "schema")
  let profile ← required asStr (parts "profile")
  let assertionId ← required asStr (parts "assertion_id")
  let domainId ← required asStr (parts "domain_id")
  let subject ← required MembershipSubject.fromValue (parts "subject")
  let issuer ← required MembershipIssuer.fromValue (parts "issuer")
  let issuedAt ← required asU64 (parts "issued_at")
  let expiresAt ← required asU64 (parts "expires_at")
  let generation ← required asU64 (parts "generation")
  let scopes ← required (readList asStr) (parts "scopes")
  let audience ← required (readList asStr) (parts "audience")
  some ⟨schema, profile, assertionId, domainId, subject, issuer, issuedAt, expiresAt, generation,
    scopes, audience⟩

def DetachedSignature.fromValue : Option DetachedSignature := do
  let parts ← knownParts [plain "algorithm", withDefault "key_id", plain "value"] value
  let algorithm ← required asStr (parts "algorithm")
  let keyId ← optional asStr (parts "key_id")
  let text ← required asStr (parts "value")
  some ⟨algorithm, keyId, text⟩

def MembershipEnvelope.fromValue (value : Json) : Option MembershipEnvelope := do
  let parts ← knownParts (["assertion", "signature"].map plain) value
  let assertion ← required MembershipAssertion.fromValue (parts "assertion")
  let signature ← required DetachedSignature.fromValue (parts "signature")
  some ⟨assertion, signature⟩

def GossipProof.fromValue : Option GossipProof := do
  let parts ← knownParts (["sender_id", "domain_id", "sent_at", "replay_id", "payload_sha256",
      "membership_assertion_id"].map plain) value
  let senderId ← required asStr (parts "sender_id")
  let domainId ← required asStr (parts "domain_id")
  let sentAt ← required asU64 (parts "sent_at")
  let replayId ← required asStr (parts "replay_id")
  let payloadSha256 ← required asStr (parts "payload_sha256")
  let membershipAssertionId ← required asStr (parts "membership_assertion_id")
  some ⟨senderId, domainId, sentAt, replayId, payloadSha256, membershipAssertionId⟩

def GossipEnvelope.fromValue (value : Json) : Option GossipEnvelope := do
  let parts ← knownParts (["proof", "signature"].map plain) value
  let proof ← required GossipProof.fromValue (parts "proof")
  let signature ← required DetachedSignature.fromValue (parts "signature")
  some ⟨proof, signature⟩

/-! ### Assertions -/

section Assertions

variable (crates : MembershipCrates) (envelope : MembershipEnvelope)
  (assertion : MembershipAssertion) (policy : MembershipPolicy)

def validateMembershipIssuer : Outcome MembershipRefusal Unit :=
  require (trim assertion.issuer.id != "" && trim assertion.issuer.keyId != "") .malformedEvidence

def validateMembershipCollections : Outcome MembershipRefusal Unit := do
  validateMembershipIssuer assertion
  require (!assertion.audience.isEmpty && !assertion.scopes.isEmpty &&
      assertion.issuedAt < assertion.expiresAt)
    .malformedEvidence

def validateMembershipShape : Outcome MembershipRefusal Unit := do
  require (crates.parsesUuid assertion.assertionId && trim assertion.domainId != "" &&
      trim assertion.subject.id != "" && trim assertion.subject.keyId != "")
    .malformedEvidence
  validateMembershipCollections assertion

def validateMembershipFormat : Outcome MembershipRefusal Unit :=
  require (envelope.assertion.schema == membershipSchema &&
      envelope.assertion.profile == restrictedProfile &&
      envelope.signature.algorithm == "Ed25519")
    .unsupportedEvidence

def validateMembershipAuthority : Outcome MembershipRefusal Unit := do
  require
    (assertion.issuer.id == policy.authorityId && assertion.issuer.keyId == policy.authorityKeyId)
    .invalidAuthority
  require (assertion.domainId == policy.domainId && assertion.audience.contains policy.domainId)
    .wrongDomain

def validateMembershipIdentity (expectedSubject : String) : Outcome MembershipRefusal Unit := do
  validateMembershipFormat envelope
  validateMembershipAuthority envelope.assertion policy
  require
    (envelope.assertion.subject.kind == "node" && envelope.assertion.subject.id == expectedSubject)
    .wrongSubject

def validateMembershipTime (now : ℕ) : Outcome MembershipRefusal Unit := do
  require (assertion.issuedAt ≤ saturatingAddU64 now policy.maximumClockSkewSeconds) .notYetValid
  require (now < assertion.expiresAt) .expired

def validateMembershipGeneration : Outcome MembershipRefusal Unit :=
  require (policy.minimumGeneration ≤ assertion.generation) .revokedGeneration

def validateMembershipLifecycle (requiredScope : String) (now : ℕ) :
    Outcome MembershipRefusal Unit := do
  validateMembershipTime assertion policy now
  validateMembershipGeneration assertion policy
  require (assertion.scopes.contains requiredScope) .missingScope

def verifyingKey (value : String) : Outcome MembershipRefusal (List UInt8) := do
  let bytes ← okOr .malformedEvidence (crates.b64urlDecode value)
  require (bytes.length == 32 && crates.usableKey bytes) .malformedEvidence
  .ok bytes

def signature (value : String) : Outcome MembershipRefusal (List UInt8) := do
  let bytes ← okOr .malformedEvidence (crates.b64urlDecode value)
  require (bytes.length == 64) .malformedEvidence
  .ok bytes

/-- Verifies a signature over the canonical bytes of a value after the bytes that name its kind. -/
def verifySigned (keyText signatureText : String) (kind : List UInt8) (value : Json) :
    Outcome MembershipRefusal Unit := do
  let key ← verifyingKey crates keyText
  let bytes ← signature crates signatureText
  let canonical ← okOr .malformedEvidence (crates.canonical value)
  require (crates.verifies key (kind ++ canonical) bytes) .invalidSignature

def verifyMembershipSignature : Outcome MembershipRefusal Unit :=
  verifySigned crates policy.authorityPublicKeyEd25519 envelope.signature.value membershipDomain
    envelope.assertion.toValue

def verifyMembership (expectedSubject requiredScope : String) (now : ℕ) :
    Outcome MembershipRefusal Unit := do
  validateMembershipShape crates envelope.assertion
  validateMembershipIdentity envelope policy expectedSubject
  validateMembershipLifecycle envelope.assertion policy requiredScope now
  verifyMembershipSignature crates envelope policy

end Assertions

/-- An accepted assertion is signed by the authority of the policy for its domain, is about the
expected node, has the scope, has not expired and is not of a revoked generation. -/
lemma verifyMembership_eq_ok {crates : MembershipCrates} {envelope : MembershipEnvelope}
    {policy : MembershipPolicy} {expectedSubject requiredScope : String} {now : ℕ}
    (h : verifyMembership crates envelope policy expectedSubject requiredScope now = .ok ()) :
    envelope.assertion.issuer = ⟨policy.authorityId, policy.authorityKeyId⟩ ∧
      envelope.assertion.domainId = policy.domainId ∧
      envelope.assertion.subject.id = expectedSubject ∧
      requiredScope ∈ envelope.assertion.scopes ∧
      now < envelope.assertion.expiresAt ∧
      policy.minimumGeneration ≤ envelope.assertion.generation ∧
      verifyMembershipSignature crates envelope policy = .ok () := by
  simp only [verifyMembership, validateMembershipIdentity, validateMembershipAuthority,
    validateMembershipLifecycle, validateMembershipTime, validateMembershipGeneration,
    bind_eq_ok_iff, require_eq_ok_iff, exists_const, Bool.and_eq_true, beq_iff_eq,
    decide_eq_true_iff, List.contains_iff_mem] at h
  obtain ⟨-, -, ⟨-, -, ⟨hissuer, hdomain, -⟩, -, hsubject⟩, ⟨⟨-, hexpires⟩, hgeneration, hscope⟩,
    hsignature⟩ := h
  refine ⟨?_, hdomain, hsubject, hscope, hexpires, hgeneration, hsignature⟩
  rw [← hissuer.1, ← hissuer.2]

/-! ### What a member has signed -/

section Gossip

variable (crates : MembershipCrates) (gossip : GossipEnvelope) (membership : MembershipEnvelope)
  (policy : MembershipPolicy)

def validateGossipFormat : Outcome MembershipRefusal Unit :=
  require (gossip.signature.algorithm == "Ed25519" &&
      gossip.signature.keyId == some membership.assertion.subject.keyId)
    .unsupportedEvidence

def validateGossipBinding : Outcome MembershipRefusal Unit := do
  require (gossip.proof.domainId == policy.domainId) .wrongDomain
  require (gossip.proof.membershipAssertionId == membership.assertion.assertionId) .wrongSubject

def validateGossipIdentity (replaySeen : Bool) : Outcome MembershipRefusal Unit := do
  require (crates.parsesUuid gossip.proof.replayId) .malformedEvidence
  validateGossipFormat gossip membership
  validateGossipBinding gossip membership policy
  require (!replaySeen) .replayDetected

def validateGossipFreshnessAndPayload (payload : List UInt8) (now : ℕ) :
    Outcome MembershipRefusal Unit := do
  require (gossip.proof.sentAt ≤ saturatingAddU64 now policy.maximumClockSkewSeconds &&
      now - gossip.proof.sentAt ≤ policy.maximumClockSkewSeconds)
    .staleGossip
  require (crates.sha256Hex payload == gossip.proof.payloadSha256) .invalidPayloadBinding

def verifyGossipSignature : Outcome MembershipRefusal Unit :=
  verifySigned crates membership.assertion.subject.publicKeyEd25519 gossip.signature.value
    gossipDomain gossip.proof.toValue

def verifyGossip (payload : List UInt8) (now : ℕ) (replaySeen : Bool) :
    Outcome MembershipRefusal Unit := do
  verifyMembership crates membership policy gossip.proof.senderId "peers" now
  validateGossipIdentity crates gossip membership policy replaySeen
  validateGossipFreshnessAndPayload crates gossip policy payload now
  verifyGossipSignature crates gossip membership

def signGossip (signingSeed : List UInt8) (domainId : String) (payload : List UInt8) (sentAt : ℕ)
    (replayId : String) : Outcome MembershipRefusal GossipEnvelope := do
  require (crates.b64urlEncode (crates.publicKey signingSeed) ==
      membership.assertion.subject.publicKeyEd25519)
    .wrongSubject
  let proof : GossipProof := {
    senderId := membership.assertion.subject.id
    domainId := domainId
    sentAt := sentAt
    replayId := replayId
    payloadSha256 := crates.sha256Hex payload
    membershipAssertionId := membership.assertion.assertionId }
  let canonical ← okOr .malformedEvidence (crates.canonical proof.toValue)
  let value := crates.b64urlEncode (crates.sign signingSeed (gossipDomain ++ canonical))
  .ok ⟨proof, ⟨"Ed25519", some membership.assertion.subject.keyId, value⟩⟩

end Gossip

end Iicp.Peer
