import Iicp.Client.Types
import Iicp.Rust.Str

/-!
# Which nodes may receive a prompt

A routing policy names a profile and overrides parts of it; `resolvedPolicy` is the policy in
effect. `nodeRejectionReason` gives the first reason for which a node is refused under it, and
`filterNodesForRoutingPolicy` splits a list of nodes. A node without a key passes only when
plaintext is allowed (`plaintext_allowed_of_keyless`).
-/

namespace Iicp.Client

open Rust RoutingPolicy

/-! ### The policy in effect -/

structure EffectiveRoutingPolicy where
  profile : RoutingProfile
  allowedRegions : List String
  (requireEncryption requirePolicyManifest requireNoPayloadRetention : Bool)
  (allowRemoteExecutor knownOperatorOnly : Bool)
  requiredManifestIdentityLevel : Option String
  deriving DecidableEq, Repr

def RoutingProfile.policy (profile : RoutingProfile) : EffectiveRoutingPolicy :=
  let standard : EffectiveRoutingPolicy :=
    { profile, allowedRegions := [], requireEncryption := true, requirePolicyManifest := false,
      requireNoPayloadRetention := false, allowRemoteExecutor := true, knownOperatorOnly := false,
      requiredManifestIdentityLevel := none }
  match profile with
  | .standard => standard
  | .sensitive => { standard with allowRemoteExecutor := false }
  | .euRestricted => { standard with allowedRegions := ["eu", "eea"] }
  | .strictPolicy =>
    { standard with requirePolicyManifest := true, requireNoPayloadRetention := true }
  | .debugOverride => { standard with requireEncryption := false }

/-- The policy in effect: what is given, over the policy of the profile. -/
def resolvedPolicy (policy : RoutingPolicy) : EffectiveRoutingPolicy :=
  let effective := policy.profile.policy
  { profile := effective.profile
    allowedRegions :=
      if policy.allowedRegions.isEmpty then effective.allowedRegions else policy.allowedRegions
    requireEncryption := policy.requireEncryption.getD effective.requireEncryption
    requirePolicyManifest := policy.requirePolicyManifest.getD effective.requirePolicyManifest
    requireNoPayloadRetention :=
      policy.requireNoPayloadRetention.getD effective.requireNoPayloadRetention
    allowRemoteExecutor := policy.allowRemoteExecutor.getD effective.allowRemoteExecutor
    knownOperatorOnly := policy.knownOperatorOnly.getD effective.knownOperatorOnly
    requiredManifestIdentityLevel :=
      policy.requiredManifestIdentityLevel.or effective.requiredManifestIdentityLevel }

/-! ### Reasons to refuse a node -/

/-- Why a node is refused, in the order of the texts. -/
inductive RejectionReason where
  | manifestIdentityLevelTooLow
  | missingEncryptionKey
  | missingManifestIdentity
  | missingPolicyManifest
  | payloadRetentionNotNone
  | policyManifestNotSigned
  | policyManifestRevokedOrRotated
  | regionNotAllowed
  | remoteExecutorDisabled
  deriving DecidableEq, Repr

namespace RejectionReason

def text : RejectionReason → String
  | manifestIdentityLevelTooLow => "manifest_identity_level_too_low"
  | missingEncryptionKey => "missing_encryption_key"
  | missingManifestIdentity => "missing_manifest_identity"
  | missingPolicyManifest => "missing_policy_manifest"
  | payloadRetentionNotNone => "payload_retention_not_none"
  | policyManifestNotSigned => "policy_manifest_not_signed"
  | policyManifestRevokedOrRotated => "policy_manifest_revoked_or_rotated"
  | regionNotAllowed => "region_not_allowed"
  | remoteExecutorDisabled => "remote_executor_disabled"

def all : List RejectionReason :=
  [manifestIdentityLevelTooLow, missingEncryptionKey, missingManifestIdentity,
    missingPolicyManifest, payloadRetentionNotNone, policyManifestNotSigned,
    policyManifestRevokedOrRotated, regionNotAllowed, remoteExecutorDisabled]

end RejectionReason

/-- A region is allowed by itself or by what stands before its first parts. -/
def regionAllowed (region : String) (allowed : List String) : Bool :=
  let value := toAsciiLowercase (trim region)
  allowed.any fun raw ↦
    let item := toAsciiLowercase (trim raw)
    item != "" && (value == item || startsWith value (item ++ "-") ||
      (item == "eea" && startsWith value "eu-"))

/-- The text under a path of names in the policy manifest of a node. -/
def manifestText (node : Node) (path : List String) : Option String :=
  (node.nodePolicyManifest.bind fun manifest ↦ path.foldlM Json.get manifest).bind Json.asStr

def manifestSignedVerified (node : Node) : Bool :=
  manifestText node ["verification", "status"] == some "signed_valid" ||
    manifestText node ["evidence"] == some "signed_verified"

def manifestIdentityRank (level : String) : ℤ :=
  if level = "self_attested" then 0
  else if level = "signed_valid" then 1
  else if level = "operator_bound" then 2
  else if level = "known_operator" then 3
  else -1

def manifestIdentityRejectionReason (node : Node) (requiredLevel : String) :
    Option RejectionReason :=
  let needed :=
    if ["signed_valid", "operator_bound", "known_operator"].contains requiredLevel then requiredLevel
    else "known_operator"
  match manifestText node ["manifest_identity_level"] with
  | none => some .missingManifestIdentity
  | some level =>
    if level = "revoked" ∨ level = "rotated" then some .policyManifestRevokedOrRotated
    else if manifestIdentityRank level < manifestIdentityRank needed then
      some .manifestIdentityLevelTooLow
    else none

def declaresNoPayloadRetention (node : Node) : Bool :=
  manifestText node ["retention", "task_payload"] == some "none"

def nodeRejectionReason (node : Node) (policy : EffectiveRoutingPolicy)
    (allowPlaintextDebug : Bool) : Option RejectionReason :=
  if !policy.allowRemoteExecutor then some .remoteExecutorDisabled
  else if !policy.allowedRegions.isEmpty && !regionAllowed node.region policy.allowedRegions then
    some .regionNotAllowed
  else if policy.requireEncryption && node.cxPublicKey.isNone && !allowPlaintextDebug then
    some .missingEncryptionKey
  else if policy.requirePolicyManifest && node.nodePolicyManifest.isNone then
    some .missingPolicyManifest
  else if policy.profile == .strictPolicy && !manifestSignedVerified node then
    some .policyManifestNotSigned
  else if policy.requireNoPayloadRetention && !declaresNoPayloadRetention node then
    some .payloadRetentionNotNone
  else
    match policy.requiredManifestIdentityLevel.or
      (if policy.knownOperatorOnly then some "known_operator" else none) with
    | some requiredLevel => manifestIdentityRejectionReason node requiredLevel
    | none => none

/-! ### Splitting a list of nodes -/

structure RoutingPolicyDecision where
  eligible : List Node
  rejectedReasons : List RejectionReason
  skippedKeyless : ℕ

def filterNodesForRoutingPolicy (nodes : List Node) (policy : EffectiveRoutingPolicy)
    (allowPlaintextDebug : Bool) : RoutingPolicyDecision :=
  let reason := fun node ↦ nodeRejectionReason node policy allowPlaintextDebug
  { eligible := nodes.filter fun node ↦ (reason node).isNone
    rejectedReasons := nodes.filterMap reason
    skippedKeyless := (nodes.filterMap reason).count .missingEncryptionKey }

/-- How often each reason occurs. -/
def summarize (reasons : List RejectionReason) : String :=
  if reasons.isEmpty then "none"
  else
    let present := RejectionReason.all.filter reasons.contains
    ", ".intercalate (present.map fun reason ↦ reason.text ++ "=" ++ toString (reasons.count reason))

def RoutingProfile.debug : RoutingProfile → String
  | .standard => "Standard"
  | .sensitive => "Sensitive"
  | .euRestricted => "EuRestricted"
  | .strictPolicy => "StrictPolicy"
  | .debugOverride => "DebugOverride"

def routingPolicyRefusalCode : String := "IICP-POLICY-ROUTING"

def routingPolicyRefusalMessage (intent : String) (decision : RoutingPolicyDecision)
    (policy : EffectiveRoutingPolicy) : String :=
  "Routing policy '" ++ policy.profile.debug ++ "' refused all discovered nodes for '" ++ intent ++
    "' before prompt dispatch; no prompt was sent. Reasons: " ++ summarize decision.rejectedReasons ++
    ". Remote nodes can read prompts they execute; use local/browser mode for sensitive data or " ++
    "relax the policy explicitly."

/-- A node without a key passes only when plaintext is allowed. -/
lemma plaintext_allowed_of_keyless {node : Node} {policy : EffectiveRoutingPolicy}
    {allowPlaintextDebug : Bool} (h : nodeRejectionReason node policy allowPlaintextDebug = none)
    (hkeyless : node.cxPublicKey = none) :
    allowPlaintextDebug ∨ policy.requireEncryption = false := by
  unfold nodeRejectionReason at h
  split_ifs at h with _ _ hkey
  all_goals
    rw [hkeyless] at hkey
    cases allowPlaintextDebug <;> simp_all

/-! ### Stricter policies -/

/-- The levels of identity that a policy can ask for. -/
def identityLevels : List String := ["signed_valid", "operator_bound", "known_operator"]

/-- A setting stays as it was given or is set to the strict value. -/
def Tightens (strict : Bool) (given tightened : Option Bool) : Prop :=
  tightened = given ∨ tightened = some strict

/-- The second policy differs from the first only by more restrictions. -/
structure Restricts (first second : RoutingPolicy) : Prop where
  profile : second.profile = first.profile
  regions : second.allowedRegions = first.allowedRegions ∨ first.allowedRegions ≠ [] ∧
    second.allowedRegions ≠ [] ∧ second.allowedRegions ⊆ first.allowedRegions
  encryption : Tightens true first.requireEncryption second.requireEncryption
  manifest : Tightens true first.requirePolicyManifest second.requirePolicyManifest
  retention : Tightens true first.requireNoPayloadRetention second.requireNoPayloadRetention
  executor : Tightens false first.allowRemoteExecutor second.allowRemoteExecutor
  operator : Tightens true first.knownOperatorOnly second.knownOperatorOnly
  level : second.requiredManifestIdentityLevel = first.requiredManifestIdentityLevel ∨
    ∃ raised ∈ identityLevels, second.requiredManifestIdentityLevel = some raised ∧
      ∀ level ∈ first.requiredManifestIdentityLevel,
        level ∈ identityLevels ∧ manifestIdentityRank level ≤ manifestIdentityRank raised

def RoutingPolicy.Accepts (policy : RoutingPolicy) (allowPlaintextDebug : Bool) (node : Node) :
    Prop :=
  nodeRejectionReason node (resolvedPolicy policy) allowPlaintextDebug = none

def KnownOperator (node : Node) : Prop :=
  manifestText node ["manifest_identity_level"] = some "known_operator"

/-- A policy that gives a level asks for it; otherwise it asks for one for known operators only. -/
def RoutingPolicy.askedLevel (policy : RoutingPolicy) : Option String :=
  policy.requiredManifestIdentityLevel.or
    (if policy.knownOperatorOnly = some true then some "known_operator" else none)

section Accepted

variable {node : Node} {plaintext : Bool} {first second policy : RoutingPolicy} {level : String}

lemma ite_some_eq_none_iff {α : Type*} {c : Prop} [Decidable c] {reason : α} {rest : Option α} :
    (if c then some reason else rest) = none ↔ ¬ c ∧ rest = none := by
  split_ifs with hc <;> simp [hc]

/-- What a policy asks of a node, one part for each reason to refuse it. -/
lemma accepts_iff :
    policy.Accepts plaintext node ↔
      (resolvedPolicy policy).allowRemoteExecutor ∧
      ((resolvedPolicy policy).allowedRegions = [] ∨
        regionAllowed node.region (resolvedPolicy policy).allowedRegions) ∧
      ((resolvedPolicy policy).requireEncryption →
        node.cxPublicKey = none → plaintext) ∧
      ((resolvedPolicy policy).requirePolicyManifest → node.nodePolicyManifest ≠ none) ∧
      (policy.profile = .strictPolicy → manifestSignedVerified node) ∧
      ((resolvedPolicy policy).requireNoPayloadRetention →
        declaresNoPayloadRetention node) ∧
      ∀ level ∈ policy.askedLevel, manifestIdentityRejectionReason node level = none := by
  have hprofile : (resolvedPolicy policy).profile = policy.profile := by
    unfold resolvedPolicy RoutingProfile.policy
    cases policy.profile <;> rfl
  have hasked : (resolvedPolicy policy).requiredManifestIdentityLevel.or
      (if (resolvedPolicy policy).knownOperatorOnly then some "known_operator" else none) =
        policy.askedLevel := by
    unfold resolvedPolicy RoutingProfile.policy askedLevel
    cases policy.profile <;> rcases policy.knownOperatorOnly with - | - | - <;> simp
  rw [← hprofile, Accepts, nodeRejectionReason, hasked]
  cases policy.askedLevel <;> simp [ite_some_eq_none_iff, or_iff_not_imp_left]

lemma Tightens.getD {given tightened : Option Bool} {strict standard : Bool}
    (h : Tightens strict given tightened) (hgiven : given.getD standard = strict) :
    tightened.getD standard = strict := by
  obtain rfl | rfl := h
  · exact hgiven
  · rfl

/-- A node with the level asked for has every lower level. -/
lemma identity_of_raised {raised : String} (hlevel : level ∈ identityLevels)
    (hraised : raised ∈ identityLevels)
    (hrank : manifestIdentityRank level ≤ manifestIdentityRank raised)
    (h : manifestIdentityRejectionReason node raised = none) :
    manifestIdentityRejectionReason node level = none := by
  unfold identityLevels at hlevel hraised
  unfold manifestIdentityRejectionReason at h ⊢
  rw [if_pos (List.contains_iff_mem.mpr hraised)] at h
  rw [if_pos (List.contains_iff_mem.mpr hlevel)]
  cases htext : manifestText node ["manifest_identity_level"] with
  | none => simp [htext] at h
  | some =>
    simp only [htext, ite_some_eq_none_iff, and_true, not_lt] at h ⊢
    exact ⟨h.1, hrank.trans h.2⟩

/-- Every level but the two lower ones asks for a known operator. -/
lemma identity_eq_none_iff (hsigned : level ≠ "signed_valid") (hbound : level ≠ "operator_bound") :
    manifestIdentityRejectionReason node level = none ↔ KnownOperator node := by
  have hneeded : (if ["signed_valid", "operator_bound", "known_operator"].contains level then level
      else "known_operator") = "known_operator" := by
    simp +contextual [hsigned, hbound]
  unfold manifestIdentityRejectionReason KnownOperator
  rw [hneeded]
  cases manifestText node ["manifest_identity_level"] with
  | none => simp
  | some =>
    simp only [ite_some_eq_none_iff, and_true, not_lt, Option.some.injEq]
    constructor
    · rintro ⟨-, hrank⟩
      by_contra hne
      unfold manifestIdentityRank at hrank
      split_ifs at hrank <;> simp_all
    · rintro rfl
      decide

/-- An accepted node is a known operator, if these are asked for and no lower level is given. -/
lemma knownOperator_of_accepts (haccepted : policy.Accepts plaintext node)
    (honly : policy.knownOperatorOnly = some true)
    (hlower : policy.requiredManifestIdentityLevel = some "signed_valid" ∨
      policy.requiredManifestIdentityLevel = some "operator_bound" → KnownOperator node) :
    KnownOperator node := by
  have hasked := (accepts_iff.mp haccepted).2.2.2.2.2.2
  cases hgiven : policy.requiredManifestIdentityLevel with
  | none =>
    exact (identity_eq_none_iff (by decide) (by decide)).mp
      (hasked "known_operator" (by simp [askedLevel, hgiven, honly]))
  | some given =>
    by_contra hknown
    have hlevel := mt hlower hknown
    simp only [hgiven, Option.some.injEq, not_or] at hlevel
    exact hknown ((identity_eq_none_iff hlevel.1 hlevel.2).mp
      (hasked given (by simp [askedLevel, hgiven])))

/-- A node that a stricter policy accepts is accepted by the policy it restricts exactly when it
is not an unknown operator that was asked for by `known_operator_only` alone; and an accepted node
is a known operator, if these are asked for, exactly when it is one wherever a lower level is given. -/
theorem accepted_of_stricter_iff (h : Restricts first second)
    (haccepted : second.Accepts plaintext node) :
    (first.Accepts plaintext node ↔
      (first.knownOperatorOnly = some true → first.requiredManifestIdentityLevel = none →
        KnownOperator node)) ∧
    ((second.knownOperatorOnly = some true → KnownOperator node) ↔
      (second.knownOperatorOnly = some true →
        second.requiredManifestIdentityLevel = some "signed_valid" ∨
          second.requiredManifestIdentityLevel = some "operator_bound" → KnownOperator node)) := by
  obtain ⟨hexecutor, hregions, hkey, hmanifest, hsigned, hretention, hasked⟩ :=
    accepts_iff.mp haccepted
  refine ⟨⟨fun hfirst honly hnone ↦ ?_, fun hknown ↦ ?_⟩, fun hknown honly _ ↦ hknown honly,
    fun hlower honly ↦ knownOperator_of_accepts haccepted honly (hlower honly)⟩
  · exact knownOperator_of_accepts hfirst honly (by simp [hnone])
  · have hprofile : second.profile.policy = first.profile.policy := by rw [h.profile]
    simp only [resolvedPolicy, hprofile] at hexecutor hregions hkey hmanifest hretention
    refine accepts_iff.mpr ⟨?_, ?_, ?_, ?_, ?_, ?_, ?_⟩
    · by_contra hrefused
      rw [h.executor.getD (Bool.eq_false_of_not_eq_true hrefused)] at hexecutor
      cases hexecutor
    · obtain heq | ⟨hfirst, hsecond, hsub⟩ := h.regions
      · rw [heq] at hregions
        exact hregions
      · simp only [resolvedPolicy, List.isEmpty_iff, hfirst, hsecond, if_false, false_or,
          regionAllowed, List.any_eq_true] at hregions ⊢
        obtain ⟨item, hitem, hallowed⟩ := hregions
        exact ⟨item, hsub hitem, hallowed⟩
    · exact fun hrequired ↦ hkey (h.encryption.getD hrequired)
    · exact fun hrequired ↦ hmanifest (h.manifest.getD hrequired)
    · exact fun hstrict ↦ hsigned (h.profile.trans hstrict)
    · exact fun hrequired ↦ hretention (h.retention.getD hrequired)
    · intro level hlevel
      cases hgiven : first.requiredManifestIdentityLevel with
      | none =>
        simp only [askedLevel, hgiven, Option.none_or, Option.mem_def,
          Option.ite_none_right_eq_some, Option.some.injEq] at hlevel
        obtain ⟨honly, rfl⟩ := hlevel
        exact (identity_eq_none_iff (by decide) (by decide)).mpr (hknown honly hgiven)
      | some =>
        simp only [askedLevel, hgiven, Option.some_or, Option.mem_some] at hlevel
        subst hlevel
        obtain heq | ⟨_, hraised, heq, hfirst⟩ := h.level
        · exact hasked _ (by simp [askedLevel, heq, hgiven])
        · exact identity_of_raised (hfirst _ hgiven).1 hraised (hfirst _ hgiven).2
            (hasked _ (by simp [askedLevel, heq]))

end Accepted

/-- A node without a key whose manifest names its level of identity. -/
def identifiedNode (level : String) : Node :=
  ⟨"node-1", "https://node.example.com", 1, 0, true, "eu", none, none, none, none, none, [], none,
    none, none, none, none, none, none, none,
    some (.object [("manifest_identity_level", .string level)]), none, none⟩

def knownOperators : RoutingPolicy := { default with knownOperatorOnly := some true }

def signedOperators : RoutingPolicy :=
  { knownOperators with requiredManifestIdentityLevel := some "signed_valid" }

lemma restricts_signedOperators : Restricts knownOperators signedOperators :=
  ⟨rfl, .inl rfl, .inl rfl, .inl rfl, .inl rfl, .inl rfl, .inl rfl,
    .inr ⟨"signed_valid", .head _, rfl, fun _ hgiven ↦ absurd hgiven (Option.not_mem_none _)⟩⟩

theorem known_operator_accepted_by_both :
    knownOperators.Accepts true (identifiedNode "known_operator") := by
  have haccepted : signedOperators.Accepts true (identifiedNode "known_operator") := by
    unfold Accepts
    decide
  exact (accepted_of_stricter_iff restricts_signedOperators haccepted).1.mpr fun _ _ ↦ rfl

/-- Asking for a signed manifest as well, a policy for known operators accepts an unknown one. -/
theorem unknown_operator_accepted :
    Restricts knownOperators signedOperators ∧ signedOperators.knownOperatorOnly = some true ∧
      signedOperators.Accepts true (identifiedNode "signed_valid") ∧
      nodeRejectionReason (identifiedNode "signed_valid") (resolvedPolicy knownOperators) true =
        some .manifestIdentityLevelTooLow := by
  refine ⟨restricts_signedOperators, rfl, ?_, by decide⟩
  unfold Accepts
  decide

end Iicp.Client
