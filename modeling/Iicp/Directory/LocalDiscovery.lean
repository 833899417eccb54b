import Iicp.Config.Runtime
import Iicp.Http.EndpointSecurity
import Iicp.Rust.Bytes
import Iicp.Rust.JsonText
import Iicp.Rust.Serde

/-!
# Finding a directory on the local network

A client with a trusted directory DID and no directory address browses the local network for
services, fetches from each candidate a signed descriptor and a DID document, and accepts a
candidate whose descriptor names the trusted DID and verifies under the key of the document
(`verifyCandidate`). `resolve` returns the first accepted candidate and keeps it in a cache of the
process.

The DID document is fetched from the candidate itself, at the same origin as the descriptor. So it
binds no key to the DID: whoever answers for a candidate chooses the key under which its own
descriptor is verified. `resolve_anchored_iff` says for a sequence of calls what this leaves of the
trust anchor.

The hosts are given by what they answer. That the address behind a candidate has a certificate for
the hostname of the candidate is part of an answer.
-/

namespace Iicp.Directory

open Config (OperatingMode)
open Http (Url)
open Rust Json Outcome List

/-! ### Requests and results -/

inductive LocalDirectoryError where
  | localOnly
  | missingTrustAnchor
  | discovery (message : String)
  | noTrustedCandidate
  deriving DecidableEq, Repr

structure ResolveRequest where
  enabled : Bool
  mode : OperatingMode
  (explicitDirectory trustedDirectoryDid : Option String)
  allowPublicFallback : Bool
  collectionWindowMs : ℕ
  deriving DecidableEq, Repr

inductive ResolutionSource where
  | explicit
  | mdns
  deriving DecidableEq, Repr

structure DirectoryResolution where
  endpoint : String
  directoryDid : Option String
  source : ResolutionSource
  observedHostname : Option String
  observedAddresses : List String
  descriptorSha256 : Option String
  expiresAt : Option ℤ
  cacheHit : Bool
  deriving DecidableEq, Repr

structure CacheKey where
  mode : ℕ
  trustedDirectoryDid : String
  deriving DecidableEq, Repr

structure CachedResolution where
  resolution : DirectoryResolution
  expiresAt : ℤ
  deriving DecidableEq, Repr

/-- The cache of the process: at most one entry for each key. -/
abbrev ResolutionCache := List (CacheKey × CachedResolution)

def descriptorPath : String := "/.well-known/iicp-directory.json"

def maxCollectionWindowMs : ℕ := 3000

def maxCacheSeconds : ℤ := 300

def maxTxtBytes : ℕ := 512

def signatureDomain : List UInt8 := utf8Bytes "IICP-LOCAL-DIRECTORY-DESCRIPTOR-V0\n"

def modeCacheKey : OperatingMode → ℕ
  | .publicMode => 0
  | .privateMode => 1
  | .federatedPrivate => 2
  | .localOnly => 3
  | .custom => 4

/-! ### Services and candidates -/

structure Service where
  hostname : String
  port : UInt16
  addresses : List IpAddr
  properties : List (String × String)
  deriving DecidableEq, Repr

structure Candidate where
  hostname : String
  port : UInt16
  addresses : List IpAddr
  txt : List (String × String)
  deriving DecidableEq, Repr

def allowedLocalAddress : IpAddr → Bool
  | .v4 value =>
    !value.isLoopback && !value.isUnspecified && !value.isMulticast &&
      (value.isPrivate || value.isLinkLocal)
  | .v6 value =>
    !value.isLoopback && !value.isUnspecified && !value.isMulticast &&
      (value.isUnicastLinkLocal || value.s0 &&& 0xfe00 == 0xfc00)

/-- Words that no key of a text record may contain. -/
def secretWords : List String :=
  ["token", "secret", "credential", "membership", "node", "model", "intent", "capability",
    "topology", "federation"]

def txtContainsSecret (txt : List (String × String)) : Bool :=
  txt.any fun entry ↦ secretWords.any fun forbidden ↦ containsText entry.1 forbidden

/-- The text record, unless two of its keys are the same. -/
def readTxt (properties : List (String × String)) : Option (List (String × String)) :=
  let entries := properties.map fun property ↦ (toAsciiLowercase property.1, property.2)
  if (entries.map Prod.fst).Nodup then some entries else none

def txtBytes (txt : List (String × String)) : ℕ :=
  (txt.map fun entry ↦ 1 + byteLength entry.1.toList + 1 + byteLength entry.2.toList).sum

/-- A service as a candidate, if its record and its addresses are acceptable. -/
def candidateFromService (info : Service) : Option Candidate := do
  let txt ← readTxt info.properties
  if maxTxtBytes < txtBytes txt || txt.lookup "pv" != some "0" ||
      txt.lookup "path" != some descriptorPath || txt.lookup "transport" != some "https" ||
      txtContainsSecret txt then none
  else if info.addresses.isEmpty || info.addresses.any fun address ↦ !allowedLocalAddress address then
    none
  else some ⟨trimEndMatches '.' info.hostname, info.port, info.addresses.dedup, txt⟩

/-! ### Descriptors -/

structure DescriptorSignature where
  (algorithm keyId value : String)
  deriving DecidableEq, Repr

structure Descriptor where
  (schema profile profileVersion directoryDid role : String)
  apiEndpoints : List String
  issuedAt : ℤ
  expiresAt : ℤ
  signature : DescriptorSignature
  deriving DecidableEq, Repr

def DescriptorSignature.fromValue (value : Json) : Option DescriptorSignature := do
  let parts ← structParts [plain "algorithm", plain "key_id", plain "value"] value
  let algorithm ← required asStr (parts "algorithm")
  let keyId ← required asStr (parts "key_id")
  let text ← required asStr (parts "value")
  some ⟨algorithm, keyId, text⟩

def Descriptor.fromValue (value : Json) : Option Descriptor := do
  let parts ← structParts [plain "schema", plain "profile", plain "profile_version",
    plain "directory_did", plain "role", plain "api_endpoints", plain "issued_at",
    plain "expires_at", plain "signature"] value
  let schema ← required asStr (parts "schema")
  let profile ← required asStr (parts "profile")
  let profileVersion ← required asStr (parts "profile_version")
  let directoryDid ← required asStr (parts "directory_did")
  let role ← required asStr (parts "role")
  let apiEndpoints ← required (readList asStr) (parts "api_endpoints")
  let issuedAt ← required asI64 (parts "issued_at")
  let expiresAt ← required asI64 (parts "expires_at")
  let signature ← required DescriptorSignature.fromValue (parts "signature")
  some ⟨schema, profile, profileVersion, directoryDid, role, apiEndpoints, issuedAt, expiresAt,
    signature⟩

structure DiscoveryCrates where
  readJson : List UInt8 → Except String Json
  descriptorError : Json → String
  (base64Decode hexDecode : String → Option (List UInt8))
  canonical : Json → Except String (List UInt8)
  usableKey : List UInt8 → Bool
  verifies : (key message signature : List UInt8) → Bool
  parseUrl : String → Option Url
  sha256Hex : List UInt8 → String
  showAddress : IpAddr → String

def documentKey (crates : DiscoveryCrates) (keyId : String) (did : Json) : Option (List UInt8) := do
  let methods ← (did.field "verificationMethod").asArray
  let method ← methods.find? fun method ↦ (method.field "id").asStr == some keyId
  let encoded ← ((method.field "publicKeyJwk").field "x").asStr
  let bytes ← crates.base64Decode encoded
  if bytes.length = 32 ∧ crates.usableKey bytes then some bytes else none

/-- What the signature of a descriptor is over. -/
def signedMessage (crates : DiscoveryCrates) (value : Json) :
    Outcome LocalDirectoryError (List UInt8) := do
  let fields ← okOr (.discovery "descriptor is not an object") value.asObject
  let canonical ← ofExcept .discovery
    (crates.canonical (.object (removeField "signature" fields)))
  .ok (signatureDomain ++ canonical)

def signatureBytes (crates : DiscoveryCrates) (descriptor : Descriptor) :
    Outcome LocalDirectoryError (List UInt8) := do
  let bytes ← okOr (.discovery "invalid descriptor signature")
    (crates.hexDecode descriptor.signature.value)
  require (bytes.length == 64) (.discovery "invalid descriptor signature")
  .ok bytes

def verifyDescriptorSignature (crates : DiscoveryCrates) (descriptor : Descriptor)
    (value did : Json) : Outcome LocalDirectoryError Unit := do
  let publicKey ← okOr (.discovery "DID verification key unavailable")
    (documentKey crates descriptor.signature.keyId did)
  let message ← signedMessage crates value
  let signature ← signatureBytes crates descriptor
  require (crates.verifies publicKey message signature)
    (.discovery "descriptor signature mismatch")

/-- The checks of a descriptor before the DID document is fetched. A lifetime that does not fit in 64
bits wraps around, so that a descriptor of the distant past can pass. -/
def checkDescriptor (descriptor : Descriptor) (candidate : Candidate) (trustedDid : String)
    (now : ℤ) : Outcome LocalDirectoryError Unit := do
  require (descriptor.schema == "iicp.local-directory-descriptor.v0" &&
      descriptor.profile == "urn:iicp:profile:local-directory-discovery:v1" &&
      descriptor.profileVersion == "0" &&
      ["seed", "replica", "standalone"].contains descriptor.role &&
      descriptor.directoryDid == trustedDid &&
      (candidate.txt.lookup "did").all (· == descriptor.directoryDid) &&
      (candidate.txt.lookup "role").all (· == descriptor.role) &&
      descriptor.issuedAt ≤ now + 30 && now < descriptor.expiresAt &&
      wrappingSubI64 descriptor.expiresAt descriptor.issuedAt ≤ maxCacheSeconds &&
      descriptor.signature.algorithm == "Ed25519" &&
      descriptor.signature.keyId == descriptor.directoryDid ++ "#key-1")
    (.discovery "descriptor validation failed")

/-! ### What hosts answer -/

inductive Fetched (α : Type) where
  | failed (message : String)
  | answered (status : ℕ) (body : Except String α)
  deriving DecidableEq

def Fetched.success {α : Type} (rejection : String) : Fetched α → Outcome LocalDirectoryError α
  | .failed message => .err (.discovery message)
  | .answered status body =>
    if 200 ≤ status ∧ status < 300 then ofExcept .discovery body
    else .err (.discovery rejection)

/-- What the host of a candidate answers, apart from its DID document: whether there is a client for
it, its descriptor, and the times at which the descriptor is checked and the candidate is accepted.
-/
structure Host where
  client : Except String Unit
  descriptor : Fetched (List UInt8)
  checkedAt : ℤ
  acceptedAt : ℤ
  deriving DecidableEq

structure Announced where
  service : Service
  host : Host
  deriving DecidableEq

/-- A candidate whose descriptor has passed the checks before its DID document is fetched. -/
structure Examined where
  candidate : Candidate
  body : List UInt8
  value : Json
  descriptor : Descriptor

section Verification

variable (crates : DiscoveryCrates) (trustedDid : String)

/-- Fetches the descriptor of a candidate and checks it. -/
def examine (candidate : Candidate) (host : Host) : Outcome LocalDirectoryError Examined := do
  ofExcept .discovery host.client
  let body ← host.descriptor.success "descriptor fetch rejected"
  require (body.length ≤ 32 * 1024) (.discovery "descriptor is oversized")
  let value ← ofExcept .discovery (crates.readJson body)
  let descriptor ← okOr (.discovery (crates.descriptorError value))
    (Descriptor.fromValue value)
  checkDescriptor descriptor candidate trustedDid host.checkedAt
  .ok ⟨candidate, body, value, descriptor⟩

variable (examined : Examined)

/-- Checks the DID document of a candidate, and the signature of the descriptor under its key. -/
def checkDocument (reply : Fetched Json) :
    Outcome LocalDirectoryError Unit := do
  let did ← reply.success "DID document fetch rejected"
  require ((did.get "id").bind asStr == some examined.descriptor.directoryDid)
    (.discovery "DID document identity mismatch")
  verifyDescriptorSignature crates examined.descriptor examined.value did

def least : List String → Option String
  | [] => none
  | text :: rest =>
    match least rest with
    | none => some text
    | some other => if other < text then some other else some text

/-- The address of the directory: on the origin of the candidate. -/
def endpointOf : Outcome LocalDirectoryError String := do
  let endpoint ← okOr (.discovery "descriptor has no HTTPS API endpoint")
    (least (examined.descriptor.apiEndpoints.filter (startsWith · "https://")))
  let url ← okOr (.discovery "descriptor API endpoint is invalid") (crates.parseUrl endpoint)
  require (url.host == some examined.candidate.hostname &&
      url.port == some examined.candidate.port)
    (.discovery "descriptor API endpoint does not match the discovered origin")
  .ok endpoint

/-- The result for an accepted candidate. -/
def resolutionOf (acceptedAt : ℤ) (endpoint : String) :
    DirectoryResolution where
  endpoint := endpoint
  directoryDid := some examined.descriptor.directoryDid
  source := .mdns
  observedHostname := some examined.candidate.hostname
  observedAddresses := (examined.candidate.addresses.map crates.showAddress).mergeSort (· ≤ ·)
  descriptorSha256 := some (crates.sha256Hex examined.body)
  expiresAt := some (min examined.descriptor.expiresAt (acceptedAt + maxCacheSeconds))
  cacheHit := false

def verifyCandidate (candidate : Candidate) (host : Host) (reply : Fetched Json) :
    Outcome LocalDirectoryError DirectoryResolution := do
  let examined ← examine crates trustedDid candidate host
  checkDocument crates examined reply
  let endpoint ← endpointOf crates examined
  .ok (resolutionOf crates examined host.acceptedAt endpoint)

/-- The results for the candidates that are accepted. A candidate that is not is left out. -/
def verifyAll (documents : Announced → Fetched Json) :
    List Announced → Outcome LocalDirectoryError (List DirectoryResolution)
  | [] => .ok []
  | announced :: rest =>
    match candidateFromService announced.service with
    | none => verifyAll documents rest
    | some candidate =>
      match verifyCandidate crates trustedDid candidate announced.host (documents announced) with
      | .ok resolution => do
        let others ← verifyAll documents rest
        .ok (resolution :: others)
      | .err _ => verifyAll documents rest
      | .panicked => .panicked

end Verification

/-! ### Resolving -/

def DirectoryResolution.le (left right : DirectoryResolution) : Bool :=
  let leftDid := left.directoryDid.toList
  let rightDid := right.directoryDid.toList
  leftDid < rightDid || (leftDid == rightDid && left.endpoint ≤ right.endpoint)

def notBlank (text : Option String) : Option String := text.filter fun value ↦ trim value != ""

/-- A call: the request, the time, and what is heard while browsing. -/
structure Call where
  request : ResolveRequest
  now : ℤ
  browse : ℕ → Except String (List Announced)

def Call.heard (call : Call) : Except String (List Announced) :=
  call.browse (min (max call.request.collectionWindowMs 1) maxCollectionWindowMs)

namespace ResolutionCache

def retain (cache : ResolutionCache) (now : ℤ) : ResolutionCache :=
  cache.filter fun entry ↦ now < entry.2.expiresAt

def insert (cache : ResolutionCache) (key : CacheKey) (entry : CachedResolution) : ResolutionCache :=
  (key, entry) :: cache.filter fun other ↦ other.1 != key

end ResolutionCache

def remember (cache : ResolutionCache) (key : CacheKey) (now : ℤ) (accepted : DirectoryResolution) :
    ResolutionCache :=
  match accepted.expiresAt.filter fun expiry ↦ now < expiry with
  | some expiry => cache.insert key ⟨accepted, expiry⟩
  | none => cache

/-- Browses for the directory of a DID. -/
def search (crates : DiscoveryCrates) (call : Call) (documents : Announced → Fetched Json)
    (trustedDid : String) (cache : ResolutionCache) :
    Outcome LocalDirectoryError (Option DirectoryResolution) × ResolutionCache :=
  match call.heard with
  | .error message => (.err (.discovery message), cache)
  | .ok heard =>
    match verifyAll crates trustedDid documents heard with
    | .err error => (.err error, cache)
    | .panicked => (.panicked, cache)
    | .ok verified =>
      match (verified.mergeSort DirectoryResolution.le).head? with
      | some accepted =>
        (.ok (some accepted),
          remember cache ⟨modeCacheKey call.request.mode, trustedDid⟩ call.now accepted)
      | none =>
        if call.request.mode = .publicMode ∧ call.request.allowPublicFallback then (.ok none, cache)
        else (.err .noTrustedCandidate, cache)

def resolve (crates : DiscoveryCrates) (call : Call) (documents : Announced → Fetched Json)
    (cache : ResolutionCache) :
    Outcome LocalDirectoryError (Option DirectoryResolution) × ResolutionCache :=
  match notBlank call.request.explicitDirectory with
  | some endpoint =>
    (.ok (some
      { endpoint := endpoint
        directoryDid := call.request.trustedDirectoryDid
        source := .explicit
        observedHostname := none
        observedAddresses := []
        descriptorSha256 := none
        expiresAt := none
        cacheHit := false }), cache)
  | none =>
    if !call.request.enabled then (.ok none, cache)
    else if call.request.mode = .localOnly then (.err .localOnly, cache)
    else
      match notBlank call.request.trustedDirectoryDid with
      | none => (.err .missingTrustAnchor, cache)
      | some trustedDid =>
        let live := cache.retain call.now
        match live.lookup ⟨modeCacheKey call.request.mode, trustedDid⟩ with
        | some entry => (.ok (some { entry.resolution with cacheHit := true }), live)
        | none => search crates call documents trustedDid live

/-! ### Accepted candidates -/

section Accepted

variable {crates : DiscoveryCrates} {trustedDid : String} {candidate : Candidate}
  {reply : Fetched Json} {host : Host}

def SignedBy (crates : DiscoveryCrates) (examined : Examined) (key : List UInt8) : Prop :=
  ∃ message signature, signedMessage crates examined.value = .ok message ∧
    signatureBytes crates examined.descriptor = .ok signature ∧
    crates.verifies key message signature = true

/-- A text of a key that a DID document can hold. -/
def Holdable (crates : DiscoveryCrates) (encoded : String) (key : List UInt8) : Prop :=
  crates.base64Decode encoded = some key ∧ key.length = 32 ∧ crates.usableKey key = true

/-- An accepted candidate is one whose descriptor passed the first checks, whose document was
accepted, and which has an address. -/
lemma verifyCandidate_eq_ok_iff {resolution : DirectoryResolution} :
    verifyCandidate crates trustedDid candidate host reply = .ok resolution ↔
      ∃ examined endpoint, examine crates trustedDid candidate host = .ok examined ∧
        checkDocument crates examined reply = .ok () ∧ endpointOf crates examined = .ok endpoint ∧
        resolutionOf crates examined host.acceptedAt endpoint = resolution := by
  simp only [verifyCandidate, bind_eq_ok_iff, ok.injEq, exists_and_left,
    Unique.exists_iff, PUnit.default_eq_unit]

lemma success_returns {α : Type} (rejection : String) (fetched : Fetched α) :
    (fetched.success rejection).Returns := by
  cases fetched with
  | failed => exact returns_err _
  | answered =>
    unfold Fetched.success
    dsimp only
    split_ifs
    · exact returns_ofExcept _ _
    · exact returns_err _

lemma verifyCandidate_returns : (verifyCandidate crates trustedDid candidate host reply).Returns := by
  simp [verifyCandidate, examine, checkDescriptor, checkDocument, verifyDescriptorSignature,
    signedMessage, signatureBytes, endpointOf, returns_bind, success_returns]

/-- A descriptor that passed the first checks is one for the trusted DID, and names its first key.
-/
lemma examine_trusted {examined : Examined}
    (h : examine crates trustedDid candidate host = .ok examined) :
    examined.candidate = candidate ∧ examined.descriptor.directoryDid = trustedDid ∧
      examined.descriptor.signature.keyId = trustedDid ++ "#key-1" := by
  simp only [examine, checkDescriptor, bind_eq_ok_iff, require_eq_ok_iff,
    ok.injEq, Bool.and_eq_true, beq_iff_eq] at h
  obtain ⟨-, -, _, -, -, -, _, -, _, -, -, hchecks, rfl⟩ := h
  obtain ⟨⟨⟨⟨⟨⟨⟨⟨-, hdid⟩, -⟩, -⟩, -⟩, -⟩, -⟩, -⟩, hkey⟩ := hchecks
  exact ⟨rfl, hdid, by rw [hkey, hdid]⟩

/-- The descriptor of a candidate whose document is accepted verifies under a key that a document
can hold. -/
lemma signedBy_of_checkDocument {examined : Examined}
    (h : checkDocument crates examined reply = .ok ()) :
    ∃ encoded key, Holdable crates encoded key ∧ SignedBy crates examined key := by
  simp only [checkDocument, verifyDescriptorSignature, bind_eq_ok_iff,
    require_eq_ok_iff, okOr_eq_ok_iff] at h
  obtain ⟨_, -, -, -, _, hkey, message, hmessage, signature, hsignature, hverifies⟩ := h
  simp only [documentKey, Option.bind_eq_bind, Option.bind_eq_some_iff, Option.ite_none_right_eq_some,
    Option.some.injEq] at hkey
  obtain ⟨_, -, _, -, encoded, -, bytes, hbytes, ⟨hsize, husable⟩, rfl⟩ := hkey
  exact ⟨encoded, bytes, ⟨hbytes, hsize, husable⟩, message, signature, hmessage, hsignature,
    hverifies⟩

def documentFor (did encoded : String) : Json :=
  .object [("id", .string did), ("verificationMethod", .array
    [.object [("id", .string (did ++ "#key-1")),
      ("publicKeyJwk", .object [("x", .string encoded)])]])]

/-- Assumes: the descriptor is one for the DID and verifies under a key. A document that gives the
DID this key is accepted, whoever serves it. -/
lemma checkDocument_of_signedBy {examined : Examined} {encoded : String} {key : List UInt8}
    (hdid : examined.descriptor.directoryDid = trustedDid)
    (hkeyId : examined.descriptor.signature.keyId = trustedDid ++ "#key-1")
    (hkey : Holdable crates encoded key) (hsigned : SignedBy crates examined key) :
    checkDocument crates examined (.answered 200 (.ok (documentFor trustedDid encoded))) =
      .ok () := by
  obtain ⟨_, _, hmessage, hsignature, hverifies⟩ := hsigned
  let method : Json := .object [("id", .string (trustedDid ++ "#key-1")),
    ("publicKeyJwk", .object [("x", .string encoded)])]
  have hmethods : ((documentFor trustedDid encoded).field "verificationMethod").asArray =
      some [method] := rfl
  have hfound : [method].find? (fun method ↦ (method.field "id").asStr ==
      some (trustedDid ++ "#key-1")) = some method := by
    have hname : (method.field "id").asStr = some (trustedDid ++ "#key-1") := rfl
    simp [hname]
  have hvalue : ((method.field "publicKeyJwk").field "x").asStr = some encoded := rfl
  have hdocument : documentKey crates (trustedDid ++ "#key-1") (documentFor trustedDid encoded) =
      some key := by
    simp only [documentKey, Option.bind_eq_bind, Option.bind_eq_some_iff,
      Option.ite_none_right_eq_some, Option.some.injEq]
    exact ⟨_, hmethods, _, hfound, _, hvalue, key, hkey.1, hkey.2, rfl⟩
  have hid : ((documentFor trustedDid encoded).get "id").bind asStr = some trustedDid := rfl
  simp [checkDocument, Fetched.success, hid, hdid, verifyDescriptorSignature, hkeyId, hdocument,
    hmessage, hsignature, hverifies, require]

end Accepted

/-! ### All candidates -/

section Candidates

variable {crates : DiscoveryCrates} {trustedDid : String}

/-- A candidate that is accepted with its document. -/
def Accepts (crates : DiscoveryCrates) (trustedDid : String) (documents : Announced → Fetched Json)
    (announced : Announced) (resolution : DirectoryResolution) : Prop :=
  ∃ candidate, candidateFromService announced.service = some candidate ∧
    verifyCandidate crates trustedDid candidate announced.host (documents announced) = .ok resolution

/-- Verifying the candidates delivers the results for the accepted ones. -/
lemma verifyAll_spec (documents : Announced → Fetched Json) (heard : List Announced) :
    ∃ verified, verifyAll crates trustedDid documents heard = .ok verified ∧
      ∀ resolution, resolution ∈ verified ↔
        ∃ announced ∈ heard, Accepts crates trustedDid documents announced resolution := by
  induction heard with
  | nil => exact ⟨[], rfl, by simp⟩
  | cons announced rest ih =>
    obtain ⟨verified, hverified, hmem⟩ := ih
    unfold verifyAll
    cases hcandidate : candidateFromService announced.service with
    | none => exact ⟨verified, hverified, by simpa [Accepts, hcandidate] using hmem⟩
    | some candidate =>
      have haccept : ∀ resolution, Accepts crates trustedDid documents announced resolution ↔
          verifyCandidate crates trustedDid candidate announced.host (documents announced) =
            .ok resolution := by
        simp [Accepts, hcandidate]
      cases hverify : verifyCandidate crates trustedDid candidate announced.host
        (documents announced) with
      | panicked => exact absurd hverify verifyCandidate_returns
      | err =>
        exact ⟨verified, by simpa [hverify] using hverified, by simpa [haccept, hverify] using hmem⟩
      | ok resolution =>
        refine ⟨resolution :: verified, by simp [hverify, hverified], fun found ↦ ?_⟩
        simp [haccept, hverify, hmem, eq_comm]

end Candidates

/-! ### Sequences of calls -/

def didWebHost (did : String) : Option String :=
  (stripStart did "did:web:").map fun rest ↦ beforeFirst '%' (beforeFirst ':' rest)

def Call.searchedDid (call : Call) : Option String :=
  if (notBlank call.request.explicitDirectory).isSome ∨ call.request.enabled = false ∨
      call.request.mode = .localOnly then none
  else notBlank call.request.trustedDirectoryDid

/-- A call, with the DID documents that the hosts serve in it. -/
structure Step where
  call : Call
  documents : Announced → Fetched Json

/-- The calls of one process with their results. -/
def results (crates : DiscoveryCrates) (cache : ResolutionCache) :
    List Step → List (Call × Outcome LocalDirectoryError (Option DirectoryResolution))
  | [] => []
  | step :: rest =>
    (step.call, (resolve crates step.call step.documents cache).1) ::
      results crates (resolve crates step.call step.documents cache).2 rest

section Anchor

variable (crates : DiscoveryCrates) (bound : String → Set (List UInt8))

/-- A result for a DID is anchored: it is a candidate that was accepted for the DID in one of the
steps, and the candidate is the host that the DID names, or its descriptor is signed by a key that
is bound to the DID. -/
def Anchored (steps : List Step) (did : String) (resolution : DirectoryResolution) : Prop :=
  ∃ step ∈ steps, ∃ heard, step.call.searchedDid = some did ∧ step.call.heard = .ok heard ∧
    ∃ announced ∈ heard, ∃ candidate examined,
      candidateFromService announced.service = some candidate ∧
      verifyCandidate crates did candidate announced.host (step.documents announced) =
        .ok { resolution with cacheHit := false } ∧
      examine crates did candidate announced.host = .ok examined ∧
      (didWebHost did = some candidate.hostname ∨ ∃ key ∈ bound did, SignedBy crates examined key)

/-- Every candidate that the calls deliver is anchored for the DID of its call. -/
def AllAnchored (steps : List Step) : Prop :=
  ∀ call resolution, (call, .ok (some resolution)) ∈ results crates [] steps →
    resolution.source = .mdns →
      ∃ did, call.searchedDid = some did ∧ Anchored crates bound steps did resolution

/-- If the descriptor of a candidate for the DID verifies at all, then under a key that is bound to
the DID, unless the candidate is the host that the DID names. -/
def OnlyBound (did : String) (announced : Announced) : Prop :=
  ∀ candidate examined endpoint, candidateFromService announced.service = some candidate →
    examine crates did candidate announced.host = .ok examined →
    endpointOf crates examined = .ok endpoint → didWebHost did ≠ some candidate.hostname →
    ∀ encoded key, Holdable crates encoded key → SignedBy crates examined key →
      ∃ other ∈ bound did, SignedBy crates examined other

variable (call : Call)

/-- What is heard in a call has no descriptor that is signed by other keys only. -/
def Call.Guarded : Prop :=
  ∀ did heard, call.searchedDid = some did → call.heard = .ok heard →
    ∀ announced ∈ heard, OnlyBound crates bound did announced

variable {crates bound} {cache : ResolutionCache} {steps : List Step}

/-- A call that does not search delivers no candidate, and leaves the cache. -/
lemma resolve_of_not_searching {call : Call} (h : call.searchedDid = none)
    (documents : Announced → Fetched Json) (cache : ResolutionCache) :
    (resolve crates call documents cache).2 = cache ∧
      ∀ resolution, (resolve crates call documents cache).1 = .ok (some resolution) →
        resolution.source ≠ .mdns := by
  unfold resolve
  cases hexplicit : notBlank call.request.explicitDirectory with
  | some =>
    refine ⟨rfl, fun resolution hresolution ↦ ?_⟩
    obtain rfl := Option.some.inj (ok.inj hresolution)
    simp
  | none =>
    dsimp only
    split_ifs with henabled hmode
    · simp
    · simp
    · have hdid : notBlank call.request.trustedDirectoryDid = none := by
        rw [Call.searchedDid, hexplicit, if_neg (by simpa [hmode] using henabled)] at h
        exact h
      simp [hdid]

/-- A call that searches looks into the cache first. -/
lemma resolve_of_searching {call : Call} {did : String} (h : call.searchedDid = some did)
    (documents : Announced → Fetched Json) (cache : ResolutionCache) :
    resolve crates call documents cache =
      match (cache.retain call.now).lookup ⟨modeCacheKey call.request.mode, did⟩ with
      | some entry =>
        (.ok (some { entry.resolution with cacheHit := true }), cache.retain call.now)
      | none => search crates call documents did (cache.retain call.now) := by
  unfold Call.searchedDid at h
  split_ifs at h with hskip
  simp only [not_or, Bool.not_eq_true, Option.isSome_eq_false_iff, Option.isNone_iff_eq_none,
    Bool.not_eq_false] at hskip
  obtain ⟨hexplicit, henabled, hmode⟩ := hskip
  simp [resolve, hexplicit, henabled, hmode, h]

/-- What a search does: it accepts a candidate and remembers it, or it delivers nothing and leaves
the cache, which it does only if nothing is heard or no candidate is accepted. -/
lemma search_cases (documents : Announced → Fetched Json) (did : String) (cache : ResolutionCache) :
    (∃ heard announced accepted, call.heard = .ok heard ∧ announced ∈ heard ∧
        Accepts crates did documents announced accepted ∧
        search crates call documents did cache = (.ok (some accepted),
          remember cache ⟨modeCacheKey call.request.mode, did⟩ call.now accepted)) ∨
      ((∀ resolution, (search crates call documents did cache).1 ≠ .ok (some resolution)) ∧
        (search crates call documents did cache).2 = cache ∧
        ∀ heard, call.heard = .ok heard →
          ∀ announced ∈ heard, ∀ accepted, ¬ Accepts crates did documents announced accepted) := by
  unfold search
  cases hheard : call.heard with
  | error => simp
  | ok heard =>
    obtain ⟨verified, hverified, hmem⟩ := @verifyAll_spec crates did documents heard
    dsimp only
    rw [hverified]
    dsimp only
    cases hhead : (verified.mergeSort DirectoryResolution.le).head? with
    | none =>
      have hempty : verified = [] := by
        have hlength := congrArg length (head?_eq_none_iff.mp hhead)
        rw [length_mergeSort] at hlength
        exact length_eq_zero_iff.mp hlength
      have hrefused : ∀ heard', (.ok heard : Except String (List Announced)) = .ok heard' →
          ∀ announced ∈ heard', ∀ accepted, ¬ Accepts crates did documents announced accepted := by
        intro heard' hsame announced hannounced accepted haccepts
        obtain rfl := Except.ok.inj hsame
        have haccepted := (hmem accepted).mpr ⟨announced, hannounced, haccepts⟩
        rw [hempty] at haccepted
        nomatch haccepted
      dsimp only
      split_ifs
      · exact .inr ⟨by simp, rfl, hrefused⟩
      · exact .inr ⟨by simp, rfl, hrefused⟩
    | some accepted =>
      have haccepted : accepted ∈ verified :=
        mem_mergeSort.mp (mem_of_head? hhead)
      obtain ⟨announced, hannounced, haccepts⟩ := (hmem accepted).mp haccepted
      exact .inl ⟨heard, announced, accepted, rfl, hannounced, haccepts, rfl⟩

lemma mem_of_lookup {key : CacheKey} {entry : CachedResolution}
    (h : cache.lookup key = some entry) : (key, entry) ∈ cache := by
  obtain ⟨_, _, rfl, -⟩ := lookup_eq_some_iff.mp h
  simp

/-- What is remembered is the accepted candidate or was in the cache. -/
lemma mem_remember {key : CacheKey} {now : ℤ} {accepted : DirectoryResolution}
    {entry : CacheKey × CachedResolution} (h : entry ∈ remember cache key now accepted) :
    (entry.1 = key ∧ entry.2.resolution = accepted) ∨ entry ∈ cache := by
  unfold remember at h
  split at h
  · rcases mem_cons.mp h with rfl | hold
    · exact .inl ⟨rfl, rfl⟩
    · exact .inr (mem_filter.mp hold).1
  · exact .inr h

lemma anchored_of_accepts {step : Step} {did : String} {heard : List Announced}
    {announced : Announced} {accepted : DirectoryResolution} (hstep : step ∈ steps)
    (hguarded : step.call.Guarded crates bound) (hdid : step.call.searchedDid = some did)
    (hheard : step.call.heard = .ok heard) (hannounced : announced ∈ heard)
    (haccepts : Accepts crates did step.documents announced accepted) :
    Anchored crates bound steps did accepted := by
  obtain ⟨candidate, hcandidate, hverify⟩ := haccepts
  obtain ⟨examined, endpoint, hexamine, hdocument, hendpoint, rfl⟩ :=
    verifyCandidate_eq_ok_iff.mp hverify
  obtain ⟨encoded, key, hkey, hsigned⟩ := signedBy_of_checkDocument hdocument
  refine ⟨step, hstep, heard, hdid, hheard, announced, hannounced, candidate, examined,
    hcandidate, hverify, hexamine, ?_⟩
  by_cases hhost : didWebHost did = some candidate.hostname
  · exact .inl hhost
  · exact .inr (hguarded did heard hdid hheard announced hannounced candidate examined endpoint
      hcandidate hexamine hendpoint hhost encoded key hkey hsigned)

/-- The result of a step with a guarded call is anchored, and the cache stays anchored. -/
lemma resolve_anchored {step : Step} (hstep : step ∈ steps)
    (hguarded : step.call.Guarded crates bound)
    (hcache : ∀ entry ∈ cache,
      Anchored crates bound steps entry.1.trustedDirectoryDid entry.2.resolution) :
    (∀ resolution, (resolve crates step.call step.documents cache).1 = .ok (some resolution) →
        resolution.source = .mdns →
          ∃ did, step.call.searchedDid = some did ∧ Anchored crates bound steps did resolution) ∧
      ∀ entry ∈ (resolve crates step.call step.documents cache).2,
        Anchored crates bound steps entry.1.trustedDirectoryDid entry.2.resolution := by
  cases hdid : step.call.searchedDid with
  | none =>
    obtain ⟨hsame, hsource⟩ := @resolve_of_not_searching crates _ hdid step.documents cache
    rw [hsame]
    exact ⟨fun resolution hresolution hmdns ↦ absurd hmdns (hsource resolution hresolution), hcache⟩
  | some did =>
    have hlive : ∀ entry ∈ cache.retain step.call.now,
        Anchored crates bound steps entry.1.trustedDirectoryDid entry.2.resolution :=
      fun entry hentry ↦ hcache entry (mem_filter.mp hentry).1
    rw [resolve_of_searching hdid]
    cases hlookup : (cache.retain step.call.now).lookup
      ⟨modeCacheKey step.call.request.mode, did⟩ with
    | some =>
      refine ⟨fun resolution hresolution _ ↦ ⟨did, rfl, ?_⟩, hlive⟩
      obtain rfl := Option.some.inj (ok.inj hresolution)
      exact hlive _ (mem_of_lookup hlookup)
    | none =>
      rcases @search_cases crates step.call step.documents did (cache.retain step.call.now) with
        ⟨heard, announced, accepted, hheard, hannounced, haccepts, hsearch⟩ | ⟨hnone, hsame, -⟩
      · have hanchored : Anchored crates bound steps did accepted :=
          anchored_of_accepts hstep hguarded hdid hheard hannounced haccepts
        rw [hsearch]
        refine ⟨fun resolution hresolution _ ↦ ⟨did, rfl, ?_⟩, fun entry hentry ↦ ?_⟩
        · obtain rfl := Option.some.inj (ok.inj hresolution)
          exact hanchored
        · rcases mem_remember hentry with ⟨hkey, hnew⟩ | hold
          · rw [hkey, hnew]
            exact hanchored
          · exact hlive entry hold
      · rw [hsame]
        exact ⟨fun resolution hresolution ↦ absurd hresolution (hnone resolution), hlive⟩

/-- Every candidate that steps with guarded calls deliver is anchored. -/
lemma results_anchored (rest : List Step)
    (hrest : ∀ step ∈ rest, step ∈ steps ∧ step.call.Guarded crates bound)
    (hcache : ∀ entry ∈ cache,
      Anchored crates bound steps entry.1.trustedDirectoryDid entry.2.resolution) {call : Call}
    {resolution : DirectoryResolution}
    (hresult : (call, .ok (some resolution)) ∈ results crates cache rest)
    (hmdns : resolution.source = .mdns) :
    ∃ did, call.searchedDid = some did ∧ Anchored crates bound steps did resolution := by
  induction rest generalizing cache with
  | nil => nomatch hresult
  | cons step rest ih =>
    obtain ⟨hstep, hguarded⟩ := hrest step mem_cons_self
    obtain ⟨hfirst, hafter⟩ := resolve_anchored hstep hguarded hcache
    rcases mem_cons.mp hresult with hhead | htail
    · obtain ⟨rfl, hresolution⟩ := Prod.mk.inj hhead
      exact hfirst resolution hresolution.symm hmdns
    · exact ih (fun other hother ↦ hrest other (mem_cons_of_mem _ hother)) hafter htail

/-! ### A host that serves its own document -/

/-- A call in which no host serves a document. -/
def quiet : Step := ⟨call, fun _ ↦ .failed "connection refused"⟩

/-- A call in which one host alone serves a document, which gives the DID a key. -/
def forged (did encoded : String) (announced : Announced) : Step where
  call := call
  documents := fun other ↦
    if other = announced then .answered 200 (.ok (documentFor did encoded))
    else .failed "connection refused"

lemma verifyCandidate_of_failed {did message : String} {candidate : Candidate} {host : Host}
    {resolution : DirectoryResolution} :
    verifyCandidate crates did candidate host (.failed message) ≠ .ok resolution := by
  intro h
  obtain ⟨_, _, -, hdocument, -⟩ := verifyCandidate_eq_ok_iff.mp h
  simp [checkDocument, Fetched.success] at hdocument

lemma resolve_quiet : (resolve crates call (quiet call).documents []).2 = [] := by
  cases hdid : call.searchedDid with
  | none => exact (resolve_of_not_searching hdid _ []).1
  | some did =>
    have hempty : ResolutionCache.retain [] call.now = [] := rfl
    rw [resolve_of_searching hdid, hempty]
    change (search crates call (quiet call).documents did []).2 = []
    rcases @search_cases crates call (quiet call).documents did [] with
      ⟨heard, announced, accepted, -, -, ⟨candidate, -, hverify⟩, -⟩ | ⟨-, hsame, -⟩
    · exact absurd hverify verifyCandidate_of_failed
    · exact hsame

lemma results_quiet_append (calls : List Call) (rest : List Step) :
    results crates [] rest ⊆ results crates [] (calls.map quiet ++ rest) := by
  induction calls with
  | nil => exact Subset.refl _
  | cons call calls ih =>
    rw [map_cons, cons_append, results]
    change _ ⊆ _ :: results crates (resolve crates call (quiet call).documents []).2 _
    rw [resolve_quiet]
    exact subset_cons_of_subset _ ih

/-- Assumes: a call searches for a DID, and hears a candidate that is not the host of the DID and
whose descriptor passes the first checks and verifies under a key of its own and under none that is
bound to the DID. If it serves a document with its own key, then it is delivered, and it is not
anchored. -/
lemma forged_not_anchored {calls later : List Call} {call : Call} {did encoded : String}
    {heard : List Announced} {announced : Announced} {candidate : Candidate} {examined : Examined}
    {endpoint : String} {key : List UInt8} (hdid : call.searchedDid = some did)
    (hheard : call.heard = .ok heard) (hannounced : announced ∈ heard)
    (hcandidate : candidateFromService announced.service = some candidate)
    (hexamine : examine crates did candidate announced.host = .ok examined)
    (hendpoint : endpointOf crates examined = .ok endpoint)
    (hhost : didWebHost did ≠ some candidate.hostname) (hkey : Holdable crates encoded key)
    (hsigned : SignedBy crates examined key)
    (hunbound : ∀ other ∈ bound did, ¬ SignedBy crates examined other) :
    let steps := calls.map quiet ++ forged call did encoded announced :: later.map quiet
    let resolution := resolutionOf crates examined announced.host.acceptedAt endpoint
    (call, .ok (some resolution)) ∈ results crates [] steps ∧
      ¬ Anchored crates bound steps did resolution := by
  intro steps resolution
  set documents := (forged call did encoded announced).documents
  obtain ⟨-, htrusted, hkeyId⟩ := examine_trusted hexamine
  have hdocuments : documents announced = .answered 200 (.ok (documentFor did encoded)) :=
    if_pos rfl
  have hverify : verifyCandidate crates did candidate announced.host (documents announced) =
      .ok resolution := by
    rw [hdocuments]
    exact verifyCandidate_eq_ok_iff.mpr ⟨examined, endpoint, hexamine,
      checkDocument_of_signedBy htrusted hkeyId hkey hsigned, hendpoint, rfl⟩
  have honly : ∀ other resolution, Accepts crates did documents other resolution →
      other = announced := by
    rintro other _ ⟨_, -, hother⟩
    by_contra hne
    have hfailed : documents other = .failed "connection refused" := if_neg hne
    rw [hfailed] at hother
    exact verifyCandidate_of_failed hother
  refine ⟨results_quiet_append _ _ (mem_cons.mpr (.inl ?_)), ?_⟩
  · have hempty : ResolutionCache.retain [] call.now = [] := rfl
    have hcall : (forged call did encoded announced).call = call := rfl
    rw [hcall, resolve_of_searching hdid, hempty]
    change (_, _) = (call, (search crates call _ did []).1)
    rcases @search_cases crates call documents did [] with
      ⟨heard', other, accepted, hheard', -, haccepts, hsearch⟩ | ⟨-, -, hnone⟩
    · obtain rfl := honly other accepted haccepts
      obtain ⟨candidate', hcandidate', hverify'⟩ := haccepts
      obtain rfl := Option.some.inj (hcandidate.symm.trans hcandidate')
      rw [hsearch, ok.inj (hverify.symm.trans hverify')]
    · exact absurd ⟨candidate, hcandidate, hverify⟩ (hnone heard hheard announced hannounced _)
  · rintro ⟨step, hstep, -, -, -, other, -, candidate', _, hcandidate', hverify', hexamine',
      hanchor⟩
    rw [mem_append, mem_cons] at hstep
    have hquiet : ∀ others : List Call, step ∉ others.map quiet := by
      intro others hmem
      obtain ⟨_, -, rfl⟩ := mem_map.mp hmem
      exact verifyCandidate_of_failed hverify'
    rcases hstep with hearlier | rfl | hlater
    · exact hquiet _ hearlier
    · obtain rfl := honly other _ ⟨candidate', hcandidate', hverify'⟩
      obtain rfl := Option.some.inj (hcandidate.symm.trans hcandidate')
      obtain rfl := ok.inj (hexamine.symm.trans hexamine')
      rcases hanchor with hnamed | ⟨boundKey, hbound, hboundSigned⟩
      · exact hhost hnamed
      · exact hunbound boundKey hbound hboundSigned
    · exact hquiet _ hlater

/-- For the calls of one process, whatever DID documents the hosts serve, every candidate that is
delivered is anchored for the DID of its call, exactly when each call is guarded: no candidate that
it hears has an otherwise acceptable descriptor that verifies, but under no key that is bound to the
DID. -/
theorem resolve_anchored_iff (crates : DiscoveryCrates) (bound : String → Set (List UInt8))
    (calls : List Call) :
    (∀ steps : List Step, steps.map Step.call = calls → AllAnchored crates bound steps) ↔
      ∀ call ∈ calls, call.Guarded crates bound := by
  constructor
  · intro hanchored call hcall did heard hdid hheard
    by_contra hbad
    unfold OnlyBound at hbad
    push Not at hbad
    obtain ⟨announced, hannounced, candidate, examined, endpoint, hcandidate, hexamine, hendpoint,
      hhost, encoded, key, hkey, hsigned, hunbound⟩ := hbad
    obtain ⟨before, after, rfl⟩ := append_of_mem hcall
    obtain ⟨hresult, hnot⟩ := @forged_not_anchored crates bound before after call did encoded heard
      announced candidate examined endpoint key hdid hheard hannounced hcandidate hexamine hendpoint
      hhost hkey hsigned hunbound
    obtain ⟨_, hdid', hanchor⟩ := hanchored _ (by simp [quiet, forged, Function.comp_def]) call _
      hresult rfl
    obtain rfl := Option.some.inj (hdid.symm.trans hdid')
    exact hnot hanchor
  · rintro hguarded steps rfl call _ hresult hmdns
    exact results_anchored steps
      (fun step hstep ↦ ⟨hstep, hguarded step.call (mem_map_of_mem hstep)⟩) (by simp) hresult
      hmdns

end Anchor

/-! ### A sample attack -/

def sampleDid : String := "did:web:directory.example.com"

/-- A key that a host on the local network has made for itself. -/
def malloryKey : List UInt8 :=
  [253, 23, 36, 56, 90, 160, 199, 91, 100, 251, 120, 205, 96, 47, 161, 217, 145, 253, 235, 247,
    107, 19, 197, 142, 215, 2, 234, 200, 53, 233, 246, 24]

def malloryEncodedKey : String := "_RckOFqgx1tk-3jNYC-h2ZH96_drE8WO1wLqyDXp9hg"

def malloryEndpoint : String := "https://mallory.local:8443/api"

def mallorySignature : List UInt8 :=
  [43, 59, 145, 251, 124, 120, 213, 31, 102, 168, 91, 130, 121, 17, 233, 243, 39, 18, 105, 56,
    203, 11, 91, 212, 85, 46, 127, 161, 73, 167, 75, 59, 93, 157, 74, 129, 126, 56, 94, 155, 40,
    80, 162, 215, 220, 248, 150, 179, 32, 171, 160, 55, 238, 11, 86, 115, 68, 254, 169, 67, 29,
    79, 25, 0]

def mallorySignatureHex : String := hexEncode mallorySignature

def malloryDescriptor : Descriptor where
  schema := "iicp.local-directory-descriptor.v0"
  profile := "urn:iicp:profile:local-directory-discovery:v1"
  profileVersion := "0"
  directoryDid := sampleDid
  role := "standalone"
  apiEndpoints := [malloryEndpoint]
  issuedAt := 1000
  expiresAt := 1200
  signature := ⟨"Ed25519", "did:web:directory.example.com#key-1", mallorySignatureHex⟩

def malloryFields : List (String × Json) :=
  [("api_endpoints", .array [.string malloryEndpoint]), ("directory_did", .string sampleDid),
    ("expires_at", .ofU64 1200), ("issued_at", .ofU64 1000),
    ("profile", .string malloryDescriptor.profile), ("profile_version", .string "0"),
    ("role", .string "standalone"), ("schema", .string malloryDescriptor.schema)]

def malloryCanonical : List UInt8 :=
  textBytes (Json.jsonText (fun _ ↦ []) (.object malloryFields))

def malloryValue : Json :=
  .object (malloryFields ++ [("signature", .object
    [("algorithm", .string "Ed25519"), ("key_id", .string "did:web:directory.example.com#key-1"),
      ("value", .string mallorySignatureHex)])])

def malloryBody : List UInt8 := textBytes (malloryValue.jsonText fun _ ↦ [])

/-- The other crates, on what the host serves. -/
def sampleCrates : DiscoveryCrates where
  readJson := fun bytes ↦ if bytes = malloryBody then .ok malloryValue else .error "expected value"
  descriptorError := fun _ ↦ "missing field"
  base64Decode := fun text ↦ if text = malloryEncodedKey then some malloryKey else none
  hexDecode := fun text ↦ if text = mallorySignatureHex then some mallorySignature else none
  canonical := fun _ ↦ .ok malloryCanonical
  usableKey := fun key ↦ key = malloryKey
  verifies := fun key message signature ↦ key = malloryKey ∧
    message = signatureDomain ++ malloryCanonical ∧ signature = mallorySignature
  parseUrl := fun text ↦ if text = malloryEndpoint then
    some ⟨"https", "", none, some "mallory.local", some 8443, "/api"⟩ else none
  sha256Hex := fun _ ↦ "9b58fb74e8c03e52289a6fc15dc3d4a8a94143d20078985fe791c8565b590f1f"
  showAddress := fun _ ↦ "192.168.1.66"

def malloryAnnounced : Announced where
  service := ⟨"mallory.local.", 8443, [.v4 ⟨192, 168, 1, 66⟩],
    [("pv", "0"), ("path", "/.well-known/iicp-directory.json"), ("transport", "https")]⟩
  host := ⟨.ok (), .answered 200 (.ok malloryBody), 1100, 1100⟩

def malloryCandidate : Candidate :=
  ⟨"mallory.local", 8443, [.v4 ⟨192, 168, 1, 66⟩],
    [("pv", "0"), ("path", "/.well-known/iicp-directory.json"), ("transport", "https")]⟩

def malloryExamined : Examined :=
  ⟨malloryCandidate, malloryBody, malloryValue, malloryDescriptor⟩

/-- A call in private mode for the trusted DID, which hears the host alone. -/
def sampleCall : Call where
  request := ⟨true, .privateMode, none, some sampleDid, false, 1000⟩
  now := 1100
  browse := fun _ ↦ .ok [malloryAnnounced]

def directoryKey : List UInt8 := replicate 32 7

lemma malloryExamined_of_examine :
    examine sampleCrates sampleDid malloryCandidate malloryAnnounced.host = .ok malloryExamined := by
  have hsize : malloryBody.length ≤ 32 * 1024 := by decide +kernel
  have hvalue : sampleCrates.readJson malloryBody = .ok malloryValue := by
    simp only [sampleCrates, ↓reduceIte]
  have hdescriptor : Descriptor.fromValue malloryValue = some malloryDescriptor := by decide +kernel
  have hcheck : checkDescriptor malloryDescriptor malloryCandidate sampleDid 1100 = .ok () := by
    decide +kernel
  simp only [examine, bind_eq_ok_iff, require_eq_ok_iff, ofExcept_eq_ok_iff, okOr_eq_ok_iff]
  exact ⟨_, rfl, _, rfl, (), decide_eq_true hsize, _, hvalue, _, hdescriptor, _, hcheck, rfl⟩

/-- A host that has neither the key of the trusted directory nor its name is delivered as the
trusted directory. -/
theorem mallory_not_anchored :
    sampleCall.request.trustedDirectoryDid = some sampleDid ∧
      (sampleCall, .ok (some (resolutionOf sampleCrates malloryExamined 1100 malloryEndpoint))) ∈
        results sampleCrates [] [forged sampleCall sampleDid malloryEncodedKey malloryAnnounced] ∧
      (resolutionOf sampleCrates malloryExamined 1100 malloryEndpoint).source = .mdns ∧
      ¬ AllAnchored sampleCrates (fun _ ↦ {directoryKey})
        [forged sampleCall sampleDid malloryEncodedKey malloryAnnounced] := by
  have hendpoint : endpointOf sampleCrates malloryExamined = .ok malloryEndpoint := by decide +kernel
  have hhex : sampleCrates.hexDecode mallorySignatureHex = some mallorySignature := by
    simp [sampleCrates]
  have hsignature : signatureBytes sampleCrates malloryDescriptor = .ok mallorySignature := by
    simp only [signatureBytes, malloryDescriptor, hhex]
    rfl
  have hkey : Holdable sampleCrates malloryEncodedKey malloryKey :=
    ⟨by simp [sampleCrates], rfl, by simp [sampleCrates]⟩
  have hsigned : SignedBy sampleCrates malloryExamined malloryKey :=
    ⟨signatureDomain ++ malloryCanonical, mallorySignature, rfl, hsignature,
      by simp [sampleCrates]⟩
  have hunbound : ∀ key ∈ ({directoryKey} : Set (List UInt8)),
      ¬ SignedBy sampleCrates malloryExamined key := by
    rintro _ rfl ⟨_, _, -, -, hverifies⟩
    have hother : directoryKey ≠ malloryKey := by decide
    simp [sampleCrates, hother] at hverifies
  obtain ⟨hresult, hnot⟩ := @forged_not_anchored sampleCrates (fun _ ↦ {directoryKey}) [] []
    sampleCall sampleDid malloryEncodedKey [malloryAnnounced] malloryAnnounced malloryCandidate
    malloryExamined malloryEndpoint malloryKey (by decide +kernel) rfl mem_cons_self
    (by decide +kernel) malloryExamined_of_examine hendpoint (by decide +kernel) hkey hsigned hunbound
  refine ⟨rfl, hresult, rfl, fun hall ↦ ?_⟩
  obtain ⟨_, hdid, hanchored⟩ := hall _ _ hresult rfl
  obtain rfl := Option.some.inj ((by decide +kernel :
    sampleCall.searchedDid = some sampleDid).symm.trans hdid)
  exact hnot hanchored

end Iicp.Directory
