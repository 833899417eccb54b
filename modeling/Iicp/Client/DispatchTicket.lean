import Iicp.Confidentiality.Envelope
import Iicp.Rust.Str

/-!
# Tickets for a route

A directory signs a ticket that names one node for one intent. `verifyDispatchRouteTicket` checks
the signature under the key of the directory and then every claim of the ticket. The crates for
encodings and signatures are `TicketCrates`.
-/

namespace Iicp.Client

open Rust
open Confidentiality (asBytes)

structure DispatchRouteTicketClaims where
  v : UInt8
  (typ iss aud jti nodeId intent : String)
  iat : ℤ
  exp : ℤ
  policyManifestSha256 : Option String
  deriving DecidableEq, Repr

structure TicketCrates where
  (hexDecode b64urlDecode : String → Option (List UInt8))
  verifies : (key message signature : List UInt8) → Bool
  readClaims : List UInt8 → Option DispatchRouteTicketClaims

def ticketDomain : String := "iicp:dispatch-route-ticket:v1\n"

def ticketAudience : String := "iicp.directory.dispatch"

/-- So many small hexadecimal digits. -/
def isLowerHex (size : ℕ) (text : String) : Bool :=
  byteLength text.toList == size && text.toList.all fun char ↦ isAsciiHexdigit char && !char.isUpper

/-- The claims of a ticket are the expected ones, and the ticket has not expired. -/
def DispatchRouteTicketClaims.accepted (claims : DispatchRouteTicketClaims)
    (issuer nodeId intent : String) (nowS : ℤ) : Bool :=
  claims.v == 1 && claims.typ == "dispatch-route-ticket" && claims.iss == issuer &&
    claims.aud == ticketAudience && claims.nodeId == nodeId && claims.intent == intent &&
    nowS < claims.exp && claims.policyManifestSha256.all (isLowerHex 64) && isLowerHex 24 claims.jti

def verifyDispatchRouteTicket (crates : TicketCrates)
    (token publicKeyHex issuer nodeId intent : String) (nowS : ℤ) :
    Option DispatchRouteTicketClaims := do
  let (payload, sigHex) ← splitOnce '.' token
  guard (byteLength sigHex.toList = 128)
  let key ← (crates.hexDecode publicKeyHex).filter (·.length = 32)
  let signature ← (crates.hexDecode sigHex).filter (·.length = 64)
  guard (crates.verifies key (asBytes ticketDomain ++ asBytes payload) signature)
  let bytes ← crates.b64urlDecode payload
  let claims ← crates.readClaims bytes
  guard (claims.accepted issuer nodeId intent nowS)
  some claims

/-- The route carries the policy manifest that the ticket names. -/
def policyManifestBindingMatches (claims : DispatchRouteTicketClaims) (route : Json) : Bool :=
  match claims.policyManifestSha256 with
  | none => true
  | some expected =>
    (["node_policy_manifest", "verification", "canonical_sha256"].foldlM Json.get route).bind
      Json.asStr == some expected

variable {claims : DispatchRouteTicketClaims}

/-- A ticket that is accepted names the node and the intent, and has not expired. -/
lemma verify_claims {crates : TicketCrates} {token publicKeyHex issuer nodeId intent : String}
    {nowS : ℤ} (h : verifyDispatchRouteTicket crates token publicKeyHex issuer nodeId intent nowS =
      some claims) : claims.nodeId = nodeId ∧ claims.intent = intent ∧ nowS < claims.exp := by
  simp only [verifyDispatchRouteTicket, Option.bind_eq_bind, Option.bind_eq_some_iff,
    Option.guard_eq_some', exists_const, Option.some.injEq] at h
  obtain ⟨_, -, -, _, -, _, -, -, _, -, _, -, haccepted, rfl⟩ := h
  simp only [DispatchRouteTicketClaims.accepted, Bool.and_eq_true, beq_iff_eq,
    decide_eq_true_eq] at haccepted
  obtain ⟨⟨⟨⟨⟨⟨-, -⟩, hnode⟩, hintent⟩, hexp⟩, -⟩, -⟩ := haccepted
  exact ⟨hnode, hintent, hexp⟩

/-- A ticket is accepted when its signature is that of the key and its claims are the expected
ones. -/
lemma verify_of_accepted {crates : TicketCrates}
    {token publicKeyHex issuer nodeId intent payload sigHex : String} {nowS : ℤ}
    {key signature bytes : List UInt8} (hsplit : splitOnce '.' token = some (payload, sigHex))
    (hsize : byteLength sigHex.toList = 128) (hkey : crates.hexDecode publicKeyHex = some key)
    (hkeySize : key.length = 32) (hsignature : crates.hexDecode sigHex = some signature)
    (hsignatureSize : signature.length = 64)
    (hverifies : crates.verifies key (asBytes ticketDomain ++ asBytes payload) signature)
    (hbytes : crates.b64urlDecode payload = some bytes)
    (hclaims : crates.readClaims bytes = some claims)
    (haccepted : claims.accepted issuer nodeId intent nowS) :
    verifyDispatchRouteTicket crates token publicKeyHex issuer nodeId intent nowS = some claims := by
  have hkeyPart : (crates.hexDecode publicKeyHex).filter (·.length = 32) = some key := by
    simp [hkey, Option.filter, hkeySize]
  have hsignaturePart : (crates.hexDecode sigHex).filter (·.length = 64) = some signature := by
    simp [hsignature, Option.filter, hsignatureSize]
  simp [verifyDispatchRouteTicket, hsplit, hsize, hkeyPart, hsignaturePart, hverifies, hbytes,
    hclaims, haccepted]

end Iicp.Client
