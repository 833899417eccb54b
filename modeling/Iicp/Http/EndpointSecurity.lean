import Iicp.Client.IntentPolicy
import Iicp.Rust.IpAddr

/-!
# Which endpoints a client accepts

Before a task is posted, the endpoint of its provider is parsed, its host name is screened, its
addresses are looked up, and every address is checked. `resolveEndpointWithPolicy` does this for one
address text. The host name that it answers with is normalised: trailing dots are dropped and ASCII
letters are small. The parsed address goes on unchanged.

The crate that parses and joins address texts is `UrlCrate`; what it parses is described by the
values that its accessors return.
-/

namespace Iicp.Http

open Rust Outcome Client

/-! ### Host names and addresses -/

def blockedSuffixes : List String :=
  [".local", ".internal", ".lan", ".test", ".invalid", ".localhost"]

def normalizedHost (host : String) : String := toAsciiLowercase (trimEndMatches '.' host)

def hostnameAllowed (host : String) (allowPrivate : Bool) : Bool :=
  if host = "" then false
  else if allowPrivate then true
  else
    let host := normalizedHost host
    if ["localhost", "0.0.0.0", "::1", "::"].contains host then false
    else if blockedSuffixes.any (endsWith host) then false
    else (parseIpAddr host).isSome || containsText host "." || containsText host ":"

variable (ip : Ipv4Addr)

def ipv4Allowed : Bool :=
  !(ip.a == 0 || ip.a == 10 || ip.a == 127 || (ip.a == 100 && 64 ≤ ip.b && ip.b ≤ 127) ||
    (ip.a == 169 && ip.b == 254) ||
    (ip.a == 172 && 16 ≤ ip.b && ip.b ≤ 31) ||
    (ip.a == 192 && ip.b == 0 && (ip.c == 0 || ip.c == 2)) ||
    (ip.a == 192 && ip.b == 168) ||
    (ip.a == 198 && (ip.b == 18 || ip.b == 19)) ||
    (ip.a == 198 && ip.b == 51 && ip.c == 100) ||
    (ip.a == 203 && ip.b == 0 && ip.c == 113) ||
    224 ≤ ip.a)

def ipv6Allowed (ip : Ipv6Addr) : Bool :=
  !(ip.isUnspecified || ip.isLoopback || ip.isMulticast || (ip.s0 &&& 0xfe00) == 0xfc00 ||
    (ip.s0 &&& 0xffc0) == 0xfe80 ||
    ip.s0 == 0x0100 ||
    (ip.s0 == 0x2001 && ip.s1 == 0x0db8))

def addressAllowed (address : IpAddr) (allowPrivate : Bool) : Bool :=
  if allowPrivate then true
  else
    match address with
    | .v4 ip => ipv4Allowed ip
    | .v6 ip =>
      match ip.toIpv4Mapped with
      | some mapped => ipv4Allowed mapped
      | none => ipv6Allowed ip

/-! ### IPv4 addresses inside IPv6 addresses -/

/-- A format in which an IPv6 address holds an IPv4 address. The lower 80 bits of a 6to4 address are
free. -/
inductive Disguise where
  | mapped
  | compatible
  | nat64
  | sixToFour (s3 s4 s5 s6 s7 : UInt16)
  deriving DecidableEq, Repr

def segment (high low : UInt8) : UInt16 := high.toUInt16 <<< 8 ||| low.toUInt16

def Disguise.embed : Disguise → Ipv6Addr
  | mapped => ⟨0, 0, 0, 0, 0, 0xffff, segment ip.a ip.b, segment ip.c ip.d⟩
  | compatible => ⟨0, 0, 0, 0, 0, 0, segment ip.a ip.b, segment ip.c ip.d⟩
  | nat64 => ⟨0x64, 0xff9b, 0, 0, 0, 0, segment ip.a ip.b, segment ip.c ip.d⟩
  | sixToFour s3 s4 s5 s6 s7 =>
    ⟨0x2002, segment ip.a ip.b, segment ip.c ip.d, s3, s4, s5, s6, s7⟩

lemma toNat_segment (high low : UInt8) :
    (segment high low).toNat = high.toNat * 256 + low.toNat := by
  have hhigh := high.toNat_lt
  have hshift : high.toNat <<< 8 % 2 ^ 16 = high.toNat <<< 8 := by
    rw [Nat.shiftLeft_eq]
    omega
  rw [segment, UInt16.toNat_or, UInt16.toNat_shiftLeft, UInt8.toNat_toUInt16, UInt8.toNat_toUInt16]
  change high.toNat <<< 8 % 2 ^ 16 ||| low.toNat = _
  rw [hshift, ← Nat.shiftLeft_add_eq_or_of_lt low.toNat_lt, Nat.shiftLeft_eq]

lemma segment_inj {high low high' low' : UInt8} :
    segment high low = segment high' low' ↔ high = high' ∧ low = low' := by
  have hlow := low.toNat_lt
  have hlow' := low'.toNat_lt
  rw [← UInt16.toNat_inj, toNat_segment, toNat_segment, ← UInt8.toNat_inj, ← UInt8.toNat_inj]
  omega

lemma toIpv4Mapped_mapped : (Disguise.mapped.embed ip).toIpv4Mapped = some ip := by
  have hhigh : ∀ high low : UInt8, (segment high low >>> 8).toUInt8 = high := by
    intro high low
    have hbound := high.toNat_lt
    have hlow := low.toNat_lt
    rw [← UInt8.toNat_inj, UInt16.toNat_toUInt8, UInt16.toNat_shiftRight, toNat_segment]
    change (high.toNat * 256 + low.toNat) >>> 8 % 2 ^ 8 = _
    rw [Nat.shiftRight_eq_div_pow]
    omega
  have hlow : ∀ high low : UInt8, (segment high low).toUInt8 = low := by
    intro high low
    have hbound := low.toNat_lt
    rw [← UInt8.toNat_inj, UInt16.toNat_toUInt8, toNat_segment]
    omega
  simp [Disguise.embed, Ipv6Addr.toIpv4Mapped, hhigh, hlow]

/-- Assumes: a refused IPv4 address. In an IPv6 address it stays refused exactly if it is mapped, or
if it is one of two compatible addresses that are refused for themselves. -/
theorem disguise_refused_iff (ip : Ipv4Addr) (hrefused : addressAllowed (.v4 ip) false = false)
    (disguise : Disguise) :
    addressAllowed (.v6 (disguise.embed ip)) false = false ↔
      disguise = .mapped ∨
        disguise = .compatible ∧ (ip = ⟨0, 0, 0, 0⟩ ∨ ip = ⟨0, 0, 0, 1⟩) := by
  cases disguise with
  | mapped =>
    rw [addressAllowed, toIpv4Mapped_mapped]
    exact iff_of_true hrefused (.inl rfl)
  | compatible =>
    obtain ⟨a, b, c, d⟩ := ip
    have hzero : (0 : UInt16) = segment 0 0 := by decide
    have hone : (1 : UInt16) = segment 0 1 := by decide
    have hrefuse : addressAllowed (.v6 (Disguise.compatible.embed ⟨a, b, c, d⟩)) false = false ↔
        segment a b = 0 ∧ segment c d = 0 ∨ segment a b = 0 ∧ segment c d = 1 := by
      simp [addressAllowed, Disguise.embed, Ipv6Addr.toIpv4Mapped, ipv6Allowed,
        Ipv6Addr.isUnspecified, Ipv6Addr.isLoopback, Ipv6Addr.isMulticast]
      tauto
    rw [hrefuse, hone, hzero, segment_inj, segment_inj, segment_inj]
    simp [and_assoc]
  | nat64 | sixToFour =>
    refine iff_of_false ?_ (by simp)
    simp [addressAllowed, Disguise.embed, Ipv6Addr.toIpv4Mapped, ipv6Allowed,
      Ipv6Addr.isUnspecified, Ipv6Addr.isLoopback, Ipv6Addr.isMulticast]
    decide

theorem mapped_private_refused :
    addressAllowed (.v6 (Disguise.mapped.embed ⟨10, 0, 0, 1⟩)) false = false :=
  (disguise_refused_iff ⟨10, 0, 0, 1⟩ (by decide) .mapped).mpr (.inl rfl)

/-- A private address is allowed in three disguises. -/
theorem disguised_private_allowed :
    addressAllowed (.v4 ⟨10, 0, 0, 1⟩) false = false ∧
      addressAllowed (.v6 (Disguise.compatible.embed ⟨10, 0, 0, 1⟩)) false ∧
      addressAllowed (.v6 (Disguise.nat64.embed ⟨10, 0, 0, 1⟩)) false ∧
      addressAllowed (.v6 ((Disguise.sixToFour 0 0 0 0 1).embed ⟨10, 0, 0, 1⟩)) false := by
  decide

/-! ### Resolving an endpoint -/

/-- A parsed address text: what its accessors return. The port is the one that is given or the one
that is known for the scheme; the rest is path, query and fragment. -/
structure Url where
  scheme : String
  username : String
  (password host : Option String)
  port : Option UInt16
  rest : String
  deriving DecidableEq, Repr

def Url.origin (url : Url) : String × Option String × Option UInt16 :=
  (url.scheme, url.host, url.port)

structure UrlCrate where
  parse : String → Option Url
  join : Url → String → Option Url
  asString : Url → String

structure ResolvedEndpoint where
  url : Url
  host : String
  addresses : List SocketAddr

variable (crate : UrlCrate)

/-- The checks of an endpoint before its addresses are looked up. -/
def screen (url : String) (allowPrivate : Bool) :
    Outcome IicpError (Url × String × UInt16) := do
  let parsed ← Outcome.okOr (.endpointRefused "provider endpoint is not a valid URL")
    (crate.parse url)
  require (parsed.scheme == "http" || parsed.scheme == "https")
    (.endpointRefused "provider endpoint must use HTTP or HTTPS")
  require (parsed.username == "" && parsed.password.isNone)
    (.endpointRefused "provider endpoint must not contain user info")
  let name ← Outcome.okOr (.endpointRefused "provider endpoint has no host") parsed.host
  let host := normalizedHost name
  require (hostnameAllowed host allowPrivate)
    (.endpointRefused "provider hostname is prohibited by network policy")
  let port ← Outcome.okOr (.endpointRefused "provider endpoint has no usable port") parsed.port
  .ok (parsed, host, port)

variable (lookup : String → UInt16 → Option (List SocketAddr))

/-- The addresses of a host: itself, if it is an address, or what the lookup answers. -/
def hostAddresses (host : String) (port : UInt16) : Outcome IicpError (List SocketAddr) :=
  match parseIpAddr host with
  | some ip => .ok [⟨ip, port⟩]
  | none => Outcome.okOr (.endpointRefused "provider hostname resolution failed") (lookup host port)

/-- Resolves an endpoint: the screened address, its normalised host, and the addresses of the host,
each of which has passed the check. -/
def resolveEndpointWithPolicy (url : String) (allowPrivate : Bool) :
    Outcome IicpError ResolvedEndpoint := do
  let (parsed, host, port) ← screen crate url allowPrivate
  let addresses ← hostAddresses lookup host port
  let unique := SocketAddr.unique addresses
  require (!unique.isEmpty) (.endpointRefused "provider hostname returned no addresses")
  require (unique.all fun address ↦ addressAllowed address.ip allowPrivate)
    (.endpointRefused "provider hostname resolved to a prohibited address")
  .ok ⟨parsed, host, unique⟩

/-! ### What a resolved endpoint is -/

/-- A screened endpoint has a network scheme, no user information, and the normalised form of its
own host. -/
lemma screen_eq_ok_iff (url : String) (allowPrivate : Bool) (parsed : Url)
    (host : String) (port : UInt16) :
    screen crate url allowPrivate = .ok (parsed, host, port) ↔
      crate.parse url = some parsed ∧ (parsed.scheme = "http" ∨ parsed.scheme = "https") ∧
      (parsed.username = "" ∧ parsed.password = none) ∧
      (∃ name, parsed.host = some name ∧ normalizedHost name = host) ∧
      hostnameAllowed host allowPrivate ∧ parsed.port = some port := by
  simp only [screen, bind_eq_ok_iff, okOr_eq_ok_iff, require_eq_ok_iff,
    exists_const, Bool.or_eq_true, Bool.and_eq_true, beq_iff_eq, Option.isNone_iff_eq_none,
    Outcome.ok.injEq,
    Prod.mk.injEq]
  constructor
  · rintro ⟨_, hparse, hscheme, huser, name, hhost, hallowed, _, hport, rfl, rfl, rfl⟩
    exact ⟨hparse, hscheme, huser, ⟨name, hhost, rfl⟩, hallowed, hport⟩
  · rintro ⟨hparse, hscheme, huser, ⟨name, hhost, rfl⟩, hallowed, hport⟩
    exact ⟨parsed, hparse, hscheme, huser, name, hhost, hallowed, port, hport, rfl, rfl, rfl⟩

/-- A resolved endpoint is screened, and its addresses are the addresses of its host, of which there
is one at least and each is allowed. -/
lemma resolveEndpoint_eq_ok_iff (url : String) (allowPrivate : Bool) (resolved : ResolvedEndpoint) :
    resolveEndpointWithPolicy crate lookup url allowPrivate = .ok resolved ↔
      ∃ port addresses, screen crate url allowPrivate = .ok (resolved.url, resolved.host, port) ∧
        hostAddresses lookup resolved.host port = .ok addresses ∧
        resolved.addresses = SocketAddr.unique addresses ∧ resolved.addresses ≠ [] ∧
        ∀ address ∈ resolved.addresses, addressAllowed address.ip allowPrivate := by
  simp only [resolveEndpointWithPolicy, bind_eq_ok_iff, require_eq_ok_iff,
    exists_const, Prod.exists, List.isEmpty_eq_false_iff, List.all_eq_true, Bool.not_eq_eq_eq_not,
    Bool.not_true, Outcome.ok.injEq]
  constructor
  · rintro ⟨_, _, port, hscreen, addresses, haddresses, hsome, hallowed, rfl⟩
    exact ⟨port, addresses, hscreen, haddresses, rfl, hsome, hallowed⟩
  · rintro ⟨port, addresses, hscreen, haddresses, hunique, hsome, hallowed⟩
    rw [hunique] at hsome hallowed
    refine ⟨_, _, port, hscreen, addresses, haddresses, hsome, hallowed, ?_⟩
    rw [← hunique]

end Iicp.Http
