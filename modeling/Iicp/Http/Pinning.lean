import Iicp.Http.EndpointSecurity
import Iicp.Rust.Interaction

/-!
# Posting a task to a pinned address

`postJsonCtWithPolicy` posts a task whose body is not too long, and follows at most three redirects.
For each request it resolves the endpoint, takes the first of the checked addresses, and tells the
connector to use this address for the normalised host name. The request itself names the host as it
stands in the parsed address. The connector uses the given address only for a host of exactly the
given name, and looks every other host up again; nobody checks what it then finds.

All requests have the origin of the first (`redirects_guarantees`), so whether the two names agree
is settled by the first address text (`every_hop_pinned_iff`).
-/

namespace Iicp.Http

open Rust Outcome Interaction Client

/-! ### One request -/

/-- What a provider answers: a status, and the text of its location header if it has one. -/
structure Answer where
  status : ℕ
  location : Option String
  deriving DecidableEq, Repr

/-- A request that has been sent: the address text, the addresses that were checked for it, the
address of the connection, and the tokens. -/
structure Sent where
  url : Url
  checked : List SocketAddr
  address : SocketAddr
  (bearer consumerToken : Option String)
  deriving DecidableEq

/-- The surroundings of a client: what a lookup before a request answers, what a lookup of the
connector answers, and what the provider answers. Each may depend on the requests before. -/
structure Network where
  lookup : List Sent → String → UInt16 → Option (List SocketAddr)
  connectorLookup : List Sent → String → UInt16 → Option SocketAddr
  answer : List Sent → Except IicpError Answer

def maxHttpTaskBodyBytes : ℕ := 1048576

/-- The encoded body of a task, unless it is too long. -/
def encodeRequest (body : List UInt8) : Outcome IicpError (List UInt8) :=
  if maxHttpTaskBodyBytes < body.length then
    .err (.protocol "request_too_large"
      ("encoded task request exceeds " ++ toString maxHttpTaskBodyBytes ++ " bytes") 413)
  else .ok body

structure Tokens where
  (bearer consumerToken : Option String)

/-- Where the connector connects to: the given address for a host of exactly the given name, and
whatever a lookup answers for another host. -/
def connectorAddress (lookup : String → UInt16 → Option SocketAddr) (url : Url) (name : String)
    (address : SocketAddr) : Option SocketAddr :=
  match url.host with
  | some host => if host = name then some address else lookup host address.port
  | none => none

section Post

variable (crate : UrlCrate) (network : Network) (tokens : Tokens) (allowPrivate : Bool)

/-- One request, with the address that it was sent to. -/
def hop (current : String) : Interaction Unit Sent IicpError (Url × Answer) := do
  let lookup ← Interaction.look network.lookup
  let resolved ← Interaction.ofOutcome (resolveEndpointWithPolicy crate lookup current allowPrivate)
  let selected ← Interaction.ofOutcome (okOr
    (.endpointRefused "provider hostname returned no addresses") resolved.addresses.head?)
  let connectorLookup ← Interaction.look network.connectorLookup
  let address ← Interaction.ofOutcome (okOr (.http "dns error")
    (connectorAddress connectorLookup resolved.url resolved.host selected))
  let answer ← Interaction.ask network.answer fun _ ↦
    ⟨resolved.url, resolved.addresses, address, tokens.bearer, tokens.consumerToken⟩
  let answer ← Interaction.ofOutcome (ofExcept id answer)
  pure (resolved.url, answer)

/-- Follows redirects of the same origin, with so many left. -/
def redirects : (left : ℕ) → (current : String) → Interaction Unit Sent IicpError Answer
  | left, current => do
    let (url, answer) ← hop crate network tokens allowPrivate current
    if answer.status = 307 ∨ answer.status = 308 then
      match left with
      | 0 => fail (.endpointRefused "provider redirect limit exceeded")
      | left + 1 =>
        let next ← Interaction.ofOutcome do
          let location ← okOr (.endpointRefused "provider redirect omitted Location")
            answer.location
          let next ← okOr (.endpointRefused "provider redirect Location is invalid")
            (crate.join url location)
          require (next.origin == url.origin)
            (.endpointRefused "cross-origin provider redirect is not allowed")
          .ok next
        redirects left (crate.asString next)
    else if 300 ≤ answer.status ∧ answer.status < 400 then
      fail (.endpointRefused "provider redirect method is not allowed")
    else pure answer

/-- Posts a task with an encoded body to an endpoint. -/
def postJsonCtWithPolicy (body : List UInt8) (url : String) :
    Interaction Unit Sent IicpError Answer := do
  let _ ← Interaction.ofOutcome (encodeRequest body)
  redirects crate network tokens allowPrivate 3 url

end Post

/-! ### What a request is sent to -/

/-- The connection goes to one of the addresses that were checked for the request, and each of these
is allowed. -/
def Sent.Pinned (sent : Sent) : Prop :=
  sent.address ∈ sent.checked ∧ ∀ address ∈ sent.checked, addressAllowed address.ip false = true

/-- If an endpoint passes the checks before the lookup, and its host is not a forbidden address,
then its host is already normalised. -/
def HostNormalized (crate : UrlCrate) (url : String) : Prop :=
  ∀ parsed host port, screen crate url false = .ok (parsed, host, port) →
    (∀ ip ∈ parseIpAddr host, addressAllowed ip false = true) → parsed.host = some host

/-- The crate reads back the texts of the addresses that it joins. -/
def ReadsBack (crate : UrlCrate) : Prop :=
  ∀ base location next, crate.join base location = some next →
    crate.parse (crate.asString next) = some next

section Hops

variable {crate : UrlCrate} {network : Network} {tokens : Tokens}

/-- A resolved endpoint passes the checks before the lookup, and if its host is an address, then
this address is allowed. -/
lemma resolved_host {lookup : String → UInt16 → Option (List SocketAddr)} {url : String}
    {resolved : ResolvedEndpoint}
    (h : resolveEndpointWithPolicy crate lookup url false = .ok resolved)
    (hnormalized : HostNormalized crate url) : resolved.url.host = some resolved.host := by
  obtain ⟨port, _, hscreen, haddresses, hunique, -, hallowed⟩ :=
    (resolveEndpoint_eq_ok_iff _ _ _ _ _).mp h
  refine hnormalized _ _ _ hscreen fun ip hip ↦ ?_
  rw [hostAddresses, Option.mem_def.mp hip] at haddresses
  refine hallowed ⟨ip, port⟩ ?_
  rw [hunique, ← ok.inj haddresses, SocketAddr.mem_unique]
  exact List.mem_singleton_self _

def Url.Normalized (url : Url) : Prop := ∃ host, url.host = some host ∧ normalizedHost host = host

/-- One request is sent to the address text that it is made for. If the host is normalised, then the
connector has the same name for it as the check. -/
lemma hop_guarantees (current : String) (pinned : Prop)
    (hpinned : pinned → HostNormalized crate current) :
    Guarantees (fun added ↦ added.length ≤ 1 ∧
        ∀ sent ∈ added, crate.parse current = some sent.url ∧ (pinned → sent.Pinned))
      (fun result _ ↦ crate.parse current = some result.1 ∧ (pinned → result.1.Normalized))
      (hop crate network tokens false current) := by
  refine guarantees_look_bind fun before ↦ ?_
  refine guarantees_ofOutcome_bind (by simp) fun resolved hresolved ↦ ?_
  obtain ⟨_, addresses, hscreen, -, -, -, hallowed⟩ :=
    (resolveEndpoint_eq_ok_iff _ _ _ _ _).mp hresolved
  obtain ⟨hparse, -, -, ⟨name, hname, hnormal⟩, -, -⟩ := (screen_eq_ok_iff _ _ _ _ _ _).mp hscreen
  have hhost : pinned → resolved.url.host = some resolved.host :=
    fun h ↦ resolved_host hresolved (hpinned h)
  refine guarantees_ofOutcome_bind (by simp) fun selected hselected ↦ ?_
  refine guarantees_look_bind fun before ↦ ?_
  refine guarantees_ofOutcome_bind (by simp) fun address haddress ↦ ?_
  rw [okOr_eq_ok_iff] at hselected haddress
  have hsent : pinned → Sent.Pinned ⟨resolved.url, resolved.addresses, address, tokens.bearer,
      tokens.consumerToken⟩ := by
    intro h
    rw [connectorAddress, hhost h] at haddress
    simp only [if_true, Option.some.injEq] at haddress
    exact ⟨haddress ▸ List.mem_of_head? hselected, hallowed⟩
  have hurl : pinned → resolved.url.Normalized := by
    intro h
    have hsame : name = resolved.host := Option.some.inj (hname.symm.trans (hhost h))
    exact ⟨name, hname, hnormal.trans hsame.symm⟩
  refine guarantees_ask_bind fun answer ↦ ?_
  refine guarantees_ofOutcome_bind ?_ fun answer _ ↦
    guarantees_pure _ ?_ ⟨hparse, hurl⟩
  · simpa using ⟨hparse, hsent⟩
  · simpa using ⟨hparse, hsent⟩

/-- The requests of a run that starts with an address text: so many at most, all of the origin of
this text, and pinned if it is. -/
def SameOrigin (crate : UrlCrate) (pinned : Prop) (count : ℕ) (current : String)
    (added : List Sent) : Prop :=
  added.length ≤ count ∧ ∀ sent ∈ added,
    (∃ first, crate.parse current = some first ∧ sent.url.origin = first.origin) ∧
      (pinned → sent.Pinned)

/-- A request followed by requests of its own origin. -/
lemma hop_bind_guarantees (current : String) (pinned : Prop)
    (hpinned : pinned → HostNormalized crate current) (count : ℕ)
    {next : Url × Answer → Interaction Unit Sent IicpError Answer}
    (hnext : ∀ url answer, crate.parse current = some url → (pinned → url.Normalized) →
      Guarantees (SameOrigin crate pinned count current) (fun _ _ ↦ True) (next (url, answer))) :
    Guarantees (SameOrigin crate pinned (count + 1) current) (fun _ _ ↦ True)
      (hop crate network tokens false current >>= next) := by
  have hfirst : ∀ added : List Sent, (∀ sent ∈ added, crate.parse current = some sent.url ∧
      (pinned → sent.Pinned)) → ∀ sent ∈ added,
      (∃ first, crate.parse current = some first ∧ sent.url.origin = first.origin) ∧
        (pinned → sent.Pinned) := by
    intro added h sent hmem
    obtain ⟨hparse, hsent⟩ := h sent hmem
    exact ⟨⟨sent.url, hparse, rfl⟩, hsent⟩
  refine (hop_guarantees current pinned hpinned).bind ?_ ?_
  · rintro ⟨url, answer⟩ added ⟨hone, hadded⟩ ⟨hparse, hurl⟩
    refine (hnext url answer hparse hurl).mono ?_ fun _ _ _ h ↦ h
    rintro _ ⟨hlength, hmore⟩
    refine ⟨?_, ?_⟩
    · rw [List.length_append]
      omega
    · rw [List.forall_mem_append]
      exact ⟨hmore, hfirst added hadded⟩
  · rintro added ⟨hone, hadded⟩
    exact ⟨hone.trans (Nat.le_add_left 1 count), hfirst added hadded⟩

/-- A redirect of the same origin keeps the host, normalised or not. -/
lemma hostNormalized_of_origin (hreads : ReadsBack crate) {url next : Url} {location : String}
    (hjoin : crate.join url location = some next) (horigin : next.origin = url.origin)
    (hurl : url.Normalized) : HostNormalized crate (crate.asString next) := by
  intro parsed host port hscreen _
  obtain ⟨hparse, -, -, ⟨name, hname, rfl⟩, -⟩ := (screen_eq_ok_iff _ _ _ _ _ _).mp hscreen
  obtain rfl := Option.some.inj ((hreads _ _ _ hjoin).symm.trans hparse)
  obtain ⟨own, hown, hnormal⟩ := hurl
  have hhost : next.host = url.host := congrArg (fun origin ↦ origin.2.1) horigin
  have hsame : name = own := Option.some.inj (hname.symm.trans (hhost.trans hown))
  rw [hname, hsame, hnormal]

/-- All requests have the origin of the first, and there is one more than redirects are followed. If
the host of the first is normalised, then all of them are pinned.
Assumes: the crate reads back the texts of the addresses that it joins. -/
lemma redirects_guarantees (hreads : ReadsBack crate) (pinned : Prop) (left : ℕ)
    (current : String) (hpinned : pinned → HostNormalized crate current) :
    Guarantees (SameOrigin crate pinned (left + 1) current) (fun _ _ ↦ True)
      (redirects crate network tokens false left current) := by
  have hnone : ∀ count text, SameOrigin crate pinned count text [] := by simp [SameOrigin]
  induction left generalizing current with
  | zero =>
    rw [redirects]
    refine hop_bind_guarantees current pinned hpinned 0 fun url answer _ _ ↦ ?_
    dsimp only
    split_ifs
    · exact guarantees_fail _ (hnone _ _)
    · exact guarantees_fail _ (hnone _ _)
    · exact guarantees_pure _ (hnone _ _) trivial
  | succ left ih =>
    rw [redirects]
    refine hop_bind_guarantees current pinned hpinned (left + 1) fun url answer hparse hurl ↦ ?_
    dsimp only
    split_ifs
    · refine guarantees_ofOutcome_bind (hnone _ _) fun next hnext ↦ ?_
      simp only [bind_eq_ok_iff, okOr_eq_ok_iff, require_eq_ok_iff,
        exists_const, beq_iff_eq, ok.injEq] at hnext
      obtain ⟨_, -, joined, hjoin, horigin, rfl⟩ := hnext
      refine (ih (crate.asString joined) fun h ↦
        hostNormalized_of_origin hreads hjoin horigin (hurl h)).mono ?_ fun _ _ _ h ↦ h
      rintro _ ⟨hlength, hmore⟩
      refine ⟨hlength, fun sent hmem ↦ ?_⟩
      obtain ⟨⟨_, hfirst, hsame⟩, hsent⟩ := hmore sent hmem
      obtain rfl := Option.some.inj ((hreads _ _ _ hjoin).symm.trans hfirst)
      exact ⟨⟨url, hparse, hsame.trans horigin⟩, hsent⟩
    · exact guarantees_fail _ (hnone _ _)
    · exact guarantees_pure _ (hnone _ _) trivial

end Hops

/-! ### When every connection is pinned -/

def requests (crate : UrlCrate) (network : Network) (tokens : Tokens) (body : List UInt8)
    (url : String) : List Sent :=
  (postJsonCtWithPolicy crate network tokens false body url () []).2.2

variable {crate : UrlCrate} {url : String}

/-- With a normalised host, all requests are pinned and have the origin of the first. -/
lemma requests_sameOrigin (hreads : ReadsBack crate) (network : Network) (tokens : Tokens)
    (body : List UInt8) (h : HostNormalized crate url) :
    SameOrigin crate True 4 url (requests crate network tokens body url) := by
  have hguarantees : Guarantees (SameOrigin crate True 4 url) (fun _ _ ↦ True)
      (postJsonCtWithPolicy crate network tokens false body url) :=
    guarantees_ofOutcome_bind (by simp [SameOrigin]) fun _ _ ↦
      redirects_guarantees hreads True 3 url fun _ ↦ h
  obtain ⟨_, hlog, hadded, -⟩ := hguarantees () []
  rw [List.append_nil] at hlog
  rw [requests, hlog]
  exact hadded

/-- A network in which a name has a public address when it is checked and a private one when the
connector looks it up. -/
def rebinding : Network where
  lookup := fun _ _ port ↦ some [⟨.v4 ⟨93, 184, 216, 34⟩, port⟩]
  connectorLookup := fun _ _ port ↦ some ⟨.v4 ⟨10, 0, 0, 1⟩, port⟩
  answer := fun _ ↦ .ok ⟨200, none⟩

variable {host : String}

lemma resolveEndpoint_rebinding {parsed : Url} {port : UInt16}
    (hscreen : screen crate url false = .ok (parsed, host, port))
    (hliteral : ∀ ip ∈ parseIpAddr host, addressAllowed ip false) :
    ∃ address, resolveEndpointWithPolicy crate (rebinding.lookup []) url false =
      .ok ⟨parsed, host, [address]⟩ := by
  have hone : ∀ address : SocketAddr, SocketAddr.unique [address] = [address] := by
    simp [SocketAddr.unique]
  cases hparse : parseIpAddr host with
  | some ip =>
    refine ⟨⟨ip, port⟩, (resolveEndpoint_eq_ok_iff _ _ _ _ _).mpr
      ⟨port, [⟨ip, port⟩], hscreen, ?_, (hone _).symm, by simp, ?_⟩⟩
    · rw [hostAddresses, hparse]
    · simpa using hliteral ip hparse
  | none =>
    refine ⟨⟨.v4 ⟨93, 184, 216, 34⟩, port⟩, (resolveEndpoint_eq_ok_iff _ _ _ _ _).mpr
      ⟨port, [⟨.v4 ⟨93, 184, 216, 34⟩, port⟩], hscreen, ?_, (hone _).symm, by simp, ?_⟩⟩
    · rw [hostAddresses, hparse]
      rfl
    · simp only [List.mem_singleton, forall_eq]
      decide

/-- With another name in the address than the one that was checked, the connector finds the private
address. -/
lemma requests_rebinding {tokens : Tokens} {parsed : Url} {address : SocketAddr}
    (hresolved : resolveEndpointWithPolicy crate (rebinding.lookup []) url false =
      .ok ⟨parsed, host, [address]⟩) {name : String} (hname : parsed.host = some name)
    (hne : name ≠ host) :
    requests crate rebinding tokens [] url = [⟨parsed, [address], ⟨.v4 ⟨10, 0, 0, 1⟩, address.port⟩,
      tokens.bearer, tokens.consumerToken⟩] := by
  have hconnect : connectorAddress (rebinding.connectorLookup []) parsed host address =
      some ⟨.v4 ⟨10, 0, 0, 1⟩, address.port⟩ := by
    rw [connectorAddress, hname]
    exact if_neg hne
  simp [requests, postJsonCtWithPolicy, encodeRequest, redirects, hop, bind_apply, Interaction.bind,
    look, ofOutcome, ask, hresolved, hconnect]
  rfl

/-- Every connection goes to an address that was checked for its request, every request has the
origin of the first address text, four requests are sent at most, and the tokens are sent to no
other origin, whatever the body, the lookups and the providers answer: this holds exactly for the
address texts whose host is normalised, or that are refused before any lookup. Assumes: the crate reads back
the texts of the addresses that it joins. -/
theorem every_hop_pinned_iff (crate : UrlCrate) (hreads : ReadsBack crate) (tokens : Tokens)
    (url : String) :
    (∀ network body, (∀ sent ∈ requests crate network tokens body url, sent.Pinned) ∧
      (∀ sent ∈ requests crate network tokens body url,
        ∃ first, crate.parse url = some first ∧ sent.url.origin = first.origin) ∧
      (requests crate network tokens body url).length ≤ 4 ∧
      (∀ sent ∈ requests crate network tokens body url, ∀ first, crate.parse url = some first →
        sent.url.origin ≠ first.origin → sent.bearer = none ∧ sent.consumerToken = none)) ↔
      HostNormalized crate url := by
  constructor
  · intro h parsed host port hscreen hliteral
    obtain ⟨name, hname, -⟩ := ((screen_eq_ok_iff _ _ _ _ _ _).mp hscreen).2.2.2.1
    obtain ⟨_, hresolved⟩ := resolveEndpoint_rebinding hscreen hliteral
    by_contra hhost
    have hne : name ≠ host := by
      rintro rfl
      exact hhost hname
    have hpinned := (h rebinding []).1
    rw [requests_rebinding hresolved hname hne] at hpinned
    obtain ⟨hmem, hallowed⟩ := hpinned _ (List.mem_singleton_self _)
    have hprivate : addressAllowed (.v4 ⟨10, 0, 0, 1⟩) false = false := by decide
    exact absurd (hallowed _ hmem) (by simp [hprivate])
  · intro h network body
    obtain ⟨hlength, hsent⟩ := requests_sameOrigin hreads network tokens body h
    refine ⟨fun sent hmem ↦ (hsent sent hmem).2 trivial, fun sent hmem ↦ (hsent sent hmem).1,
      hlength, fun sent hmem first hfirst hne ↦ ?_⟩
    obtain ⟨⟨_, hown, hsame⟩, -⟩ := hsent sent hmem
    exact absurd (hsame.trans (by rw [Option.some.inj (hown.symm.trans hfirst)])) hne

/-! ### Two providers -/

def sampleUrl (scheme host : String) (port : UInt16) (rest : String) : Url :=
  ⟨scheme, "", none, some host, some port, rest⟩

def sampleTask : Url := sampleUrl "https" "provider.example.com" 443 "/v1/task"

def sampleMoved : Url := sampleUrl "https" "provider.example.com" 443 "/v2/task"

/-- The crate on the address texts of the two providers. It keeps a dot at the end of a host. -/
def sampleCrate : UrlCrate where
  parse text :=
    if text = "https://provider.example.com/v1/task" then some sampleTask
    else if text = "https://provider.example.com/v2/task" then some sampleMoved
    else if text = "http://example.com./v1/task" then
      some (sampleUrl "http" "example.com." 80 "/v1/task")
    else none
  join base location :=
    if base = sampleTask ∧ location = "/v2/task" then some sampleMoved else none
  asString url := url.scheme ++ "://" ++ url.host.getD "" ++ url.rest

def sampleTokens : Tokens := ⟨some "bearer", some "consumer"⟩

lemma sampleCrate_readsBack : ReadsBack sampleCrate := by
  intro base location next hjoin
  obtain ⟨-, rfl⟩ : (base = sampleTask ∧ location = "/v2/task") ∧ sampleMoved = next := by
    simpa [sampleCrate] using hjoin
  decide

def movedProvider : Network :=
  { rebinding with
    answer := fun sent ↦ .ok (if sent = [] then ⟨308, some "/v2/task"⟩ else ⟨200, none⟩) }

/-- A provider with a normalised host is reached at checked addresses only, also after a redirect
and although the answers to the lookups change. -/
theorem sample_hops_pinned :
    HostNormalized sampleCrate "https://provider.example.com/v1/task" ∧
    (requests sampleCrate movedProvider sampleTokens []
      "https://provider.example.com/v1/task").map Sent.url = [sampleMoved, sampleTask] ∧
    ∀ sent ∈ requests sampleCrate movedProvider sampleTokens []
      "https://provider.example.com/v1/task", sent.Pinned := by
  have hnormalized : HostNormalized sampleCrate "https://provider.example.com/v1/task" := by
    intro parsed host port hscreen _
    obtain ⟨hparse, -, -, ⟨name, hname, rfl⟩, -⟩ := (screen_eq_ok_iff _ _ _ _ _ _).mp hscreen
    obtain rfl : sampleTask = parsed := Option.some.inj hparse
    obtain rfl : "provider.example.com" = name := Option.some.inj hname
    decide
  exact ⟨hnormalized, by decide,
    ((every_hop_pinned_iff sampleCrate sampleCrate_readsBack sampleTokens _).mpr hnormalized
      movedProvider []).1⟩

/-- A host with a dot at its end is checked without the dot and connected to with it: the connection
goes to a private address that nobody has checked, with both tokens. -/
theorem trailing_dot_unpinned :
    requests sampleCrate rebinding sampleTokens [] "http://example.com./v1/task" =
      [⟨sampleUrl "http" "example.com." 80 "/v1/task", [⟨.v4 ⟨93, 184, 216, 34⟩, 80⟩],
        ⟨.v4 ⟨10, 0, 0, 1⟩, 80⟩, some "bearer", some "consumer"⟩] ∧
    ¬ ∀ sent ∈ requests sampleCrate rebinding sampleTokens [] "http://example.com./v1/task",
      sent.Pinned := by
  have hsent : requests sampleCrate rebinding sampleTokens [] "http://example.com./v1/task" =
      [⟨sampleUrl "http" "example.com." 80 "/v1/task", [⟨.v4 ⟨93, 184, 216, 34⟩, 80⟩],
        ⟨.v4 ⟨10, 0, 0, 1⟩, 80⟩, some "bearer", some "consumer"⟩] := by
    decide
  refine ⟨hsent, fun h ↦ ?_⟩
  rw [hsent] at h
  have hchecked := (h _ (List.mem_singleton_self _)).1
  exact absurd hchecked (by decide)

end Iicp.Http
