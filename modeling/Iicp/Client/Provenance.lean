import Iicp.Client.Discovery

/-!
# Where the nodes of a call come from

Every node that `routeSource` delivers was in an answer of the directory to a request of the same
call. It was on a list (`Listed`), or it was the route of an answer whose ticket was accepted
(`Ticketed`). In a restricted trust domain the answer carried a decision about the client that was
accepted for the operation, and this decision is the eligibility of the node (`Decided`).

The guarantees follow the structure of the calls: what one request asks and what its answer
delivers, then the rounds, by induction on how many are left (`ticketRounds_guarantees`), and the
choice between the two ways (`routeSource_guarantees`). What the rounds can fail with decides
whether there is a way back to lists (`ticketRounds_errs`).
-/

namespace Iicp.Client

open Rust Event Outcome Interaction

section Provenance

variable (world : World) (config : ClientConfig)

/-! ### Requests to the directory -/

/-- The membership headers are those of the configuration: none without a restricted context, and
with one its subject and a credential that its reference gave. -/
def Membered (membership : Option Membership) : Prop :=
  match config.restrictedDirectory with
  | none => membership = none
  | some context => ∃ before credential,
      world.secret before context.membershipCredential = some credential ∧
        membership = some ⟨credential, context.subjectId⟩

/-- An event of asking the directory, for lists as well or only for tickets: a request has the
membership headers of the configuration. -/
def Event.Asks (lists : Prop) : Event → Prop
  | .discovery _ membership _ => lists ∧ Membered world config membership
  | .ticket _ _ membership _ => Membered world config membership
  | .directoryKey _ _ => True
  | .ticketAccepted _ _ _ _ _ _ => True
  | .decisionAccepted _ _ _ => True
  | .consumerToken _ _ => False
  | .posted _ => False

def OnlyAsks (lists : Prop) (added : List Event) : Prop :=
  ∀ event ∈ added, event.Asks world config lists

/-- The eligibility that an answer gives: none without a restricted context, and with one the
decision that was accepted for the operation. -/
def Decided (operation : String) (body : Json) (added : List Event)
    (eligibility : Option RestrictedEligibility) : Prop :=
  match config.restrictedDirectory with
  | none => eligibility = none
  | some context => ∃ before decided,
      decisionAccepted operation body (world.unixTime before) ∈ added ∧
        validateDecision body context operation (world.unixTime before) = .ok decided ∧
        eligibility = some decided

/-! ### Nodes from the directory -/

/-- The node was on a list that the directory answered with. -/
def Listed (added : List Event) (node : Node) : Prop :=
  ∃ url membership status body list listed,
    discovery url membership (.answered status (some body)) ∈ added ∧
      NodeList.fromValue body = some list ∧ listed ∈ list.nodes ∧
      node = { listed with restrictedEligibility := node.restrictedEligibility } ∧
      Decided world config "discovery" body added node.restrictedEligibility

/-- The ticket of an answer was accepted, for the node that the answer names. -/
def TicketVerified (intent : String) (body : Json) (added : List Event) : Prop :=
  ∃ token key nowS claims,
    ticketAccepted token key (ticketIssuer config) (namedNode body) intent nowS ∈ added ∧
      verifyDispatchRouteTicket world.tickets token key (ticketIssuer config) (namedNode body)
        intent nowS = some claims

def RouteOf (body : Json) (added : List Event) (node : Node) : Prop :=
  ∃ routed, Node.fromValue (ticketRoute body) = some routed ∧
    node = { routed with
      dispatchTicketIdPrefix := node.dispatchTicketIdPrefix
      restrictedEligibility := node.restrictedEligibility } ∧
    Decided world config "dispatch_ticket" body added node.restrictedEligibility

/-- The node is the route of an answer whose ticket was accepted. -/
def Ticketed (intent : String) (added : List Event) (node : Node) : Prop :=
  ∃ url request membership body,
    ticket url request membership (.answered 201 (some body)) ∈ added ∧
      TicketVerified world config intent body added ∧ RouteOf world config body added node

variable {world config} (intent : String) (opts : DiscoverOptions) {node : Node} {body : Json}
  {added more : List Event} (status : ℕ)

lemma onlyAsks_nil (lists : Prop) : OnlyAsks world config lists [] := by simp [OnlyAsks]

lemma onlyAsks_append {lists : Prop} {first second : List Event} :
    OnlyAsks world config lists (first ++ second) ↔
      OnlyAsks world config lists first ∧ OnlyAsks world config lists second := by
  rw [OnlyAsks, List.forall_mem_append]
  rfl

lemma OnlyAsks.decision {lists : Prop} (h : OnlyAsks world config lists added) (operation : String)
    (body : Json) (now : ℕ) :
    OnlyAsks world config lists (decisionAccepted operation body now :: added) :=
  List.forall_mem_cons.mpr ⟨trivial, h⟩

lemma OnlyAsks.mono {lists more : Prop} (h : OnlyAsks world config lists added)
    (hmore : lists → more) : OnlyAsks world config more added := by
  intro event hevent
  have hasks := h event hevent
  cases event with
  | discovery => exact ⟨hmore hasks.1, hasks.2⟩
  | _ => exact hasks

lemma Decided.mono {operation : String} {eligibility : Option RestrictedEligibility}
    (h : Decided world config operation body added eligibility) (hsub : added ⊆ more) :
    Decided world config operation body more eligibility := by
  unfold Decided at h ⊢
  split at h
  · exact h
  · obtain ⟨before, decided, hevent, haccepted⟩ := h
    exact ⟨before, decided, hsub hevent, haccepted⟩

lemma Listed.mono (h : Listed world config added node) (hsub : added ⊆ more) :
    Listed world config more node := by
  obtain ⟨url, membership, status, body, list, listed, hevent, hlist, hmem, hnode, hdecided⟩ := h
  exact ⟨url, membership, status, body, list, listed, hsub hevent, hlist, hmem, hnode,
    hdecided.mono hsub⟩

lemma RouteOf.mono (h : RouteOf world config body added node) (hsub : added ⊆ more) :
    RouteOf world config body more node := by
  obtain ⟨routed, hrouted, hnode, hdecided⟩ := h
  exact ⟨routed, hrouted, hnode, hdecided.mono hsub⟩

lemma TicketVerified.mono {intent : String} (h : TicketVerified world config intent body added)
    (hsub : added ⊆ more) : TicketVerified world config intent body more := by
  obtain ⟨token, key, nowS, claims, hevent, hverified⟩ := h
  exact ⟨token, key, nowS, claims, hsub hevent, hverified⟩

lemma Ticketed.mono {intent : String} (h : Ticketed world config intent added node)
    (hsub : added ⊆ more) : Ticketed world config intent more node := by
  obtain ⟨url, request, membership, body, hevent, hverified, hroute⟩ := h
  exact ⟨url, request, membership, body, hsub hevent, hverified.mono hsub, hroute.mono hsub⟩

/-! ### Discovery -/

lemma json_eq_ok {answer : HttpAnswer} {found : ℕ × Json} (h : answer.json = .ok found) :
    answer = .answered found.1 (some found.2) := by
  unfold HttpAnswer.json at h
  split at h
  · simp at h
  · simp at h
  · obtain rfl := ok.inj h
    rfl

lemma success_eq_ok {answer : HttpAnswer} (h : answer.success = .ok body) :
    ∃ status, answer = .answered status (some body) := by
  simp only [HttpAnswer.success, bind_eq_ok_iff, require_eq_ok_iff, exists_const, Prod.exists] at h
  obtain ⟨status, _, hjson, -, hbody⟩ := h
  obtain rfl := ok.inj hbody
  exact ⟨status, json_eq_ok hjson⟩

lemma membershipCredential_guarantees (context : RestrictedDirectoryContext) :
    Guarantees (fun added ↦ added = []) (fun credential _ ↦ ∃ before,
        world.secret before context.membershipCredential = some credential)
      (membershipCredential world context) := by
  refine guarantees_look_bind fun before ↦ ?_
  refine guarantees_ofOutcome _ rfl fun credential h ↦ ?_
  exact ⟨before, (okOr_eq_ok_iff _ _ _).mp h⟩

lemma restrictedDiscovery_guarantees {context : RestrictedDirectoryContext}
    (hcontext : config.restrictedDirectory = some context) (url : String) :
    Guarantees (OnlyAsks world config True)
      (fun list added ↦ ∀ node ∈ list.nodes, Listed world config added node)
      (restrictedDiscovery world context url) := by
  refine (membershipCredential_guarantees context).bind ?_ fun _ h ↦ h ▸ onlyAsks_nil _
  rintro credential _ rfl ⟨before, hcredential⟩
  refine guarantees_ask_bind fun answer ↦ ?_
  have hasks : OnlyAsks world config True
      ([] ++ [discovery url (some ⟨credential, context.subjectId⟩) answer] ++ []) := by
    refine List.forall_mem_singleton.mpr ?_
    rw [Asks, Membered, hcontext]
    exact ⟨trivial, before, credential, hcredential, rfl⟩
  refine guarantees_ofOutcome_bind hasks fun _ _ ↦ ?_
  refine guarantees_ofOutcome_bind hasks fun body hbody ↦ ?_
  refine guarantees_look_bind fun later ↦ ?_
  refine guarantees_ofOutcome_bind hasks fun eligibility heligibility ↦ ?_
  refine guarantees_record_bind ?_
  have hrecorded := hasks.decision "discovery" body (world.unixTime later)
  refine guarantees_ofOutcome_bind hrecorded fun parsed hparsed ↦ ?_
  refine guarantees_pure _ hrecorded fun node hnode ↦ ?_
  obtain ⟨listed, hlisted, rfl⟩ := List.mem_map.mp hnode
  obtain ⟨status, rfl⟩ := success_eq_ok hbody
  refine ⟨url, some ⟨credential, context.subjectId⟩, status, body, parsed, listed, by simp,
    (okOr_eq_ok_iff _ _ _).mp hparsed, hlisted, rfl, ?_⟩
  rw [Decided, hcontext]
  exact ⟨later, eligibility, by simp, heligibility, rfl⟩

lemma listed_eligibility {list : NodeList} (hlist : NodeList.fromValue body = some list)
    (hnode : node ∈ list.nodes) : node.restrictedEligibility = none := by
  simp only [NodeList.fromValue, Option.bind_eq_bind, Option.bind_eq_some_iff,
    Option.some.injEq] at hlist
  obtain ⟨_, -, _, hnodes, _, -, _, -, _, -, rfl⟩ := hlist
  obtain ⟨_, -, hvalue⟩ := Option.bind_eq_some_iff.mp hnodes
  obtain ⟨_, hitem⟩ := mem_readList hvalue hnode
  exact (Node.fromValue_local hitem).1

lemma openDiscovery_guarantees (hcontext : config.restrictedDirectory = none) (url : String) :
    Guarantees (OnlyAsks world config True)
      (fun list added ↦ ∀ node ∈ list.nodes, Listed world config added node)
      (openDiscovery world url) := by
  refine guarantees_ask_bind fun answer ↦ ?_
  have hasks : OnlyAsks world config True ([] ++ [discovery url none answer]) := by
    refine List.forall_mem_singleton.mpr ?_
    rw [Asks, Membered, hcontext]
    exact ⟨trivial, rfl⟩
  refine guarantees_ofOutcome_bind hasks fun body hbody ↦ ?_
  refine guarantees_ofOutcome _ hasks fun list hlist node hnode ↦ ?_
  obtain ⟨status, rfl⟩ := success_eq_ok hbody
  rw [okOr_eq_ok_iff] at hlist
  refine ⟨url, none, status, body, list, node, by simp, hlist, hnode, rfl, ?_⟩
  rw [Decided, hcontext]
  exact listed_eligibility hlist hnode

lemma mem_keepBrowserUsable {opts : DiscoverOptions} {list : NodeList}
    (h : node ∈ (keepBrowserUsable world opts list).nodes) : node ∈ list.nodes := by
  unfold keepBrowserUsable at h
  split_ifs at h
  · exact List.mem_of_mem_filter h
  · exact h

/-- A discovery asks the directory with the membership of the client, and delivers nodes of the list
that it answers with. -/
lemma discover_guarantees :
    Guarantees (OnlyAsks world config True)
      (fun list added ↦ ∀ node ∈ list.nodes, Listed world config added node)
      (discover world config intent opts) := by
  have hnone := @onlyAsks_nil world config True
  refine guarantees_ofOutcome_bind hnone fun _ _ ↦ ?_
  refine guarantees_ofOutcome_bind hnone fun url _ ↦ ?_
  have hlist : Guarantees (OnlyAsks world config True)
      (fun list added ↦ ∀ node ∈ list.nodes, Listed world config added node)
      (askDiscovery world config url) := by
    unfold askDiscovery
    cases hcontext : config.restrictedDirectory with
    | some => exact restrictedDiscovery_guarantees hcontext url
    | none => exact openDiscovery_guarantees hcontext url
  refine hlist.bind (fun list added hasks hnodes ↦ ?_) fun _ h ↦ h
  refine guarantees_ofOutcome_bind (by simpa using hasks) fun _ _ ↦ ?_
  refine guarantees_pure _ (by simpa using hasks) fun node hnode ↦ ?_
  simpa using hnodes node (mem_keepBrowserUsable hnode)

/-! ### Tickets -/

/-- A request without membership is one of asking the directory when there is no restricted
context. -/
lemma onlyAsks_ticket (hcontext : config.restrictedDirectory = none) (url : String)
    (request : Json) (answer : HttpAnswer) :
    OnlyAsks world config False [ticket url request none answer] := by
  refine List.forall_mem_singleton.mpr ?_
  rw [Asks, Membered, hcontext]

lemma postTicket_guarantees (hcontext : config.restrictedDirectory = none) (url : String)
    (request : Json) (left : ℕ) :
    Guarantees (OnlyAsks world config False)
      (fun answer added ↦ ticket url request none (.answered answer.1 answer.2) ∈ added)
      (postTicket world url request left) := by
  induction left with
  | zero =>
    rw [postTicket]
    refine guarantees_ask_bind fun answer ↦ ?_
    have hasks := @onlyAsks_ticket world config hcontext url request answer
    cases answer with
    | answered => exact guarantees_pure _ hasks (by simp)
    | failed => exact guarantees_fail _ hasks
  | succ left ih =>
    rw [postTicket]
    refine guarantees_ask_bind fun answer ↦ ?_
    have hasks := @onlyAsks_ticket world config hcontext url request answer
    cases answer with
    | answered => exact guarantees_pure _ hasks (by simp)
    | failed =>
      dsimp only
      split_ifs
      · refine ih.mono (fun more hmore ↦ onlyAsks_append.mpr ⟨hmore, hasks⟩) fun found more _ h ↦ ?_
        exact List.mem_append_left _ h
      · exact guarantees_fail _ hasks

/-- A request for a ticket carries the membership of the client, and what is delivered is what the
directory answered. -/
lemma askTicket_guarantees (url : String) (request : Json) :
    Guarantees (OnlyAsks world config False) (fun answer added ↦ ∃ membership,
        ticket url request membership (.answered answer.1 (some answer.2)) ∈ added)
      (askTicket world config url request) := by
  unfold askTicket
  cases hcontext : config.restrictedDirectory with
  | none =>
    refine (postTicket_guarantees hcontext url request 2).bind ?_ fun _ h ↦ h
    rintro ⟨_, _⟩ _ hasks hevent
    refine guarantees_ofOutcome_bind (by simpa using hasks) fun _ _ ↦ ?_
    refine guarantees_ofOutcome_bind (by simpa using hasks) fun found hfound ↦ ?_
    rw [okOr_eq_ok_iff] at hfound
    refine guarantees_pure _ (by simpa using hasks) ⟨none, ?_⟩
    rw [← hfound]
    simpa using hevent
  | some context =>
    refine ((membershipCredential_guarantees context).mapErr _).bind ?_ (by simp [OnlyAsks])
    rintro credential _ rfl ⟨before, hcredential⟩
    refine guarantees_ask_bind fun answer ↦ ?_
    have hasks : OnlyAsks world config False
        ([] ++ [ticket url request (some ⟨credential, context.subjectId⟩) answer] ++ []) := by
      refine List.forall_mem_singleton.mpr ?_
      rw [Asks, Membered, hcontext]
      exact ⟨before, credential, hcredential, rfl⟩
    refine guarantees_ofOutcome_bind hasks fun _ _ ↦ ?_
    refine guarantees_ofOutcome _ hasks fun found hfound ↦ ?_
    rw [mapErr_eq_ok_iff] at hfound
    obtain rfl := json_eq_ok hfound
    exact ⟨some ⟨credential, context.subjectId⟩, by simp⟩

lemma fetchDirectoryKey_guarantees :
    Guarantees (OnlyAsks world config False) (fun _ _ ↦ True) (fetchDirectoryKey world config) := by
  have hnone := @onlyAsks_nil world config False
  refine guarantees_getState_bind fun state ↦ ?_
  cases state.dispatchTicketKey with
  | some => exact guarantees_pure _ hnone trivial
  | none =>
    refine guarantees_ask_bind fun answer ↦ ?_
    have hasks : OnlyAsks world config False
        ([] ++ [directoryKey (directoryBase config ++ "/v1/directory-key") answer]) := by
      simp [OnlyAsks, Asks]
    cases answer.publicKey with
    | some => exact fun _ _ ↦ ⟨[], rfl, hasks, fun _ _ ↦ trivial⟩
    | none => exact guarantees_pure _ hasks trivial

lemma ticketEligibility_guarantees (body : Json) :
    Guarantees (OnlyAsks world config False)
      (fun eligibility added ↦ Decided world config "dispatch_ticket" body added eligibility)
      (ticketEligibility world config body) := by
  unfold ticketEligibility Decided
  cases hcontext : config.restrictedDirectory with
  | none => exact guarantees_pure _ (onlyAsks_nil _) rfl
  | some =>
    refine guarantees_look_bind fun before ↦ ?_
    refine guarantees_ofOutcome_bind (onlyAsks_nil _) fun decided hdecided ↦ ?_
    rw [mapErr_eq_ok_iff] at hdecided
    refine guarantees_record_bind (guarantees_pure _ ((onlyAsks_nil _).decision _ _ _) ?_)
    exact ⟨before, decided, by simp, hdecided, rfl⟩

/-- What a verified ticket was verified with. -/
lemma verifiedTicket_eq_some {intent : String} {cached : Option String} {nowS : ℤ}
    {token key : String} {claims : DispatchRouteTicketClaims}
    (h : verifiedTicket world config intent body cached nowS = some (token, key, claims)) :
    verifyDispatchRouteTicket world.tickets token key (ticketIssuer config) (namedNode body) intent
      nowS = some claims := by
  simp only [verifiedTicket, Option.bind_eq_bind, Option.bind_eq_some_iff, Option.some.injEq,
    Prod.mk.injEq] at h
  obtain ⟨_, -, _, -, _, hverified, rfl, rfl, rfl⟩ := h
  exact hverified

/-- A node is taken out of an answer only after its ticket was accepted. -/
lemma acceptTicket_guarantees (body : Json) :
    Guarantees (OnlyAsks world config False)
      (fun node added ↦ TicketVerified world config intent body added ∧ RouteOf world config body added node)
      (acceptTicket world config intent status body) := by
  refine (ticketEligibility_guarantees body).bind (fun _ first hfirst hdecided ↦ ?_) fun _ h ↦ h
  refine fetchDirectoryKey_guarantees.bind (fun _ added hasks _ ↦ ?_)
    fun _ h ↦ onlyAsks_append.mpr ⟨h, hfirst⟩
  replace hasks := onlyAsks_append.mpr ⟨hasks, hfirst⟩
  refine guarantees_getState_bind fun state ↦ ?_
  refine guarantees_look_bind fun before ↦ ?_
  refine guarantees_ofOutcome_bind (by simpa using hasks) fun found hfound ↦ ?_
  obtain ⟨token, key, claims⟩ := found
  have hverified := verifiedTicket_eq_some ((okOr_eq_ok_iff _ _ _).mp hfound)
  refine guarantees_record_bind ?_
  have hrecorded : OnlyAsks world config False ([] ++ [ticketAccepted token key
      (ticketIssuer config) (namedNode body) intent (world.timestamp before)] ++ added ++ first) := by
    rw [List.append_assoc, onlyAsks_append]
    exact ⟨by simp [OnlyAsks, Asks], hasks⟩
  refine guarantees_ofOutcome_bind hrecorded fun _ _ ↦ ?_
  refine guarantees_ofOutcome_bind hrecorded fun routed hrouted ↦ ?_
  rw [okOr_eq_ok_iff] at hrouted
  refine guarantees_pure _ hrecorded ⟨?_, routed, hrouted, rfl, hdecided.mono (by simp)⟩
  exact ⟨token, key, world.timestamp before, claims, by simp, hverified⟩

lemma ticketRound_guarantees (excluded : List String) :
    Guarantees (OnlyAsks world config False)
      (fun found added ↦ ∀ node, found = some node → Ticketed world config intent added node)
      (ticketRound world config intent opts excluded) := by
  refine (askTicket_guarantees _ _).bind ?_ fun _ h ↦ h
  rintro ⟨status, body⟩ _ hasks ⟨membership, hevent⟩
  refine guarantees_ofOutcome_bind (by simpa using hasks) fun _ _ ↦ ?_
  split_ifs with hstatus
  · obtain rfl : status = 201 := hstatus
    refine (acceptTicket_guarantees intent 201 body).bind ?_
      (fun more hmore ↦ onlyAsks_append.mpr ⟨hmore, hasks⟩)
    rintro _ _ hmore ⟨hverified, hroute⟩
    refine guarantees_pure _ ?_ ?_
    · simpa using onlyAsks_append.mpr ⟨hmore, hasks⟩
    · rintro _ ⟨⟩
      exact ⟨_, _, membership, body, List.mem_append_right _ hevent,
        hverified.mono (by simp), hroute.mono (by simp)⟩
  · refine guarantees_ofOutcome_bind (by simpa using hasks) fun _ _ ↦ ?_
    exact guarantees_pure _ (by simpa using hasks) (by simp)

/-- Every node that the rounds deliver is ticketed, by an event of its own round. -/
lemma ticketRounds_guarantees (left : ℕ) (excluded : List String) :
    Guarantees (OnlyAsks world config False)
      (fun nodes added ↦ ∀ node ∈ nodes, Ticketed world config intent added node)
      (ticketRounds world config intent opts left excluded) := by
  induction left generalizing excluded with
  | zero =>
    rw [ticketRounds]
    exact guarantees_pure _ (by simp [OnlyAsks]) (by simp)
  | succ left ih =>
    rw [ticketRounds]
    refine (ticketRound_guarantees intent opts excluded).bind ?_ fun _ h ↦ h
    intro found added hasks hfound
    cases found with
    | none => exact guarantees_pure _ (by simpa using hasks) (by simp)
    | some node =>
      have hnode := hfound node rfl
      refine guarantees_ofOutcome_bind (by simpa using hasks) fun short _ ↦ ?_
      refine (ih (excluded ++ [short])).bind ?_
        (fun more hmore ↦ onlyAsks_append.mpr ⟨hmore, hasks⟩)
      intro rest more hmore hrest
      refine guarantees_pure _ ?_ ?_
      · simpa using onlyAsks_append.mpr ⟨hmore, hasks⟩
      · rw [List.forall_mem_cons]
        refine ⟨hnode.mono (by simp), fun other hother ↦ (hrest other hother).mono (by simp)⟩

/-! ### Errors of asking for tickets -/

lemma nodeShortId_ne_err {ε : Type} (nodeId : String) (error : ε) :
    nodeShortId nodeId ≠ .err error := by
  unfold nodeShortId sliceTo
  split <;> simp

variable (config) in
/-- That the directory does not know tickets is an error only when the directory is open. -/
def LegacyWhenOpen (error : TicketRouteError) : Prop :=
  error = .legacyRequired → config.restrictedDirectory = none

lemma legacyWhenOpen_iicp (error : IicpError) : LegacyWhenOpen config (.iicp error) :=
  fun h ↦ nomatch h

lemma askTicket_errs (url : String) (request : Json) :
    ErrsOnly (LegacyWhenOpen config) (askTicket world config url request) := by
  unfold askTicket
  cases hcontext : config.restrictedDirectory with
  | none => exact fun _ _ _ _ _ ↦ hcontext
  | some =>
    refine (errsOnly_mapErr legacyWhenOpen_iicp).bind fun credential ↦ ?_
    refine errsOnly_bind_of_delivers (fun _ _ ↦ ⟨_, rfl⟩) fun answer ↦ ?_
    refine (errsOnly_ofOutcome_mapErr _ legacyWhenOpen_iicp).bind fun _ ↦ ?_
    exact errsOnly_ofOutcome_mapErr _ legacyWhenOpen_iicp

lemma fetchDirectoryKey_errs :
    ErrsOnly (LegacyWhenOpen config) (fetchDirectoryKey world config) := by
  refine errsOnly_bind_of_delivers (fun _ _ ↦ ⟨_, rfl⟩) fun state ↦ ?_
  cases state.dispatchTicketKey with
  | some => exact errsOnly_of_delivers fun _ _ ↦ ⟨_, rfl⟩
  | none =>
    refine errsOnly_bind_of_delivers (fun _ _ ↦ ⟨_, rfl⟩) fun answer ↦ ?_
    cases answer.publicKey with
    | some | none => exact errsOnly_of_delivers fun _ _ ↦ ⟨_, rfl⟩

lemma ticketEligibility_errs (body : Json) :
    ErrsOnly (LegacyWhenOpen config) (ticketEligibility world config body) := by
  unfold ticketEligibility
  cases config.restrictedDirectory with
  | none => exact errsOnly_of_delivers fun _ _ ↦ ⟨_, rfl⟩
  | some =>
    refine errsOnly_bind_of_delivers (fun _ _ ↦ ⟨_, rfl⟩) fun now ↦ ?_
    refine (errsOnly_ofOutcome_mapErr _ legacyWhenOpen_iicp).bind fun eligibility ↦ ?_
    exact errsOnly_of_delivers fun _ _ ↦ ⟨_, rfl⟩

lemma acceptTicket_errs (body : Json) :
    ErrsOnly (LegacyWhenOpen config) (acceptTicket world config intent status body) := by
  refine (ticketEligibility_errs body).bind fun eligibility ↦ ?_
  refine fetchDirectoryKey_errs.bind fun _ ↦ ?_
  refine errsOnly_bind_of_delivers (fun _ _ ↦ ⟨_, rfl⟩) fun state ↦ ?_
  refine errsOnly_bind_of_delivers (fun _ _ ↦ ⟨_, rfl⟩) fun nowS ↦ ?_
  refine (errsOnly_okOr _ (legacyWhenOpen_iicp _)).bind fun found ↦ ?_
  refine errsOnly_bind_of_delivers (fun _ _ ↦ ⟨_, rfl⟩) fun _ ↦ ?_
  refine (errsOnly_require _ (legacyWhenOpen_iicp _)).bind fun _ ↦ ?_
  refine (errsOnly_okOr _ (legacyWhenOpen_iicp _)).bind fun node ↦ ?_
  exact errsOnly_of_delivers fun _ _ ↦ ⟨_, rfl⟩

lemma ticketRefused_errs (body : Json) :
    ErrsOnly (LegacyWhenOpen config) (ofOutcome (ticketRefused config status body) :
        Interaction CallState Event TicketRouteError Unit) := by
  intro _ _ error herror
  change ticketRefused config status body = .err error at herror
  unfold ticketRefused at herror
  dsimp only at herror
  split_ifs at herror with _ hmissing hunconfigured
  · exact fun _ ↦ Option.isNone_iff_eq_none.mp hmissing.2
  · exact fun _ ↦ Option.isNone_iff_eq_none.mp hunconfigured.2.2
  · obtain rfl := err.inj herror
    exact legacyWhenOpen_iicp _

lemma ticketRound_errs (excluded : List String) :
    ErrsOnly (LegacyWhenOpen config) (ticketRound world config intent opts excluded) := by
  refine (askTicket_errs _ _).bind ?_
  rintro ⟨status, body⟩
  refine (errsOnly_require _ (legacyWhenOpen_iicp _)).bind fun _ ↦ ?_
  split_ifs
  · refine (acceptTicket_errs intent status body).bind fun node ↦ ?_
    exact errsOnly_of_delivers fun _ _ ↦ ⟨_, rfl⟩
  · refine (ticketRefused_errs status body).bind fun _ ↦ ?_
    exact errsOnly_of_delivers fun _ _ ↦ ⟨_, rfl⟩

/-- A restricted directory is never said not to know tickets, so there is no way back from it to the
open lists. -/
lemma ticketRounds_errs (left : ℕ) (excluded : List String) :
    ErrsOnly (LegacyWhenOpen config) (ticketRounds world config intent opts left excluded) := by
  induction left generalizing excluded with
  | zero => exact errsOnly_of_delivers fun _ _ ↦ ⟨_, rfl⟩
  | succ left ih =>
    rw [ticketRounds]
    refine (ticketRound_errs intent opts excluded).bind fun found ↦ ?_
    cases found with
    | none => exact errsOnly_of_delivers fun _ _ ↦ ⟨_, rfl⟩
    | some node =>
      refine ErrsOnly.bind (fun _ _ error herror ↦ ?_) fun short ↦ ?_
      · exact absurd herror (nodeShortId_ne_err node.nodeId error)
      · refine (ih (excluded ++ [short])).bind fun rest ↦ ?_
        exact errsOnly_of_delivers fun _ _ ↦ ⟨_, rfl⟩

/-! ### The source of a route -/

variable (config) in
/-- The configuration lets nodes come from a list: always, or as long as the directory is open. -/
def UsesLists : Prop :=
  config.routeDiscoveryMode = "legacy" ∨
    config.restrictedDirectory = none ∧
      (config.routeDiscoveryMode = "auto" ∨ config.profileRequest ≠ none)

variable (world config) in
/-- A node that the directory has delivered in this call. -/
def Sourced (intent : String) (added : List Event) (node : Node) : Prop :=
  Ticketed world config intent added node ∨
    (UsesLists config ∧ Listed world config added node)

lemma Sourced.mono {intent : String} (h : Sourced world config intent added node)
    (hsub : added ⊆ more) : Sourced world config intent more node :=
  h.imp (·.mono hsub) fun hlisted ↦ ⟨hlisted.1, hlisted.2.mono hsub⟩

/-- The source of a route only asks the directory, with the membership of the client and for lists
only if the configuration lets it, and every node that it delivers was delivered by the directory in
this call. -/
lemma routeSource_guarantees :
    Guarantees (OnlyAsks world config (UsesLists config))
      (fun list added ↦ ∀ node ∈ list.nodes, Sourced world config intent added node)
      (routeSource world config intent opts) := by
  have hlists : UsesLists config → Guarantees (OnlyAsks world config (UsesLists config))
      (fun list added ↦ ∀ node ∈ list.nodes, Sourced world config intent added node)
      (discover world config intent opts) := by
    intro huses
    refine (discover_guarantees intent opts).mono (fun _ h ↦ h.mono fun _ ↦ huses)
      fun list added _ h node hnode ↦ ?_
    exact .inr ⟨huses, h node hnode⟩
  unfold routeSource
  by_cases hmode : config.routeDiscoveryMode = "legacy" ∨
      (config.profileRequest.isSome ∧ config.restrictedDirectory.isNone)
  · rw [if_pos hmode]
    refine hlists (hmode.imp id fun hprofile ↦ ?_)
    rw [Option.isNone_iff_eq_none, Option.isSome_iff_ne_none] at hprofile
    exact ⟨hprofile.2, .inr hprofile.1⟩
  · rw [if_neg hmode]
    have hrounds : Guarantees (OnlyAsks world config (UsesLists config))
        (fun nodes added ↦ ∀ node ∈ nodes, Ticketed world config intent added node)
        (ticketRounds world config intent opts maxRetries []) :=
      (ticketRounds_guarantees intent opts maxRetries []).mono (fun _ h ↦ h.mono False.elim)
        fun _ _ _ h ↦ h
    refine (hrounds.attempt (ticketRounds_errs intent opts maxRetries [])).bind ?_ fun _ h ↦ h
    intro result added hasks hresult
    cases result with
    | ok nodes =>
      refine guarantees_pure _ (by simpa using hasks) fun node hnode ↦ ?_
      exact .inl (by simpa using hresult.1 nodes rfl node hnode)
    | error error =>
      cases error with
      | legacyRequired =>
        dsimp only
        split_ifs with hauto
        · have hopen := hresult.2 .legacyRequired rfl rfl
          refine (hlists (.inr ⟨hopen, .inl hauto⟩)).mono
            (fun more hmore ↦ onlyAsks_append.mpr ⟨hmore, hasks⟩) fun list more _ h node hnode ↦ ?_
          exact (h node hnode).mono (by simp)
        · exact guarantees_fail _ (by simpa using hasks)
      | iicp => exact guarantees_fail _ (by simpa using hasks)

end Provenance

end Iicp.Client
