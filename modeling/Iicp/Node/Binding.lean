import Iicp.Node.Transports

/-!
# What binds an envelope to its request

Clients seal payloads, and someone between them and the providers sends requests: with envelopes
that were sealed for other requests, put together from parts of several, or changed. The sender
cannot forge. What a provider decrypts was encrypted under the same key, with the same nonce and the
same additional data, by one of the calls that the clients made (`Unforged.authentic`), and two
derived keys are equal only if they are derived from the same text (`Unforged.separated`).

A provider reads the task id and the intent of an envelope out of its additional data, and never
compares them with those of the request around it. `bound_request_seals_pair` says what such a
comparison would give, and `moved_envelope_runs` is a run without it.
-/

namespace Iicp.Node

open Rust Outcome List Confidentiality Http

/-! ### What a client encrypts -/

/-- One call of `encryptPayloadWithContext`, with what it draws at random. -/
structure SealCall where
  payload : Json
  cxPublicKey : CxPublicKey
  taskId : String
  intent : String
  ephemPriv : Key
  nonce : Nonce

namespace SealCall

variable (crates : SealingCrates) (call : SealCall)

def result : Outcome IicpError (Envelope × Key) :=
  encryptPayloadWithContext crates call.payload call.cxPublicKey call.taskId call.intent
    call.ephemPriv call.nonce

def Derives (key : Key) : Prop :=
  ∃ nodePub, advertisedKey crates call.cxPublicKey = .ok nodePub ∧
    crates.hkdfExpand call.nonce.bytes (crates.diffieHellman call.ephemPriv nodePub).bytes
      (asBytes (requestInfo call.taskId call.intent)) = .ok key

/-- What the call encrypts, and what comes out. -/
def Encrypts (key : Key) (nonce : Nonce) (plaintext aad msg : List UInt8) : Prop :=
  call.Derives crates key ∧ nonce = call.nonce ∧ crates.toVec call.payload = .ok plaintext ∧
    aad = asBytes (requestAad call.taskId call.intent) ∧
    crates.aesEncrypt key nonce plaintext aad = .ok msg

end SealCall

/-! ### What a provider decrypts -/

/-- What opening an envelope gives to the cipher: the key and the text that it is derived from, the
nonce, the sealed text and the additional data. -/
def CipherInput (crates : Crates) (conf : Envelope) (privateKey key : Key) (nonce : Nonce)
    (msg aad : List UInt8) (taskId intent : String) : Prop :=
  ∃ ephemPub : Key, FieldDecodes crates conf "kem_ciphertext" ephemPub.bytes ∧
    FieldDecodes crates conf "nonce" nonce.bytes ∧ FieldDecodes crates conf "aad" aad ∧
    FieldDecodes crates conf "encrypted_body" msg ∧
    crates.fromUtf8 aad = .ok (requestAad taskId intent) ∧ '|' ∉ taskId.toList ∧
    crates.hkdfExpand nonce.bytes (crates.diffieHellman privateKey ephemPub).bytes
      (asBytes (requestInfo taskId intent)) = .ok key

variable {crates : Crates}

/-- A payload that is opened was decrypted from the envelope's fields. -/
lemma decryptPayload_opened {conf : Envelope} {privateKey secret : Key} {payload : Json}
    (h : decryptPayloadWithContext crates conf privateKey = .ok (payload, secret)) :
    ∃ key nonce msg aad taskId intent plaintext,
      CipherInput crates conf privateKey key nonce msg aad taskId intent ∧
      crates.aesDecrypt key nonce msg aad = .ok plaintext ∧
      crates.parseJson plaintext = .ok payload := by
  simp only [decryptPayloadWithContext, bind_eq_ok_iff, textField_eq_ok_iff,
    decodeText_eq_ok_iff, ephemeralKey_eq_ok_iff, ofExcept_eq_ok_iff, deriveKey_eq_ok_iff,
    newCipher_eq_ok_iff, Prod.exists, splitContext_eq_ok_iff, decryptWith] at h
  obtain ⟨kemCt, hkem, _, hkemBytes, ephemPub, rfl, nonceStr, hnonce, nonceBytes, hnonceBytes,
    aadStr, haad, aad, haadBytes, _, hutf8, taskId, intent, ⟨rfl, hsplit⟩, key, hkey, bodyStr,
    hbody, msg, hmsg, _, ⟨rfl, -⟩, plaintext, ⟨nonce, hsize, hplain⟩, _, hparse, hresult⟩ := h
  obtain ⟨rfl, -⟩ := Prod.mk.inj (ok.inj hresult)
  have hnonceEq : nonceBytes = nonce.bytes := by
    unfold Nonce.fromSlice at hsize
    split_ifs at hsize
    rw [← ok.inj hsize]
  subst hnonceEq
  exact ⟨key, nonce, msg, aad, taskId, intent, plaintext, ⟨ephemPub, ⟨kemCt, hkem, hkemBytes⟩,
    ⟨nonceStr, hnonce, hnonceBytes⟩, ⟨aadStr, haad, haadBytes⟩, ⟨bodyStr, hbody, hmsg⟩, hutf8,
    hsplit, hkey⟩, hplain, hparse⟩

/-- The sender has not forged an envelope, given the calls that the clients have made. What the
provider decrypts was encrypted by one of the calls, under the same key and together with the same
additional data; the provider has the key of a call only if both derived it from the same text; and
texts and payloads are read back as the calls wrote them. -/
structure Unforged (crates : SealingCrates) (calls : List SealCall) (conf : Envelope)
    (privateKey : Key) : Prop where
  authentic : ∀ key nonce msg aad taskId intent plaintext,
    CipherInput crates.toCrates conf privateKey key nonce msg aad taskId intent →
    crates.aesDecrypt key nonce msg aad = .ok plaintext →
    ∃ call ∈ calls, call.Encrypts crates key nonce plaintext aad msg
  separated : ∀ key nonce msg aad taskId intent,
    CipherInput crates.toCrates conf privateKey key nonce msg aad taskId intent →
    ∀ call ∈ calls, call.Derives crates key →
      requestInfo taskId intent = requestInfo call.taskId call.intent
  parsed : ∀ call ∈ calls, ∀ plaintext, crates.toVec call.payload = .ok plaintext →
    crates.parseJson plaintext = .ok call.payload

/-! ### Two texts that name one pair -/

/-- If no separator stands in the task id nor at the start of the intent, then the additional data
and the text of the key derivation together determine both. -/
lemma requestTexts_determine_pair {taskId intent sealedId sealedIntent : String}
    (haad : requestAad sealedId sealedIntent = requestAad taskId intent)
    (hinfo : requestInfo taskId intent = requestInfo sealedId sealedIntent)
    (hid : '|' ∉ taskId.toList) (hintent : intent.toList.head? ≠ some '|') :
    sealedId = taskId ∧ sealedIntent = intent := by
  have haadChars : sealedId.toList ++ '|' :: sealedIntent.toList =
      taskId.toList ++ '|' :: intent.toList := by
    simpa [requestAad] using congrArg String.toList haad
  have hinfoChars : taskId.toList ++ intent.toList =
      sealedId.toList ++ sealedIntent.toList := by
    simpa [requestInfo] using congrArg String.toList hinfo
  rcases append_eq_append_iff.mp haadChars with
    ⟨rest, hrest, hcut⟩ | ⟨rest, hrest, hcut⟩
  · cases rest with
    | nil =>
      rw [append_nil] at hrest
      rw [nil_append, cons.injEq] at hcut
      exact ⟨String.toList_inj.mp hrest.symm, String.toList_inj.mp hcut.2⟩
    | cons =>
      rw [cons_append, cons.injEq] at hcut
      refine absurd ?_ hid
      rw [hrest, ← hcut.1]
      simp
  · cases rest with
    | nil =>
      rw [append_nil] at hrest
      rw [nil_append, cons.injEq] at hcut
      exact ⟨String.toList_inj.mp hrest, String.toList_inj.mp hcut.2.symm⟩
    | cons =>
      rw [cons_append, cons.injEq] at hcut
      rw [hrest, append_assoc, append_cancel_left_eq] at hinfoChars
      refine absurd ?_ hintent
      rw [hinfoChars, ← hcut.1]
      rfl

/-! ### Runs -/

/-- A request on its way to a provider: posted over HTTP, or passed on by a relay. -/
inductive Arrival where
  | http (world : Surroundings) (headers : Headers) (body : HttpBody)
  | relay (task : Json)

def Arrival.request : Arrival → Option TaskRequest
  | .http _ _ body => body.value.bind TaskRequest.deserialize
  | .relay task => some (relayRequest task)

/-- What the provider calls its handler with. -/
def Arrival.Invokes (crates : Crates) (state : AppState) (invocation : Invocation) :
    Arrival → Prop
  | .http world headers body =>
    (taskEndpoint crates world headers body state).1 = .ok invocation
  | .relay task => relayHandler crates state.cxPrivateKey task = .ok invocation

def Arrival.leaves (crates : Crates) (state : AppState) : Arrival → AppState
  | .http world headers body => (taskEndpoint crates world headers body state).2
  | .relay _ => state

/-- The calls of the clients so far, the providers, and what their handlers have been called
with. -/
structure History where
  calls : List SealCall
  nodes : ℕ → AppState
  executions : List Invocation

def History.setNode (history : History) (node : ℕ) (state : AppState) : History :=
  { history with nodes := Function.update history.nodes node state }

/-- The sender has not forged the envelope of a request for a provider. -/
def History.Permits (crates : SealingCrates) (history : History) (node : ℕ) (arrival : Arrival) :
    Prop :=
  ∀ request ∈ arrival.request, ∀ conf ∈ request.iicpConf,
    ∀ privateKey ∈ (history.nodes node).cxPrivateKey, Unforged crates history.calls conf privateKey

/-- The runs in which clients seal payloads, and any requests of an allowed kind arrive whose
envelopes are not forged. -/
inductive Run (crates : SealingCrates) (allowed : TaskRequest → Prop) : History → Prop where
  | start (nodes : ℕ → AppState) : Run crates allowed ⟨[], nodes, []⟩
  | sealed {history : History} (call : SealCall) (run : Run crates allowed history)
      (returned : ∃ result, call.result crates = .ok result) :
      Run crates allowed { history with calls := call :: history.calls }
  | refused {history : History} (node : ℕ) (arrival : Arrival) (run : Run crates allowed history)
      (permitted : history.Permits crates node arrival)
      (kind : ∀ request ∈ arrival.request, allowed request)
      (refuses : ∀ invocation, ¬ arrival.Invokes crates.toCrates (history.nodes node) invocation) :
      Run crates allowed
        (history.setNode node (arrival.leaves crates.toCrates (history.nodes node)))
  | executed {history : History} (node : ℕ) (arrival : Arrival) (invocation : Invocation)
      (run : Run crates allowed history) (permitted : history.Permits crates node arrival)
      (kind : ∀ request ∈ arrival.request, allowed request)
      (invokes : arrival.Invokes crates.toCrates (history.nodes node) invocation) :
      Run crates allowed { history.setNode node
        (arrival.leaves crates.toCrates (history.nodes node)) with
          executions := invocation :: history.executions }
  | finished {history : History} (node : ℕ) (run : Run crates allowed history) :
      Run crates allowed (history.setNode node
        { history.nodes node with activeJobs := (history.nodes node).activeJobs - 1 })

/-- A payload that was decrypted for a request was sealed for its task id and its intent. -/
def Bound (calls : List SealCall) (invocation : Invocation) : Prop :=
  invocation.sharedSecret.isSome = true → ∃ call ∈ calls,
    call.payload = invocation.request.payload ∧ call.taskId = invocation.request.taskId ∧
      call.intent = invocation.request.intent

/-- The comparison that a provider could make: the additional data of the envelope is made of the
task id and the intent of the request, and there is one way only to read them out of it. -/
def NamesOwnPair (crates : Crates) (request : TaskRequest) : Prop :=
  '|' ∉ request.taskId.toList ∧ request.intent.toList.head? ≠ some '|' ∧
    ∀ conf ∈ request.iicpConf, ∀ aad, FieldDecodes crates conf "aad" aad →
      crates.fromUtf8 aad = .ok (requestAad request.taskId request.intent)

/-! ### The comparison binds -/

/-- What a handler is called with comes from the request: only the payload is new, and if it was
decrypted, then from the envelope of the request. -/
lemma openConf_opened {cxPrivateKey : Option Key} {request opened : TaskRequest}
    {sharedSecret : Option Key}
    (h : openConf crates cxPrivateKey request = .ok (opened, sharedSecret))
    (hsome : sharedSecret.isSome) :
    ∃ conf ∈ request.iicpConf, ∃ privateKey ∈ cxPrivateKey, ∃ payload secret,
      decryptPayloadWithContext crates conf privateKey = .ok (payload, secret) ∧
      opened = { request with payload := payload } := by
  rcases openConf_cases crates cxPrivateKey request with
    ⟨-, hopen⟩ | ⟨conf, -, -, hconf, hopen⟩
  · rw [hopen] at h
    obtain ⟨-, rfl⟩ := Prod.mk.inj (ok.inj h)
    nomatch hsome
  · rw [hopen] at h
    obtain ⟨_, hkey, h⟩ := (bind_eq_ok_iff _ _ _).mp h
    obtain ⟨⟨payload, secret⟩, hdecrypt, h⟩ := (bind_eq_ok_iff _ _ _).mp h
    obtain ⟨rfl, -⟩ := Prod.mk.inj (ok.inj h)
    cases cxPrivateKey with
    | none => nomatch hkey
    | some key =>
      obtain rfl := ok.inj hkey
      exact ⟨conf, hconf, key, rfl, payload, secret, hdecrypt, rfl⟩

variable {invocation : Invocation}

/-- Whatever the transport, the handler is called with the opened request. -/
lemma invokes_opened {arrival : Arrival} {state : AppState}
    (h : arrival.Invokes crates state invocation) :
    ∃ request ∈ arrival.request, ∃ opened,
      openConf crates state.cxPrivateKey request = .ok (opened, invocation.sharedSecret) ∧
      invocation.request.taskId = opened.taskId ∧ invocation.request.intent = opened.intent ∧
      invocation.request.payload = opened.payload := by
  cases arrival with
  | http world headers body =>
    have hinvoked : (taskEndpoint crates world headers body state).1 = .ok invocation := h
    obtain ⟨-, request, hbody, -, -, opened, sharedSecret, hopen, -, rfl⟩ :=
      (taskEndpoint_invokes_iff crates world headers body state invocation).mp hinvoked
    refine ⟨request, hbody, opened, hopen, ?_⟩
    dsimp only
    unfold withTrace
    split <;> exact ⟨rfl, rfl, rfl⟩
  | relay task =>
    change relayHandler crates state.cxPrivateKey task = _ at h
    rw [relayHandler] at h
    split at h
    next opened sharedSecret hopen =>
      obtain rfl := ok.inj h
      exact ⟨relayRequest task, rfl, opened, hopen, rfl, rfl, rfl⟩
    next => cases h
    next => cases h

/-- One arrival: a request that names its own pair runs with a payload that was sealed for it. -/
lemma invokes_bound {crates : SealingCrates} {history : History} {node : ℕ} {arrival : Arrival}
    (hpermitted : history.Permits crates node arrival)
    (hkind : ∀ request ∈ arrival.request, NamesOwnPair crates.toCrates request)
    (h : arrival.Invokes crates.toCrates (history.nodes node) invocation) :
    Bound history.calls invocation := by
  intro hsome
  obtain ⟨request, hrequest, _, hopen, hid, hintent, hpayload⟩ := invokes_opened h
  obtain ⟨conf, hconf, privateKey, hkey, _, _, hdecrypt, rfl⟩ :=
    openConf_opened hopen hsome
  obtain ⟨key, nonce, msg, aad, taskId, intent, plaintext, hinput, hplain, hparse⟩ :=
    decryptPayload_opened hdecrypt
  have hunforged := hpermitted request hrequest conf hconf privateKey hkey
  obtain ⟨call, hcall, hderives, -, hvec, rfl, -⟩ :=
    hunforged.authentic key nonce msg aad taskId intent plaintext hinput hplain
  have hinfo := hunforged.separated key nonce msg _ taskId intent hinput call hcall hderives
  obtain ⟨hnoPipe, hnoStart, hnamed⟩ := hkind request hrequest
  obtain ⟨-, -, -, haad, -, hutf8, hsplit, -⟩ := hinput
  have hown := hnamed conf hconf _ haad
  have hsealed : requestAad call.taskId call.intent = requestAad request.taskId request.intent :=
    Except.ok.inj ((fromUtf8_asBytes _ _).symm.trans hown)
  have hcut : requestAad taskId intent = requestAad request.taskId request.intent :=
    Except.ok.inj (hutf8.symm.trans hown)
  have hpair : taskId = request.taskId ∧ intent = request.intent := by
    have hfirst := (splitContext_eq_ok_iff _ taskId intent).mpr ⟨hcut.symm, hsplit⟩
    have hsecond := (splitContext_eq_ok_iff _ request.taskId request.intent).mpr ⟨rfl, hnoPipe⟩
    exact Prod.mk.inj (ok.inj (hfirst.symm.trans hsecond))
  obtain ⟨rfl, rfl⟩ := hpair
  obtain ⟨hsealedId, hsealedIntent⟩ :=
    requestTexts_determine_pair hsealed hinfo hnoPipe hnoStart
  have hjson := Except.ok.inj ((hunforged.parsed call hcall plaintext hvec).symm.trans hparse)
  exact ⟨call, hcall, hjson.trans hpayload.symm, hsealedId.trans hid.symm,
    hsealedIntent.trans hintent.symm⟩

/-- A call more does not unbind what was bound. -/
lemma Bound.mono {calls more : List SealCall} (h : Bound calls invocation) (hsub : calls ⊆ more) :
    Bound more invocation := by
  intro hsome
  obtain ⟨call, hcall, hequal⟩ := h hsome
  exact ⟨call, hsub hcall, hequal⟩

/-- In every run in which the requests name their own pairs, each payload that is decrypted for a
request was sealed for its task id and its intent.
Assumes: the sender does not forge envelopes. -/
theorem bound_request_seals_pair (crates : SealingCrates) (history : History)
    (run : Run crates (NamesOwnPair crates.toCrates) history) :
    ∀ invocation ∈ history.executions, Bound history.calls invocation := by
  induction run with
  | start => simp
  | sealed call run returned ih =>
    intro invocation hmem
    exact (ih invocation hmem).mono (subset_cons_self _ _)
  | refused node arrival run permitted kind refuses ih => exact ih
  | @executed history node arrival invocation run permitted kind invokes ih =>
    have hbound : Bound history.calls invocation := invokes_bound permitted kind invokes
    rw [forall_mem_cons]
    exact ⟨hbound, ih⟩
  | finished node run ih => exact ih

/-! ### One envelope in two requests -/

def sampleCall : SealCall :=
  ⟨vectorPayload, vectorAdvertised, "t1", chatIntent, vectorEphemeral, vectorNonce⟩

def sampleEnvelope : Envelope :=
  requestEnvelope vectorCrates vectorAdvertised.keyId (vectorPublicKey vectorEphemeral) vectorNonce
    (requestAad "t1" chatIntent) (vectorCiphertext "t1") 7

variable (taskId intent : String)

def carrier : Task where
  taskId := taskId
  intent := intent
  payload := .null
  iicpConf := some sampleEnvelope
  cxResponseEncryption := none
  constraints := none
  auth := none
  nonce := none
  sourceNodeId := none

def keyedState : AppState := { idleState with cxPrivateKey := some vectorPrivateKey }

/-- The handler is called with the sample payload for this task id and this intent. -/
def sampleInvocation : Invocation :=
  ⟨{ (carrier taskId intent).request with payload := vectorPayload }, some vectorSecret, false⟩

/-- The history of a run in which the sample call is made and the envelope arrives at once. -/
def sampleHistory : History where
  calls := [sampleCall]
  nodes := Function.update (fun _ ↦ keyedState) 0
    ((Arrival.http quietMoment ⟨none, none⟩ ((carrier taskId intent).posted 1024)).leaves
      vectorCrates.toCrates keyedState)
  executions := [sampleInvocation taskId intent]

lemma sampleCall_result : sampleCall.result vectorCrates = .ok (sampleEnvelope, vectorSecret) :=
  encryptPayload_sealed (vectorCrates_request (.inl rfl))

lemma sampleEnvelope_opens :
    decryptPayloadWithContext vectorCrates.toCrates sampleEnvelope vectorPrivateKey =
      .ok (vectorPayload, vectorSecret) := by
  have laws := @vectorCrates_request "t1" (.inl rfl)
  have hsplit : splitContext (requestAad "t1" chatIntent) = .ok ("t1", chatIntent) := by decide
  exact (decryptPayload_sealed laws hsplit 7).trans (openUnder_sealed laws)

/-- Whatever the task id, and whatever intent the policy permits, the handler is called. -/
lemma carrier_invokes {taskId intent : String} (hpermits : permitsIntent false intent) :
    (Arrival.http quietMoment ⟨none, none⟩ ((carrier taskId intent).posted 1024)).Invokes
      vectorCrates.toCrates keyedState (sampleInvocation taskId intent) := by
  have hfits : 1024 ≤ maxHttpTaskBodyBytes := by decide
  refine (taskEndpoint_invokes_iff _ _ _ _ _ _).mpr
    ⟨hfits, _, (carrier taskId intent).deserialize_body, rfl, ⟨hpermits, rfl, rfl, nofun, fun _ ↦ ?_⟩, ?_⟩
  · unfold checkAndRegister
    split_ifs
    · rfl
    · simp [keyedState, idleState]
  refine ⟨{ (carrier taskId intent).request with payload := vectorPayload }, some vectorSecret, ?_,
    fun _ ↦ rfl, rfl⟩
  exact congrArg (fun opened : Outcome IicpError (Json × Key) ↦ do
    let pair ← opened
    .ok ({ (carrier taskId intent).request with payload := pair.1 }, some pair.2))
    sampleEnvelope_opens

/-- The fields of the sample envelope decode to what was sealed. -/
lemma sampleEnvelope_decodes {name : String} {text : String} {bytes decoded : List UInt8}
    (hget : Json.getField sampleEnvelope name = some (.string text))
    (hdecode : vectorCrates.b64urlDecode text = .ok bytes)
    (h : FieldDecodes vectorCrates.toCrates sampleEnvelope name decoded) : decoded = bytes := by
  obtain ⟨_, hfound, hdecoded⟩ := h
  rw [hget, Option.some.injEq, Json.string.injEq] at hfound
  subst hfound
  exact Except.ok.inj (hdecoded.symm.trans hdecode)

lemma sampleEnvelope_input {key : Key} {nonce : Nonce} {msg aad : List UInt8}
    {taskId intent : String} (h : CipherInput vectorCrates.toCrates sampleEnvelope vectorPrivateKey
      key nonce msg aad taskId intent) :
    key = vectorKey "t1" ∧ nonce = vectorNonce ∧ msg = vectorCiphertext "t1" ∧
      aad = asBytes (requestAad "t1" chatIntent) ∧ taskId = "t1" ∧ intent = chatIntent := by
  have laws := @vectorCrates_request "t1" (.inl rfl)
  obtain ⟨ephemPub, hkem, hnonce, haad, hbody, hutf8, hsplit, hkey⟩ := h
  obtain rfl := sampleEnvelope_decodes rfl (laws.decoded _ (by simp)) haad
  obtain rfl := sampleEnvelope_decodes rfl (laws.decoded _ (by simp)) hbody
  have hnonceEq := sampleEnvelope_decodes rfl (laws.decoded vectorNonce.bytes (by simp)) hnonce
  obtain rfl : nonce = vectorNonce := by
    cases nonce
    congr
  have hkemEq := sampleEnvelope_decodes rfl
    (laws.decoded (vectorCrates.publicKey vectorEphemeral).bytes (by simp)) hkem
  obtain rfl : ephemPub = vectorPublicKey vectorEphemeral := by
    cases ephemPub
    congr
  have hsame := Except.ok.inj ((fromUtf8_asBytes _ _).symm.trans hutf8)
  have hcut := (splitContext_eq_ok_iff _ taskId intent).mpr ⟨hsame, hsplit⟩
  have hown : splitContext (requestAad "t1" chatIntent) = .ok ("t1", chatIntent) := by decide
  obtain ⟨rfl, rfl⟩ := Prod.mk.inj (ok.inj (hcut.symm.trans hown))
  exact ⟨Except.ok.inj (hkey.symm.trans laws.derived), rfl, rfl, rfl, rfl, rfl⟩

/-- Nothing is forged: the sample envelope was sealed by the sample call. -/
lemma sampleEnvelope_unforged :
    Unforged vectorCrates [sampleCall] sampleEnvelope vectorPrivateKey := by
  have laws := @vectorCrates_request "t1" (.inl rfl)
  refine ⟨?_, ?_, ?_⟩
  · intro key nonce msg aad taskId intent plaintext hinput hplain
    obtain ⟨rfl, rfl, rfl, rfl, rfl, rfl⟩ := sampleEnvelope_input hinput
    obtain rfl := Except.ok.inj (laws.decrypted.symm.trans hplain)
    exact ⟨sampleCall, mem_singleton_self _, ⟨_, advertisedKey_of_decoded laws.advertised,
      laws.derived⟩, rfl, laws.serialised, rfl, laws.encrypted⟩
  · intro key nonce msg aad taskId intent hinput call hcall _
    obtain ⟨-, -, -, -, rfl, rfl⟩ := sampleEnvelope_input hinput
    rw [mem_singleton.mp hcall]
    rfl
  · intro call hcall plaintext hvec
    rw [mem_singleton.mp hcall] at hvec ⊢
    obtain rfl := Except.ok.inj (laws.serialised.symm.trans hvec)
    exact laws.parsed

/-- The sample call is made, and a task that carries its envelope arrives. -/
lemma sampleHistory_run {allowed : TaskRequest → Prop} {taskId intent : String}
    (hpermits : permitsIntent false intent) (hallowed : allowed (carrier taskId intent).request) :
    Run vectorCrates allowed (sampleHistory taskId intent) := by
  have hrequest : ∀ request,
      request ∈ (Arrival.http quietMoment ⟨none, none⟩ ((carrier taskId intent).posted 1024)).request →
        request = (carrier taskId intent).request := fun request h ↦
    (Option.some.inj ((carrier taskId intent).deserialize_body.symm.trans h)).symm
  have hsealed := Run.sealed sampleCall (@Run.start vectorCrates allowed fun _ ↦ keyedState)
    ⟨_, sampleCall_result⟩
  refine Run.executed 0 (.http quietMoment ⟨none, none⟩ ((carrier taskId intent).posted 1024))
    (sampleInvocation taskId intent) hsealed ?_ ?_ (carrier_invokes hpermits)
  · intro request h conf hconf privateKey hkey
    rw [hrequest request h] at hconf
    obtain rfl := Option.some.inj hconf
    obtain rfl := Option.some.inj hkey
    exact sampleEnvelope_unforged
  · intro request h
    rw [hrequest request h]
    exact hallowed

/-- The sample envelope in the request that it was sealed for. -/
theorem bound_request_seals_sample :
    Run vectorCrates (NamesOwnPair vectorCrates.toCrates) (sampleHistory "t1" chatIntent) ∧
    (sampleInvocation "t1" chatIntent).sharedSecret.isSome ∧
    Bound [sampleCall] (sampleInvocation "t1" chatIntent) := by
  have hnames : NamesOwnPair vectorCrates.toCrates (carrier "t1" chatIntent).request := by
    refine ⟨by decide, by decide, ?_⟩
    intro conf hconf aad haad
    obtain rfl := Option.some.inj hconf
    have laws := @vectorCrates_request "t1" (.inl rfl)
    obtain rfl := sampleEnvelope_decodes rfl (laws.decoded _ (by simp)) haad
    exact fromUtf8_asBytes _ _
  have hrun := sampleHistory_run (by decide) hnames
  exact ⟨hrun, rfl, bound_request_seals_pair vectorCrates _ hrun _ (mem_singleton_self _)⟩

/-- The sample envelope in a request with another task id and another intent: the provider runs its
handler on the payload. -/
theorem moved_envelope_runs :
    Run vectorCrates (fun _ ↦ True) (sampleHistory "t2" "urn:iicp:intent:llm:embed:v1") ∧
    ∃ invocation ∈ (sampleHistory "t2" "urn:iicp:intent:llm:embed:v1").executions,
      ¬ Bound (sampleHistory "t2" "urn:iicp:intent:llm:embed:v1").calls invocation := by
  refine ⟨sampleHistory_run (by decide) trivial, _, mem_singleton_self _, ?_⟩
  intro hbound
  obtain ⟨_, hcall, -, hid, -⟩ := hbound rfl
  rw [mem_singleton.mp hcall] at hid
  exact absurd hid (by decide)

end Iicp.Node
