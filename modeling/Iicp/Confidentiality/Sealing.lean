import Mathlib.Data.List.TakeWhile
import Iicp.Confidentiality.OperatorSecret

/-!
# Sealing confidential envelopes

A client seals the payload of a task with `encryptPayloadWithContext`, and a provider seals its
answer with `encryptResponse`. What the two functions draw at random, the ephemeral key and the
nonce, is an argument here. The task id and the intent are written into the additional data with a
separator between them and into the derivation of the key with none.

The opener is given neither text: it cuts the additional data at the first separator. Opening a
sealed payload therefore derives the key that sealed it exactly when everything after the first
separator of the task id is a separator again (`splitContext_requestAad`,
`exchange_roundtrips_iff`).
-/

namespace Iicp.Confidentiality

open Rust Outcome IicpError List

/-! ### What other crates provide to a sealer -/

/-- The functions of other crates that a sealer uses besides those of an opener. -/
structure SealingCrates extends Crates where
  b64urlEncode : List UInt8 → String
  toVec : Json → Except String (List UInt8)
  publicKey : Key → Key
  aesEncrypt : Key → Nonce → (msg aad : List UInt8) → Except Unit (List UInt8)

/-- The public key that a provider advertises. -/
structure CxPublicKey where
  algorithm : String
  encoding : Option String
  key : String
  keyId : String
  features : List String
  deriving DecidableEq, Repr

/-! ### Sealing a request -/

/-- The bytes of an advertised key, whose length is checked before the copy. -/
def advertisedKey (crates : SealingCrates) (cxPublicKey : CxPublicKey) : Outcome IicpError Key := do
  let nodePubBytes ← ofExcept (fun error ↦ node ("cx_public_key decode error: " ++ error))
    (crates.b64urlDecode cxPublicKey.key)
  if nodePubBytes.length ≠ 32 then .err (.node "cx_public_key must be 32 bytes")
  else Key.copyFromSlice nodePubBytes

/-- What the key of a request is derived from. -/
def requestInfo (taskId intent : String) : String := "IICP-CX-v1" ++ taskId ++ intent

/-- The additional data of a request. -/
def requestAad (taskId intent : String) : String := taskId ++ "|" ++ intent

def encryptWith (crates : SealingCrates) (cipher : Key) (nonce : Nonce) (msg : List UInt8)
    (aad : String) : Outcome IicpError (List UInt8) :=
  ofExcept (fun _ ↦ .node "AES-GCM encrypt failed")
    (crates.aesEncrypt cipher nonce msg (asBytes aad))

def requestEnvelope (crates : SealingCrates) (keyId : String) (ephemPub : Key) (nonce : Nonce)
    (aad : String) (ciphertext : List UInt8) (plaintextSize : ℕ) : Envelope :=
  [("aad", .string (crates.b64urlEncode (asBytes aad))),
    ("encrypted_body", .string (crates.b64urlEncode ciphertext)),
    ("kem_ciphertext", .string (crates.b64urlEncode ephemPub.bytes)),
    ("nonce", .string (crates.b64urlEncode nonce.bytes)),
    ("plaintext_size", .ofU64 plaintextSize),
    ("recipient_key_id", .string keyId),
    ("version", .ofU64 1)]

/-- Seals the payload of a task for an advertised key: the envelope, and the secret that the answer
shares with it. -/
def encryptPayloadWithContext (crates : SealingCrates) (payload : Json) (cxPublicKey : CxPublicKey)
    (taskId intent : String) (ephemPriv : Key) (nonce : Nonce) :
    Outcome IicpError (Envelope × Key) := do
  if cxPublicKey.algorithm ≠ "X25519" then
    .err (.node ("Unsupported cx_public_key algorithm: " ++ cxPublicKey.algorithm))
  let nodePub ← advertisedKey crates cxPublicKey
  let sharedSecret := crates.diffieHellman ephemPriv nodePub
  let keyMaterial ←
    deriveKey crates.toCrates nonce.bytes sharedSecret.bytes (requestInfo taskId intent)
  let payloadJson ← ofExcept
    (fun error ↦ node ("payload serialization: " ++ error)) (crates.toVec payload)
  let cipher ← newCipher crates.toCrates (.node "AES key error") keyMaterial
  let ciphertext ← encryptWith crates cipher nonce payloadJson (requestAad taskId intent)
  .ok (requestEnvelope crates cxPublicKey.keyId (crates.publicKey ephemPriv) nonce
    (requestAad taskId intent) ciphertext payloadJson.length, sharedSecret)

/-! ### Sealing a response -/

/-- Seals the answer of a provider under the secret that the request shares with it. -/
def encryptResponse (crates : SealingCrates) (response : Json) (sharedSecret : List UInt8)
    (taskId : String) (nonce : Nonce) : Outcome IicpError Envelope := do
  let keyMaterial ← deriveKey crates.toCrates nonce.bytes sharedSecret ("IICP-CX-RESP-v1" ++ taskId)
  let aad := taskId ++ "|resp"
  let cipher ← newCipher crates.toCrates (.node "AES key error") keyMaterial
  let body ← ofExcept
    (fun error ↦ node ("response serialization: " ++ error)) (crates.toVec response)
  let ciphertext ← encryptWith crates cipher nonce body aad
  .ok [("encrypted_body", .string (crates.b64urlEncode ciphertext)),
    ("nonce", .string (crates.b64urlEncode nonce.bytes)), ("version", .ofU64 1)]

/-! ### Where the opener cuts the additional data -/

variable (text : String)

/-- After its first separator, a text has separators only. -/
def SeparatorsTrail : Prop :=
  ∀ char ∈ text.toList.dropWhile (· != '|'), char = '|'

instance (text : String) : Decidable (SeparatorsTrail text) :=
  decidableBAll (· = '|') (text.toList.dropWhile (· != '|'))

/-- Moving one character from the end of a list to its front changes nothing exactly when the list
repeats this character. -/
lemma append_singleton_eq_cons_iff {α : Type} (last : α) (items : List α) :
    items ++ [last] = last :: items ↔ ∀ item ∈ items, item = last := by
  induction items with
  | nil => simp
  | cons first rest ih =>
    rw [cons_append, cons.injEq, forall_mem_cons]
    constructor
    · rintro ⟨rfl, h⟩
      exact ⟨rfl, ih.mp h⟩
    · rintro ⟨rfl, h⟩
      exact ⟨rfl, ih.mpr h⟩

/-- A text has no separator, or it is cut at the first one. -/
lemma cut_cases :
    ('|' ∉ text.toList ∧ text.toList.dropWhile (· != '|') = []) ∨
      ∃ before rest, text.toList = before ++ '|' :: rest ∧ '|' ∉ before ∧
        text.toList.dropWhile (· != '|') = '|' :: rest := by
  have hpass : ∀ chars : List Char, '|' ∉ chars → ∀ char ∈ chars, (char != '|') := by
    intro chars h char hchar
    rw [bne_iff_ne]
    rintro rfl
    exact h hchar
  by_cases h : '|' ∈ text.toList
  · obtain ⟨before, rest, htext, hbefore⟩ := eq_append_cons_of_mem h
    refine .inr ⟨before, rest, htext, hbefore, ?_⟩
    rw [htext, dropWhile_append_of_pos (hpass before hbefore)]
    exact dropWhile_cons_of_neg (by simp)
  · exact .inl ⟨h, dropWhile_eq_nil_iff.2 (hpass _ h)⟩

/-- The opener cuts the additional data at the first separator of the task id, if it has one. -/
lemma splitContext_requestAad (taskId intent : String) :
    ∃ openedId openedIntent, splitContext (requestAad taskId intent) =
      .ok (openedId, openedIntent) ∧
      (requestInfo openedId openedIntent = requestInfo taskId intent ↔ SeparatorsTrail taskId) := by
  have hchars : (requestAad taskId intent).toList = taskId.toList ++ '|' :: intent.toList := by
    simp [requestAad]
  rcases cut_cases taskId with ⟨hnone, hdrop⟩ | ⟨before, rest, htext, hbefore, hdrop⟩
  · refine ⟨_, _, splitContext_found hchars hnone, ?_⟩
    rw [SeparatorsTrail, hdrop, String.ofList_toList, String.ofList_toList]
    simp
  · rw [htext, append_assoc, cons_append] at hchars
    refine ⟨_, _, splitContext_found hchars hbefore, ?_⟩
    have hmoved : rest ++ '|' :: intent.toList = '|' :: rest ++ intent.toList ↔
        rest ++ ['|'] = '|' :: rest := by
      rw [← singleton_append, ← append_assoc, append_cancel_right_eq]
    rw [SeparatorsTrail, hdrop, ← String.toList_inj]
    simp only [requestInfo, String.toList_append, String.toList_ofList, htext, append_assoc,
      append_cancel_left_eq]
    rw [hmoved, append_singleton_eq_cons_iff]
    simp

/-! ### What is sealed can be opened -/

/-- The other crates behave as documented on one sealed request. The provider advertises the public
half of its key, and both sides agree on a secret; a key is derived from it; the payload is
serialised and encrypted; and each text is decoded, decrypted and parsed to what was encoded.
Assumes nothing of any other value. -/
structure RequestLaws (crates : SealingCrates) (payload : Json) (cxPublicKey : CxPublicKey)
    (taskId intent : String) (privateKey ephemPriv : Key) (nonce : Nonce)
    (keyMaterial : Key) (payloadJson ciphertext : List UInt8) : Prop where
  algorithm : cxPublicKey.algorithm = "X25519"
  advertised : crates.b64urlDecode cxPublicKey.key = .ok (crates.publicKey privateKey).bytes
  agreed : crates.diffieHellman privateKey (crates.publicKey ephemPriv) =
    crates.diffieHellman ephemPriv (crates.publicKey privateKey)
  derived : crates.hkdfExpand nonce.bytes
    (crates.diffieHellman ephemPriv (crates.publicKey privateKey)).bytes
    (asBytes (requestInfo taskId intent)) = .ok keyMaterial
  accepted : crates.aesAccepts keyMaterial = true
  serialised : crates.toVec payload = .ok payloadJson
  parsed : crates.parseJson payloadJson = .ok payload
  encrypted : crates.aesEncrypt keyMaterial nonce payloadJson
    (asBytes (requestAad taskId intent)) = .ok ciphertext
  decrypted : crates.aesDecrypt keyMaterial nonce ciphertext
    (asBytes (requestAad taskId intent)) = .ok payloadJson
  decoded : ∀ bytes ∈ [(crates.publicKey ephemPriv).bytes, nonce.bytes,
    asBytes (requestAad taskId intent), ciphertext],
    crates.b64urlDecode (crates.b64urlEncode bytes) = .ok bytes

/-- The cipher and the derivation are ideal on what the opener computes for one sealed request: if
it derives from another text than the sealer, then it has another key, and under another key the
sealed text does not open. -/
structure RequestIdeal (crates : SealingCrates) (taskId intent : String) (privateKey ephemPriv : Key)
    (nonce : Nonce) (keyMaterial : Key) (ciphertext : List UInt8) : Prop where
  separated : ∀ openedId openedIntent opened,
    splitContext (requestAad taskId intent) = .ok (openedId, openedIntent) →
    requestInfo openedId openedIntent ≠ requestInfo taskId intent →
    crates.hkdfExpand nonce.bytes
      (crates.diffieHellman privateKey (crates.publicKey ephemPriv)).bytes
      (asBytes (requestInfo openedId openedIntent)) = .ok opened → opened ≠ keyMaterial
  authentic : ∀ openedId openedIntent opened,
    splitContext (requestAad taskId intent) = .ok (openedId, openedIntent) →
    crates.hkdfExpand nonce.bytes
      (crates.diffieHellman privateKey (crates.publicKey ephemPriv)).bytes
      (asBytes (requestInfo openedId openedIntent)) = .ok opened → opened ≠ keyMaterial →
    crates.aesDecrypt opened nonce ciphertext (asBytes (requestAad taskId intent)) = .error ()

/-- The other crates behave as documented on one sealed response. -/
structure ResponseLaws (crates : SealingCrates) (response : Json) (sharedSecret : List UInt8)
    (taskId : String) (nonce : Nonce) (keyMaterial : Key) (body ciphertext : List UInt8) :
    Prop where
  derived : crates.hkdfExpand nonce.bytes sharedSecret (asBytes ("IICP-CX-RESP-v1" ++ taskId)) =
    .ok keyMaterial
  accepted : crates.aesAccepts keyMaterial = true
  serialised : crates.toVec response = .ok body
  parsed : crates.parseJson body = .ok response
  encrypted : crates.aesEncrypt keyMaterial nonce body (asBytes (taskId ++ "|resp")) =
    .ok ciphertext
  decrypted : crates.aesDecrypt keyMaterial nonce ciphertext (asBytes (taskId ++ "|resp")) = .ok body
  decoded : ∀ bytes ∈ [nonce.bytes, ciphertext],
    crates.b64urlDecode (crates.b64urlEncode bytes) = .ok bytes

section RoundTrip

variable {crates : SealingCrates} {payload response : Json} {cxPublicKey : CxPublicKey}
  {taskId intent : String} {privateKey ephemPriv : Key} {nonce responseNonce : Nonce}
  {keyMaterial responseKey : Key} {payloadJson ciphertext body responseText : List UInt8}

/-- The length check before the copy is the one that the copy needs. -/
lemma advertisedKey_of_decoded {key : Key}
    (h : crates.b64urlDecode cxPublicKey.key = .ok key.bytes) :
    advertisedKey crates cxPublicKey = .ok key := by
  rw [advertisedKey, h, ofExcept_ok, ok_bind, if_neg (not_not.mpr key.size),
    Key.copyFromSlice, dif_pos key.size]

lemma nonce_fromSlice (nonce : Nonce) :
    (Nonce.fromSlice nonce.bytes : Outcome IicpError Nonce) = .ok nonce := by
  rw [Nonce.fromSlice, dif_pos nonce.size]

lemma encryptPayload_sealed (laws : RequestLaws crates payload cxPublicKey taskId intent
      privateKey ephemPriv nonce keyMaterial payloadJson ciphertext) :
    encryptPayloadWithContext crates payload cxPublicKey taskId intent ephemPriv nonce =
      .ok (requestEnvelope crates cxPublicKey.keyId (crates.publicKey ephemPriv) nonce
        (requestAad taskId intent) ciphertext payloadJson.length,
        crates.diffieHellman ephemPriv (crates.publicKey privateKey)) := by
  rw [encryptPayloadWithContext, if_neg (not_not.mpr laws.algorithm)]
  simp only [ok_bind, advertisedKey_of_decoded laws.advertised,
    (deriveKey_eq_ok_iff _ _ _ _ _).mpr laws.derived, laws.serialised, ofExcept_ok,
    newCipher_of_accepted _ _ laws.accepted, encryptWith, laws.encrypted]

/-- The last steps of opening a request: a key is derived, the text is decrypted and parsed. -/
def openUnder (crates : Crates) (sharedSecret : Key) (nonce : Nonce) (info aad : String)
    (ciphertext : List UInt8) : Outcome IicpError (Json × Key) := do
  let keyMaterial ← deriveKey crates nonce.bytes sharedSecret.bytes info
  let cipher ← newCipher crates (.node "AES key error") keyMaterial
  let plaintext ← ofExcept (fun _ ↦ node "AES-GCM decrypt failed (wrong key or tampered)")
    (crates.aesDecrypt cipher nonce ciphertext (asBytes aad))
  let payload ← ofExcept (fun error ↦ node ("plaintext JSON parse: " ++ error))
    (crates.parseJson plaintext)
  .ok (payload, sharedSecret)

section

variable (laws : RequestLaws crates payload cxPublicKey taskId intent privateKey ephemPriv nonce
    keyMaterial payloadJson ciphertext)

include laws

/-- The opener of a sealed request cuts the additional data and derives its key from the parts. -/
lemma decryptPayload_sealed {openedId openedIntent : String}
    (hsplit : splitContext (requestAad taskId intent) = .ok (openedId, openedIntent)) (size : ℕ) :
    decryptPayloadWithContext crates.toCrates (requestEnvelope crates cxPublicKey.keyId
        (crates.publicKey ephemPriv) nonce (requestAad taskId intent) ciphertext size) privateKey =
      openUnder crates.toCrates (crates.diffieHellman ephemPriv (crates.publicKey privateKey)) nonce
        (requestInfo openedId openedIntent) (requestAad taskId intent) ciphertext := by
  rw [← laws.agreed]
  set envelope := requestEnvelope crates cxPublicKey.keyId (crates.publicKey ephemPriv) nonce
    (requestAad taskId intent) ciphertext size
  have hfield (name : String) {bytes : List UInt8} (hmem)
      (hget : Json.getField envelope name = some (.string (crates.b64urlEncode bytes))) :
      textField envelope name = .ok (crates.b64urlEncode bytes) ∧
        decodeText crates.toCrates name (crates.b64urlEncode bytes) = .ok bytes :=
    ⟨(textField_eq_ok_iff _ _ _).mpr hget,
      (decodeText_eq_ok_iff _ _ _ _).mpr (laws.decoded bytes hmem)⟩
  obtain ⟨hkem, hkemBytes⟩ := hfield "kem_ciphertext" (by simp) rfl
  obtain ⟨hnonce, hnonceBytes⟩ := hfield "nonce" (by simp) rfl
  obtain ⟨haad, haadBytes⟩ := hfield "aad" (by simp) rfl
  obtain ⟨hbody, hbodyBytes⟩ := hfield "encrypted_body" (by simp) rfl
  have hephem := (ephemeralKey_eq_ok_iff (crates.publicKey ephemPriv).bytes _).mpr rfl
  simp only [decryptPayloadWithContext, hkem, hkemBytes, hephem, hnonce, hnonceBytes, haad,
    haadBytes, hbody, hbodyBytes, ok_bind, fromUtf8_asBytes, ofExcept_ok, hsplit,
    decryptWith, nonce_fromSlice, openUnder, requestInfo]

/-- Under the key of the sealer, the payload comes back. -/
lemma openUnder_sealed :
    openUnder crates.toCrates (crates.diffieHellman ephemPriv (crates.publicKey privateKey)) nonce
        (requestInfo taskId intent) (requestAad taskId intent) ciphertext =
      .ok (payload, crates.diffieHellman ephemPriv (crates.publicKey privateKey)) := by
  rw [openUnder, (deriveKey_eq_ok_iff _ _ _ _ _).mpr laws.derived, ok_bind,
    newCipher_of_accepted _ _ laws.accepted, ok_bind, laws.decrypted, ofExcept_ok, ok_bind, laws.parsed,
    ofExcept_ok, ok_bind]

/-- Derived from another text, the key of the opener does not open what was sealed. -/
lemma openUnder_ne_ok
    (ideal : RequestIdeal crates taskId intent privateKey ephemPriv nonce keyMaterial ciphertext)
    {openedId openedIntent : String}
    (hsplit : splitContext (requestAad taskId intent) = .ok (openedId, openedIntent))
    (hinfo : requestInfo openedId openedIntent ≠ requestInfo taskId intent) (result : Json × Key) :
    openUnder crates.toCrates (crates.diffieHellman ephemPriv (crates.publicKey privateKey)) nonce
        (requestInfo openedId openedIntent) (requestAad taskId intent) ciphertext ≠ .ok result := by
  intro h
  rw [← laws.agreed] at h
  simp only [openUnder, bind_eq_ok_iff, deriveKey_eq_ok_iff, newCipher_eq_ok_iff,
    ofExcept_eq_ok_iff] at h
  obtain ⟨opened, hopened, _, ⟨rfl, -⟩, _, hplain, -⟩ := h
  have hne := ideal.separated openedId openedIntent opened hsplit hinfo hopened
  rw [ideal.authentic openedId openedIntent opened hsplit hopened hne] at hplain
  nomatch hplain

/-- A payload comes back exactly when the separators of the task id stand at its end. -/
lemma request_roundtrips_iff
    (ideal : RequestIdeal crates taskId intent privateKey ephemPriv nonce keyMaterial ciphertext) :
    (∃ envelope sharedSecret,
      encryptPayloadWithContext crates payload cxPublicKey taskId intent ephemPriv nonce =
        .ok (envelope, sharedSecret) ∧
      decryptPayloadWithContext crates.toCrates envelope privateKey =
        .ok (payload, sharedSecret)) ↔ SeparatorsTrail taskId := by
  obtain ⟨_, _, hsplit, hinfo⟩ := splitContext_requestAad taskId intent
  rw [encryptPayload_sealed laws]
  constructor
  · rintro ⟨_, _, hsealed, hopened⟩
    obtain ⟨rfl, rfl⟩ := Prod.mk.inj (ok.inj hsealed)
    rw [decryptPayload_sealed laws hsplit] at hopened
    by_contra htrail
    exact openUnder_ne_ok laws ideal hsplit (fun heq ↦ htrail (hinfo.mp heq)) _ hopened
  · intro htrail
    refine ⟨_, _, rfl, ?_⟩
    rw [decryptPayload_sealed laws hsplit, hinfo.mpr htrail, openUnder_sealed laws]

end

lemma response_roundtrips {sharedSecret : List UInt8} (laws : ResponseLaws crates response
      sharedSecret taskId responseNonce responseKey body responseText) :
    ∃ envelope, encryptResponse crates response sharedSecret taskId responseNonce = .ok envelope ∧
      decryptResponse crates.toCrates envelope sharedSecret taskId = .ok response := by
  have hkey := (deriveKey_eq_ok_iff _ _ _ _ _).mpr laws.derived
  let envelope : Envelope := [("encrypted_body", .string (crates.b64urlEncode responseText)),
    ("nonce", .string (crates.b64urlEncode responseNonce.bytes)), ("version", .ofU64 1)]
  refine ⟨envelope, ?_, ?_⟩
  · simp only [encryptResponse, hkey, newCipher_of_accepted _ _ laws.accepted, laws.serialised,
      encryptWith, laws.encrypted, ofExcept_ok, ok_bind]
    rfl
  · have hnonce : textField envelope "nonce" = .ok (crates.b64urlEncode responseNonce.bytes) :=
      (textField_eq_ok_iff _ _ _).mpr rfl
    have hbody : textField envelope "encrypted_body" = .ok (crates.b64urlEncode responseText) :=
      (textField_eq_ok_iff _ _ _).mpr rfl
    have hdecode : ∀ label, ∀ bytes ∈ [responseNonce.bytes, responseText],
        decodeText crates.toCrates label (crates.b64urlEncode bytes) = .ok bytes :=
      fun label bytes hmem ↦ (decodeText_eq_ok_iff _ _ _ _).mpr (laws.decoded bytes hmem)
    simp only [decryptResponse, hnonce, hbody, hdecode _ responseNonce.bytes (by simp),
      hdecode _ responseText (by simp), hkey, newCipher_of_accepted _ _ laws.accepted, decryptWith,
      nonce_fromSlice, laws.decrypted, laws.parsed, ofExcept_ok, ok_bind]

end RoundTrip

/-- Sealing and opening are inverse, for the request and for the response to it, exactly when the
separators of the task id stand at its end. The response needs no condition.
Assumes: the other crates behave as documented on the values of this exchange, and the cipher and
the derivation are ideal on them. -/
theorem exchange_roundtrips_iff (crates : SealingCrates) (payload response : Json)
    (cxPublicKey : CxPublicKey) (taskId intent : String) (privateKey ephemPriv : Key)
    (nonce responseNonce : Nonce) (keyMaterial responseKey : Key)
    (payloadJson ciphertext body responseText : List UInt8)
    (laws : RequestLaws crates payload cxPublicKey taskId intent privateKey ephemPriv nonce
      keyMaterial payloadJson ciphertext)
    (ideal : RequestIdeal crates taskId intent privateKey ephemPriv nonce keyMaterial ciphertext)
    (responseLaws : ResponseLaws crates response
      (crates.diffieHellman ephemPriv (crates.publicKey privateKey)).bytes taskId responseNonce
      responseKey body responseText) :
    (∃ envelope sharedSecret,
      encryptPayloadWithContext crates payload cxPublicKey taskId intent ephemPriv nonce =
        .ok (envelope, sharedSecret) ∧
      decryptPayloadWithContext crates.toCrates envelope privateKey =
        .ok (payload, sharedSecret) ∧
      ∃ answer, encryptResponse crates response sharedSecret.bytes taskId responseNonce =
          .ok answer ∧
        decryptResponse crates.toCrates answer sharedSecret.bytes taskId = .ok response) ↔
      SeparatorsTrail taskId := by
  rw [← request_roundtrips_iff laws ideal]
  constructor
  · rintro ⟨envelope, sharedSecret, hsealed, hopened, -⟩
    exact ⟨envelope, sharedSecret, hsealed, hopened⟩
  · rintro ⟨envelope, _, hsealed, hopened⟩
    have hsecret := hsealed
    rw [encryptPayload_sealed laws] at hsecret
    obtain ⟨-, rfl⟩ := Prod.mk.inj (ok.inj hsecret)
    exact ⟨envelope, _, hsealed, hopened, response_roundtrips responseLaws⟩

/-! ### One exchange in numbers -/

def bytesOfNat (size value : ℕ) : List UInt8 :=
  (range size).map fun position ↦ UInt8.ofNat (value >>> (8 * (size - 1 - position)))

def vectorNonce : Nonce := ⟨bytesOfNat 12 0, rfl⟩

def vectorResponseNonce : Nonce := ⟨bytesOfNat 12 0x070707070707070707070707, rfl⟩

/-- The private key of the sample provider: 32 times the byte 1. -/
def vectorPrivateKey : Key :=
  .ofNat 0x0101010101010101010101010101010101010101010101010101010101010101

/-- The ephemeral key of the sample client: 32 times the byte 2. -/
def vectorEphemeral : Key :=
  .ofNat 0x0202020202020202020202020202020202020202020202020202020202020202

def vectorPublicKey (key : Key) : Key :=
  if key = vectorPrivateKey then
    .ofNat 0xa4e09292b651c278b9772c569f5fa9bb13d906b46ab68c9df9dc2b4409f8a209
  else .ofNat 0xce8d3ad1ccb633ec7b70c17814a5c76ecd029685050d344745ba05870e587d59

def vectorSecret : Key :=
  .ofNat 0x2ed76ab549b1e73c031eb49c9448f0798aea81b698279a0c3dc3e49fbfc4b953

def vectorAdvertised : CxPublicKey where
  algorithm := "X25519"
  encoding := some "base64url"
  key := "pOCSkrZRwni5dyxWn1-puxPZBrRqtoyd-dwrRAn4ogk"
  keyId := "cx-1a92f23852dc908d"
  features := ["response_encryption_v1"]

def chatIntent : String := "urn:iicp:intent:llm:chat:v1"

def vectorPayload : Json := .object [("q", .ofU64 1)]

def vectorAnswer : Json := .object [("ok", .bool true)]

/-- The byte strings of the sample exchanges and their base64 texts. -/
def vectorTexts : List (List UInt8 × String) :=
  [((vectorPublicKey vectorPrivateKey).bytes, "pOCSkrZRwni5dyxWn1-puxPZBrRqtoyd-dwrRAn4ogk"),
    ((vectorPublicKey vectorEphemeral).bytes, "zo060cy2M-x7cMF4FKXHbs0CloUFDTRHRboFhw5YfVk"),
    (vectorNonce.bytes, "AAAAAAAAAAAAAAAA"),
    (vectorResponseNonce.bytes, "BwcHBwcHBwcHBwcH"),
    (utf8Bytes "t1|urn:iicp:intent:llm:chat:v1", "dDF8dXJuOmlpY3A6aW50ZW50OmxsbTpjaGF0OnYx"),
    (utf8Bytes "a|b|urn:iicp:intent:llm:chat:v1", "YXxifHVybjppaWNwOmludGVudDpsbG06Y2hhdDp2MQ"),
    (bytesOfNat 23 0xc6cb236af68a8aa71e37f327388df78da06690d2df1e40,
      "xssjavaKiqceN_MnOI33jaBmkNLfHkA"),
    (bytesOfNat 23 0x2ad2cac3fd0e6250428c3cafa26be05412c988b9867ae8,
      "KtLKw_0OYlBCjDyvomvgVBLJiLmGeug"),
    (bytesOfNat 27 0x3ddbe72493587e9ada9614a94515311eabde340df5fccac415a294,
      "PdvnJJNYfpralhSpRRUxHqveNA31_MrEFaKU"),
    (bytesOfNat 27 0xd4cb4e74c30177d585a6bd8399c9a401adb3c7cc9cf2b19dd71980,
      "1MtOdMMBd9WFpr2DmcmkAa2zx8yc8rGd1xmA")]

/-- The keys that the sample exchanges derive from the agreed secret. The third is the one that the
opener derives when the task id has a separator inside. -/
def vectorKeys : List ((List UInt8 × List UInt8) × Key) :=
  [((vectorNonce.bytes, utf8Bytes "IICP-CX-v1t1urn:iicp:intent:llm:chat:v1"),
      .ofNat 0xe48e33b2d961444ecd66964b040b94d3856671a09826a498964ee514b109593d),
    ((vectorNonce.bytes, utf8Bytes "IICP-CX-v1a|burn:iicp:intent:llm:chat:v1"),
      .ofNat 0x90195773ac078dcf9e543e7866ec0fda11cd979acb240a37b520f273ba0353b8),
    ((vectorNonce.bytes, utf8Bytes "IICP-CX-v1ab|urn:iicp:intent:llm:chat:v1"),
      .ofNat 0x659f98b666e80e13f0ddfb51cfab76e5f6c3a61257c9545c7b90621db6ecacc3),
    ((vectorResponseNonce.bytes, utf8Bytes "IICP-CX-RESP-v1t1"),
      .ofNat 0x19de4358eb0734de7c25b757ea9ab8313155db5e442e3b5dc17a8c3cba80c2b6),
    ((vectorResponseNonce.bytes, utf8Bytes "IICP-CX-RESP-v1a|b"),
      .ofNat 0x69b8b5202a847120c2183cbfe90e352d004f319f405fd2844d508e935694b470)]

def vectorBodies : List (Json × List UInt8) :=
  [(vectorPayload, utf8Bytes "\x7b\"q\":1\x7d"), (vectorAnswer, utf8Bytes "\x7b\"ok\":true\x7d")]

/-- What is encrypted in the sample exchanges: under which key and additional data, the text, and
the sealed text with its tag. -/
def vectorSealed : List ((Key × List UInt8) × List UInt8 × List UInt8) :=
  [((.ofNat 0xe48e33b2d961444ecd66964b040b94d3856671a09826a498964ee514b109593d,
      utf8Bytes "t1|urn:iicp:intent:llm:chat:v1"), utf8Bytes "\x7b\"q\":1\x7d",
      bytesOfNat 23 0xc6cb236af68a8aa71e37f327388df78da06690d2df1e40),
    ((.ofNat 0x90195773ac078dcf9e543e7866ec0fda11cd979acb240a37b520f273ba0353b8,
      utf8Bytes "a|b|urn:iicp:intent:llm:chat:v1"), utf8Bytes "\x7b\"q\":1\x7d",
      bytesOfNat 23 0x2ad2cac3fd0e6250428c3cafa26be05412c988b9867ae8),
    ((.ofNat 0x19de4358eb0734de7c25b757ea9ab8313155db5e442e3b5dc17a8c3cba80c2b6,
      utf8Bytes "t1|resp"), utf8Bytes "\x7b\"ok\":true\x7d",
      bytesOfNat 27 0x3ddbe72493587e9ada9614a94515311eabde340df5fccac415a294),
    ((.ofNat 0x69b8b5202a847120c2183cbfe90e352d004f319f405fd2844d508e935694b470,
      utf8Bytes "a|b|resp"), utf8Bytes "\x7b\"ok\":true\x7d",
      bytesOfNat 27 0xd4cb4e74c30177d585a6bd8399c9a401adb3c7cc9cf2b19dd71980)]

/-- The functions of other crates on the sample exchanges, as they answer there. -/
def vectorCrates : SealingCrates where
  b64urlDecode := fun text ↦
    match vectorTexts.find? fun entry ↦ entry.2 = text with
    | some entry => .ok entry.1
    | none => .error "Invalid input"
  standardDecode := fun _ ↦ .error "Invalid input"
  standardEncode := fun _ ↦ ""
  utf8Error := fun _ ↦ "invalid utf-8 sequence"
  parseJson := fun bytes ↦
    match vectorBodies.find? fun entry ↦ entry.2 = bytes with
    | some entry => .ok entry.1
    | none => .error "expected value"
  diffieHellman := fun _ _ ↦ vectorSecret
  hkdfExpand := fun salt _ info ↦
    match vectorKeys.lookup (salt, info) with
    | some key => .ok key
    | none => .error ()
  hmacSha256 := fun _ _ ↦ .ofNat 0
  aesAccepts := fun _ ↦ true
  aesDecrypt := fun key _ msg aad ↦
    match vectorSealed.find? fun entry ↦ entry.1 = (key, aad) ∧ entry.2.2 = msg with
    | some entry => .ok entry.2.1
    | none => .error ()
  b64urlEncode := fun bytes ↦ (vectorTexts.lookup bytes).getD ""
  toVec := fun value ↦
    match vectorBodies.lookup value with
    | some bytes => .ok bytes
    | none => .error "unsupported value"
  publicKey := vectorPublicKey
  aesEncrypt := fun key _ msg aad ↦
    match vectorSealed.find? fun entry ↦ entry.1 = (key, aad) ∧ entry.2.1 = msg with
    | some entry => .ok entry.2.2
    | none => .error ()

lemma asBytes_eq : asBytes text = utf8Bytes text := toUTF8_toList text

/-- The key that the client and the provider of the sample exchanges use, by task id. -/
def vectorKey (taskId : String) : Key :=
  if taskId = "t1" then .ofNat 0xe48e33b2d961444ecd66964b040b94d3856671a09826a498964ee514b109593d
  else .ofNat 0x90195773ac078dcf9e543e7866ec0fda11cd979acb240a37b520f273ba0353b8

def vectorCiphertext (taskId : String) : List UInt8 :=
  if taskId = "t1" then bytesOfNat 23 0xc6cb236af68a8aa71e37f327388df78da06690d2df1e40
  else bytesOfNat 23 0x2ad2cac3fd0e6250428c3cafa26be05412c988b9867ae8

lemma vectorCrates_request {taskId : String} (h : taskId = "t1" ∨ taskId = "a|b") :
    RequestLaws vectorCrates vectorPayload vectorAdvertised taskId chatIntent vectorPrivateKey
      vectorEphemeral vectorNonce (vectorKey taskId) (utf8Bytes "\x7b\"q\":1\x7d")
      (vectorCiphertext taskId) := by
  rcases h with rfl | rfl
  · refine ⟨rfl, by decide, rfl, ?_, rfl, by decide, by decide, ?_, ?_, ?_⟩ <;>
      rw [asBytes_eq] <;> decide
  · refine ⟨rfl, by decide, rfl, ?_, rfl, by decide, by decide, ?_, ?_, ?_⟩ <;>
      rw [asBytes_eq] <;> decide

lemma vectorCrates_response :
    ResponseLaws vectorCrates vectorAnswer vectorSecret.bytes "t1" vectorResponseNonce
      (.ofNat 0x19de4358eb0734de7c25b757ea9ab8313155db5e442e3b5dc17a8c3cba80c2b6)
      (utf8Bytes "\x7b\"ok\":true\x7d")
      (bytesOfNat 27 0x3ddbe72493587e9ada9614a94515311eabde340df5fccac415a294) := by
  refine ⟨?_, rfl, by decide, by decide, ?_, ?_, by decide⟩ <;> rw [asBytes_eq] <;> decide

/-- A task id without separators is read back, so the opener has the key of the sealer. -/
lemma vectorCrates_ideal : RequestIdeal vectorCrates "t1" chatIntent vectorPrivateKey
    vectorEphemeral vectorNonce (vectorKey "t1") (vectorCiphertext "t1") := by
  have hkey : ∀ openedId openedIntent,
      splitContext (requestAad "t1" chatIntent) = .ok (openedId, openedIntent) →
      requestInfo openedId openedIntent = requestInfo "t1" chatIntent := by
    intro openedId openedIntent h
    obtain ⟨rfl, rfl⟩ := Prod.mk.inj (ok.inj ((by decide : splitContext
      (requestAad "t1" chatIntent) = .ok ("t1", chatIntent)).symm.trans h))
    rfl
  constructor
  · intro openedId openedIntent opened hsplit hinfo
    exact absurd (hkey openedId openedIntent hsplit) hinfo
  · intro openedId openedIntent opened hsplit hopened hne
    rw [hkey openedId openedIntent hsplit,
      (vectorCrates_request (.inl rfl)).agreed, (vectorCrates_request (.inl rfl)).derived] at hopened
    exact absurd (Except.ok.inj hopened).symm hne

/-- An exchange for a task id without separators. -/
theorem exchange_roundtrips_plain_id :
    SeparatorsTrail "t1" ∧ ∃ envelope sharedSecret,
      encryptPayloadWithContext vectorCrates vectorPayload vectorAdvertised "t1" chatIntent
        vectorEphemeral vectorNonce = .ok (envelope, sharedSecret) ∧
      decryptPayloadWithContext vectorCrates.toCrates envelope vectorPrivateKey =
        .ok (vectorPayload, sharedSecret) ∧
      ∃ answer, encryptResponse vectorCrates vectorAnswer sharedSecret.bytes "t1"
          vectorResponseNonce = .ok answer ∧
        decryptResponse vectorCrates.toCrates answer sharedSecret.bytes "t1" = .ok vectorAnswer :=
  ⟨by decide +kernel, (exchange_roundtrips_iff vectorCrates vectorPayload vectorAnswer vectorAdvertised
    "t1" chatIntent vectorPrivateKey vectorEphemeral vectorNonce vectorResponseNonce
    (vectorKey "t1") _ _ (vectorCiphertext "t1") _ _ (vectorCrates_request (.inl rfl))
    vectorCrates_ideal vectorCrates_response).mpr (by decide +kernel)⟩

/-- With a separator inside the task id, what the client seals does not open: the provider derives
another key. -/
theorem inner_separator_does_not_open :
    RequestLaws vectorCrates vectorPayload vectorAdvertised "a|b" chatIntent vectorPrivateKey
      vectorEphemeral vectorNonce (vectorKey "a|b") (utf8Bytes "\x7b\"q\":1\x7d")
      (vectorCiphertext "a|b") ∧
    ∃ envelope, encryptPayloadWithContext vectorCrates vectorPayload vectorAdvertised "a|b"
        chatIntent vectorEphemeral vectorNonce = .ok (envelope, vectorSecret) ∧
      decryptPayloadWithContext vectorCrates.toCrates envelope vectorPrivateKey =
        .err (.node "AES-GCM decrypt failed (wrong key or tampered)") := by
  have laws := vectorCrates_request (.inr rfl)
  refine ⟨laws, _, encryptPayload_sealed laws, ?_⟩
  have hsplit : splitContext (requestAad "a|b" chatIntent) =
      .ok ("a", "b|urn:iicp:intent:llm:chat:v1") := by decide
  rw [decryptPayload_sealed laws hsplit, openUnder, deriveKey, asBytes_eq, asBytes_eq]
  decide

end Iicp.Confidentiality
