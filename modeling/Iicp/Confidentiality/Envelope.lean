import Iicp.Rust.Json
import Iicp.Rust.Text

/-!
# Opening confidential envelopes

A provider opens the envelope of a request with `decryptPayloadWithContext`, and a client opens the
envelope of a response with `decryptResponse`. The functions of other crates are the fields of
`Crates`: each returns a value or an error, and nothing more is assumed of them. The operations that
can panic are written out: copying into an array of 32 bytes, slicing a text, and making a nonce
from a slice, which panics unless the slice has twelve bytes.

The length of the decoded nonce is not checked before it is used (`decryptPayload_returns_iff`,
`decryptResponse_returns_iff`). The slices around the separator of the additional data never panic
(`splitContext_returns`).
-/

namespace Iicp.Confidentiality

open Rust Outcome

/-! ### What other crates provide -/

/-- An array of 32 bytes: a key or a shared secret. -/
structure Key where
  bytes : List UInt8
  size : bytes.length = 32
  deriving DecidableEq

structure Nonce where
  bytes : List UInt8
  size : bytes.length = 12
  deriving DecidableEq

/-- Copies a slice into an array of 32 bytes; another length is a panic. -/
def Key.copyFromSlice {ε : Type} (bytes : List UInt8) : Outcome ε Key :=
  if h : bytes.length = 32 then .ok ⟨bytes, h⟩ else .panicked

/-- Makes a nonce from a slice; another length than twelve is a panic. -/
def Nonce.fromSlice {ε : Type} (bytes : List UInt8) : Outcome ε Nonce :=
  if h : bytes.length = 12 then .ok ⟨bytes, h⟩ else .panicked

/-- The functions of other crates. They return a value or an error, whatever their arguments. -/
structure Crates where
  (b64urlDecode standardDecode : String → Except String (List UInt8))
  standardEncode : List UInt8 → String
  utf8Error : List UInt8 → String
  parseJson : List UInt8 → Except String Json
  diffieHellman : (privateKey publicKey : Key) → Key
  hkdfExpand : (salt secret info : List UInt8) → Except Unit Key
  hmacSha256 : (key data : List UInt8) → Key
  aesAccepts : Key → Bool
  aesDecrypt : Key → Nonce → (msg aad : List UInt8) → Except Unit (List UInt8)

def asBytes (text : String) : List UInt8 := text.toUTF8.toList

/-- The text of some bytes. If they are not UTF-8, the error has a text of its own. -/
def Crates.fromUtf8 (crates : Crates) (bytes : List UInt8) : Except String String :=
  match String.fromUTF8? ⟨bytes.toArray⟩ with
  | some text => .ok text
  | none => .error (crates.utf8Error bytes)

lemma fromUtf8_asBytes (crates : Crates) (text : String) :
    crates.fromUtf8 (asBytes text) = .ok text := by
  have hbytes : (⟨(asBytes text).toArray⟩ : ByteArray) = text.toByteArray := by
    rw [asBytes, ByteArray.toList, byteArray_toList_loop]
    rfl
  rw [Crates.fromUtf8, hbytes, String.fromUTF8?, dif_pos text.isValidUTF8]
  rfl

inductive IicpError where
  | node (message : String)
  deriving DecidableEq, Repr

abbrev Envelope := List (String × Json)

variable {ε : Type}

lemma Nonce.fromSlice_returns (bytes : List UInt8) :
    (fromSlice bytes : Outcome ε Nonce).Returns ↔ bytes.length = 12 := by
  unfold fromSlice
  by_cases h : bytes.length = 12
  · simp [h]
  · simp [h]

/-! ### Steps of opening an envelope -/

variable (envelope : Envelope)

def textField (name : String) : Outcome IicpError String :=
  okOr (.node ("missing " ++ name)) ((Json.getField envelope name).bind Json.asStr)

/-- The bytes of a text; the error names what the text is. -/
def decodeText (crates : Crates) (label text : String) : Outcome IicpError (List UInt8) :=
  ofExcept (fun error ↦ .node (label ++ " decode: " ++ error)) (crates.b64urlDecode text)

variable (ephemPubBytes : List UInt8)

/-- The public key of the sender: its length is checked before the copy. -/
def ephemeralKey : Outcome IicpError Key :=
  if ephemPubBytes.length ≠ 32 then .err (.node "kem_ciphertext must be 32 bytes")
  else Key.copyFromSlice ephemPubBytes

/-- The task id and the intent that the additional data of a request names: what stands before and
after its first separator. -/
def splitContext (aadText : String) : Outcome IicpError (String × String) := do
  let pipe ← okOr (.node "aad missing task_id|intent separator") (findChar '|' aadText)
  let taskId ← sliceTo aadText pipe
  let intent ← sliceFrom aadText (pipe + 1)
  .ok (taskId, intent)

def deriveKey (crates : Crates) (salt secret : List UInt8) (info : String) :
    Outcome IicpError Key :=
  ofExcept (fun _ ↦ .node "HKDF expand failed") (crates.hkdfExpand salt secret (asBytes info))

def newCipher {ε : Type} (crates : Crates) (error : ε) (key : Key) : Outcome ε Key :=
  if crates.aesAccepts key then .ok key else .err error

/-- Decrypts with the bytes of a nonce, whose length nothing checks. -/
def decryptWith {ε : Type} (crates : Crates) (error : ε) (cipher : Key)
    (nonceBytes msg aad : List UInt8) : Outcome ε (List UInt8) := do
  let nonce ← Nonce.fromSlice nonceBytes
  ofExcept (fun _ ↦ error) (crates.aesDecrypt cipher nonce msg aad)

@[simp] lemma textField_returns (name : String) :
    (textField envelope name).Returns := returns_okOr _ _

lemma textField_eq_ok_iff (name text : String) :
    textField envelope name = .ok text ↔ Json.getField envelope name = some (.string text) := by
  unfold textField
  rcases Json.getField envelope name with _ | (_ | _ | _ | _ | _ | _) <;> simp [Json.asStr]

variable (crates : Crates) (error : ε)

@[simp] lemma decodeText_returns (label text : String) :
    (decodeText crates label text).Returns := returns_ofExcept _ _

lemma decodeText_eq_ok_iff (label text : String) (bytes : List UInt8) :
    decodeText crates label text = .ok bytes ↔ crates.b64urlDecode text = .ok bytes :=
  ofExcept_eq_ok_iff _ _ _

/-- The check before the copy is the one that the copy needs. -/
@[simp] lemma ephemeralKey_returns : (ephemeralKey ephemPubBytes).Returns := by
  unfold ephemeralKey Key.copyFromSlice
  by_cases h : ephemPubBytes.length = 32
  · simp [h]
  · simp [h]

lemma ephemeralKey_eq_ok_iff (key : Key) :
    ephemeralKey ephemPubBytes = .ok key ↔ ephemPubBytes = key.bytes := by
  unfold ephemeralKey Key.copyFromSlice
  constructor
  · intro h
    split_ifs at h
    rw [← ok.inj h]
  · rintro rfl
    rw [if_neg (not_not.mpr key.size), dif_pos key.size]

/-- The position of the first separator is between two characters, and so is the one after it. -/
lemma splitContext_found {aadText : String} {before after : List Char}
    (h : aadText.toList = before ++ '|' :: after) (hbefore : '|' ∉ before) :
    splitContext aadText = .ok (String.ofList before, String.ofList after) := by
  rw [splitContext, findChar, h, findIn_append hbefore, okOr_some, ok_bind,
    sliceTo, h, splitAtByte_append, ok_bind, sliceFrom_found rfl h, ok_bind]

/-- Splitting the additional data never panics: without a separator it is an error, and the
separator is one byte. -/
@[simp] lemma splitContext_returns (aadText : String) : (splitContext aadText).Returns := by
  cases hfind : findChar '|' aadText with
  | none =>
    rw [splitContext, hfind]
    exact returns_err _
  | some =>
    obtain ⟨_, _, h, hbefore, -⟩ := findIn_eq_some hfind
    rw [splitContext_found h hbefore]
    exact returns_ok _

lemma splitContext_eq_ok_iff (aadText taskId intent : String) :
    splitContext aadText = .ok (taskId, intent) ↔
      aadText = taskId ++ "|" ++ intent ∧ '|' ∉ taskId.toList := by
  constructor
  · intro h
    cases hfind : findChar '|' aadText with
    | none =>
      rw [splitContext, hfind] at h
      nomatch h
    | some =>
      obtain ⟨_, _, hchars, hbefore, -⟩ := findIn_eq_some hfind
      rw [splitContext_found hchars hbefore] at h
      obtain ⟨rfl, rfl⟩ := Prod.mk.inj (ok.inj h)
      refine ⟨String.toList_inj.mp ?_, ?_⟩
      · simp [hchars]
      · rwa [String.toList_ofList]
  · rintro ⟨rfl, hbefore⟩
    have hchars : (taskId ++ "|" ++ intent).toList = taskId.toList ++ '|' :: intent.toList := by
      simp
    rw [splitContext_found hchars hbefore, String.ofList_toList, String.ofList_toList]

@[simp] lemma deriveKey_returns (salt secret : List UInt8) (info : String) :
    (deriveKey crates salt secret info).Returns := returns_ofExcept _ _

lemma deriveKey_eq_ok_iff (salt secret : List UInt8) (info : String) (key : Key) :
    deriveKey crates salt secret info = .ok key ↔
      crates.hkdfExpand salt secret (asBytes info) = .ok key :=
  ofExcept_eq_ok_iff _ _ _

@[simp] lemma newCipher_returns (key : Key) : (newCipher crates error key).Returns := by
  unfold newCipher
  by_cases h : crates.aesAccepts key
  · simp [h]
  · simp [h]

lemma newCipher_eq_ok_iff (key cipher : Key) :
    newCipher crates error key = .ok cipher ↔ key = cipher ∧ crates.aesAccepts key := by
  unfold newCipher
  by_cases h : crates.aesAccepts key
  · simp [h]
  · simp [h]

lemma newCipher_of_accepted {key : Key} (h : crates.aesAccepts key) :
    newCipher crates error key = .ok key :=
  if_pos h

/-- Decrypting returns exactly on nonces of twelve bytes. -/
lemma decryptWith_returns_iff (cipher : Key) (nonceBytes msg aad : List UInt8) :
    (decryptWith crates error cipher nonceBytes msg aad).Returns ↔ nonceBytes.length = 12 := by
  rw [decryptWith, returns_bind, Nonce.fromSlice_returns]
  exact and_iff_left fun nonce _ ↦ returns_ofExcept _ _

/-! ### Opening a request -/

/-- Opens the envelope of a request: its payload, and the secret that the answer shares with it. -/
def decryptPayloadWithContext (crates : Crates) (iicpConf : Envelope) (privateKey : Key) :
    Outcome IicpError (Json × Key) := do
  let kemCt ← textField iicpConf "kem_ciphertext"
  let ephemPubBytes ← decodeText crates "kem_ciphertext" kemCt
  let ephemPub ← ephemeralKey ephemPubBytes
  let sharedSecret := crates.diffieHellman privateKey ephemPub
  let nonceStr ← textField iicpConf "nonce"
  let nonceBytes ← decodeText crates "nonce" nonceStr
  let aadStr ← textField iicpConf "aad"
  let aadBytes ← decodeText crates "aad" aadStr
  let aadText ← ofExcept (fun error ↦ IicpError.node ("aad utf8: " ++ error))
    (crates.fromUtf8 aadBytes)
  let context ← splitContext aadText
  let info := "IICP-CX-v1" ++ context.1 ++ context.2
  let keyMaterial ← deriveKey crates nonceBytes sharedSecret.bytes info
  let encBodyStr ← textField iicpConf "encrypted_body"
  let encBody ← decodeText crates "encrypted_body" encBodyStr
  let cipher ← newCipher crates (.node "AES key error") keyMaterial
  let plaintext ← decryptWith crates (.node "AES-GCM decrypt failed (wrong key or tampered)") cipher
    nonceBytes encBody aadBytes
  let payload ← ofExcept (fun error ↦ IicpError.node ("plaintext JSON parse: " ++ error))
    (crates.parseJson plaintext)
  .ok (payload, sharedSecret)

/-- A field of an envelope is a text that decodes to the given bytes. -/
def FieldDecodes (crates : Crates) (envelope : Envelope) (name : String) (bytes : List UInt8) :
    Prop :=
  ∃ text, Json.getField envelope name = some (.string text) ∧ crates.b64urlDecode text = .ok bytes

/-- Every step of opening a request up to the cipher succeeds, with these bytes as the nonce: the
fields are there and decode, the public key has 32 bytes, the additional data is a text with a
separator, and the key is derived. -/
def RequestReachesCipher (crates : Crates) (iicpConf : Envelope) (privateKey : Key)
    (nonceBytes : List UInt8) : Prop :=
  ∃ (ephemPub keyMaterial : Key) (aadBytes encBody : List UInt8) (taskId intent : String),
    FieldDecodes crates iicpConf "kem_ciphertext" ephemPub.bytes ∧
    FieldDecodes crates iicpConf "nonce" nonceBytes ∧
    FieldDecodes crates iicpConf "aad" aadBytes ∧
    crates.fromUtf8 aadBytes = .ok (taskId ++ "|" ++ intent) ∧ '|' ∉ taskId.toList ∧
    crates.hkdfExpand nonceBytes (crates.diffieHellman privateKey ephemPub).bytes
      (asBytes ("IICP-CX-v1" ++ taskId ++ intent)) = .ok keyMaterial ∧
    FieldDecodes crates iicpConf "encrypted_body" encBody ∧
    crates.aesAccepts keyMaterial = true

/-- Opening a request returns exactly when no nonce of another length than twelve bytes reaches the
cipher. -/
lemma decryptPayload_returns_iff (iicpConf : Envelope) (privateKey : Key) :
    (decryptPayloadWithContext crates iicpConf privateKey).Returns ↔
      ∀ nonceBytes, RequestReachesCipher crates iicpConf privateKey nonceBytes →
        nonceBytes.length = 12 := by
  simp only [decryptPayloadWithContext, returns_bind, textField_returns,
    decodeText_returns, ephemeralKey_returns, splitContext_returns, deriveKey_returns,
    newCipher_returns, returns_ofExcept, returns_ok, decryptWith_returns_iff,
    textField_eq_ok_iff, decodeText_eq_ok_iff, ephemeralKey_eq_ok_iff, ofExcept_eq_ok_iff,
    deriveKey_eq_ok_iff, newCipher_eq_ok_iff, true_and, implies_true, and_true, Prod.forall,
    splitContext_eq_ok_iff]
  constructor
  · rintro h nonceBytes ⟨ephemPub, keyMaterial, aadBytes, encBody, taskId, intent,
      ⟨kemCt, hkem, hkemBytes⟩, ⟨nonceStr, hnonce, hnonceBytes⟩, ⟨aadStr, haad, haadBytes⟩,
      hutf8, hsplit, hkey, ⟨encBodyStr, hbody, hbodyBytes⟩, haes⟩
    exact h kemCt hkem _ hkemBytes ephemPub rfl nonceStr hnonce nonceBytes hnonceBytes aadStr haad
      aadBytes haadBytes _ hutf8 taskId intent ⟨rfl, hsplit⟩ keyMaterial hkey encBodyStr hbody
      encBody hbodyBytes keyMaterial ⟨rfl, haes⟩
  · rintro h kemCt hkem _ hkemBytes ephemPub rfl nonceStr hnonce nonceBytes hnonceBytes aadStr haad
      aadBytes haadBytes _ hutf8 taskId intent ⟨rfl, hsplit⟩ keyMaterial hkey encBodyStr hbody
      encBody hbodyBytes _ ⟨-, haes⟩
    exact h nonceBytes ⟨ephemPub, keyMaterial, aadBytes, encBody, taskId, intent,
      ⟨kemCt, hkem, hkemBytes⟩, ⟨nonceStr, hnonce, hnonceBytes⟩, ⟨aadStr, haad, haadBytes⟩,
      hutf8, hsplit, hkey, ⟨encBodyStr, hbody, hbodyBytes⟩, haes⟩

/-! ### Opening a response -/

/-- Opens the envelope of a response under the secret that the request shares with it. -/
def decryptResponse (crates : Crates) (env : Envelope) (sharedSecret : List UInt8)
    (taskId : String) : Outcome IicpError Json := do
  let nonceB64 ← textField env "nonce"
  let bodyB64 ← textField env "encrypted_body"
  let nonceBytes ← decodeText crates "nonce" nonceB64
  let keyMaterial ← deriveKey crates nonceBytes sharedSecret ("IICP-CX-RESP-v1" ++ taskId)
  let aad := taskId ++ "|resp"
  let cipher ← newCipher crates (.node "AES key error") keyMaterial
  let ct ← decodeText crates "body" bodyB64
  let plaintext ← decryptWith crates (.node "AES-GCM decrypt failed (wrong key or tampered)") cipher
    nonceBytes ct (asBytes aad)
  ofExcept (fun error ↦ .node ("response JSON parse: " ++ error)) (crates.parseJson plaintext)

/-- Every step of opening a response up to the cipher succeeds, with these bytes as the nonce. -/
def ResponseReachesCipher (crates : Crates) (env : Envelope) (sharedSecret : List UInt8)
    (taskId : String) (nonceBytes : List UInt8) : Prop :=
  ∃ (keyMaterial : Key) (ct : List UInt8), FieldDecodes crates env "nonce" nonceBytes ∧
    crates.hkdfExpand nonceBytes sharedSecret (asBytes ("IICP-CX-RESP-v1" ++ taskId)) =
      .ok keyMaterial ∧
    crates.aesAccepts keyMaterial = true ∧
    FieldDecodes crates env "encrypted_body" ct

/-- Opening a response returns exactly when no nonce of another length than twelve bytes reaches
the cipher. -/
lemma decryptResponse_returns_iff (env : Envelope) (sharedSecret : List UInt8) (taskId : String) :
    (decryptResponse crates env sharedSecret taskId).Returns ↔
      ∀ nonceBytes, ResponseReachesCipher crates env sharedSecret taskId nonceBytes →
        nonceBytes.length = 12 := by
  simp only [decryptResponse, returns_bind, textField_returns, decodeText_returns,
    deriveKey_returns, newCipher_returns, returns_ofExcept, decryptWith_returns_iff,
    textField_eq_ok_iff, decodeText_eq_ok_iff, deriveKey_eq_ok_iff, newCipher_eq_ok_iff, true_and,
    implies_true, and_true]
  constructor
  · rintro h nonceBytes ⟨keyMaterial, ct, ⟨nonceB64, hnonce, hnonceBytes⟩, hkey, haes,
      ⟨bodyB64, hbody, hbodyBytes⟩⟩
    exact h nonceB64 hnonce bodyB64 hbody nonceBytes hnonceBytes keyMaterial hkey keyMaterial
      ⟨rfl, haes⟩ ct hbodyBytes
  · rintro h nonceB64 hnonce bodyB64 hbody nonceBytes hnonceBytes keyMaterial hkey _ ⟨-, haes⟩ ct
      hbodyBytes
    exact h nonceBytes ⟨keyMaterial, ct, ⟨nonceB64, hnonce, hnonceBytes⟩, hkey, haes,
      ⟨bodyB64, hbody, hbodyBytes⟩⟩

end Iicp.Confidentiality
