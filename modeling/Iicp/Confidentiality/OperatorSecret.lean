import Iicp.Rust.Bytes
import Iicp.Confidentiality.Envelope

/-!
# The sealed operator secret

The seed behind an operator id is stored sealed under a passphrase. `pbkdf2HmacSha256` derives the
key from the passphrase, and `pbkdf2_eq_xorBlocks` is its specification: the derived key is the
exclusive or of the blocks, each of which is the keyed hash of the one before. `decryptSeed` opens a
stored record, whose nonce is again used at whatever length it decodes to
(`decryptSeed_returns_iff`).

`decryption_returns_iff` puts the three paths on which stored or received texts reach the cipher
together. None of them checks the length of the nonce: where everything else is in order and the
nonce is empty, each of them panics (`empty_nonce_panics`).
-/

namespace Iicp.Confidentiality

open Rust

/-! ### Deriving a key from a passphrase -/

def Key.xor (first second : Key) : Key where
  bytes := List.zipWith (· ^^^ ·) first.bytes second.bytes
  size := by rw [List.length_zipWith, first.size, second.size, min_self]

/-- The rounds after the first: each hashes the last block and adds the result to the key. -/
def pbkdf2Rounds (prf : List UInt8 → Key) : ℕ → Key → Key → Key
  | 0, _, out => out
  | rounds + 1, u, out => pbkdf2Rounds prf rounds (prf u.bytes) (out.xor (prf u.bytes))

variable (crates : Crates) (passphrase salt : List UInt8)

/-- The key of a passphrase and a salt, one block of 32 bytes. -/
def pbkdf2HmacSha256 (iterations : ℕ) : Key :=
  let prf := crates.hmacSha256 passphrase
  let u := prf (salt ++ toBeBytes 1)
  pbkdf2Rounds prf (iterations - 1) u u

/-- The blocks of the derivation, counted from zero. -/
def pbkdf2Block : ℕ → Key
  | 0 => crates.hmacSha256 passphrase (salt ++ toBeBytes 1)
  | count + 1 => crates.hmacSha256 passphrase (pbkdf2Block count).bytes

/-- The exclusive or of the first blocks, `count + 1` of them. -/
def xorBlocks : ℕ → Key
  | 0 => pbkdf2Block crates passphrase salt 0
  | count + 1 => (xorBlocks count).xor (pbkdf2Block crates passphrase salt (count + 1))

/-- The rounds continue the exclusive or from wherever they start. -/
lemma pbkdf2Rounds_xorBlocks (rounds count : ℕ) :
    pbkdf2Rounds (crates.hmacSha256 passphrase) rounds (pbkdf2Block crates passphrase salt count)
        (xorBlocks crates passphrase salt count) =
      xorBlocks crates passphrase salt (count + rounds) := by
  induction rounds generalizing count with
  | zero => rfl
  | succ rounds ih =>
    rw [← Nat.add_assoc, Nat.add_right_comm, ← ih (count + 1)]
    rfl

/-- The derived key is the exclusive or of as many blocks as there are iterations; a count of zero
counts as one. -/
theorem pbkdf2_eq_xorBlocks (iterations : ℕ) :
    pbkdf2HmacSha256 crates passphrase salt iterations =
      xorBlocks crates passphrase salt (iterations - 1) := by
  rw [← Nat.zero_add (iterations - 1), ← pbkdf2Rounds_xorBlocks]
  rfl

/-! ### Opening the record -/

structure EncryptedSecret where
  v : UInt8
  kdf : String
  iter : UInt32
  (salt nonce ct : String)
  deriving DecidableEq, Repr

def kdfName : String := "pbkdf2-hmac-sha256"

def secretVersion : UInt8 := 1

variable (label text : String)

def decodeSecretField : Outcome String (List UInt8) :=
  Outcome.ofExcept (fun error ↦ "bad " ++ label ++ ": " ++ error) (crates.standardDecode text)

/-- Opens a sealed seed; the operator id is the additional data. -/
def decryptSeed (passphrase : String) (enc : EncryptedSecret)
    (operatorId : String) : Outcome String String := do
  if enc.kdf ≠ kdfName ∨ enc.v ≠ secretVersion then
    .err ("unsupported operator_secret_enc format: " ++ enc.kdf ++ " v" ++ toString enc.v)
  else
    let salt ← decodeSecretField crates "salt" enc.salt
    let nonce ← decodeSecretField crates "nonce" enc.nonce
    let ct ← decodeSecretField crates "ct" enc.ct
    let key := pbkdf2HmacSha256 crates (asBytes passphrase) salt enc.iter.toNat
    let cipher ← newCipher crates "AES key error" key
    let seed ← decryptWith crates
      "operator secret decryption failed (wrong passphrase or corrupt file)" cipher nonce ct
      (asBytes operatorId)
    .ok (crates.standardEncode seed)

/-- Every step of opening a record up to the cipher succeeds, with these bytes as the nonce. -/
def SeedReachesCipher (passphrase : String) (enc : EncryptedSecret) (nonce : List UInt8) : Prop :=
  enc.kdf = kdfName ∧ enc.v = secretVersion ∧
    ∃ salt ct, crates.standardDecode enc.salt = .ok salt ∧
      crates.standardDecode enc.nonce = .ok nonce ∧
      crates.standardDecode enc.ct = .ok ct ∧
      crates.aesAccepts (pbkdf2HmacSha256 crates (asBytes passphrase) salt enc.iter.toNat) = true

@[simp] lemma decodeSecretField_returns :
    (decodeSecretField crates label text).Returns := Outcome.returns_ofExcept _ _

lemma decodeSecretField_eq_ok_iff (bytes : List UInt8) :
    decodeSecretField crates label text = .ok bytes ↔ crates.standardDecode text = .ok bytes :=
  Outcome.ofExcept_eq_ok_iff _ _ _

/-- Opening a record returns exactly when no nonce of another length than twelve bytes reaches the
cipher. -/
lemma decryptSeed_returns_iff (passphrase : String) (enc : EncryptedSecret) (operatorId : String) :
    (decryptSeed crates passphrase enc operatorId).Returns ↔
      ∀ nonce, SeedReachesCipher crates passphrase enc nonce → nonce.length = 12 := by
  unfold decryptSeed
  by_cases hformat : enc.kdf ≠ kdfName ∨ enc.v ≠ secretVersion
  · rw [if_pos hformat]
    refine iff_of_true (Outcome.returns_err _) ?_
    rintro nonce ⟨hkdf, hversion, -⟩
    exact absurd hformat (by simp [hkdf, hversion])
  · rw [if_neg hformat]
    rw [not_or, not_not, not_not] at hformat
    simp only [Outcome.returns_bind, decodeSecretField_returns, newCipher_returns,
      decryptWith_returns_iff, decodeSecretField_eq_ok_iff, newCipher_eq_ok_iff,
      Outcome.returns_ok, true_and, implies_true, and_true]
    constructor
    · rintro h nonce ⟨-, -, salt, ct, hsalt, hnonce, hct, haes⟩
      exact h salt hsalt nonce hnonce ct hct _ ⟨rfl, haes⟩
    · rintro h salt hsalt nonce hnonce ct hct _ ⟨-, haes⟩
      exact h nonce ⟨hformat.1, hformat.2, salt, ct, hsalt, hnonce, hct, haes⟩

/-! ### The three paths to the cipher -/

/-- On each of the three paths on which a stored or received text reaches the cipher, the function
returns if and only if the nonce has twelve bytes whenever every step before the cipher succeeds. -/
theorem decryption_returns_iff (crates : Crates) :
    (∀ (iicpConf : Envelope) (privateKey : Key),
      (decryptPayloadWithContext crates iicpConf privateKey).Returns ↔
        ∀ nonceBytes, RequestReachesCipher crates iicpConf privateKey nonceBytes →
          nonceBytes.length = 12) ∧
    (∀ (env : Envelope) (sharedSecret : List UInt8) (taskId : String),
      (decryptResponse crates env sharedSecret taskId).Returns ↔
        ∀ nonceBytes, ResponseReachesCipher crates env sharedSecret taskId nonceBytes →
          nonceBytes.length = 12) ∧
    (∀ (passphrase : String) (enc : EncryptedSecret) (operatorId : String),
      (decryptSeed crates passphrase enc operatorId).Returns ↔
        ∀ nonce, SeedReachesCipher crates passphrase enc nonce → nonce.length = 12) :=
  ⟨decryptPayload_returns_iff crates, decryptResponse_returns_iff crates,
    decryptSeed_returns_iff crates⟩

/-- The 32 bytes of a number, the most significant first. -/
def Key.ofNat (value : ℕ) : Key where
  bytes := (List.range 32).map fun position ↦ UInt8.ofNat (value >>> (8 * (31 - position)))
  size := by rw [List.length_map, List.length_range]

def sampleDecode (text : String) : Except String (List UInt8) :=
  if text = "" then .ok []
  else if text = "fA" then .ok [0x7c]
  else if text = "AAAAAAAAAAAAAAAA" then .ok (List.replicate 12 0)
  else if text = "AAAAAAAAAAAAAAAAAAAAAAAAAAAAAAAAAAAAAAAAAAA" then .ok (List.replicate 32 0)
  else .error "Invalid input"

/-- The derived keys of the sample inputs: the request shares 32 zero bytes, and the response an
empty secret. An empty salt and a salt of zeros give the same key. -/
def sampleHkdf (secret : List UInt8) : Key :=
  if secret = [] then
    .ofNat 0x92fd1d4bb4e52cb22ceb0e753665722c545776fa144beabca0ff227ff4c4dea1
  else .ofNat 0x5409439490ec85febf322d5146764fcc5d974c10cadde6e660571c519de5b163

/-- The functions of other crates on the sample inputs. The public key of the request is zero, and
so is the secret that comes from it. A sealed text that is shorter than its tag is refused, so no
text is parsed or encoded. -/
def sampleCrates : Crates where
  b64urlDecode := sampleDecode
  standardDecode := sampleDecode
  standardEncode := fun _ ↦ ""
  utf8Error := fun _ ↦ "invalid utf-8 sequence"
  parseJson := fun _ ↦ .error "EOF while parsing a value"
  diffieHellman := fun _ _ ↦ .ofNat 0
  hkdfExpand := fun _ secret _ ↦ .ok (sampleHkdf secret)
  hmacSha256 := fun _ _ ↦
    .ofNat 0x3577f8c9284781ff8b547055d3add913d8008937a7dc4ffd33225d565257c703
  aesAccepts := fun _ ↦ true
  aesDecrypt := fun _ _ _ _ ↦ .error ()

variable (nonce : String)

def sampleRequest : Envelope :=
  [("aad", .string "fA"), ("encrypted_body", .string ""),
    ("kem_ciphertext", .string "AAAAAAAAAAAAAAAAAAAAAAAAAAAAAAAAAAAAAAAAAAA"),
    ("nonce", .string nonce)]

def sampleResponse : Envelope :=
  [("encrypted_body", .string ""), ("nonce", .string nonce)]

/-- A record whose fields decode, with the given nonce. -/
def sampleSecret : EncryptedSecret where
  v := 1
  kdf := "pbkdf2-hmac-sha256"
  iter := 1
  salt := ""
  nonce := nonce
  ct := ""

lemma sampleCrates_nonce {envelope : Envelope} {nonceBytes : List UInt8}
    (hfield : Json.getField envelope "nonce" = some (.string "AAAAAAAAAAAAAAAA"))
    (h : FieldDecodes sampleCrates envelope "nonce" nonceBytes) : nonceBytes.length = 12 := by
  obtain ⟨_, htext, hdecode⟩ := h
  rw [hfield] at htext
  obtain rfl := Json.string.inj (Option.some.inj htext)
  rw [← Except.ok.inj hdecode]
  rfl

/-- All three paths return on nonces of twelve bytes. -/
theorem decryption_returns_on_twelve_bytes :
    (decryptPayloadWithContext sampleCrates (sampleRequest "AAAAAAAAAAAAAAAA") (.ofNat 0)).Returns ∧
    (decryptResponse sampleCrates (sampleResponse "AAAAAAAAAAAAAAAA") [] "task").Returns ∧
    (decryptSeed sampleCrates "pass" (sampleSecret "AAAAAAAAAAAAAAAA") "operator").Returns := by
  obtain ⟨hrequest, hresponse, hseed⟩ := decryption_returns_iff sampleCrates
  refine ⟨(hrequest _ _).mpr ?_, (hresponse _ _ _).mpr ?_, (hseed _ _ _).mpr ?_⟩
  · rintro nonceBytes ⟨_, _, _, _, _, _, _, hnonce, _⟩
    exact sampleCrates_nonce rfl hnonce
  · rintro _ ⟨_, _, hnonce, _⟩
    exact sampleCrates_nonce rfl hnonce
  · rintro _ ⟨_, _, _, _, _, hdecode, _⟩
    rw [← Except.ok.inj hdecode]
    rfl

/-- With an empty nonce, and everything else in order, each of the three functions panics. -/
theorem empty_nonce_panics :
    decryptPayloadWithContext sampleCrates (sampleRequest "") (.ofNat 0) = .panicked ∧
    decryptResponse sampleCrates (sampleResponse "") [] "task" = .panicked ∧
    decryptSeed sampleCrates "pass" (sampleSecret "") "operator" = .panicked := by
  decide

end Iicp.Confidentiality
