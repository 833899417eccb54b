import Iicp.Dispatch.TrustBundle
import Iicp.Rust.Base64
import Iicp.Rust.Bytes
import Iicp.Rust.Str
import Mathlib.Data.Bool.AllAny

/-!
# The file store of trust bundles

`FileDispatchTrustBundleStore` keeps one bundle in a file: its canonical bytes, their digest, its
version and a high-water mark. `install` takes a bundle of a newer version, `recover` takes any
bundle that an administrator authorises and keeps the mark, and `load` reads the file and checks
everything in it.

`load` refuses a file of more than `stateLimit` bytes, and no limit is checked before a file is
written. So what was installed or recovered is read back exactly when the size of the file
(`length_payload`) is within the limit (`stored_state_read_back_iff`).

The file system enters by what is found at the path (`Entry`) and by the operations that fail
(`LoadFaults`, `CallFaults`). The JSON reader, the texts of its errors and the hash are
`StoreCrates`.
-/

namespace Iicp.Dispatch

open Rust Json

structure StoreCrates where
  floatText : UInt64 → List Char
  fromSlice : List UInt8 → Option Json
  readError : List UInt8 → String
  base64Error : String → String
  sha256 : List UInt8 → Vector UInt8 32

/-- The errors of the store. Writing the values of this module as JSON does not fail. -/
inductive TrustBundleStoreError where
  | corrupt (message : String)
  | locked
  | permissions
  | io (message : String)
  deriving DecidableEq, Repr

def TrustBundleStoreError.text : TrustBundleStoreError → String
  | corrupt message => "trust store is corrupt: " ++ message
  | locked => "trust store lock is held"
  | permissions => "trust store requires owner-only permissions"
  | io message => "trust store I/O error: " ++ message

structure StoredDispatchTrustBundle where
  bundle : DispatchTrustBundle
  canonicalBytes : List UInt8
  digest : String
  highWater : UInt64
  deriving DecidableEq, Repr

inductive TrustBundleInstallStatus where
  | installed
  | unchanged
  | stale
  | conflict
  | recovered
  | recoveryRequired
  deriving DecidableEq, Repr

structure TrustBundleInstallResult where
  status : TrustBundleInstallStatus
  state : Option StoredDispatchTrustBundle
  deriving DecidableEq, Repr

structure AdminRecoveryAuthorization where
  reason : String
  minimumHighWater : UInt64
  deriving DecidableEq, Repr

/-! ### The state file -/

structure TrustStoreState where
  bundleB64 : String
  bundleDigest : String
  bundleVersion : UInt64
  highWater : UInt64
  deriving DecidableEq, Repr

namespace TrustStoreState

variable (state : TrustStoreState)

def toValue : Json :=
  .object [("bundle_b64", .string state.bundleB64), ("bundle_digest", .string state.bundleDigest),
    ("bundle_version", u64Value state.bundleVersion), ("high_water", u64Value state.highWater)]

def ofValue (value : Json) : Option TrustStoreState := do
  let part ← singleParts [plain "bundle_b64", plain "bundle_digest", plain "bundle_version",
    plain "high_water"] value
  some {
    bundleB64 := ← required asStr (part "bundle_b64")
    bundleDigest := ← required asStr (part "bundle_digest")
    bundleVersion := ← required readU64 (part "bundle_version")
    highWater := ← required readU64 (part "high_water") }

lemma ofValue_toValue : ofValue state.toValue = some state := by
  simp [ofValue, toValue, singleParts, structParts, required, getField_cons, u64Value, readU64,
    asStr, plain]

lemma toValue_plain : state.toValue.Plain ∧ state.toValue.depth = 1 := by
  rw [toValue, Plain, depth]
  constructor
  · refine ⟨by simp only [List.map_cons, List.map_nil]; decide, ?_⟩
    simp [PlainFields, Plain, u64Value]
  · simp [fieldsDepth, depth, u64Value]

end TrustStoreState

/-- The most bytes of a state file that are read. -/
def stateLimit : ℕ := 4 * 1024 * 1024

section Files

variable (crates : StoreCrates)

def sha256Digest (bytes : List UInt8) : String :=
  "sha256:" ++ String.ofList (lowerHex (crates.sha256 bytes).toList)

def stored (bundle : DispatchTrustBundle) (highWater : UInt64) : StoredDispatchTrustBundle :=
  let canonicalBytes := canonicalDispatchTrustBundle crates.floatText bundle
  ⟨bundle, canonicalBytes, sha256Digest crates canonicalBytes, highWater⟩

def payload (bundle : DispatchTrustBundle) (highWater : UInt64) : List UInt8 :=
  let canonicalBytes := canonicalDispatchTrustBundle crates.floatText bundle
  let state : TrustStoreState := {
    bundleB64 := String.ofList (encodeBase64 canonicalBytes)
    bundleDigest := sha256Digest crates canonicalBytes
    bundleVersion := bundle.bundleVersion
    highWater := highWater }
  textBytes (canonicalTicketClaims crates.floatText state.toValue)

def readState (raw : List UInt8) : Except TrustBundleStoreError StoredDispatchTrustBundle :=
  if stateLimit < raw.length then .error (.corrupt "state exceeds size limit")
  else
    match (crates.fromSlice raw).bind TrustStoreState.ofValue with
    | none => .error (.corrupt (crates.readError raw))
    | some state =>
      match decodeBase64 state.bundleB64.toList with
      | none => .error (.corrupt (crates.base64Error state.bundleB64))
      | some canonicalBytes =>
        let digest := sha256Digest crates canonicalBytes
        if digest ≠ state.bundleDigest then .error (.corrupt "bundle digest mismatch")
        else
          match readBundle crates.fromSlice canonicalBytes with
          | none => .error (.corrupt (crates.readError canonicalBytes))
          | some bundle =>
            if bundle.bundleVersion ≠ state.bundleVersion ∨
                state.highWater < bundle.bundleVersion then
              .error (.corrupt "bundle version/high-water mismatch")
            else if canonicalDispatchTrustBundle crates.floatText bundle ≠ canonicalBytes then
              .error (.corrupt "bundle is not canonical")
            else .ok ⟨bundle, canonicalBytes, digest, state.highWater⟩

end Files

/-! ### The file system -/

/-- What is at the path of the store. Whether a file is for its owner only is told by its mode on
Unix and by its access list on Windows. -/
inductive Entry where
  | file (bytes : List UInt8) (ownerOnly : Bool)
  | symlink (dangling : Bool)
  | directory
  deriving DecidableEq, Repr

/-- The operations of a load that fail: the query whether the path exists, which then answers no;
the query of the kind of the entry; the check of the directory, on Windows only; the check of the
file; and reading the file. -/
structure LoadFaults where
  existsFails : Bool
  metadata : Option String
  parentCheck : Bool
  fileCheck : Option TrustBundleStoreError
  reading : Option String
  deriving DecidableEq, Repr

def LoadFaults.none : LoadFaults := ⟨false, .none, false, .none, .none⟩

def ownerOnly (private? : Bool) (fault : Option TrustBundleStoreError) :
    Except TrustBundleStoreError Unit :=
  match fault with
  | some error => .error error
  | none => if private? then .ok () else .error .permissions

def load (crates : StoreCrates) (faults : LoadFaults) (entry : Option Entry) :
    Except TrustBundleStoreError (Option StoredDispatchTrustBundle) :=
  match entry with
  | none => .ok none
  | some entry =>
    if faults.existsFails || entry == .symlink true then .ok none
    else
      match faults.metadata with
      | some message => .error (.io message)
      | none =>
        match entry with
        | .file bytes private? =>
          if faults.parentCheck then .error .permissions
          else
            match ownerOnly private? faults.fileCheck with
            | .error error => .error (.corrupt error.text)
            | .ok () =>
              match faults.reading with
              | some message => .error (.io message)
              | none => (readState crates bytes).map some
        | _ => .error (.corrupt "trust store must be a regular file")

/-! ### Installing and recovering -/

/-- What a call does after it has read the store. -/
inductive StoreDecision where
  | answer (status : TrustBundleInstallStatus)
  | commit (status : TrustBundleInstallStatus) (highWater : UInt64)
  deriving DecidableEq, Repr

/-- A call that may write. -/
inductive StoreCall where
  | install (bundle : DispatchTrustBundle) (expectedCurrentVersion : Option UInt64)
  | recover (bundle : DispatchTrustBundle) (authorization : Option AdminRecoveryAuthorization)
  deriving DecidableEq, Repr

def installDecision (crates : StoreCrates) (bundle : DispatchTrustBundle)
    (expectedCurrentVersion : Option UInt64) (current : Option StoredDispatchTrustBundle) :
    StoreDecision :=
  let currentVersion := current.map fun state ↦ state.bundle.bundleVersion
  let candidateDigest := sha256Digest crates (canonicalDispatchTrustBundle crates.floatText bundle)
  let highWater := (current.map StoredDispatchTrustBundle.highWater).getD 0
  if expectedCurrentVersion.isSome ∧ expectedCurrentVersion ≠ currentVersion then .answer .conflict
  else if bundle.bundleVersion < highWater then .answer .stale
  else if currentVersion = some bundle.bundleVersion then
    if current.any fun state ↦ state.digest = candidateDigest then .answer .unchanged
    else .answer .conflict
  else .commit .installed (max highWater bundle.bundleVersion)

def recoverDecision (bundle : DispatchTrustBundle) (authorization : AdminRecoveryAuthorization)
    (current : Option StoredDispatchTrustBundle) : StoreDecision :=
  let highWater := (current.map StoredDispatchTrustBundle.highWater).getD 0
  .commit .recovered (max (max highWater authorization.minimumHighWater) bundle.bundleVersion)

namespace StoreCall

def bundle : StoreCall → DispatchTrustBundle
  | install bundle _ => bundle
  | recover bundle _ => bundle

/-- A recovery needs an authorisation with a reason; without one the store is not touched. -/
def authorized : StoreCall → Bool
  | install _ _ => true
  | recover _ authorization => authorization.any fun found ↦ trim found.reason ≠ ""

/-- What a call makes of a load that failed: a recovery goes on without a corrupt state. -/
def current (call : StoreCall)
    (loaded : Except TrustBundleStoreError (Option StoredDispatchTrustBundle)) :
    Except TrustBundleStoreError (Option StoredDispatchTrustBundle) :=
  match call, loaded with
  | recover _ _, .error (.corrupt _) => .ok none
  | _, loaded => loaded

def decide (crates : StoreCrates) (call : StoreCall) (current : Option StoredDispatchTrustBundle) :
    StoreDecision :=
  match call with
  | install bundle expectedCurrentVersion =>
    installDecision crates bundle expectedCurrentVersion current
  | recover bundle (some authorization) => recoverDecision bundle authorization current
  | recover _ none => .answer .recoveryRequired

end StoreCall

/-- The operations of a call that fail: taking the lock, those of its load, writing and renaming the
new file, and what follows the rename. -/
structure CallFaults where
  lock : Option TrustBundleStoreError
  load : LoadFaults
  (beforeRename afterRename : Option TrustBundleStoreError)
  deriving DecidableEq, Repr

/-- A file cannot be renamed over a directory. -/
def renameOverDirectory : TrustBundleStoreError := .io "Is a directory (os error 21)"

/-- The result of a call and what is at the path after it. -/
def StoreCall.perform (crates : StoreCrates) (faults : CallFaults) (entry : Option Entry)
    (call : StoreCall) :
    Except TrustBundleStoreError TrustBundleInstallResult × Option Entry :=
  if !call.authorized then (.ok ⟨.recoveryRequired, none⟩, entry)
  else
    match faults.lock with
    | some error => (.error error, entry)
    | none =>
      match call.current (load crates faults.load entry) with
      | .error error => (.error error, entry)
      | .ok current =>
        match call.decide crates current with
        | .answer status => (.ok ⟨status, current⟩, entry)
        | .commit status highWater =>
          match faults.beforeRename with
          | some error => (.error error, entry)
          | none =>
            let written := some (Entry.file (payload crates call.bundle highWater) true)
            if entry = some .directory then (.error renameOverDirectory, entry)
            else
              match faults.afterRename with
              | some error => (.error error, written)
              | none => (.ok ⟨status, some (stored crates call.bundle highWater)⟩, written)

/-! ### The size of a state file -/

def digitCount (value : UInt64) : ℕ := (Nat.toDigits 10 value.toNat).length

/-- The bytes of a state file: the names and the punctuation, a digest of 71 characters, the
canonical bytes in base64 and the two numbers. -/
def storedSize (canonicalLength : ℕ) (bundleVersion highWater : UInt64) : ℕ :=
  139 + 4 * ((canonicalLength + 2) / 3) + digitCount bundleVersion + digitCount highWater

lemma toDigits_ascii (value : UInt64) : ∀ char ∈ Nat.toDigits 10 value.toNat, char.toNat < 128 := by
  intro char hchar
  have hdigit := Nat.isDigit_of_mem_toDigits (by decide) (by decide) hchar
  rw [Char.isDigit, Bool.and_eq_true, decide_eq_true_iff, decide_eq_true_iff] at hdigit
  exact lt_of_le_of_lt (UInt32.le_iff_toNat_le.mp hdigit.2) (by decide)

lemma digitChar_printable : ∀ digit < 16, Printable digit.digitChar := by decide

lemma lowerHex_printable (bytes : List UInt8) :
    (lowerHex bytes).length = 2 * bytes.length ∧ ∀ char ∈ lowerHex bytes, Printable char := by
  induction bytes with
  | nil => exact ⟨rfl, by simp [lowerHex]⟩
  | cons byte rest ih =>
    have hbyte := byte.toNat_lt
    rw [lowerHex_cons, List.length_cons, List.length_cons, ih.1, List.length_cons, List.forall_mem_cons,
      List.forall_mem_cons]
    exact ⟨by omega, digitChar_printable _ (by omega), digitChar_printable _ (by omega), ih.2⟩

section Size

variable (crates : StoreCrates)

lemma sha256Digest_printable (bytes : List UInt8) :
    (sha256Digest crates bytes).toList.length = 71 ∧
      ∀ char ∈ (sha256Digest crates bytes).toList, Printable char := by
  have hhex := lowerHex_printable (crates.sha256 bytes).toList
  have hlist : (sha256Digest crates bytes).toList =
      ['s', 'h', 'a', '2', '5', '6', ':'] ++ lowerHex (crates.sha256 bytes).toList := by
    simp [sha256Digest]
  have hstart : ∀ char ∈ ['s', 'h', 'a', '2', '5', '6', ':'], Printable char :=
    List.all_iff_forall_prop.mp (by decide)
  rw [hlist, List.length_append, hhex.1, Vector.length_toList]
  refine ⟨rfl, fun char hchar ↦ ?_⟩
  obtain hfirst | hrest := List.mem_append.mp hchar
  · exact hstart char hfirst
  · exact hhex.2 char hrest

lemma encodeBase64_printableChars (bytes : List UInt8) :
    ∀ char ∈ encodeBase64 bytes, Printable char := by
  intro char hchar
  obtain ⟨hlow, hhigh, hother⟩ := encodeBase64_printable bytes char hchar
  refine ⟨by omega, by omega, ?_, ?_⟩
  · rintro rfl
    exact absurd hlow (by decide)
  · rintro rfl
    exact absurd rfl hother

lemma payload_eq (bundle : DispatchTrustBundle) (highWater : UInt64) :
    payload crates bundle highWater =
      textBytes (TrustStoreState.toValue {
        bundleB64 := String.ofList
          (encodeBase64 (canonicalDispatchTrustBundle crates.floatText bundle))
        bundleDigest := (stored crates bundle highWater).digest
        bundleVersion := bundle.bundleVersion
        highWater := highWater } |>.jsonText crates.floatText) := by
  rw [payload, canonicalTicketClaims_of_plain crates.floatText _ (TrustStoreState.toValue_plain _).1]
  rfl

/-- A name is written with so many characters, all of them ASCII. -/
def AsciiName (name : String) (length : ℕ) : Prop :=
  (stringText name).length = length ∧ ∀ char ∈ stringText name, char.toNat < 128

lemma asciiName_of_all {name : String} {length : ℕ} (hlength : (stringText name).length = length)
    (hall : (stringText name).all (·.toNat < 128)) : AsciiName name length :=
  ⟨hlength, List.all_iff_forall_prop.mp hall⟩

lemma length_payload (bundle : DispatchTrustBundle) (highWater : UInt64) :
    (payload crates bundle highWater).length =
      storedSize (canonicalDispatchTrustBundle crates.floatText bundle).length bundle.bundleVersion
        highWater := by
  have hbase64 : ∀ bytes, stringText (String.ofList (encodeBase64 bytes)) =
      quote :: (encodeBase64 bytes ++ [quote]) := by
    intro bytes
    rw [stringText_of_printable, String.toList_ofList]
    rw [String.toList_ofList]
    exact encodeBase64_printableChars _
  have hdigest := sha256Digest_printable crates (canonicalDispatchTrustBundle crates.floatText bundle)
  have hfirst : AsciiName "bundle_b64" 12 := asciiName_of_all (by decide) (by decide)
  have hsecond : AsciiName "bundle_digest" 15 := asciiName_of_all (by decide) (by decide)
  have hthird : AsciiName "bundle_version" 16 := asciiName_of_all (by decide) (by decide)
  have hfourth : AsciiName "high_water" 12 := asciiName_of_all (by decide) (by decide)
  rw [payload_eq, length_textBytes]
  · simp only [TrustStoreState.toValue, jsonText, fieldsText, hbase64, stored,
      stringText_of_printable hdigest.2, u64Value, numberText, List.length_cons,
      List.length_append, hdigest.1, hfirst.1, hsecond.1, hthird.1, hfourth.1, length_encodeBase64,
      storedSize, digitCount, List.length_nil]
    omega
  · have hencoded : ∀ bytes, ∀ char ∈ encodeBase64 bytes, char.toNat < 128 :=
      fun bytes char hchar ↦ (encodeBase64_printableChars bytes char hchar).2.1
    have hquote : quote.toNat < 128 := by decide
    simp only [TrustStoreState.toValue, jsonText, fieldsText, hbase64, stored,
      stringText_of_printable hdigest.2, u64Value, numberText, List.forall_mem_cons,
      List.forall_mem_append]
    exact ⟨by decide, ⟨hfirst.2, by decide, ⟨hquote, hencoded _, hquote, by simp⟩, by decide,
      hsecond.2, by decide, ⟨hquote, fun char hchar ↦ (hdigest.2 char hchar).2.1, hquote, by simp⟩,
      by decide, hthird.2, by decide, toDigits_ascii _, by decide, hfourth.2, by decide,
      toDigits_ascii _⟩, by decide, by simp⟩

end Size

/-! ### What was written is read back -/

section ReadBack

variable {crates : StoreCrates}

/-- All checks of a load pass for a file that was written, up to the limit on its size. -/
lemma readState_payload (hread : ReadsPlain crates.floatText crates.fromSlice)
    {bundle : DispatchTrustBundle} {highWater : UInt64} (hmark : bundle.bundleVersion ≤ highWater) :
    readState crates (payload crates bundle highWater) =
      if stateLimit < (payload crates bundle highWater).length then
        .error (.corrupt "state exceeds size limit")
      else .ok { stored crates bundle highWater with bundle := bundle.canonicalForm } := by
  have hstate : ∀ state : TrustStoreState,
      crates.fromSlice (textBytes (state.toValue.jsonText crates.floatText)) =
        some state.toValue :=
    fun state ↦ hread _ state.toValue_plain.1 (state.toValue_plain.2.trans_le (by decide))
  have hbundle := readBundle_canonicalDispatchTrustBundle hread bundle
  have hdigest : ¬ sha256Digest crates (canonicalDispatchTrustBundle crates.floatText bundle) ≠
      (stored crates bundle highWater).digest := not_not.mpr rfl
  have hversion : ¬ (bundle.canonicalForm.bundleVersion ≠ bundle.bundleVersion ∨
      highWater < bundle.canonicalForm.bundleVersion) :=
    not_or.mpr ⟨not_not.mpr rfl, UInt64.not_lt.mpr hmark⟩
  have hcanonical := canonicalDispatchTrustBundle_canonicalForm bundle crates.floatText
  unfold readState
  by_cases hsize : stateLimit < (payload crates bundle highWater).length
  · rw [if_pos hsize, if_pos hsize]
  · rw [if_neg hsize, if_neg hsize, payload_eq, hstate, Option.bind_some,
      TrustStoreState.ofValue_toValue]
    dsimp only
    rw [String.toList_ofList, decodeBase64_encodeBase64]
    dsimp only
    rw [if_neg hdigest, hbundle]
    dsimp only
    rw [if_neg hversion, if_neg (not_not.mpr hcanonical)]
    rfl

lemma load_file (bytes : List UInt8) :
    load crates .none (some (.file bytes true)) = (readState crates bytes).map some := rfl

variable {current : Option StoredDispatchTrustBundle} {call : StoreCall}
  {status : TrustBundleInstallStatus}

/-- An answer without a write is never that of a write. -/
lemma StoreCall.decide_answer (h : call.decide crates current = .answer status) :
    status ≠ .installed ∧ status ≠ .recovered := by
  cases call with
  | install =>
    rw [decide, installDecision] at h
    split_ifs at h <;> cases h <;> decide
  | recover bundle authorization =>
    cases authorization with
    | none =>
      cases h
      decide
    | some => nomatch h

/-- The mark after a call that writes: not below the mark before it, nor below the version. -/
def StoreCall.newMark (call : StoreCall) (current : Option StoredDispatchTrustBundle) : UInt64 :=
  let highWater := (current.map StoredDispatchTrustBundle.highWater).getD 0
  match call with
  | install bundle _ => max highWater bundle.bundleVersion
  | recover bundle authorization =>
    max (max highWater ((authorization.map AdminRecoveryAuthorization.minimumHighWater).getD 0))
      bundle.bundleVersion

lemma StoreCall.decide_commit {highWater : UInt64}
    (h : call.decide crates current = .commit status highWater) :
    highWater = call.newMark current ∧ call.bundle.bundleVersion ≤ highWater := by
  have hmax : ∀ mark version : UInt64, version ≤ max mark version := by
    intro mark version
    rw [UInt64.le_iff_toNat_le, UInt64.toNat_max]
    exact le_max_right _ _
  cases call with
  | install =>
    rw [decide, installDecision] at h
    split_ifs at h
    cases h
    exact ⟨rfl, hmax _ _⟩
  | recover bundle authorization =>
    cases authorization with
    | none => nomatch h
    | some =>
      cases h
      exact ⟨rfl, hmax _ _⟩

/-- A call that returns a result left the path as it was, or wrote the state of its bundle. -/
lemma StoreCall.perform_ok {faults : CallFaults} {entry next : Option Entry}
    {result : TrustBundleInstallResult}
    (h : call.perform crates faults entry = (.ok result, next)) :
    (result.status ≠ .installed ∧ result.status ≠ .recovered ∧ next = entry) ∨
      ∃ current status highWater, call.current (load crates faults.load entry) = .ok current ∧
        call.decide crates current = .commit status highWater ∧
        result = ⟨status, some (stored crates call.bundle highWater)⟩ ∧
        next = some (.file (payload crates call.bundle highWater) true) := by
  unfold perform at h
  by_cases hauthorized : call.authorized
  · simp only [hauthorized, Bool.not_true, Bool.false_eq_true, if_false] at h
    cases hlock : faults.lock with
    | some => simp [hlock] at h
    | none =>
      cases hcurrent : call.current (load crates faults.load entry) with
      | error => simp [hlock, hcurrent] at h
      | ok current =>
        cases hdecide : call.decide crates current with
        | answer =>
          simp only [hlock, hcurrent, hdecide, Prod.mk.injEq, Except.ok.injEq] at h
          obtain ⟨rfl, rfl⟩ := h
          exact .inl ⟨(decide_answer hdecide).1, (decide_answer hdecide).2, rfl⟩
        | commit status highWater =>
          simp only [hlock, hcurrent, hdecide] at h
          cases hbefore : faults.beforeRename with
          | some => simp [hbefore] at h
          | none =>
            by_cases hdirectory : entry = some .directory
            · simp [hbefore, hdirectory] at h
            · cases hafter : faults.afterRename with
              | some => simp [hbefore, hdirectory, hafter] at h
              | none =>
                simp only [hbefore, hdirectory, hafter, if_false, Prod.mk.injEq,
                  Except.ok.injEq] at h
                obtain ⟨rfl, rfl⟩ := h
                exact .inr ⟨current, status, highWater, rfl, hdecide, rfl, rfl⟩
  · simp only [hauthorized, Bool.not_false, if_true, Prod.mk.injEq, Except.ok.injEq] at h
    obtain ⟨rfl, rfl⟩ := h
    exact .inl ⟨by decide, by decide, rfl⟩

/-- The mark that a call leads to from what it finds at the path. -/
def StoreCall.markAfter (crates : StoreCrates) (faults : CallFaults) (entry : Option Entry)
    (call : StoreCall) : UInt64 :=
  call.newMark (call.current (load crates faults.load entry)).toOption.join

end ReadBack

open StoreCall

/-- Assumes: the reader reads plain values back, and a call installed or recovered a bundle. A load
right after it gives the canonical form of the bundle with the digest, the canonical bytes and the
mark that the call returned exactly when the state file is within the limit. -/
theorem stored_state_read_back_iff {crates : StoreCrates}
    (hread : ReadsPlain crates.floatText crates.fromSlice) {faults : CallFaults} {call : StoreCall}
    {entry next : Option Entry} {result : TrustBundleInstallResult}
    (hresult : call.perform crates faults entry = (.ok result, next))
    (hstatus : result.status = .installed ∨ result.status = .recovered) :
    (∃ state loaded, result.state = some state ∧ load crates .none next = .ok (some loaded) ∧
        loaded.bundle = call.bundle.canonicalForm ∧ loaded.digest = state.digest ∧
        loaded.canonicalBytes = state.canonicalBytes ∧ loaded.highWater = state.highWater) ↔
      storedSize (canonicalDispatchTrustBundle crates.floatText call.bundle).length
        call.bundle.bundleVersion (call.markAfter crates faults entry) ≤ stateLimit := by
  obtain ⟨hother, hanother, -⟩ | ⟨_, _, highWater, hcurrent, hdecide, rfl, rfl⟩ :=
    perform_ok hresult
  · exact absurd hstatus (not_or.mpr ⟨hother, hanother⟩)
  · obtain ⟨hmark, hversion⟩ := decide_commit hdecide
    have hafter : call.markAfter crates faults entry = highWater := by
      rw [markAfter, hcurrent, hmark]
      rfl
    rw [hafter, ← length_payload, load_file, readState_payload hread hversion]
    by_cases hsize : stateLimit < (payload crates call.bundle highWater).length
    · rw [if_pos hsize]
      constructor
      · rintro ⟨_, _, -, hload, -⟩
        nomatch hload
      · intro hfits
        omega
    · rw [if_neg hsize]
      exact ⟨fun _ ↦ not_lt.mp hsize, fun _ ↦ ⟨_, _, rfl, rfl, rfl, rfl, rfl, rfl⟩⟩


/-! ### Bundles of the fixtures, and one that is too large -/

def bundleNaming (bundleVersion : UInt64) (issuer : String) : DispatchTrustBundle where
  bundleVersion := bundleVersion
  keys := []
  issuer := some issuer
  validFrom := none
  validUntil := none

/-- The canonical bytes of such a bundle, if the issuer is written as it is. -/
lemma length_canonical_bundleNaming (floatText : UInt64 → List Char) (bundleVersion : UInt64)
    {issuer : String} (hissuer : ∀ char ∈ issuer.toList, Printable char) :
    (canonicalDispatchTrustBundle floatText (bundleNaming bundleVersion issuer)).length =
      issuer.toList.length + digitCount bundleVersion + 41 := by
  have hform : (bundleNaming bundleVersion issuer).canonicalForm =
      bundleNaming bundleVersion issuer := rfl
  have hname : AsciiName "bundle_version" 16 := asciiName_of_all (by decide) (by decide)
  have hissuerName : AsciiName "issuer" 8 := asciiName_of_all (by decide) (by decide)
  have hkeys : AsciiName "keys" 6 := asciiName_of_all (by decide) (by decide)
  have htext : (bundleNaming bundleVersion issuer).toValue.jsonText floatText =
      '{' :: (stringText "bundle_version" ++ ':' :: (Nat.toDigits 10 bundleVersion.toNat ++
        ',' :: (stringText "issuer" ++ ':' :: quote :: (issuer.toList ++ quote :: ',' ::
          (stringText "keys" ++ [':', '[', ']', '}']))))) := by
    simp [bundleNaming, DispatchTrustBundle.toValue, DispatchTrustBundle.fields, present,
      jsonText, fieldsText, itemsText, u64Value, numberText,
      stringText_of_printable hissuer]
  rw [canonicalDispatchTrustBundle_eq, hform, htext, length_textBytes]
  · simp only [List.length_cons, List.length_append, hname.1, hissuerName.1, hkeys.1,
      List.length_nil, digitCount]
    omega
  · have hquote : quote.toNat < 128 := by decide
    simp only [List.forall_mem_cons, List.forall_mem_append]
    exact ⟨by decide, hname.2, by decide, toDigits_ascii bundleVersion, by decide, hissuerName.2,
      by decide, hquote, fun char hchar ↦ (hissuer char hchar).2.1, hquote, by decide, hkeys.2,
      by decide, by decide, by decide, by decide, by simp⟩

lemma issuer_printable : ∀ char ∈ "did:web:directory.example".toList, Printable char :=
  List.all_iff_forall_prop.mp (by decide)

def CallFaults.none : CallFaults := ⟨.none, .none, .none, .none⟩

def fixtureStoreCrates : StoreCrates where
  floatText := fun _ ↦ []
  fromSlice := readBytes
  readError := fun _ ↦ "expected value at line 1 column 1"
  base64Error := fun _ ↦ "Invalid padding"
  sha256 := fun _ ↦ #v[0x3a, 0x03, 0x4c, 0x6e, 0xa3, 0xfc, 0x59, 0x5d, 0x5d, 0x75, 0x0c,
    0xa5, 0xdd, 0xa2, 0x6a, 0xe0, 0xb6, 0x9e, 0x2c, 0xb9, 0x9d, 0x7f,
    0x3a, 0x01, 0x4e, 0x59, 0x36, 0xd1, 0xcb, 0x16, 0xd0, 0x29]

/-- A bundle whose issuer has as many characters as three mebibytes. -/
def oversizedBundle : DispatchTrustBundle :=
  bundleNaming 1 (String.ofList (List.replicate (3 * 1024 * 1024) 'a'))

lemma length_canonical_oversizedBundle (floatText : UInt64 → List Char) :
    (canonicalDispatchTrustBundle floatText oversizedBundle).length = 3 * 1024 * 1024 + 42 := by
  have hletter : Printable 'a' := by decide
  have hall : ∀ size : ℕ, ∀ char ∈ (String.ofList (List.replicate size 'a')).toList,
      Printable char := by
    intro size char hchar
    rw [String.toList_ofList] at hchar
    exact List.eq_of_mem_replicate hchar ▸ hletter
  rw [oversizedBundle, length_canonical_bundleNaming floatText 1 (hall _), String.toList_ofList,
    List.length_replicate]
  rfl

/-- The oversized bundle is installed into an empty store and cannot be loaded after that, whatever
the crates compute. -/
lemma oversizedBundle_exceeds (crates : StoreCrates) :
    ∃ state next, (install oversizedBundle none).perform crates .none none =
        (.ok ⟨.installed, some state⟩, next) ∧
      load crates .none next = .error (.corrupt "state exceeds size limit") := by
  refine ⟨stored crates oversizedBundle 1,
    some (.file (payload crates oversizedBundle 1) true), rfl, ?_⟩
  have hlarge : stateLimit < (payload crates oversizedBundle 1).length := by
    have hdigits : digitCount 1 = 1 := by decide
    have hversion : oversizedBundle.bundleVersion = 1 := rfl
    rw [length_payload, length_canonical_oversizedBundle, hversion, storedSize, hdigits, stateLimit]
    decide
  rw [load_file, readState, if_pos hlarge]
  rfl

theorem oversized_bundle_not_read_back :
    ∃ state next, (install oversizedBundle none).perform fixtureStoreCrates .none none =
        (.ok ⟨.installed, some state⟩, next) ∧
      load fixtureStoreCrates .none next = .error (.corrupt "state exceeds size limit") :=
  oversizedBundle_exceeds fixtureStoreCrates

theorem stored_state_read_back_fixture :
    ReadsPlain fixtureStoreCrates.floatText fixtureStoreCrates.fromSlice ∧
      ∃ state next, (install (bundleNaming 1 "did:web:directory.example") none).perform
            fixtureStoreCrates .none none = (.ok ⟨.installed, some state⟩, next) ∧
        ∃ loaded, load fixtureStoreCrates .none next = .ok (some loaded) ∧
          loaded.digest = state.digest ∧ loaded.highWater = state.highWater := by
  have hread : ReadsPlain fixtureStoreCrates.floatText fixtureStoreCrates.fromSlice :=
    readsPlain_readBytes _
  have hlength := length_canonical_bundleNaming fixtureStoreCrates.floatText 1 issuer_printable
  have hresult : (install (bundleNaming 1 "did:web:directory.example") none).perform
      fixtureStoreCrates .none none =
        (.ok ⟨.installed, some (stored fixtureStoreCrates
            (bundleNaming 1 "did:web:directory.example") 1)⟩,
          some (.file (payload fixtureStoreCrates
            (bundleNaming 1 "did:web:directory.example") 1) true)) := rfl
  obtain ⟨_, loaded, hstate, hload, -, hdigest, -, hmark⟩ :=
    (stored_state_read_back_iff hread hresult (.inl rfl)).mpr (by
      rw [bundle, hlength]
      decide)
  obtain rfl := Option.some.inj hstate
  exact ⟨hread, _, _, hresult, loaded, hload, hdigest, hmark⟩

end Iicp.Dispatch
