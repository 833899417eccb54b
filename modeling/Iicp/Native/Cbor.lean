import Iicp.Rust.Base64
import Iicp.Rust.Json
import Iicp.Native.Frame

/-!
# CBOR payloads

The value type of the CBOR library, the readers that pick fields out of a map with integer keys, and
the two conversions between CBOR and JSON values, which write bytes as base64 texts. The library's
encoder and decoder are a `CborCodec`: any two functions.
-/

set_option autoImplicit false

namespace Iicp.Native

open Rust

/-! ### Values -/

structure CborInteger where
  value : ℤ
  range : -2 ^ 64 ≤ value ∧ value < 2 ^ 64
  deriving DecidableEq

inductive CborValue where
  | integer (value : CborInteger)
  | bytes (value : List UInt8)
  | float (bits : UInt64)
  | text (value : String)
  | bool (value : Bool)
  | null
  | tag (number : UInt64) (value : CborValue)
  | array (items : List CborValue)
  | map (entries : List (CborValue × CborValue))

namespace CborInteger

def ofU64 (value : UInt64) : CborInteger :=
  ⟨value.toNat, by
    have hrange := value.toNat_lt
    constructor <;> omega⟩

def ofI64 (value : Int64) : CborInteger :=
  ⟨value.toInt, by
    have hlow := value.le_toInt
    have hhigh := value.toInt_lt
    constructor <;> omega⟩

end CborInteger

/-- An unsigned 64-bit value, as the keys and the counters of the messages are. -/
def CborValue.ofU64 (value : UInt64) : CborValue := .integer (.ofU64 value)

/-! ### Readers -/

/-- The value under an integer key of a map: the first entry with that key. -/
def cborMapGet (map : CborValue) (key : ℤ) : Option CborValue :=
  match map with
  | .map entries =>
    (entries.find? fun entry ↦
      match entry.1 with
      | .integer number => number.value == key
      | _ => false).map Prod.snd
  | _ => none

lemma cborMapGet_nil (key : ℤ) : cborMapGet (.map []) key = none := rfl

lemma cborMapGet_cons (number : UInt64) (value : CborValue)
    (rest : List (CborValue × CborValue)) (key : ℤ) :
    cborMapGet (.map ((.ofU64 number, value) :: rest)) key =
      if (number.toNat : ℤ) = key then some value else cborMapGet (.map rest) key := by
  simp only [cborMapGet, CborValue.ofU64, CborInteger.ofU64, List.find?_cons]
  by_cases h : (number.toNat : ℤ) = key
  · rw [if_pos h, beq_iff_eq.mpr h]
    rfl
  · rw [if_neg h, beq_eq_false_iff_ne.mpr h]

def cborToStr : CborValue → Option String
  | .text value => some value
  | _ => none

def cborToBool : CborValue → Option Bool
  | .bool value => some value
  | _ => none

def cborToU64 : CborValue → Option UInt64
  | .integer number =>
    if 0 ≤ number.value ∧ number.value < 2 ^ 64 then some (UInt64.ofNat number.value.toNat)
    else none
  | _ => none

@[simp] lemma cborToU64_ofU64 (value : UInt64) : cborToU64 (.ofU64 value) = some value := by
  have hrange : (0 : ℤ) ≤ value.toNat ∧ (value.toNat : ℤ) < 2 ^ 64 := by
    have hlt := value.toNat_lt
    constructor <;> omega
  simp only [CborValue.ofU64, CborInteger.ofU64, cborToU64]
  rw [if_pos hrange, Int.toNat_natCast, UInt64.ofNat_toNat]

/-- The text under a key, empty when there is none. -/
def textAt (map : CborValue) (key : ℤ) : String := ((cborMapGet map key).bind cborToStr).getD ""

/-- The truth value under a key, false when there is none. -/
def boolAt (map : CborValue) (key : ℤ) : Bool := ((cborMapGet map key).bind cborToBool).getD false

def u64At (map : CborValue) (key : ℤ) : Option UInt64 := (cborMapGet map key).bind cborToU64

variable {map : CborValue} {key : ℤ}

lemma textAt_of_get {value : String} (h : cborMapGet map key = some (.text value)) :
    textAt map key = value := by
  rw [textAt, h]
  rfl

lemma boolAt_of_get {value : Bool} (h : cborMapGet map key = some (.bool value)) :
    boolAt map key = value := by
  rw [boolAt, h]
  rfl

lemma u64At_of_get {value : Option UInt64} (h : cborMapGet map key = value.map .ofU64) :
    u64At map key = value := by
  rw [u64At, h]
  cases value with
  | none => rfl
  | some => rw [Option.map_some, Option.bind_some, cborToU64_ofU64]

/-! ### Conversion to and from JSON -/

def base64Alphabet : List Char :=
  "ABCDEFGHIJKLMNOPQRSTUVWXYZabcdefghijklmnopqrstuvwxyz0123456789+/".toList

/-- The character of six bits of a group of three bytes, counted from the most significant. -/
def base64Char (group shift : ℕ) : Char := base64Alphabet.getD (group >>> shift &&& 0x3f) 'A'

/-- The characters of a byte string, three bytes at a time; the last group is padded. -/
def base64Chars : List UInt8 → List Char
  | first :: second :: third :: rest =>
    let group := first.toNat <<< 16 ||| second.toNat <<< 8 ||| third.toNat
    base64Char group 18 :: base64Char group 12 :: base64Char group 6 :: base64Char group 0 ::
      base64Chars rest
  | [first, second] =>
    let group := first.toNat <<< 16 ||| second.toNat <<< 8
    [base64Char group 18, base64Char group 12, base64Char group 6, '=']
  | [first] =>
    let group := first.toNat <<< 16
    [base64Char group 18, base64Char group 12, '=', '=']
  | [] => []

def base64Encode (bytes : List UInt8) : String := String.ofList (base64Chars bytes)

theorem base64Alphabet_spec : ∀ bits < 64,
    base64Alphabet.getD bits 'A' = base64Symbol bits ∧ base64Symbol bits ∈ base64Alphabet := by
  decide

/-- The shift and the mask pick a digit to the base 64. -/
lemma base64Char_eq (group shift : ℕ) :
    base64Char group shift = base64Symbol (group / 2 ^ shift % 64) := by
  rw [base64Char, Nat.and_two_pow_sub_one_eq_mod _ 6, Nat.shiftRight_eq_div_pow]
  exact (base64Alphabet_spec _ (Nat.mod_lt _ (by decide))).1

/-- The four digits of the number that three bytes write. -/
lemma base64Char_group (first second third : UInt8) {group : ℕ}
    (hgroup : group = first.toNat <<< 16 ||| second.toNat <<< 8 ||| third.toNat) :
    base64Char group 18 = base64Symbol (first.toNat / 4) ∧
      base64Char group 12 = base64Symbol (first.toNat % 4 * 16 + second.toNat / 16) ∧
      base64Char group 6 = base64Symbol (second.toNat % 16 * 4 + third.toNat / 64) ∧
      base64Char group 0 = base64Symbol (third.toNat % 64) := by
  have hfirst := first.toNat_lt
  have hsecond := second.toNat_lt
  have hthird := third.toNat_lt
  have hshift : first.toNat <<< 16 = first.toNat <<< 8 <<< 8 := Nat.shiftLeft_add _ 8 8
  rw [hshift, ← Nat.shiftLeft_or_distrib, ← Nat.shiftLeft_add_eq_or_of_lt hthird,
    ← Nat.shiftLeft_add_eq_or_of_lt hsecond, Nat.shiftLeft_eq, Nat.shiftLeft_eq] at hgroup
  simp only [base64Char_eq]
  refine ⟨?_, ?_, ?_, ?_⟩ <;> exact congrArg base64Symbol (by omega)

/-- The encoder writes the standard text: a rest is a group that ends with zero bytes. -/
lemma base64Chars_eq (bytes : List UInt8) : base64Chars bytes = encodeBase64 bytes := by
  fun_induction encodeBase64 bytes with
  | case1 => rfl
  | case2 first =>
    have hgroup : first.toNat <<< 16 = first.toNat <<< 16 ||| 0 <<< 8 ||| 0 := by simp
    obtain ⟨h18, h12, -⟩ := base64Char_group first 0 0 hgroup
    rw [base64Chars, h18, h12, UInt8.toNat_zero, Nat.zero_div, Nat.add_zero]
  | case3 first second =>
    obtain ⟨h18, h12, h6, -⟩ := base64Char_group first second 0 (Nat.or_zero _).symm
    rw [base64Chars, h18, h12, h6, UInt8.toNat_zero, Nat.zero_div, Nat.add_zero]
  | case4 first second third rest ih =>
    obtain ⟨h18, h12, h6, h0⟩ := base64Char_group first second third rfl
    rw [base64Chars, h18, h12, h6, h0, ih]

/-- The text of a byte string: its length, its symbols with the padding behind them, and what a
decoder reads from it. -/
theorem base64Encode_standard :
    (∀ bytes : List UInt8, (base64Encode bytes).length = 4 * ((bytes.length + 2) / 3) ∧
      (∃ symbols : List Char, (∀ char ∈ symbols, char ∈ base64Alphabet) ∧
        (base64Encode bytes).toList = symbols ++ List.replicate (2 * bytes.length % 3) '=') ∧
      decodeBase64 (base64Encode bytes).toList = some bytes) ∧
    Function.Injective base64Encode := by
  have htext (bytes) : (base64Encode bytes).toList = encodeBase64 bytes := by
    rw [base64Encode, String.toList_ofList, base64Chars_eq]
  have hdecode (bytes) : decodeBase64 (base64Encode bytes).toList = some bytes := by
    rw [htext, decodeBase64_encodeBase64]
  refine ⟨fun bytes ↦ ⟨?_, ?_, hdecode bytes⟩, fun bytes other hsame ↦ ?_⟩
  · rw [← String.length_toList, htext, length_encodeBase64]
  · obtain ⟨digits, hdigits, hpadded⟩ := encodeBase64_padded bytes
    refine ⟨digits.map base64Symbol, List.forall_mem_map.mpr fun bits hbits ↦ ?_, ?_⟩
    · exact (base64Alphabet_spec bits (hdigits bits hbits)).2
    · rw [htext, hpadded]
  · rw [← Option.some_inj, ← hdecode, hsame, hdecode]

def isFinite (bits : UInt64) : Bool := (bits >>> 52) &&& 0x7ff != 0x7ff

def numberToCbor : Number → CborValue
  | .posInt value => .ofU64 value
  | .negInt value => .integer (.ofI64 value)
  | .float bits => .float bits

/-- Entries in key order; a later entry replaces an earlier one with its key. -/
def sortedEntries (entries : List (String × CborValue)) : List (String × CborValue) :=
  entries.foldl (fun sorted entry ↦ insertEntry entry.1 entry.2 sorted) []
where
  /-- Sets one entry, in key order. -/
  insertEntry (key : String) (value : CborValue) :
      List (String × CborValue) → List (String × CborValue)
    | [] => [(key, value)]
    | (other, old) :: rest =>
      if other = key then (key, value) :: rest
      else if key < other then (key, value) :: (other, old) :: rest
      else (other, old) :: insertEntry key value rest

mutual

def jsonToCbor : Json → CborValue
  | .null => .null
  | .bool value => .bool value
  | .number value => numberToCbor value
  | .string value => .text value
  | .array items => .array (jsonToCborItems items)
  | .object fields =>
    .map ((sortedEntries (jsonToCborFields fields)).map fun entry ↦ (.text entry.1, entry.2))

def jsonToCborItems : List Json → List CborValue
  | [] => []
  | item :: rest => jsonToCbor item :: jsonToCborItems rest

def jsonToCborFields : List (String × Json) → List (String × CborValue)
  | [] => []
  | (key, value) :: rest => (key, jsonToCbor value) :: jsonToCborFields rest

end

/-- The key of a JSON object for a key of a CBOR map; other keys are left out. -/
def cborKey : CborValue → Option String
  | .text value => some value
  | .integer number => some (toString number.value)
  | _ => none

/-- The JSON value of a CBOR integer: a number when it fits the signed type, a text otherwise. -/
def integerToJson (number : CborInteger) : Json :=
  if -2 ^ 63 ≤ number.value ∧ number.value < 2 ^ 63 then .ofI64 (Int64.ofInt number.value)
  else .string (toString number.value)

mutual

def cborToJson : CborValue → Json
  | .null => .null
  | .bool value => .bool value
  | .integer number => integerToJson number
  | .float bits => if isFinite bits then .number (.float bits) else .null
  | .text value => .string value
  | .bytes value => .string (base64Encode value)
  | .array items => .array (cborToJsonItems items)
  | .map entries => .object (cborToJsonFields entries [])
  | .tag _ _ => .null

def cborToJsonItems : List CborValue → List Json
  | [] => []
  | item :: rest => cborToJson item :: cborToJsonItems rest

/-- Adds the entries of a map to the fields of an object, one after the other. -/
def cborToJsonFields : List (CborValue × CborValue) → List (String × Json) → List (String × Json)
  | [], fields => fields
  | (key, value) :: rest, fields =>
    match cborKey key with
    | some name => cborToJsonFields rest (Json.insertField name (cborToJson value) fields)
    | none => cborToJsonFields rest fields

end

/-! ### The encoder and the decoder of the library -/

/-- The encoder and the decoder of the CBOR library. -/
structure CborCodec where
  encodeCbor : CborValue → List UInt8
  decodeCbor : List UInt8 → Outcome String CborValue

/-- The encoding of a value fits the payload of a frame, and the decoder reads it back. -/
def CborCodec.Carries (codec : CborCodec) (value : CborValue) : Prop :=
  (codec.encodeCbor value).length ≤ maxFramePayload ∧
    codec.decodeCbor (codec.encodeCbor value) = .ok value

end Iicp.Native
