import Mathlib.Data.String.Basic
import Iicp.Rust.JsonText
import Iicp.Rust.Serde
import Iicp.Rust.Sort

/-!
# Trust bundles and their canonical bytes

A trust bundle holds the keys that may sign dispatch tickets. `canonicalDispatchTrustBundle` turns
it into a JSON value, sorts the keys by their names, names the profile in a list of profiles that is
empty, sorts the lists of every key and writes the value with sorted keys and without blanks.

`canonicalForm` says on the bundle itself what these steps do (`canonicalBundleValue_toValue`). It
is what is read from the canonical bytes (`readBundle_canonicalDispatchTrustBundle`). The bytes do
not depend on the order of the lists of a key (`canonicalForm_eq_of_sameLists`).

How the JSON library writes a float is a parameter, and so is its reader, of which is assumed that
it reads a value back from the text that the library writes for it (`ReadsPlain`).
-/

namespace Iicp.Dispatch

open Rust Json List

/-- The profile of the tickets that are signed by the keys of a bundle. -/
def profile : String := "dispatch_ticket_v2"

structure DispatchTrustKey where
  (keyId publicKeyB64url state : String)
  validFrom : UInt64
  validUntil : UInt64
  (allowedProfiles issuers audiences : List String)
  deriving DecidableEq, Repr

structure DispatchTrustBundle where
  bundleVersion : UInt64
  keys : List DispatchTrustKey
  issuer : Option String
  (validFrom validUntil : Option UInt64)
  deriving DecidableEq, Repr

/-! ### JSON values of keys and bundles -/

def u64Value (value : UInt64) : Json := .number (.posInt value)

def textsValue (texts : List String) : Json := .array (texts.map .string)

def readU64 : Json → Option UInt64
  | .number (.posInt value) => some value
  | _ => none

namespace DispatchTrustKey

def toValue (key : DispatchTrustKey) : Json :=
  .object [("allowed_profiles", textsValue key.allowedProfiles),
    ("audiences", textsValue key.audiences), ("issuers", textsValue key.issuers),
    ("key_id", .string key.keyId), ("public_key_b64url", .string key.publicKeyB64url),
    ("state", .string key.state), ("valid_from", u64Value key.validFrom),
    ("valid_until", u64Value key.validUntil)]

def ofValue (value : Json) : Option DispatchTrustKey := do
  let part ← singleParts [plain "key_id", plain "public_key_b64url", plain "state",
    plain "valid_from", plain "valid_until", withDefault "allowed_profiles", withDefault "issuers",
    withDefault "audiences"] value
  some {
    keyId := ← required asStr (part "key_id")
    publicKeyB64url := ← required asStr (part "public_key_b64url")
    state := ← required asStr (part "state")
    validFrom := ← required readU64 (part "valid_from")
    validUntil := ← required readU64 (part "valid_until")
    allowedProfiles := ← defaulted (readList asStr) [] (part "allowed_profiles")
    issuers := ← defaulted (readList asStr) [] (part "issuers")
    audiences := ← defaulted (readList asStr) [] (part "audiences") }

end DispatchTrustKey

namespace DispatchTrustBundle

/-- The fields of a bundle in key order; those without a value are not written. -/
def fields (bundle : DispatchTrustBundle) : List (String × Option Json) :=
  [("bundle_version", some (u64Value bundle.bundleVersion)), ("issuer", bundle.issuer.map .string),
    ("keys", some (.array (bundle.keys.map DispatchTrustKey.toValue))),
    ("valid_from", bundle.validFrom.map u64Value), ("valid_until", bundle.validUntil.map u64Value)]

def toValue (bundle : DispatchTrustBundle) : Json := .object (present bundle.fields)

def ofValue (value : Json) : Option DispatchTrustBundle := do
  let part ← singleParts [plain "bundle_version", plain "keys", plain "issuer", plain "valid_from",
    plain "valid_until"] value
  some {
    bundleVersion := ← required readU64 (part "bundle_version")
    keys := ← required (readList DispatchTrustKey.ofValue) (part "keys")
    issuer := ← optional asStr (part "issuer")
    validFrom := ← optional readU64 (part "valid_from")
    validUntil := ← optional readU64 (part "valid_until") }

end DispatchTrustBundle

/-! ### Canonical values -/

/-- Changes the array under a key, if the value is an object that has one there. -/
def modifyItems (name : String) (change : List Json → List Json) : Json → Json
  | .object fields => .object (fields.map fun field ↦
      match field.2 with
      | .array items => if field.1 = name then (name, .array (change items)) else field
      | _ => field)
  | value => value

def setField (name : String) (entry : Json) : Json → Json
  | .object fields => .object (insertField name entry fields)
  | value => value

/-- The place of a value among texts; what is not a text comes first. -/
def textPlace (value : Json) : WithBot String := value.asStr

def sortTexts (values : List Json) : List Json := sortByKey textPlace values

def canonicalKeyValue (key : Json) : Json :=
  let filled :=
    if ((key.get "allowed_profiles").bind Json.asArray).any isEmpty then
      setField "allowed_profiles" (.array [.string profile]) key
    else key
  ["allowed_profiles", "issuers", "audiences"].foldl
    (fun key name ↦ modifyItems name sortTexts key) filled

def canonicalBundleValue (value : Json) : Json :=
  modifyItems "keys" (fun keys ↦
    (sortByKey (fun key ↦ textPlace (key.field "key_id")) keys).map canonicalKeyValue) value

section Texts

variable (floatText : UInt64 → List Char)

mutual

/-- The text of a value with the entries of every object in key order. -/
def canonicalTicketClaims : Json → List Char
  | .object fields =>
    '{' :: (intercalate [','] ((sortByKey Prod.fst (canonicalFields fields)).map
      fun field ↦ stringText field.1 ++ ':' :: field.2) ++ ['}'])
  | .array items => '[' :: (intercalate [','] (canonicalItems items) ++ [']'])
  | value => value.jsonText floatText

def canonicalItems : List Json → List (List Char)
  | [] => []
  | item :: rest => canonicalTicketClaims item :: canonicalItems rest

def canonicalFields : List (String × Json) → List (String × List Char)
  | [] => []
  | (key, value) :: rest => (key, canonicalTicketClaims value) :: canonicalFields rest

end

/-- The bytes that a bundle is stored and compared by. -/
def canonicalDispatchTrustBundle (bundle : DispatchTrustBundle) : List UInt8 :=
  textBytes (canonicalTicketClaims floatText (canonicalBundleValue bundle.toValue))

end Texts

/-! ### The canonical form of a bundle -/

/-- Names the profile where none is named, and sorts the lists. -/
def DispatchTrustKey.canonicalForm (key : DispatchTrustKey) : DispatchTrustKey :=
  { key with
    allowedProfiles :=
      sortByKey id (if key.allowedProfiles.isEmpty then [profile] else key.allowedProfiles)
    issuers := sortByKey id key.issuers
    audiences := sortByKey id key.audiences }

/-- Sorts the keys by their names, those of the same name in the order that they had. -/
def DispatchTrustBundle.canonicalForm (bundle : DispatchTrustBundle) : DispatchTrustBundle :=
  { bundle with
    keys := (sortByKey DispatchTrustKey.keyId bundle.keys).map DispatchTrustKey.canonicalForm }

lemma sortTexts_map (texts : List String) :
    sortTexts (texts.map .string) = (sortByKey id texts).map .string :=
  sortByKey_map fun _ _ ↦ WithBot.coe_le_coe

variable (key : DispatchTrustKey) (keys : List DispatchTrustKey)

/-- Sorting the three lists of the value of a key sorts the lists of the key. -/
lemma foldl_modifyItems_toValue :
    ["allowed_profiles", "issuers", "audiences"].foldl
        (fun value name ↦ modifyItems name sortTexts value) key.toValue =
      { key with
        allowedProfiles := sortByKey id key.allowedProfiles
        issuers := sortByKey id key.issuers
        audiences := sortByKey id key.audiences : DispatchTrustKey }.toValue := by
  simp [DispatchTrustKey.toValue, modifyItems, textsValue, u64Value, sortTexts_map]

/-- The steps on the value of a key are those of the canonical form. -/
lemma canonicalKeyValue_toValue : canonicalKeyValue key.toValue = key.canonicalForm.toValue := by
  have hempty : (((key.toValue).get "allowed_profiles").bind Json.asArray).any isEmpty =
      key.allowedProfiles.isEmpty := by
    simp [DispatchTrustKey.toValue, Json.get, Json.asObject, Json.getField, textsValue, Json.asArray]
  have hset : setField "allowed_profiles" (.array [.string profile]) key.toValue =
      { key with allowedProfiles := [profile] : DispatchTrustKey }.toValue := by
    simp [DispatchTrustKey.toValue, setField, insertField, textsValue]
  rw [canonicalKeyValue, hempty, hset]
  by_cases hnone : key.allowedProfiles.isEmpty
  · simp only [hnone, if_true, DispatchTrustKey.canonicalForm]
    exact foldl_modifyItems_toValue _
  · simp only [hnone, Bool.false_eq_true, if_false, DispatchTrustKey.canonicalForm]
    exact foldl_modifyItems_toValue key

lemma sortByKey_toValue :
    sortByKey (fun key ↦ textPlace (key.field "key_id")) (keys.map DispatchTrustKey.toValue) =
      (sortByKey DispatchTrustKey.keyId keys).map DispatchTrustKey.toValue := by
  apply sortByKey_map
  intro first second
  exact WithBot.coe_le_coe

variable (bundle : DispatchTrustBundle)

open DispatchTrustBundle

/-- The steps on the value of a bundle are those of the canonical form. -/
lemma canonicalBundleValue_toValue :
    canonicalBundleValue bundle.toValue = bundle.canonicalForm.toValue := by
  have hkeys : (sortByKey (fun key ↦ textPlace (key.field "key_id"))
        (bundle.keys.map DispatchTrustKey.toValue)).map canonicalKeyValue =
      bundle.canonicalForm.keys.map DispatchTrustKey.toValue := by
    rw [sortByKey_toValue, map_map, canonicalForm, map_map]
    exact map_congr_left fun key _ ↦ canonicalKeyValue_toValue key
  obtain ⟨_, _, issuer, validFrom, validUntil⟩ := bundle
  cases issuer <;> cases validFrom <;> cases validUntil <;>
    simp_all [canonicalBundleValue, toValue, fields,
      present, modifyItems, u64Value, canonicalForm]

namespace DispatchTrustKey

variable (key : DispatchTrustKey)

/-- Two keys whose lists have the same items, and that agree in everything else. -/
structure SameLists (key other : DispatchTrustKey) : Prop where
  allowedProfiles : key.allowedProfiles.Perm other.allowedProfiles
  issuers : key.issuers.Perm other.issuers
  audiences : key.audiences.Perm other.audiences
  rest : other = { key with
    allowedProfiles := other.allowedProfiles
    issuers := other.issuers
    audiences := other.audiences }

lemma sort_eq_of_perm {texts others : List String} (hperm : texts.Perm others) :
    sortByKey id texts = sortByKey id others :=
  sortByKey_eq_of_perm (fun _ _ _ _ heq ↦ heq) hperm

lemma canonicalForm_eq_of_sameLists {key other : DispatchTrustKey} (hsame : key.SameLists other) :
    key.canonicalForm = other.canonicalForm := by
  have hempty : key.allowedProfiles.isEmpty = other.allowedProfiles.isEmpty :=
    hsame.allowedProfiles.isEmpty_eq
  rw [hsame.rest]
  simp only [canonicalForm, hempty, sort_eq_of_perm hsame.issuers, sort_eq_of_perm hsame.audiences]
  by_cases hnone : other.allowedProfiles.isEmpty
  · simp only [hnone, if_true]
  · simp only [hnone, Bool.false_eq_true, if_false, sort_eq_of_perm hsame.allowedProfiles]

lemma isEmpty_sortByKey {texts : List String} :
    (sortByKey id texts).isEmpty = texts.isEmpty := (perm_sortByKey id texts).isEmpty_eq

@[simp] lemma canonicalForm_canonicalForm : key.canonicalForm.canonicalForm = key.canonicalForm := by
  have hfilled : (if key.allowedProfiles.isEmpty then [profile] else key.allowedProfiles).isEmpty =
      false := by
    by_cases hnone : key.allowedProfiles.isEmpty
    · rw [if_pos hnone]
      rfl
    · rw [if_neg hnone]
      exact Bool.eq_false_iff.mpr hnone
  simp only [canonicalForm, isEmpty_sortByKey, hfilled, Bool.false_eq_true, if_false,
    sortByKey_sortByKey]

end DispatchTrustKey

namespace DispatchTrustBundle

variable (bundle : DispatchTrustBundle)

/-- It does not matter whether the keys are sorted before or after their lists. -/
lemma sortByKey_map_canonicalForm :
    sortByKey DispatchTrustKey.keyId (keys.map DispatchTrustKey.canonicalForm) =
      (sortByKey DispatchTrustKey.keyId keys).map DispatchTrustKey.canonicalForm :=
  sortByKey_map fun _ _ ↦ Iff.rfl

@[simp] lemma canonicalForm_canonicalForm :
    bundle.canonicalForm.canonicalForm = bundle.canonicalForm := by
  simp only [canonicalForm, sortByKey_map_canonicalForm, sortByKey_sortByKey, map_map,
    Function.comp_def, DispatchTrustKey.canonicalForm_canonicalForm]

/-- The order of the lists of the keys does not matter. -/
lemma canonicalForm_eq_of_sameLists {keys : List DispatchTrustKey}
    (hsame : Forall₂ DispatchTrustKey.SameLists bundle.keys keys) :
    { bundle with keys := keys }.canonicalForm = bundle.canonicalForm := by
  have hforms : bundle.keys.map DispatchTrustKey.canonicalForm =
      keys.map DispatchTrustKey.canonicalForm := by
    generalize bundle.keys = given at hsame
    induction hsame with
    | nil => rfl
    | cons hkey _ ih =>
      rw [map_cons, map_cons, ih, DispatchTrustKey.canonicalForm_eq_of_sameLists hkey]
  simp only [canonicalForm, ← sortByKey_map_canonicalForm, hforms]

end DispatchTrustBundle

/-! ### Canonical bytes -/

section Bytes

variable (floatText : UInt64 → List Char)

mutual

/-- An object that has its entries in key order is written as it is. -/
lemma canonicalTicketClaims_of_plain : (value : Json) → value.Plain →
    canonicalTicketClaims floatText value = value.jsonText floatText
  | .null, _ => rfl
  | .bool _, _ => rfl
  | .number _, _ => rfl
  | .string _, _ => rfl
  | .array items, hplain => by
    rw [Plain] at hplain
    rw [canonicalTicketClaims, canonicalItems_of_plain items hplain, jsonText,
      itemsText_eq_intercalate]
  | .object fields, hplain => by
    rw [Plain] at hplain
    have hsorted : (fields.map fun field ↦ (field.1, field.2.jsonText floatText)).Pairwise
        (KeyLe Prod.fst) := by
      rw [pairwise_map] at hplain ⊢
      exact hplain.1.imp fun hless ↦ le_of_lt hless
    rw [canonicalTicketClaims, canonicalFields_of_plain fields hplain.2,
      sortByKey_of_pairwise hsorted, map_map, jsonText, fieldsText_eq_intercalate]
    rfl

lemma canonicalItems_of_plain : (items : List Json) → PlainItems items →
    canonicalItems floatText items = items.map (jsonText floatText)
  | [], _ => rfl
  | item :: rest, hplain => by
    rw [PlainItems] at hplain
    rw [canonicalItems, canonicalTicketClaims_of_plain item hplain.1,
      canonicalItems_of_plain rest hplain.2, map_cons]

lemma canonicalFields_of_plain : (fields : List (String × Json)) → PlainFields fields →
    canonicalFields floatText fields = fields.map fun field ↦ (field.1, field.2.jsonText floatText)
  | [], _ => rfl
  | (key, value) :: rest, hplain => by
    rw [PlainFields] at hplain
    rw [canonicalFields, canonicalTicketClaims_of_plain value hplain.1,
      canonicalFields_of_plain rest hplain.2, map_cons]

end

lemma textsValue_plain (texts : List String) :
    (textsValue texts).Plain ∧ (textsValue texts).depth = 1 := by
  rw [textsValue, Plain, depth]
  induction texts with
  | nil => exact ⟨trivial, rfl⟩
  | cons text rest ih =>
    rw [map_cons, PlainItems, itemsDepth, Plain, depth]
    · simpa using ih
    all_goals simp

lemma DispatchTrustKey.toValue_plain : key.toValue.Plain ∧ key.toValue.depth = 2 := by
  have htexts := fun texts ↦ (textsValue_plain texts).1
  have hdepth := fun texts ↦ (textsValue_plain texts).2
  rw [toValue, Plain, depth]
  constructor
  · refine ⟨by simp only [map_cons, map_nil]; decide, ?_⟩
    simp [PlainFields, htexts, Plain, u64Value]
  · simp [fieldsDepth, hdepth, depth, u64Value]

lemma itemsPlain_toValue :
    PlainItems (keys.map DispatchTrustKey.toValue) ∧
      itemsDepth (keys.map DispatchTrustKey.toValue) ≤ 2 := by
  induction keys with
  | nil => exact ⟨trivial, Nat.zero_le _⟩
  | cons key rest ih =>
    rw [map_cons, PlainItems, itemsDepth, key.toValue_plain.2, max_le_iff]
    exact ⟨⟨key.toValue_plain.1, ih.1⟩, le_rfl, ih.2⟩

lemma present_plain {fields : List (String × Option Json)} {bound : ℕ}
    (hfields : ∀ field ∈ fields, ∀ value ∈ field.2, value.Plain ∧ value.depth ≤ bound) :
    PlainFields (present fields) ∧ fieldsDepth (present fields) ≤ bound := by
  induction fields with
  | nil => exact ⟨trivial, Nat.zero_le _⟩
  | cons field rest ih =>
    rw [forall_mem_cons] at hfields
    obtain ⟨_, _ | value⟩ := field
    · exact ih hfields.2
    · have hvalue := hfields.1 value rfl
      have hrest := ih hfields.2
      exact ⟨⟨hvalue.1, hrest.1⟩, max_le hvalue.2 hrest.2⟩

lemma DispatchTrustBundle.toValue_plain : bundle.toValue.Plain ∧ bundle.toValue.depth ≤ 4 := by
  have hnames : (bundle.fields.map Prod.fst).Pairwise (· < ·) := by
    simp only [fields, map_cons, map_nil]
    decide
  have hkeys := itemsPlain_toValue bundle.keys
  have hfields : ∀ field ∈ bundle.fields, ∀ value ∈ field.2, value.Plain ∧ value.depth ≤ 3 := by
    simp only [fields, forall_mem_cons, Option.mem_def, Option.some.injEq, Option.map_eq_some_iff]
    refine ⟨?_, ?_, ?_, ?_, ?_, by simp⟩
    · rintro _ rfl
      simp [u64Value, Plain, depth]
    · rintro _ ⟨_, -, rfl⟩
      simp [Plain, depth]
    · rintro _ rfl
      rw [Plain, depth]
      exact ⟨hkeys.1, Nat.succ_le_succ hkeys.2⟩
    · rintro _ ⟨_, -, rfl⟩
      simp [u64Value, Plain, depth]
    · rintro _ ⟨_, -, rfl⟩
      simp [u64Value, Plain, depth]
  have hpresent := present_plain hfields
  rw [toValue, Plain, depth]
  exact ⟨⟨hnames.sublist (map_fst_present_sublist _), hpresent.1⟩, Nat.succ_le_succ hpresent.2⟩

/-- The canonical bytes are those of the text of the canonical form. -/
lemma canonicalDispatchTrustBundle_eq :
    canonicalDispatchTrustBundle floatText bundle =
      textBytes (bundle.canonicalForm.toValue.jsonText floatText) := by
  rw [canonicalDispatchTrustBundle, canonicalBundleValue_toValue,
    canonicalTicketClaims_of_plain floatText _ bundle.canonicalForm.toValue_plain.1]

lemma canonicalDispatchTrustBundle_canonicalForm :
    canonicalDispatchTrustBundle floatText bundle.canonicalForm =
      canonicalDispatchTrustBundle floatText bundle := by
  rw [canonicalDispatchTrustBundle_eq, canonicalDispatchTrustBundle_eq,
    bundle.canonicalForm_canonicalForm]

end Bytes

/-! ### Reading bundles -/

lemma DispatchTrustKey.ofValue_toValue : ofValue key.toValue = some key := by
  have htexts : ∀ texts, readList asStr (textsValue texts) = some texts :=
    readList_map fun _ ↦ rfl
  simp [ofValue, toValue, singleParts, structParts, required, defaulted, getField_cons, htexts,
    u64Value, readU64, asStr, plain, withDefault]

lemma DispatchTrustBundle.ofValue_toValue : ofValue bundle.toValue = some bundle := by
  have hnames : (bundle.fields.map Prod.fst).Nodup := by
    simp only [fields, map_cons, map_nil]
    decide
  have hsingle : ∀ names : List String,
      (((present bundle.fields).map Prod.fst).filter names.contains).Nodup :=
    fun names ↦ ((map_fst_present_sublist _).nodup hnames).filter _
  have hpart : ∀ field ∈ bundle.fields, Json.getField (present bundle.fields) field.1 = field.2 :=
    fun _ hfield ↦ getField_present hnames hfield
  have hread := readList_map DispatchTrustKey.ofValue_toValue bundle.keys
  have htext : optional asStr (bundle.issuer.map Json.string) = some bundle.issuer := by
    cases bundle.issuer <;> rfl
  have hnumber : ∀ number : Option UInt64, optional readU64 (number.map u64Value) = some number := by
    intro number
    cases number <;> rfl
  rw [ofValue, toValue, singleParts, if_pos (hsingle _), structParts]
  generalize present bundle.fields = present at hpart ⊢
  simp only [fields, forall_mem_cons] at hpart
  simp [hpart, required, hread, htext, hnumber, readU64, u64Value]

def readBundle (read : List UInt8 → Option Json) (bytes : List UInt8) :
    Option DispatchTrustBundle := (read bytes).bind ofValue

lemma readBundle_canonicalDispatchTrustBundle {floatText : UInt64 → List Char}
    {read : List UInt8 → Option Json} (hread : ReadsPlain floatText read)
    (bundle : DispatchTrustBundle) :
    readBundle read (canonicalDispatchTrustBundle floatText bundle) = some bundle.canonicalForm := by
  have hplain := bundle.canonicalForm.toValue_plain
  rw [readBundle, canonicalDispatchTrustBundle_eq, hread _ hplain.1 (hplain.2.trans (by decide)),
    Option.bind_some, ofValue_toValue]

end Iicp.Dispatch
