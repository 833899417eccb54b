import Mathlib.Tactic

/-!
# JSON values

The value type of the JSON library: null, booleans, numbers, strings, arrays and objects. A number
is an unsigned or a negative 64-bit integer or a float, of which only the bits are kept. An object
is the list of its entries in key order, and `insertField` keeps that order. The accessors answer
with an option when the value has another shape, and reading a field of a value that has no such
field gives null, as the index operator of the library does. `present` is an object whose optional
fields are left out when they have no value, and `getField_present` reads them back.
-/

namespace Iicp.Rust

open List

/-- A JSON number: a `u64`, a negative `i64`, or the bits of a float. -/
inductive Number where
  | posInt (value : UInt64)
  | negInt (value : Int64)
  | float (bits : UInt64)
  deriving DecidableEq, Repr

inductive Json where
  | null
  | bool (value : Bool)
  | number (value : Number)
  | string (value : String)
  | array (items : List Json)
  | object (fields : List (String × Json))
  deriving Repr, Inhabited

namespace Json

/-! ### Equality of values is decidable -/

mutual

/-- Decides equality of two values, constructor by constructor. -/
def decEq : (first second : Json) → Decidable (first = second)
  | null, null => .isTrue rfl
  | bool a, bool b => decidable_of_iff (a = b) (by simp)
  | number a, number b => decidable_of_iff (a = b) (by simp)
  | string a, string b => decidable_of_iff (a = b) (by simp)
  | array a, array b =>
    match decEqItems a b with
    | .isTrue h => .isTrue (h ▸ rfl)
    | .isFalse h => .isFalse fun heq ↦ h (Json.array.inj heq)
  | object a, object b =>
    match decEqFields a b with
    | .isTrue h => .isTrue (h ▸ rfl)
    | .isFalse h => .isFalse fun heq ↦ h (Json.object.inj heq)
  | null, bool _ | null, number _ | null, string _ | null, array _ | null, object _ =>
    .isFalse nofun
  | bool _, null | bool _, number _ | bool _, string _ | bool _, array _ | bool _, object _ =>
    .isFalse nofun
  | number _, null | number _, bool _ | number _, string _ | number _, array _
  | number _, object _ => .isFalse nofun
  | string _, null | string _, bool _ | string _, number _ | string _, array _
  | string _, object _ => .isFalse nofun
  | array _, null | array _, bool _ | array _, number _ | array _, string _
  | array _, object _ => .isFalse nofun
  | object _, null | object _, bool _ | object _, number _ | object _, string _
  | object _, array _ => .isFalse nofun

def decEqItems : (first second : List Json) → Decidable (first = second)
  | [], [] => .isTrue rfl
  | [], _ :: _ => .isFalse nofun
  | _ :: _, [] => .isFalse nofun
  | a :: restA, b :: restB =>
    match decEq a b, decEqItems restA restB with
    | .isTrue h, .isTrue hrest => .isTrue (h ▸ hrest ▸ rfl)
    | .isFalse h, _ => .isFalse fun heq ↦ h (cons.inj heq).1
    | _, .isFalse h => .isFalse fun heq ↦ h (cons.inj heq).2

def decEqFields : (first second : List (String × Json)) → Decidable (first = second)
  | [], [] => .isTrue rfl
  | [], _ :: _ => .isFalse nofun
  | _ :: _, [] => .isFalse nofun
  | (keyA, a) :: restA, (keyB, b) :: restB =>
    if hkey : keyA = keyB then
      match decEq a b, decEqFields restA restB with
      | .isTrue h, .isTrue hrest => .isTrue (hkey ▸ h ▸ hrest ▸ rfl)
      | .isFalse h, _ => .isFalse fun heq ↦ h (Prod.mk.inj (cons.inj heq).1).2
      | _, .isFalse h => .isFalse fun heq ↦ h (cons.inj heq).2
    else .isFalse fun heq ↦ hkey (Prod.mk.inj (cons.inj heq).1).1

end

instance : DecidableEq Json := decEq

/-! ### Accessors -/

def asStr : Json → Option String
  | string value => some value
  | _ => none

def asU64 : Json → Option ℕ
  | number (.posInt value) => some value.toNat
  | _ => none

def asI64 : Json → Option ℤ
  | number (.posInt value) => if value.toNat < 2 ^ 63 then some value.toNat else none
  | number (.negInt value) => some value.toInt
  | _ => none

def asF64 : Json → Option Float
  | number (.posInt value) => some value.toFloat
  | number (.negInt value) => some (Float.ofInt value.toInt)
  | number (.float bits) => some (Float.ofBits bits)
  | _ => none

def asBool : Json → Option Bool
  | bool value => some value
  | _ => none

def asArray : Json → Option (List Json)
  | array items => some items
  | _ => none

def asObject : Json → Option (List (String × Json))
  | object fields => some fields
  | _ => none

def getField (fields : List (String × Json)) (key : String) : Option Json := fields.lookup key

/-- The index operator: the field of an object under a key, and null for anything else. -/
def field (value : Json) (key : String) : Json :=
  match value with
  | object fields => (getField fields key).getD null
  | _ => null

/-- The entry of a value under a key, if it is an object that has one. -/
def get (value : Json) (key : String) : Option Json :=
  value.asObject.bind fun fields ↦ getField fields key

def removeField (key : String) (fields : List (String × Json)) : List (String × Json) :=
  fields.filter fun field ↦ field.1 != key

/-- Sets an entry of an object, in key order. -/
def insertField (key : String) (value : Json) : List (String × Json) → List (String × Json)
  | [] => [(key, value)]
  | (other, old) :: rest =>
    if other = key then (key, value) :: rest
    else if key < other then (key, value) :: (other, old) :: rest
    else (other, old) :: insertField key value rest

def ofU64 (value : ℕ) : Json := number (.posInt (UInt64.ofNat value))

def ofI64 (value : Int64) : Json :=
  if 0 ≤ value.toInt then ofU64 value.toInt.toNat else number (.negInt value)

def isTrue : Json → Bool
  | bool value => value
  | _ => false

variable (fields : List (String × Option Json))

/-- The entries of an object whose optional fields are left out when they have no value. -/
def present : List (String × Json) :=
  fields.filterMap fun field ↦ field.2.map fun value ↦ (field.1, value)

/-- An entry that is removed may as well be left out from the start. -/
lemma removeField_present (key : String) (fields : List (String × Option Json)) :
    removeField key (present fields) = present (fields.filter fun field ↦ field.1 != key) := by
  rw [removeField, present, present, filter_filterMap, filterMap_filter]
  refine filterMap_congr fun field _ ↦ ?_
  cases field.2 with
  | none => simp
  | some => by_cases hkey : field.1 = key <;> simp [hkey]

lemma getField_cons (name : String) (value : Json) (rest : List (String × Json)) (key : String) :
    getField ((name, value) :: rest) key = if key = name then some value else getField rest key := by
  unfold getField
  by_cases h : key = name
  · simp [h]
  · simp [h, lookup_cons, beq_eq_false_iff_ne.mpr h]

lemma getField_insertField (key : String) (value : Json) (fields : List (String × Json))
    (wanted : String) : getField (insertField key value fields) wanted =
      if wanted = key then some value else getField fields wanted := by
  induction fields with
  | nil => rw [insertField, getField_cons]
  | cons first rest ih =>
    obtain ⟨other, _⟩ := first
    rw [insertField]
    split_ifs with hother hless
    all_goals grind [getField_cons]

lemma getField_eq_none {fields : List (String × Json)} {key : String}
    (h : key ∉ fields.map Prod.fst) : getField fields key = none := by
  induction fields with
  | nil => rfl
  | cons field rest ih =>
    rw [map_cons, mem_cons, not_or] at h
    rw [getField_cons, if_neg h.1, ih h.2]

/-- The names of the present fields are names of fields, in the same order. -/
lemma map_fst_present_sublist : ((present fields).map Prod.fst).Sublist (fields.map Prod.fst) := by
  induction fields with
  | nil => exact Sublist.slnil
  | cons field rest ih =>
    obtain ⟨name, _ | _⟩ := field
    · exact ih.cons name
    · exact ih.cons_cons name

lemma getField_present {fields : List (String × Option Json)}
    (hnames : (fields.map Prod.fst).Nodup) {name : String} {value : Option Json}
    (hfield : (name, value) ∈ fields) : getField (present fields) name = value := by
  induction fields with
  | nil => nomatch hfield
  | cons field rest ih =>
    obtain ⟨other, optional⟩ := field
    rw [map_cons, nodup_cons] at hnames
    rcases mem_cons.mp hfield with heq | hrest
    · obtain ⟨rfl, rfl⟩ := Prod.mk.inj heq
      cases value with
      | none => exact getField_eq_none fun hmem ↦ hnames.1 ((map_fst_present_sublist rest).subset hmem)
      | some value => exact (getField_cons name value _ name).trans (if_pos rfl)
    · have hne : name ≠ other := by
        rintro rfl
        exact hnames.1 (mem_map.mpr ⟨_, hrest, rfl⟩)
      rw [← ih hnames.2 hrest]
      cases optional with
      | none => rfl
      | some old => exact (getField_cons other old _ name).trans (if_neg hne)

lemma asI64_ofU64 {value : ℕ} (hrange : value < 2 ^ 64) :
    (ofU64 value).asI64 = if value < 2 ^ 63 then some (value : ℤ) else none := by
  have hvalue : (UInt64.ofNat value).toNat = value := UInt64.toNat_ofNat_of_lt' hrange
  rw [ofU64, asI64, hvalue]

lemma asI64_ofI64 (value : Int64) : (ofI64 value).asI64 = some value.toInt := by
  have hlt : value.toInt < 2 ^ 63 := value.toInt_lt
  unfold ofI64
  split_ifs with hsign
  · have hnat : ((value.toInt.toNat : ℕ) : ℤ) = value.toInt := Int.toNat_of_nonneg hsign
    have hrange : value.toInt.toNat < 2 ^ 63 := by omega
    rw [asI64_ofU64 (by omega), if_pos hrange, hnat]
  · rfl

/-! ### Equality of the library -/

/-- Numbers of the same kind with the same value; the two float zeros are equal. -/
def sameNumber : Number → Number → Bool
  | .posInt first, .posInt second => first == second
  | .negInt first, .negInt second => first == second
  | .float first, .float second =>
    first == second || first <<< 1 == 0 && second <<< 1 == 0
  | _, _ => false

mutual

/-- Equality of values as the library has it, which differs from identity on float zeros. -/
def sameValue : Json → Json → Bool
  | null, null => true
  | bool first, bool second => first == second
  | number first, number second => sameNumber first second
  | string first, string second => first == second
  | array first, array second => sameItems first second
  | object first, object second => sameFields first second
  | _, _ => false

def sameItems : List Json → List Json → Bool
  | [], [] => true
  | first :: firsts, second :: seconds => sameValue first second && sameItems firsts seconds
  | _, _ => false

def sameFields : List (String × Json) → List (String × Json) → Bool
  | [], [] => true
  | (firstKey, first) :: firsts, (secondKey, second) :: seconds =>
    firstKey == secondKey && sameValue first second && sameFields firsts seconds
  | _, _ => false

end

end Json

end Iicp.Rust
