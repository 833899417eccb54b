import Iicp.Rust.Json

/-!
# Reading structures from JSON

A derived reader of a structure takes an object, whose entries it finds by name, or an array, whose
items it finds by position. In an object an optional field may be missing, with or without a
default. In an array only the last fields may be missing, and each of these must have a default, and
there must be no item too many. Unknown entries of an object are ignored unless the structure denies
them.

`structParts` finds the parts, and `required`, `optional` and `defaulted` read one part each.
-/

namespace Iicp.Rust

/-- A field of a structure: its name, and whether it has a default. -/
structure FieldRule where
  name : String
  hasDefault : Bool

def plain (name : String) : FieldRule := ⟨name, false⟩

def withDefault (name : String) : FieldRule := ⟨name, true⟩

variable (rules : List FieldRule)

/-- The parts of a value, by the names of the fields. -/
def structParts : Json → Option (String → Option Json)
  | .object fields => some (Json.getField fields)
  | .array items =>
    if items.length ≤ rules.length ∧ (rules.drop items.length).all FieldRule.hasDefault then
      some fun name ↦ ((rules.map FieldRule.name).zip items).lookup name
    else none
  | _ => none

lemma structParts_array_head {rule : FieldRule} {rules : List FieldRule} {items : List Json}
    {parts : String → Option Json} (h : structParts (rule :: rules) (.array items) = some parts) :
    parts rule.name = items.head? := by
  unfold structParts at h
  dsimp only at h
  split_ifs at h
  obtain rfl := Option.some.inj h
  cases items with
  | nil => rfl
  | cons => simp

/-- The parts of a value that has no other entries than these. -/
def knownParts (value : Json) : Option (String → Option Json) :=
  match value with
  | .object fields =>
    if fields.all fun field ↦ (rules.map FieldRule.name).contains field.1 then
      structParts rules value
    else none
  | _ => structParts rules value

/-- The parts of a value that is read from a text, where no field may be given twice. -/
def singleParts (value : Json) : Option (String → Option Json) :=
  match value with
  | .object fields =>
    if ((fields.map Prod.fst).filter (rules.map FieldRule.name).contains).Nodup then
      structParts rules value
    else none
  | _ => structParts rules value

section Parts

variable {α : Type} (read : Json → Option α)

def required (part : Option Json) : Option α := part.bind read

/-- A part that may be missing or null. -/
def optional : Option Json → Option (Option α)
  | none => some none
  | some .null => some none
  | some value => (read value).map some

def defaulted (value : α) : Option Json → Option α
  | none => some value
  | some given => read given

def readList (value : Json) : Option (List α) := value.asArray.bind fun items ↦ items.mapM read

end Parts

lemma mem_readList {α : Type} {read : Json → Option α} {value : Json} {items : List α} {item : α}
    (h : readList read value = some items) (hitem : item ∈ items) :
    ∃ part, read part = some item := by
  obtain ⟨parts, -, hparts⟩ := Option.bind_eq_some_iff.mp h
  clear h
  induction parts generalizing items with
  | nil =>
    obtain rfl : [] = items := by simpa using hparts
    nomatch hitem
  | cons first rest ih =>
    simp only [List.mapM_cons, Option.bind_eq_bind, Option.pure_def, Option.bind_eq_some_iff,
      Option.some.injEq] at hparts
    obtain ⟨_, hfound, _, hothers, rfl⟩ := hparts
    rcases List.mem_cons.mp hitem with rfl | hrest
    · exact ⟨first, hfound⟩
    · exact ih hrest hothers

/-- A list is read back from the array of its items, if each item is. -/
lemma readList_map {α : Type} {read : Json → Option α} {write : α → Json}
    (hread : ∀ item, read (write item) = some item) (items : List α) :
    readList read (.array (items.map write)) = some items := by
  induction items with
  | nil => rfl
  | cons item rest ih =>
    have hrest : (rest.map write).mapM read = some rest := ih
    simp [readList, Json.asArray, hread, hrest]

/-- A number of a type with so many bits. -/
def readUnsigned (bits : ℕ) (value : Json) : Option ℕ :=
  value.asU64.filter fun number ↦ number < 2 ^ bits

end Iicp.Rust
