import Iicp.Rust.Json
import Iicp.Rust.Text

/-!
# JSON texts

`jsonText` is the compact text of a value: no blanks, strings in quotes with the escapes of the
JSON library, integers in decimal. The text of a float is a parameter.

`readText` reads such texts, with a bound on the depth of a value. A plain value, that is one without
floats and negative numbers whose objects have their entries in key order, is read back from its
text if the bound allows (`readText_jsonText`). `ReadsPlain` says the same of any reader of bytes,
and `readBytes` is one such reader. `readFields_strings` says how long a text must be from which an
object of strings is read.
-/

namespace Iicp.Rust

open Json List Nat

/-! ### Texts -/

def quote : Char := Char.ofNat 34

def backslash : Char := Char.ofNat 92

variable (char : Char)

/-- A character of a string: some are written with a letter after a backslash, the other control
characters with four hexadecimal digits. -/
def escapeChar : List Char :=
  if char = quote then [backslash, quote]
  else if char = backslash then [backslash, backslash]
  else if char.toNat = 8 then [backslash, 'b']
  else if char.toNat = 9 then [backslash, 't']
  else if char.toNat = 10 then [backslash, 'n']
  else if char.toNat = 12 then [backslash, 'f']
  else if char.toNat = 13 then [backslash, 'r']
  else if char.toNat < 32 then
    [backslash, 'u', '0', '0', (char.toNat / 16).digitChar, (char.toNat % 16).digitChar]
  else [char]

def stringText (text : String) : List Char := quote :: (text.toList.flatMap escapeChar ++ [quote])

def numberText (floatText : UInt64 → List Char) : Number → List Char
  | .posInt value => toDigits 10 value.toNat
  | .negInt value => '-' :: toDigits 10 value.toInt.natAbs
  | .float bits => floatText bits

namespace Json

section Texts

variable (floatText : UInt64 → List Char)

mutual

def jsonText : Json → List Char
  | null => ['n', 'u', 'l', 'l']
  | bool true => ['t', 'r', 'u', 'e']
  | bool false => ['f', 'a', 'l', 's', 'e']
  | number value => numberText floatText value
  | string value => stringText value
  | array items => '[' :: (itemsText items ++ [']'])
  | object fields => '{' :: (fieldsText fields ++ ['}'])

/-- The texts of the items of an array, with commas in between. -/
def itemsText : List Json → List Char
  | [] => []
  | [item] => jsonText item
  | item :: next :: rest => jsonText item ++ ',' :: itemsText (next :: rest)

/-- The texts of the entries of an object, with commas in between. -/
def fieldsText : List (String × Json) → List Char
  | [] => []
  | [(key, value)] => stringText key ++ ':' :: jsonText value
  | (key, value) :: next :: rest =>
    stringText key ++ ':' :: (jsonText value ++ ',' :: fieldsText (next :: rest))

end

end Texts

mutual

/-- How deep the arrays and objects of a value are nested. -/
def depth : Json → ℕ
  | array items => itemsDepth items + 1
  | object fields => fieldsDepth fields + 1
  | _ => 0

def itemsDepth : List Json → ℕ
  | [] => 0
  | item :: rest => max (depth item) (itemsDepth rest)

def fieldsDepth : List (String × Json) → ℕ
  | [] => 0
  | (_, value) :: rest => max (depth value) (fieldsDepth rest)

end

mutual

/-- No floats and no negative numbers, and the entries of every object in key order. -/
def Plain : Json → Prop
  | number (.posInt _) => True
  | number _ => False
  | array items => PlainItems items
  | object fields => (fields.map Prod.fst).Pairwise (· < ·) ∧ PlainFields fields
  | _ => True

def PlainItems : List Json → Prop
  | [] => True
  | item :: rest => Plain item ∧ PlainItems rest

def PlainFields : List (String × Json) → Prop
  | [] => True
  | (_, value) :: rest => Plain value ∧ PlainFields rest

end

end Json

/-! ### Readers -/

def hexValue : Option ℕ :=
  if char.isDigit then some (char.toNat - 48)
  else if 97 ≤ char.toNat ∧ char.toNat ≤ 102 then some (char.toNat - 87)
  else none

/-- The character that a letter after a backslash stands for. -/
def escapedLetter : Option Char :=
  if char = quote ∨ char = backslash ∨ char = '/' then some char
  else if char = 'b' then some (Char.ofNat 8)
  else if char = 't' then some (Char.ofNat 9)
  else if char = 'n' then some (Char.ofNat 10)
  else if char = 'f' then some (Char.ofNat 12)
  else if char = 'r' then some (Char.ofNat 13)
  else none

/-- The characters of a string up to its quote, and what follows. -/
def readString : List Char → Option (List Char × List Char)
  | [] => none
  | [char] => if char = quote then some ([], []) else none
  | char :: next :: rest =>
    if char = quote then some ([], next :: rest)
    else if char = backslash then
      if next = 'u' then
        match rest with
        | first :: second :: third :: fourth :: after => do
          let high ← hexValue third
          let low ← hexValue fourth
          if first = '0' ∧ second = '0' then
            (readString after).map fun read ↦ (Char.ofNat (16 * high + low) :: read.1, read.2)
          else none
        | _ => none
      else do
        let meant ← escapedLetter next
        (readString rest).map fun read ↦ (meant :: read.1, read.2)
    else if char.toNat < 32 then none
    else (readString (next :: rest)).map fun read ↦ (char :: read.1, read.2)

variable (input : List Char)

def readDigits : Option (Json × List Char) :=
  let digits := input.takeWhile Char.isDigit
  let value := ofDigitChars 10 digits 0
  if digits.isEmpty then none
  else if value < 2 ^ 64 then some (.ofU64 value, input.dropWhile Char.isDigit)
  else none

section Lists

variable (read : List Char → Option (Json × List Char))

def readItems : ℕ → List Char → Option (List Json × List Char)
  | 0, _ => none
  | bound + 1, input => do
    let (item, rest) ← read input
    match rest with
    | ',' :: rest => (readItems bound rest).map fun (items, rest) ↦ (item :: items, rest)
    | ']' :: rest => some ([item], rest)
    | _ => none

def readField (input : List Char) : Option ((String × Json) × List Char) :=
  match input with
  | [] => none
  | char :: rest =>
    if char = quote then do
      let (key, rest) ← readString rest
      match rest with
      | ':' :: rest => (read rest).map fun (value, rest) ↦ ((String.ofList key, value), rest)
      | _ => none
    else none

def readFields : ℕ → List Char → Option (List (String × Json) × List Char)
  | 0, _ => none
  | bound + 1, input => do
    let (field, rest) ← readField read input
    match rest with
    | ',' :: rest => (readFields bound rest).map fun (fields, rest) ↦ (field :: fields, rest)
    | '}' :: rest => some ([field], rest)
    | _ => none

end Lists

/-- A value that is not an array or an object. -/
def readScalar : Option (Json × List Char) :=
  match input with
  | [] => none
  | char :: rest =>
    if char = quote then
      (readString rest).map fun (text, rest) ↦ (.string (String.ofList text), rest)
    else if char.isDigit then readDigits input
    else
      match input with
      | 'n' :: 'u' :: 'l' :: 'l' :: rest => some (.null, rest)
      | 't' :: 'r' :: 'u' :: 'e' :: rest => some (.bool true, rest)
      | 'f' :: 'a' :: 'l' :: 's' :: 'e' :: rest => some (.bool false, rest)
      | _ => none

/-- A value at the front, nested at most so deep, and what follows. -/
def readValue : ℕ → List Char → Option (Json × List Char)
  | 0, input => readScalar input
  | depth + 1, input =>
    match input with
    | '[' :: ']' :: rest => some (.array [], rest)
    | '[' :: rest =>
      (readItems (readValue depth) rest.length rest).map fun (items, rest) ↦ (.array items, rest)
    | '{' :: '}' :: rest => some (.object [], rest)
    | '{' :: rest =>
      (readFields (readValue depth) rest.length rest).map fun (fields, rest) ↦
        (.object fields, rest)
    | _ => readScalar input

/-- A whole text, nested at most 127 deep. -/
def readText : Option Json :=
  match readValue 127 input with
  | some (value, []) => some value
  | _ => none

/-! ### Strings and numbers -/

open Char

lemma hexValue_digitChar {value : ℕ} (hrange : value < 16) :
    hexValue value.digitChar = some value := by
  have hall : ∀ value < 16, hexValue (digitChar value) = some value := by decide
  exact hall value hrange

/-- A backslash with a letter is read as the character that the letter stands for. -/
lemma readString_letter {letter meant : Char} (hletter : escapedLetter letter = some meant)
    (hplain : letter ≠ 'u') (rest : List Char) :
    readString (backslash :: letter :: rest) =
      (readString rest).map fun read ↦ (meant :: read.1, read.2) := by
  have hstart : backslash ≠ quote := by decide
  cases rest with
  | nil | cons => rw [readString.eq_def]; simp [hstart, hplain, hletter]

/-- What was written for a character is read as that character. -/
lemma readString_escapeChar (char next : Char) (rest : List Char) :
    readString (escapeChar char ++ next :: rest) =
      (readString (next :: rest)).map fun read ↦ (char :: read.1, read.2) := by
  unfold escapeChar
  split_ifs with hquote hbackslash hb ht hn hf hr hcontrol
  · subst hquote
    exact readString_letter (by decide) (by decide) _
  · subst hbackslash
    exact readString_letter (by decide) (by decide) _
  · obtain rfl : char = ofNat 8 := toNat_inj.mp hb
    exact readString_letter (by decide) (by decide) _
  · obtain rfl : char = ofNat 9 := toNat_inj.mp ht
    exact readString_letter (by decide) (by decide) _
  · obtain rfl : char = ofNat 10 := toNat_inj.mp hn
    exact readString_letter (by decide) (by decide) _
  · obtain rfl : char = ofNat 12 := toNat_inj.mp hf
    exact readString_letter (by decide) (by decide) _
  · obtain rfl : char = ofNat 13 := toNat_inj.mp hr
    exact readString_letter (by decide) (by decide) _
  · have hhigh : hexValue (char.toNat / 16).digitChar = some (char.toNat / 16) :=
      hexValue_digitChar (by omega)
    have hlow : hexValue (char.toNat % 16).digitChar = some (char.toNat % 16) :=
      hexValue_digitChar (mod_lt _ (by decide))
    have hchar : ofNat (16 * (char.toNat / 16) + char.toNat % 16) = char := by
      rw [div_add_mod, ofNat_toNat]
    have hstart : backslash ≠ quote := by decide
    simp [readString, hstart, hhigh, hlow, hchar]
  · rw [singleton_append, readString.eq_def]
    simp [hquote, hbackslash, hcontrol]

/-- A string is read back from what was written for it, whatever follows its quote. -/
lemma readString_flatMap (text rest : List Char) :
    readString (text.flatMap escapeChar ++ quote :: rest) = some (text, rest) := by
  induction text with
  | nil => cases rest <;> simp [readString.eq_def]
  | cons char others ih =>
    rw [flatMap_cons, append_assoc]
    obtain ⟨next, after, hnext⟩ :
        ∃ next after, others.flatMap escapeChar ++ quote :: rest = next :: after :=
      exists_cons_of_ne_nil (by simp)
    rw [hnext, readString_escapeChar, ← hnext, ih]
    rfl

/-- A text that does not go on with a digit. -/
def Ended (rest : List Char) : Prop := ∀ char ∈ rest.head?, char.isDigit = false

variable {rest : List Char}

lemma toDigits_eq_cons (value : ℕ) :
    ∃ char rest, toDigits 10 value = char :: rest ∧ char.isDigit := by
  obtain ⟨char, rest, h⟩ := exists_cons_of_ne_nil (toDigits_ne_nil (n := value) (b := 10))
  exact ⟨char, rest, h, isDigit_of_mem_toDigits (by decide) (by decide) (h ▸ mem_cons_self)⟩

lemma readDigits_toDigits (value : UInt64) (hrest : Ended rest) :
    readDigits (toDigits 10 value.toNat ++ rest) =
      some (.number (.posInt value), rest) := by
  have hdigits : ∀ char ∈ toDigits 10 value.toNat, char.isDigit :=
    fun char hchar ↦ isDigit_of_mem_toDigits (by decide) (by decide) hchar
  have htake : rest.takeWhile isDigit = [] ∧ rest.dropWhile isDigit = rest := by
    cases rest with
    | nil => exact ⟨rfl, rfl⟩
    | cons char =>
      have hchar : ¬ char.isDigit := by simpa using hrest char rfl
      exact ⟨takeWhile_cons_of_neg hchar, dropWhile_cons_of_neg hchar⟩
  have hempty : (toDigits 10 value.toNat).isEmpty = false := by
    simp [toDigits_ne_nil]
  rw [readDigits, takeWhile_append_of_pos hdigits, dropWhile_append_of_pos hdigits,
    htake.1, htake.2, append_nil, ofDigitChars_ten_toDigits, if_neg (by simp [hempty]),
    if_pos value.toNat_lt, ofU64, UInt64.ofNat_toNat]

/-! ### Values -/

variable (floatText : UInt64 → List Char) {fields : List (String × Json)} {items : List Json}
  {value : Json}

namespace Json

lemma plain_of_mem (hplain : PlainItems items) : ∀ item ∈ items, item.Plain := by
  induction items with
  | nil => simp
  | cons item rest ih =>
    rw [PlainItems] at hplain
    exact forall_mem_cons.mpr ⟨hplain.1, ih hplain.2⟩

lemma plain_of_mem_fields (hplain : PlainFields fields) : ∀ field ∈ fields, field.2.Plain := by
  induction fields with
  | nil => simp
  | cons field rest ih =>
    rw [PlainFields] at hplain
    exact forall_mem_cons.mpr ⟨hplain.1, ih hplain.2⟩

lemma depth_le_of_mem {bound : ℕ} (hdepth : itemsDepth items ≤ bound) :
    ∀ item ∈ items, item.depth ≤ bound := by
  induction items with
  | nil => simp
  | cons item rest ih =>
    rw [itemsDepth, max_le_iff] at hdepth
    exact forall_mem_cons.mpr ⟨hdepth.1, ih hdepth.2⟩

lemma depth_le_of_mem_fields {bound : ℕ} (hdepth : fieldsDepth fields ≤ bound) :
    ∀ field ∈ fields, field.2.depth ≤ bound := by
  induction fields with
  | nil => simp
  | cons field rest ih =>
    rw [fieldsDepth, max_le_iff] at hdepth
    exact forall_mem_cons.mpr ⟨hdepth.1, ih hdepth.2⟩

lemma itemsText_cons (item : Json) (rest : List Json) :
    itemsText floatText (item :: rest) = jsonText floatText item ++
      if rest.isEmpty then [] else ',' :: itemsText floatText rest := by
  cases rest with
  | nil | cons => simp [itemsText]

lemma fieldsText_cons (key : String) (value : Json) (rest : List (String × Json)) :
    fieldsText floatText ((key, value) :: rest) =
      stringText key ++ ':' :: (jsonText floatText value ++
        if rest.isEmpty then [] else ',' :: fieldsText floatText rest) := by
  cases rest with
  | nil | cons => simp [fieldsText]

lemma itemsText_eq_intercalate (items : List Json) :
    itemsText floatText items = intercalate [','] (items.map (jsonText floatText)) := by
  induction items with
  | nil => rfl
  | cons item rest ih =>
    cases rest with
    | nil => simp [itemsText, intercalate]
    | cons => simp [itemsText, ih, intercalate]

lemma fieldsText_eq_intercalate (fields : List (String × Json)) :
    fieldsText floatText fields = intercalate [',']
      (fields.map fun field ↦ stringText field.1 ++ ':' :: jsonText floatText field.2) := by
  induction fields with
  | nil => rfl
  | cons field rest ih =>
    cases rest with
    | nil => simp [fieldsText, intercalate]
    | cons => simp [fieldsText, ih, intercalate]

lemma length_le_itemsText (items : List Json) :
    items.length ≤ (itemsText floatText items).length + 1 := by
  induction items with
  | nil => simp
  | cons item rest ih =>
    rw [itemsText_cons]
    cases rest with
    | nil => simp
    | cons =>
      simp only [length_cons, length_append, isEmpty_cons, Bool.false_eq_true, if_false] at ih ⊢
      omega

lemma length_le_fieldsText (fields : List (String × Json)) :
    fields.length ≤ (fieldsText floatText fields).length + 1 := by
  induction fields with
  | nil => simp
  | cons field rest ih =>
    rw [fieldsText_cons]
    cases rest with
    | nil => simp
    | cons =>
      simp only [length_cons, length_append, isEmpty_cons, Bool.false_eq_true, if_false] at ih ⊢
      omega

/-- A text does not start with the end of an array, and that of a value without items and entries
not with the start of an array or an object. -/
lemma head_jsonText (hplain : value.Plain) :
    ∃ char rest, jsonText floatText value = char :: rest ∧ char ≠ ']' ∧
      (value.depth = 0 → char ≠ '[' ∧ char ≠ '\x7b') := by
  cases value with
  | null => exact ⟨_, _, rfl, by decide⟩
  | bool value => cases value <;> exact ⟨_, _, rfl, by decide⟩
  | string => exact ⟨_, _, rfl, by decide, fun _ ↦ by decide⟩
  | array | object => exact ⟨_, _, by rw [jsonText], by decide, fun h ↦ absurd h (by simp [depth])⟩
  | number value =>
    cases value with
    | negInt | float => exact absurd hplain (by simp [Plain])
    | posInt value =>
      obtain ⟨char, rest, hdigits, hdigit⟩ := toDigits_eq_cons value.toNat
      have hother : ∀ other : Char, other.isDigit = false → char ≠ other := by
        rintro _ hother rfl
        exact absurd (hother.symm.trans hdigit) Bool.false_ne_true
      exact ⟨char, rest, hdigits, hother _ (by decide), fun _ ↦
        ⟨hother _ (by decide), hother _ (by decide)⟩⟩

end Json

section Lists

variable {read : List Char → Option (Json × List Char)}

/-- The items are read up to the end of the array, if the bound allows so many. -/
lemma readItems_itemsText (hitems : items ≠ []) (hread : ∀ item ∈ items, ∀ rest, Ended rest →
      read (item.jsonText floatText ++ rest) = some (item, rest)) (bound : ℕ)
    (hbound : items.length ≤ bound) (rest : List Char) :
    readItems read bound (itemsText floatText items ++ ']' :: rest) = some (items, rest) := by
  induction items generalizing bound with
  | nil => exact absurd rfl hitems
  | cons item others ih =>
    obtain ⟨bound, rfl⟩ := exists_eq_add_one.mpr (lt_of_lt_of_le succ_pos' hbound)
    rw [forall_mem_cons] at hread
    cases others with
    | nil =>
      have hitem := hread.1 (']' :: rest) (by simp [Ended])
      simp [readItems, itemsText, hitem]
    | cons next others =>
      have hitem := hread.1 (',' :: (itemsText floatText (next :: others) ++ ']' :: rest))
        (by simp [Ended])
      have hrest := ih (cons_ne_nil next others) hread.2 bound (le_of_succ_le_succ hbound)
      simp [readItems, itemsText, hitem, hrest]

lemma readField_stringText (key : String)
    (hread : read (value.jsonText floatText ++ rest) = some (value, rest)) :
    readField read (stringText key ++ ':' :: (value.jsonText floatText ++ rest)) =
      some ((key, value), rest) := by
  have hkey := readString_flatMap key.toList (':' :: (value.jsonText floatText ++ rest))
  simp [readField, stringText, hkey, hread]

/-- The entries are read up to the end of the object, if the bound allows so many. -/
lemma readFields_fieldsText (hfields : fields ≠ [])
    (hread : ∀ field ∈ fields, ∀ rest, Ended rest →
      read (field.2.jsonText floatText ++ rest) = some (field.2, rest)) (bound : ℕ)
    (hbound : fields.length ≤ bound) (rest : List Char) :
    readFields read bound (fieldsText floatText fields ++ '}' :: rest) =
      some (fields, rest) := by
  induction fields generalizing bound with
  | nil => exact absurd rfl hfields
  | cons field others ih =>
    obtain ⟨bound, rfl⟩ := exists_eq_add_one.mpr (lt_of_lt_of_le succ_pos' hbound)
    rw [forall_mem_cons] at hread
    obtain ⟨key, _⟩ := field
    cases others with
    | nil =>
      have hfield := readField_stringText floatText key (hread.1 ('}' :: rest) (by simp [Ended]))
      simp [readFields, fieldsText, hfield]
    | cons next others =>
      have hfield := readField_stringText floatText key
        (hread.1 (',' :: (fieldsText floatText (next :: others) ++ '}' :: rest)) (by simp [Ended]))
      have hrest := ih (cons_ne_nil next others) hread.2 bound (le_of_succ_le_succ hbound)
      simp [readFields, fieldsText, hfield, hrest]

end Lists

/-- A value without items and entries is read from its text. -/
lemma readScalar_jsonText (hplain : value.Plain) (hdepth : value.depth = 0) (hrest : Ended rest) :
    readScalar (value.jsonText floatText ++ rest) = some (value, rest) := by
  cases value with
  | null => simp [readScalar, jsonText, quote]
  | bool value => cases value <;> simp [readScalar, jsonText, quote]
  | string => simp [readScalar, jsonText, stringText, readString_flatMap]
  | array | object => exact absurd hdepth (by simp [Json.depth])
  | number value =>
    cases value with
    | negInt | float => exact absurd hplain (by simp [Json.Plain])
    | posInt value =>
      have hread := readDigits_toDigits value hrest
      obtain ⟨char, _, hdigits, hdigit⟩ := toDigits_eq_cons value.toNat
      have hquote : char ≠ quote := by
        rintro rfl
        exact absurd hdigit (by decide)
      rw [hdigits] at hread
      simp only [jsonText, numberText, hdigits, cons_append] at hread ⊢
      simp [readScalar, hquote, hdigit, hread]

/-- The depth that is left matters for arrays and objects only. -/
lemma readValue_of_head {char : Char} (harray : char ≠ '[') (hobject : char ≠ '{')
    (depth : ℕ) (rest : List Char) : readValue depth (char :: rest) = readScalar (char :: rest) := by
  cases depth with
  | zero => rw [readValue]
  | succ => simp [readValue, harray, hobject]

section Nested

variable {depth : ℕ} {rest : List Char}

lemma readValue_array (hplain : ∀ item ∈ items, item.Plain)
    (hread : ∀ item ∈ items, ∀ rest, Ended rest →
      readValue depth (item.jsonText floatText ++ rest) = some (item, rest)) :
    readValue (depth + 1) ((array items).jsonText floatText ++ rest) =
      some (.array items, rest) := by
  cases items with
  | nil => simp [jsonText, itemsText, readValue]
  | cons item others =>
    let text := itemsText floatText (item :: others) ++ ']' :: rest
    have hall : readItems (readValue depth) text.length text = some (item :: others, rest) := by
      refine readItems_itemsText floatText (cons_ne_nil item others) hread _ ?_ rest
      have hlength := length_le_itemsText floatText (item :: others)
      simp only [text, length_append, length_cons] at hlength ⊢
      omega
    obtain ⟨char, after, htext, hchar⟩ : ∃ char after, text = char :: after ∧ char ≠ ']' := by
      obtain ⟨char, _, hitem, hchar, -⟩ :=
        head_jsonText floatText (hplain item mem_cons_self)
      simp only [text, itemsText_cons, hitem, cons_append]
      exact ⟨char, _, rfl, hchar⟩
    have hgoal : (array (item :: others)).jsonText floatText ++ rest = '[' :: text := by
      simp [jsonText, text]
    rw [hgoal]
    rw [htext, length_cons] at hall
    rw [htext]
    simp [readValue, hchar, hall]

lemma readValue_object (hread : ∀ field ∈ fields, ∀ rest, Ended rest →
      readValue depth (field.2.jsonText floatText ++ rest) = some (field.2, rest)) :
    readValue (depth + 1) ((object fields).jsonText floatText ++ rest) =
      some (.object fields, rest) := by
  cases fields with
  | nil => simp [jsonText, fieldsText, readValue]
  | cons field others =>
    let text := fieldsText floatText (field :: others) ++ '}' :: rest
    have hall : readFields (readValue depth) text.length text = some (field :: others, rest) := by
      refine readFields_fieldsText floatText (cons_ne_nil field others) hread _ ?_ rest
      have hlength := length_le_fieldsText floatText (field :: others)
      simp only [text, length_append, length_cons] at hlength ⊢
      omega
    obtain ⟨after, htext⟩ : ∃ after, text = quote :: after := by
      obtain ⟨_, _⟩ := field
      simp only [text, fieldsText_cons, stringText, cons_append]
      exact ⟨_, rfl⟩
    have hgoal : (object (field :: others)).jsonText floatText ++ rest = '{' :: text := by
      simp [jsonText, text]
    have hquote : quote ≠ '}' := by decide
    rw [hgoal]
    rw [htext, length_cons] at hall
    rw [htext]
    simp [readValue, hquote, hall]

end Nested

/-- A plain value is read from its text, whatever follows. -/
lemma readValue_jsonText {depth : ℕ} (hplain : value.Plain) (hdepth : value.depth ≤ depth)
    (hrest : Ended rest) :
    readValue depth (value.jsonText floatText ++ rest) = some (value, rest) := by
  induction depth generalizing value rest with
  | zero => exact readScalar_jsonText floatText hplain (le_zero.mp hdepth) hrest
  | succ depth ih =>
    by_cases hscalar : value.depth = 0
    · obtain ⟨_, _, htext, -, hother⟩ := head_jsonText floatText hplain
      have hread := readScalar_jsonText floatText hplain hscalar hrest
      rw [htext] at hread ⊢
      rw [cons_append, readValue_of_head (hother hscalar).1 (hother hscalar).2]
      exact hread
    cases value with
    | null | bool _ | number _ | string _ => exact absurd rfl hscalar
    | array =>
      rw [Json.depth] at hdepth
      rw [Json.Plain] at hplain
      have hplain := plain_of_mem hplain
      have hdepth := depth_le_of_mem (le_of_succ_le_succ hdepth)
      exact readValue_array floatText hplain fun item hitem rest hrest ↦
        ih (hplain item hitem) (hdepth item hitem) hrest
    | object =>
      rw [Json.depth] at hdepth
      rw [Json.Plain] at hplain
      have hplain := plain_of_mem_fields hplain.2
      have hdepth := depth_le_of_mem_fields (le_of_succ_le_succ hdepth)
      exact readValue_object floatText fun field hfield rest hrest ↦
        ih (hplain field hfield) (hdepth field hfield) hrest

lemma readText_jsonText (hplain : value.Plain) (hdepth : value.depth ≤ 127) :
    readText (value.jsonText floatText) = some value := by
  have hread : readValue 127 (value.jsonText floatText ++ []) = some (value, []) :=
    readValue_jsonText floatText hplain hdepth (by simp [Ended])
  rw [append_nil] at hread
  rw [readText, hread]

/-! ### Bytes -/

def textBytes (text : List Char) : List UInt8 := text.flatMap String.utf8EncodeChar

/-- A reader of bytes that reads plain values back from their texts, as the JSON library does up to
its limit on the depth. -/
def ReadsPlain (read : List UInt8 → Option Json) : Prop :=
  ∀ value : Json, value.Plain → value.depth ≤ 127 →
    read (textBytes (value.jsonText floatText)) = some value

/-- Reads the text that the bytes stand for. -/
def readBytes (bytes : List UInt8) : Option Json :=
  bytes.toByteArray.utf8Decode?.bind fun text ↦ readText text.toList

/-- A character that is written as it is, in one byte. -/
def Printable : Prop :=
  32 ≤ char.toNat ∧ char.toNat < 128 ∧ char ≠ quote ∧ char ≠ backslash

instance : DecidablePred Printable := fun _ ↦ instDecidableAnd

/-- A character that is written as it is. -/
def Unescaped : Prop := 32 ≤ char.toNat ∧ char ≠ quote ∧ char ≠ backslash

instance : DecidablePred Unescaped := fun _ ↦ instDecidableAnd

lemma escapeChar_of_unescaped {char : Char} (h : Unescaped char) : escapeChar char = [char] := by
  obtain ⟨hlow, hquote, hbackslash⟩ := h
  rw [escapeChar, if_neg hquote, if_neg hbackslash, if_neg (by omega), if_neg (by omega),
    if_neg (by omega), if_neg (by omega), if_neg (by omega), if_neg (by omega)]

lemma stringText_of_unescaped {text : String} (h : ∀ char ∈ text.toList, Unescaped char) :
    stringText text = quote :: (text.toList ++ [quote]) := by
  have hflat : text.toList.flatMap escapeChar = text.toList := by
    generalize text.toList = chars at h
    induction chars with
    | nil => rfl
    | cons char rest ih =>
      rw [forall_mem_cons] at h
      rw [flatMap_cons, escapeChar_of_unescaped h.1, ih h.2, singleton_append]
  rw [stringText, hflat]

lemma stringText_of_printable {text : String} (h : ∀ char ∈ text.toList, Printable char) :
    stringText text = quote :: (text.toList ++ [quote]) :=
  stringText_of_unescaped fun char hchar ↦ ⟨(h char hchar).1, (h char hchar).2.2⟩

/-- A text of such characters has as many bytes as characters. -/
lemma length_textBytes {text : List Char} (h : ∀ char ∈ text, char.toNat < 128) :
    (textBytes text).length = text.length := by
  induction text with
  | nil => rfl
  | cons char rest ih =>
    rw [forall_mem_cons] at h
    have hsize : char.utf8Size = 1 := utf8Size_eq_one_iff.mpr (le_of_lt_succ h.1)
    have hrest : (rest.flatMap String.utf8EncodeChar).length = rest.length := ih h.2
    rw [textBytes, flatMap_cons, length_append, String.length_utf8EncodeChar, hsize, hrest,
      length_cons, add_comm]

lemma readsPlain_readBytes : ReadsPlain floatText readBytes := by
  intro value hplain hdepth
  have hdecode : (textBytes (value.jsonText floatText)).toByteArray.utf8Decode? =
      some (value.jsonText floatText).toArray := utf8Decode?_utf8Encode
  rw [readBytes, hdecode, Option.bind_some]
  exact readText_jsonText floatText hplain hdepth

/-! ### What a reading takes -/

/-- A string takes as many characters as it has and its quote, and more if one of them is written with
an escape. -/
lemma readString_length {input value rest : List Char} (h : readString input = some (value, rest)) :
    value.length + rest.length + 1 ≤ input.length ∧
      (value.length + rest.length + 1 = input.length → ∀ char ∈ value, Unescaped char) := by
  fun_induction readString input generalizing value with
  | case1 | case3 | case6 | case8 => nomatch h
  | case2 | case4 =>
    obtain ⟨rfl, rfl⟩ := Prod.mk.inj (Option.some.inj h)
    exact ⟨by simp, by simp⟩
  | case5 _ _ _ _ _ _ ih =>
    simp only [Option.bind_eq_bind, Option.bind_eq_some_iff, Option.ite_none_right_eq_some,
      Option.map_eq_some_iff, Prod.mk.injEq] at h
    obtain ⟨_, -, _, -, -, ⟨_, _⟩, hread, rfl, rfl⟩ := h
    have hle := (ih hread).1
    dsimp only [length_cons] at hle ⊢
    exact ⟨by omega, fun heq ↦ by omega⟩
  | case7 _ _ _ _ ih =>
    simp only [Option.bind_eq_bind, Option.bind_eq_some_iff, Option.map_eq_some_iff,
      Prod.mk.injEq] at h
    obtain ⟨_, -, ⟨_, _⟩, hread, rfl, rfl⟩ := h
    have hle := (ih hread).1
    dsimp only [length_cons] at hle ⊢
    exact ⟨by omega, fun heq ↦ by omega⟩
  | case9 _ _ _ hquote hbackslash hcontrol ih =>
    simp only [Option.map_eq_some_iff, Prod.mk.injEq] at h
    obtain ⟨⟨_, _⟩, hread, rfl, rfl⟩ := h
    obtain ⟨hle, hclean⟩ := ih hread
    simp only [length_cons, forall_mem_cons] at hle hclean ⊢
    exact ⟨by omega, fun heq ↦ ⟨⟨not_lt.mp hcontrol, hquote, hbackslash⟩, hclean (by omega)⟩⟩

lemma readValue_string {depth : ℕ} {input rest : List Char} {text : String}
    (h : readValue depth input = some (.string text, rest)) :
    ∃ after, input = quote :: after ∧ readString after = some (text.toList, rest) := by
  have hscalar : readScalar input = some (.string text, rest) := by
    cases depth with
    | zero => exact h
    | succ =>
      rw [readValue.eq_def] at h
      dsimp only at h
      split at h
      all_goals first | exact h | simp [Option.map_eq_some_iff] at h
  unfold readScalar at hscalar
  split at hscalar
  · nomatch hscalar
  · split_ifs at hscalar with hquote hdigit
    · obtain ⟨⟨chars, _⟩, hread, hvalue⟩ := Option.map_eq_some_iff.mp hscalar
      simp only [Prod.mk.injEq, Json.string.injEq] at hvalue
      obtain ⟨rfl, rfl⟩ := hvalue
      exact ⟨_, by rw [hquote], by rw [hread, String.toList_ofList]⟩
    · simp only [readDigits, ofU64] at hscalar
      split_ifs at hscalar
      simp at hscalar
    · split at hscalar <;> simp at hscalar

/-- The length of the shortest text of an entry, with what separates it from the next. -/
def entrySize (entry : String × String) : ℕ := entry.1.toList.length + entry.2.toList.length + 6

/-- An entry with a string takes at least its shortest text, and no more only if its string is
written as it is. -/
lemma readField_string {depth : ℕ} {input rest : List Char} {entry : String × String}
    (h : readField (readValue depth) input = some ((entry.1, .string entry.2), rest)) :
    entrySize entry + rest.length ≤ input.length + 1 ∧
      (entrySize entry + rest.length = input.length + 1 →
        ∀ char ∈ entry.2.toList, Unescaped char) := by
  unfold readField at h
  split at h
  · nomatch h
  split_ifs at h with hquote
  obtain ⟨⟨key, afterKey⟩, hkey, h⟩ := Option.bind_eq_some_iff.mp h
  dsimp only at h
  split at h
  · obtain ⟨⟨value, _⟩, hvalue, h⟩ := Option.map_eq_some_iff.mp h
    simp only [Prod.mk.injEq] at h
    obtain ⟨⟨hname, rfl⟩, rfl⟩ := h
    obtain ⟨after, rfl, hstring⟩ := readValue_string hvalue
    have hlength : entry.1.toList.length = key.length := by rw [← hname, String.toList_ofList]
    have hkeySize := (readString_length hkey).1
    obtain ⟨hle, hclean⟩ := readString_length hstring
    simp only [entrySize, hlength, length_cons] at hkeySize ⊢
    exact ⟨by omega, fun heq ↦ hclean (by omega)⟩
  · nomatch h

/-- The entries of an object of strings take at least their shortest text, and no more only if the
strings are written as they are. -/
lemma readFields_strings {depth bound : ℕ} {input rest : List Char}
    {entries : List (String × String)}
    (h : readFields (readValue depth) bound input =
      some (entries.map fun entry ↦ (entry.1, .string entry.2), rest)) :
    (entries.map entrySize).sum + rest.length ≤ input.length ∧
      ((entries.map entrySize).sum + rest.length = input.length →
        ∀ entry ∈ entries, ∀ char ∈ entry.2.toList, Unescaped char) := by
  induction bound generalizing input entries with
  | zero => nomatch h
  | succ bound ih =>
    obtain ⟨⟨field, after⟩, hfield, h⟩ := Option.bind_eq_some_iff.mp h
    dsimp only at h
    split at h
    · obtain ⟨⟨fields, _⟩, hfields, h⟩ := Option.map_eq_some_iff.mp h
      simp only [Prod.mk.injEq] at h
      obtain ⟨hentries, rfl⟩ := h
      obtain ⟨entry, others, rfl, hentry, hothers⟩ := List.map_eq_cons_iff.mp hentries.symm
      rw [← hothers] at hfields
      rw [← hentry] at hfield
      obtain ⟨hle, hclean⟩ := readField_string hfield
      obtain ⟨hmore, hcleaner⟩ := ih hfields
      simp only [map_cons, sum_cons, length_cons, forall_mem_cons] at hle hclean ⊢
      exact ⟨by omega, fun heq ↦ ⟨hclean (by omega), hcleaner (by omega)⟩⟩
    · simp only [Option.some.injEq, Prod.mk.injEq] at h
      obtain ⟨hentries, rfl⟩ := h
      obtain ⟨entry, others, rfl, hentry, hothers⟩ := List.map_eq_cons_iff.mp hentries.symm
      obtain rfl := List.map_eq_nil_iff.mp hothers
      rw [← hentry] at hfield
      obtain ⟨hle, hclean⟩ := readField_string hfield
      simp only [map_cons, map_nil, sum_cons, sum_nil, length_cons, forall_mem_cons] at hle hclean ⊢
      exact ⟨by omega, fun heq ↦ ⟨hclean (by omega), by simp⟩⟩
    · nomatch h

end Iicp.Rust
