import Iicp.Rust.Outcome

/-!
# Texts and their byte positions

A text is a list of characters, and a position in it counts the bytes of its UTF-8 form before that
position. `findChar` gives the position of the first occurrence of a character. Slicing a text at a
position that is not between two characters is a panic (`sliceTo`, `sliceFrom`).

`utf8Bytes` gives the bytes of a text one character at a time, and `toUTF8_toList` says that they
are the stored ones.
-/

namespace Iicp.Rust

open List

variable {ε : Type}

def byteLength (chars : List Char) : ℕ := (chars.map Char.utf8Size).sum

/-- The byte position of the first occurrence of a character in a list. -/
def findIn (needle : Char) : List Char → Option ℕ
  | [] => none
  | first :: rest =>
    if first = needle then some 0 else (findIn needle rest).map (first.utf8Size + ·)

/-- The byte position of the first occurrence of a character in a text. -/
def findChar (needle : Char) (text : String) : Option ℕ := findIn needle text.toList

/-- Cuts a list of characters at a byte position, if it is between two characters. -/
def splitAtByte : List Char → ℕ → Option (List Char × List Char)
  | [], position => if position = 0 then some ([], []) else none
  | first :: rest, position =>
    if position = 0 then some ([], first :: rest)
    else if first.utf8Size ≤ position then
      (splitAtByte rest (position - first.utf8Size)).map fun parts ↦ (first :: parts.1, parts.2)
    else none

variable (text : String)

def sliceTo (stop : ℕ) : Outcome ε String :=
  match splitAtByte text.toList stop with
  | some parts => .ok (String.ofList parts.1)
  | none => .panicked

def sliceFrom (start : ℕ) : Outcome ε String :=
  match splitAtByte text.toList start with
  | some parts => .ok (String.ofList parts.2)
  | none => .panicked

lemma byteLength_cons (first : Char) (rest : List Char) :
    byteLength (first :: rest) = first.utf8Size + byteLength rest := rfl

lemma byteLength_append (before after : List Char) :
    byteLength (before ++ after) = byteLength before + byteLength after := by
  rw [byteLength, map_append, sum_append]
  rfl

/-- The end of every start of a list is a position between two characters. -/
lemma splitAtByte_append (before after : List Char) :
    splitAtByte (before ++ after) (byteLength before) = some (before, after) := by
  induction before with
  | nil => cases after <;> rfl
  | cons first rest ih =>
    have hpos : first.utf8Size + byteLength rest ≠ 0 := by
      have := first.utf8Size_pos
      omega
    rw [cons_append, splitAtByte, byteLength_cons, if_neg hpos, if_pos (by omega),
      Nat.add_sub_cancel_left, ih]
    rfl

lemma of_splitAtByte {chars : List Char} {position : ℕ} {parts : List Char × List Char}
    (h : splitAtByte chars position = some parts) :
    chars = parts.1 ++ parts.2 ∧ byteLength parts.1 = position := by
  induction chars generalizing position parts with
  | nil =>
    rw [splitAtByte, Option.ite_none_right_eq_some] at h
    obtain ⟨rfl, hparts⟩ := h
    exact Option.some.inj hparts ▸ ⟨rfl, rfl⟩
  | cons first rest ih =>
    rw [splitAtByte] at h
    split_ifs at h with hzero hsize
    · exact Option.some.inj h ▸ ⟨rfl, hzero.symm⟩
    · obtain ⟨_, hlater, rfl⟩ := Option.map_eq_some_iff.mp h
      obtain ⟨rfl, hlength⟩ := ih hlater
      refine ⟨rfl, ?_⟩
      rw [byteLength_cons, hlength]
      omega

/-- A slice does not panic exactly if it ends between two characters. -/
lemma returns_sliceTo_iff {text : String} {stop : ℕ} :
    (sliceTo text stop : Outcome ε String).Returns ↔
      ∃ before after, text.toList = before ++ after ∧ byteLength before = stop := by
  rw [sliceTo]
  constructor
  · intro h
    cases hparts : splitAtByte text.toList stop with
    | none => exact absurd rfl (hparts ▸ h)
    | some parts => exact ⟨parts.1, parts.2, of_splitAtByte hparts⟩
  · rintro ⟨_, _, htext, rfl⟩
    rw [htext, splitAtByte_append]
    exact Outcome.returns_ok _

variable {needle : Char}

/-- The position that is found is the length of what stands before the first occurrence. -/
lemma findIn_eq_some {chars : List Char} {position : ℕ} (h : findIn needle chars = some position) :
    ∃ before after, chars = before ++ needle :: after ∧ needle ∉ before ∧
      position = byteLength before := by
  induction chars generalizing position with
  | nil => nomatch h
  | cons first rest ih =>
    by_cases hfirst : first = needle
    · rw [findIn, if_pos hfirst] at h
      exact ⟨[], rest, by rw [hfirst]; rfl, not_mem_nil, (Option.some.inj h).symm⟩
    · rw [findIn, if_neg hfirst] at h
      obtain ⟨_, hfound, rfl⟩ := Option.map_eq_some_iff.mp h
      obtain ⟨before, after, rfl, hbefore, rfl⟩ := ih hfound
      refine ⟨first :: before, after, rfl, ?_, byteLength_cons first before⟩
      rw [mem_cons, not_or]
      exact ⟨Ne.symm hfirst, hbefore⟩

lemma findIn_append {before : List Char} (h : needle ∉ before)
    (after : List Char) : findIn needle (before ++ needle :: after) = some (byteLength before) := by
  induction before with
  | nil => exact if_pos rfl
  | cons first rest ih =>
    rw [mem_cons, not_or] at h
    rw [cons_append, findIn, if_neg (Ne.symm h.1), ih h.2]
    rfl

/-- Assumes: a character of one byte. Slicing from one byte after it gives what follows it. -/
lemma sliceFrom_found {text : String} {before after : List Char}
    (hsize : needle.utf8Size = 1) (h : text.toList = before ++ needle :: after) :
    (sliceFrom text (byteLength before + 1) : Outcome ε String) = .ok (String.ofList after) := by
  have hlength : byteLength before + 1 = byteLength (before ++ [needle]) := by
    rw [byteLength_append, ← hsize]
    rfl
  rw [sliceFrom, h, append_cons, hlength, splitAtByte_append]

/-! ### The bytes of a text -/

/-- The UTF-8 bytes of a text, character by character. -/
def utf8Bytes : List UInt8 := text.toList.flatMap String.utf8EncodeChar

lemma byteArray_toList_loop (bytes : ByteArray) (start : ℕ) (taken : List UInt8) :
    ByteArray.toList.loop bytes start taken = taken.reverse ++ bytes.data.toList.drop start := by
  fun_induction ByteArray.toList.loop bytes start taken with
  | case1 start taken h ih =>
    have hlt : start < bytes.data.toList.length := h
    have hget : bytes.get! start = bytes.data.toList[start] := getElem!_pos bytes.data start h
    rw [ih, reverse_cons, append_assoc, singleton_append, hget, drop_eq_getElem_cons hlt]
  | case2 start taken h =>
    have hle : bytes.data.toList.length ≤ start := Nat.le_of_not_lt h
    rw [drop_eq_nil_of_le hle, append_nil]

/-- The bytes that a text is stored as are the codes of its characters. -/
lemma toUTF8_toList : text.toUTF8.toList = utf8Bytes text := by
  rw [ByteArray.toList, byteArray_toList_loop, reverse_nil, nil_append, drop_zero,
    String.toUTF8, ← String.utf8Encode_toList, utf8Encode, toList_data_toByteArray,
    utf8Bytes]

end Iicp.Rust
