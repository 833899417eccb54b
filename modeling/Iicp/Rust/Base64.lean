import Mathlib.Tactic

/-!
# The standard base64 text of bytes

Three bytes are written as four symbols, each for six bits. A rest of one or two bytes is filled up
with zero bits and padded to four symbols. `decodeBase64` accepts canonical texts only: padding must
be there and the bits that fill up must be zero.

`decodeBase64_encodeBase64` is the round trip, and `length_encodeBase64` the length of a text.
-/

namespace Iicp.Rust

def base64Symbol (bits : ℕ) : Char :=
  if bits < 26 then Char.ofNat (65 + bits)
  else if bits < 52 then Char.ofNat (71 + bits)
  else if bits < 62 then Char.ofNat (bits - 4)
  else if bits = 62 then '+'
  else '/'

def base64Value (symbol : Char) : Option ℕ :=
  let code := symbol.toNat
  if 65 ≤ code ∧ code ≤ 90 then some (code - 65)
  else if 97 ≤ code ∧ code ≤ 122 then some (code - 71)
  else if 48 ≤ code ∧ code ≤ 57 then some (code + 4)
  else if symbol = '+' then some 62
  else if symbol = '/' then some 63
  else none

def encodeBase64 : List UInt8 → List Char
  | [] => []
  | [first] =>
    [base64Symbol (first.toNat / 4), base64Symbol (first.toNat % 4 * 16), '=', '=']
  | [first, second] =>
    [base64Symbol (first.toNat / 4), base64Symbol (first.toNat % 4 * 16 + second.toNat / 16),
      base64Symbol (second.toNat % 16 * 4), '=']
  | first :: second :: third :: rest =>
    base64Symbol (first.toNat / 4) ::
      base64Symbol (first.toNat % 4 * 16 + second.toNat / 16) ::
      base64Symbol (second.toNat % 16 * 4 + third.toNat / 64) ::
      base64Symbol (third.toNat % 64) :: encodeBase64 rest

/-- The one or two bytes of a group that ends with padding. -/
def decodePadded (first second third : Char) : Option (List UInt8) := do
  let high ← base64Value first
  let middle ← base64Value second
  if third = '=' then
    if middle % 16 = 0 then some [UInt8.ofNat (high * 4 + middle / 16)] else none
  else do
    let low ← base64Value third
    if low % 4 = 0 then
      some [UInt8.ofNat (high * 4 + middle / 16), UInt8.ofNat (middle % 16 * 16 + low / 4)]
    else none

/-- The bytes of a canonical text. -/
def decodeBase64 : List Char → Option (List UInt8)
  | [] => some []
  | first :: second :: third :: fourth :: rest =>
    if rest = [] ∧ fourth = '=' then decodePadded first second third
    else do
      let high ← base64Value first
      let middle ← base64Value second
      let low ← base64Value third
      let last ← base64Value fourth
      (decodeBase64 rest).map fun bytes ↦
        UInt8.ofNat (high * 4 + middle / 16) :: UInt8.ofNat (middle % 16 * 16 + low / 4) ::
          UInt8.ofNat (low % 4 * 64 + last) :: bytes
  | _ => none

/-- What is known of each of the 64 symbols. -/
lemma base64Symbol_spec : ∀ bits < 64,
    base64Value (base64Symbol bits) = some bits ∧ base64Symbol bits ≠ '=' ∧
      42 < (base64Symbol bits).toNat ∧ (base64Symbol bits).toNat < 123 ∧
      (base64Symbol bits).toNat ≠ 92 := by
  decide

lemma base64Value_base64Symbol {bits : ℕ} (hrange : bits < 64) :
    base64Value (base64Symbol bits) = some bits := (base64Symbol_spec _ hrange).1

lemma base64Symbol_ne {bits : ℕ} (hrange : bits < 64) : base64Symbol bits ≠ '=' :=
  (base64Symbol_spec _ hrange).2.1

variable (bytes : List UInt8)

lemma decodeBase64_encodeBase64 : decodeBase64 (encodeBase64 bytes) = some bytes := by
  fun_induction encodeBase64 bytes with
  | case1 => rfl
  | case2 first =>
    have hfirst := first.toNat_lt
    rw [decodeBase64, if_pos ⟨rfl, rfl⟩, decodePadded]
    have hbyte : first.toNat / 4 * 4 + first.toNat % 4 * 16 / 16 = first.toNat := by omega
    have hzero : first.toNat % 4 * 16 % 16 = 0 := by omega
    simp (disch := omega) only [base64Value_base64Symbol, Option.bind_eq_bind, Option.bind_some,
      if_true, hzero, hbyte, UInt8.ofNat_toNat]
  | case3 first second =>
    have hfirst := first.toNat_lt
    have hsecond := second.toNat_lt
    rw [decodeBase64, if_pos ⟨rfl, rfl⟩, decodePadded]
    have hother : base64Symbol (second.toNat % 16 * 4) ≠ '=' := base64Symbol_ne (by omega)
    have hhigh : first.toNat / 4 * 4 + (first.toNat % 4 * 16 + second.toNat / 16) / 16 =
        first.toNat := by omega
    have hlow : (first.toNat % 4 * 16 + second.toNat / 16) % 16 * 16 + second.toNat % 16 * 4 / 4 =
        second.toNat := by omega
    have hzero : second.toNat % 16 * 4 % 4 = 0 := by omega
    simp (disch := omega) only [base64Value_base64Symbol, Option.bind_eq_bind, Option.bind_some,
      if_neg hother, if_true, hzero, hhigh, hlow, UInt8.ofNat_toNat]
  | case4 first second third rest ih =>
    have hfirst := first.toNat_lt
    have hsecond := second.toNat_lt
    have hthird := third.toNat_lt
    have hother : ¬ (encodeBase64 rest = [] ∧ base64Symbol (third.toNat % 64) = '=') :=
      fun h ↦ base64Symbol_ne (by omega) h.2
    rw [decodeBase64, if_neg hother, ih]
    have hhigh : first.toNat / 4 * 4 + (first.toNat % 4 * 16 + second.toNat / 16) / 16 =
        first.toNat := by omega
    have hmiddle : (first.toNat % 4 * 16 + second.toNat / 16) % 16 * 16 +
        (second.toNat % 16 * 4 + third.toNat / 64) / 4 = second.toNat := by omega
    have hlow : (second.toNat % 16 * 4 + third.toNat / 64) % 4 * 64 + third.toNat % 64 =
        third.toNat := by omega
    simp (disch := omega) only [base64Value_base64Symbol, Option.bind_eq_bind, Option.bind_some,
      Option.map_some, hhigh, hmiddle, hlow, UInt8.ofNat_toNat]

lemma length_encodeBase64 : (encodeBase64 bytes).length = 4 * ((bytes.length + 2) / 3) := by
  fun_induction encodeBase64 bytes with
  | case1 => rfl
  | case2 => simp
  | case3 => simp
  | case4 first second third rest ih =>
    simp only [List.length_cons, ih]
    omega

/-- A text is symbols and then the padding. -/
lemma encodeBase64_padded :
    ∃ digits : List ℕ, (∀ bits ∈ digits, bits < 64) ∧
      encodeBase64 bytes =
        digits.map base64Symbol ++ List.replicate (2 * bytes.length % 3) '=' := by
  fun_induction encodeBase64 bytes with
  | case1 => exact ⟨[], by simp⟩
  | case2 first =>
    exact ⟨[first.toNat / 4, first.toNat % 4 * 16], by grind [UInt8.toNat_lt], rfl⟩
  | case3 first second =>
    exact ⟨[first.toNat / 4, first.toNat % 4 * 16 + second.toNat / 16, second.toNat % 16 * 4],
      by grind [UInt8.toNat_lt], by simp⟩
  | case4 first second third rest ih =>
    obtain ⟨digits, hdigits, hrest⟩ := ih
    have hlength : 2 * (rest.length + 3) % 3 = 2 * rest.length % 3 := by omega
    refine ⟨first.toNat / 4 :: (first.toNat % 4 * 16 + second.toNat / 16) ::
      (second.toNat % 16 * 4 + third.toNat / 64) :: third.toNat % 64 :: digits, ?_, ?_⟩
    · grind [UInt8.toNat_lt]
    · simp only [hrest, List.length_cons, hlength, List.map_cons, List.cons_append]

/-- A text has printable characters only, and no quote and no backslash. -/
lemma encodeBase64_printable :
    ∀ char ∈ encodeBase64 bytes, 42 < char.toNat ∧ char.toNat < 123 ∧ char.toNat ≠ 92 := by
  obtain ⟨digits, hdigits, htext⟩ := encodeBase64_padded bytes
  intro char hchar
  rw [htext, List.mem_append, List.mem_map, List.mem_replicate] at hchar
  obtain ⟨bits, hbits, rfl⟩ | ⟨-, rfl⟩ := hchar
  · exact (base64Symbol_spec bits (hdigits bits hbits)).2.2
  · decide

end Iicp.Rust
