import Iicp.Rust.Outcome

/-!
# Byte strings

Byte strings are lists of bytes. `toBeBytes` and `fromBeBytes` are the four bytes of a 32-bit
value, the most significant first: they are inverse to each other on values of that type and on
strings of four bytes. The conversion of a slice to an array of four bytes panics on any other
length. `debugBytes` is the text of a byte slice under the debug format, and `hexEncode` its text in
lower-case hexadecimal digits, two for each byte.
-/

namespace Iicp.Rust

variable {ε : Type} {value : ℕ}

/-- The cast to the unsigned 32-bit type. -/
def asU32 (value : ℕ) : ℕ := value % 2 ^ 32

/-- The bytes of a 32-bit value, the most significant first. -/
def toBeBytes (value : ℕ) : List UInt8 :=
  [UInt8.ofNat (value / 2 ^ 24), UInt8.ofNat (value / 2 ^ 16), UInt8.ofNat (value / 2 ^ 8),
    UInt8.ofNat value]

/-- The 32-bit value of four bytes, the most significant first; a slice of another length does
not convert to an array of four bytes, and unwrapping that failure is a panic. -/
def fromBeBytes : List UInt8 → Outcome ε ℕ
  | [first, second, third, fourth] =>
    .ok (first.toNat * 2 ^ 24 + second.toNat * 2 ^ 16 + third.toNat * 2 ^ 8 + fourth.toNat)
  | _ => .panicked

variable (bytes : List UInt8)

def debugBytes : String :=
  "[" ++ ", ".intercalate (bytes.map fun byte ↦ toString byte.toNat) ++ "]"

lemma asU32_of_lt (hrange : value < 2 ^ 32) : asU32 value = value :=
  Nat.mod_eq_of_lt hrange

lemma fromBeBytes_toBeBytes (hrange : value < 2 ^ 32) :
    (fromBeBytes (toBeBytes value) : Outcome ε ℕ) = .ok value := by
  simp only [toBeBytes, fromBeBytes, UInt8.toNat_ofNat', Outcome.ok.injEq]
  omega

/-- Four bytes are the bytes of the value that they denote, and that value is in range. -/
lemma fromBeBytes_four (first second third fourth : UInt8) :
    ∃ value, (fromBeBytes [first, second, third, fourth] : Outcome ε ℕ) = .ok value ∧
      value < 2 ^ 32 ∧ toBeBytes value = [first, second, third, fourth] := by
  have hfirst := first.toNat_lt
  have hsecond := second.toNat_lt
  have hthird := third.toNat_lt
  have hfourth := fourth.toNat_lt
  refine ⟨_, rfl, by omega, ?_⟩
  simp only [toBeBytes, List.cons.injEq, and_true]
  refine ⟨?_, ?_, ?_, ?_⟩ <;> apply UInt8.toNat_inj.mp <;> rw [UInt8.toNat_ofNat'] <;> omega

/-! ### Hexadecimal texts -/

/-- The digits of bytes in the small hexadecimal alphabet. -/
def lowerHex : List Char :=
  bytes.flatMap fun byte ↦ [(byte.toNat / 16).digitChar, (byte.toNat % 16).digitChar]

lemma lowerHex_cons (byte : UInt8) (rest : List UInt8) : lowerHex (byte :: rest) =
    (byte.toNat / 16).digitChar :: (byte.toNat % 16).digitChar :: lowerHex rest := rfl

def hexEncode : String := String.ofList (lowerHex bytes)

/-- A text of the given number of digits in the small hexadecimal alphabet. -/
def IsHex (length : ℕ) (text : String) : Prop :=
  text.toList.length = length ∧ ∀ char ∈ text.toList, char ∈ "0123456789abcdef".toList

instance (length : ℕ) (text : String) : Decidable (IsHex length text) :=
  haveI := List.decidableBAll (· ∈ "0123456789abcdef".toList) text.toList
  inferInstanceAs (Decidable (_ ∧ _))

lemma digitChar_mem (hrange : value < 16) : value.digitChar ∈ "0123456789abcdef".toList := by
  have hall : ∀ digit : Fin 16, digit.val.digitChar ∈ "0123456789abcdef".toList := by decide
  exact hall ⟨value, hrange⟩

lemma isHex_hexEncode : IsHex (2 * bytes.length) (hexEncode bytes) := by
  rw [IsHex, hexEncode, String.toList_ofList]
  induction bytes with
  | nil => exact ⟨rfl, nofun⟩
  | cons byte rest ih =>
    have hbyte := byte.toNat_lt
    rw [lowerHex_cons]
    constructor
    · rw [List.length_cons, List.length_cons, List.length_cons, ih.1]
      omega
    · rw [List.forall_mem_cons, List.forall_mem_cons]
      exact ⟨digitChar_mem (by omega), digitChar_mem (Nat.mod_lt _ (by decide)), ih.2⟩

end Iicp.Rust
