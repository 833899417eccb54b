import Mathlib.Tactic

/-!
# Outcomes of a call that may fail or panic

A call returns a value, returns an error, or panics. `Outcome` is the monad of such calls, and
`Outcome.Returns` says that a call does not panic. The panicking operations of the language are
stated once: checked unsigned addition (`addU64`), indexing (`index`) and slicing (`slice`). An
addition that leaves the range of its type is a panic, the behaviour of a build with overflow
checks; saturating operations and casts between the signed and the unsigned 64-bit type are total.
`returns_bind` splits the absence of panics over a sequence of calls.
-/

namespace Iicp.Rust

/-- What a call delivers: a value, an error, or a panic. -/
inductive Outcome (ε α : Type) where
  | ok (value : α)
  | err (error : ε)
  | panicked
  deriving DecidableEq, Repr

namespace Outcome

variable {ε α β δ : Type} (error : ε) (translate : δ → ε) (value : α) (next : α → Outcome ε β)
  (first : Outcome ε α)

/-- Sequencing: an error or a panic ends the computation, as the question mark operator does. -/
protected def bind (next : α → Outcome ε β) : Outcome ε β :=
  match first with
  | ok value => next value
  | err error => err error
  | panicked => panicked

instance : Monad (Outcome ε) where
  pure := ok
  bind := Outcome.bind

@[simp] lemma ok_bind : (ok value >>= next) = next value :=
  rfl

@[simp] lemma err_bind : ((err error : Outcome ε α) >>= next) = err error := rfl

@[simp] lemma panicked_bind : ((panicked : Outcome ε α) >>= next) = panicked := rfl

lemma bind_eq_ok_iff (next : α → Outcome ε β) (result : β) :
    (first >>= next) = ok result ↔ ∃ value, first = ok value ∧ next value = ok result := by
  cases first <;> simp

/-- The value of an optional, or the given error when it is absent. -/
def okOr (error : ε) : Option α → Outcome ε α
  | some value => ok value
  | none => err error

@[simp] lemma okOr_some : okOr error (some value) = ok value := rfl

@[simp] lemma okOr_none : okOr error (none : Option α) = err error := rfl

lemma okOr_eq_ok_iff (value : Option α) (result : α) :
    okOr error value = ok result ↔ value = some result := by
  cases value <;> simp

variable (condition : Bool)

/-- Goes on only under a condition. -/
def require (error : ε) : Outcome ε Unit :=
  if condition then ok () else err error

lemma require_eq_ok_iff (error : ε) (value : Unit) :
    require condition error = ok value ↔ condition := by
  cases condition <;> simp [require]

/-- A call that does not panic, with its error translated. -/
def ofExcept {δ : Type} (translate : δ → ε) : Except δ α → Outcome ε α
  | .ok value => ok value
  | .error error => err (translate error)

@[simp] lemma ofExcept_ok : ofExcept translate (.ok value) = ok value := rfl

@[simp] lemma ofExcept_error (error : δ) :
    ofExcept translate (.error error : Except δ α) = err (translate error) := rfl

lemma ofExcept_eq_ok_iff (call : Except δ α) (value : α) :
    ofExcept translate call = ok value ↔ call = .ok value := by
  cases call <;> simp

def mapErr {δ : Type} (translate : ε → δ) : Outcome ε α → Outcome δ α
  | ok value => ok value
  | err error => err (translate error)
  | panicked => panicked

@[simp] lemma mapErr_ok (translate : ε → δ) (value : α) :
    mapErr translate (ok value) = ok value := rfl

lemma mapErr_eq_ok_iff (translate : ε → δ) (call : Outcome ε α) (value : α) :
    mapErr translate call = ok value ↔ call = ok value := by
  cases call <;> simp [mapErr]

def Returns (call : Outcome ε α) : Prop := call ≠ panicked

@[simp] lemma returns_ok : (ok value : Outcome ε α).Returns := nofun

@[simp] lemma returns_err : (err error : Outcome ε α).Returns := nofun

@[simp] lemma not_returns_panicked : ¬ (panicked : Outcome ε α).Returns := fun h ↦ h rfl

@[simp] lemma returns_okOr (value : Option α) : (okOr error value).Returns := by
  cases value <;> simp

@[simp] lemma returns_require (error : ε) : (require condition error).Returns := by
  cases condition <;> simp [require]

@[simp] lemma returns_mapErr (translate : ε → δ) (call : Outcome ε α) :
    (mapErr translate call).Returns ↔ call.Returns := by
  cases call <;> simp [mapErr]

@[simp] lemma returns_ofExcept (call : Except δ α) : (ofExcept translate call).Returns := by
  cases call <;> simp

/-- A sequence of two calls returns when the first does and the second does on its value. -/
lemma returns_bind (next : α → Outcome ε β) :
    (first >>= next).Returns ↔ first.Returns ∧ ∀ value, first = ok value → (next value).Returns := by
  cases first <;> simp

end Outcome

open Outcome

variable {ε α : Type} {items : List α}

/-! ### Arithmetic on 64-bit integers -/

/-- Unsigned 64-bit addition with overflow checks, for counters that a release build would wrap after
`2 ^ 64` steps. -/
def addU64 (first second : ℕ) : Outcome ε ℕ :=
  if first + second < 2 ^ 64 then .ok (first + second) else .panicked

/-- Signed 64-bit addition with overflow checks. -/
def addI64 (first second : ℤ) : Outcome ε ℤ :=
  if -2 ^ 63 ≤ first + second ∧ first + second < 2 ^ 63 then .ok (first + second) else .panicked

/-- Signed 64-bit subtraction in two's complement, as a release build computes it. -/
def wrappingSubI64 (first second : ℤ) : ℤ := (first - second).bmod (2 ^ 64)

/-- Unsigned 64-bit addition that answers with nothing on overflow. -/
def checkedAddU64 (first second : ℕ) : Option ℕ :=
  if first + second < 2 ^ 64 then some (first + second) else none

/-- Unsigned 64-bit addition that stops at the largest value. -/
def saturatingAddU64 (first second : ℕ) : ℕ := min (first + second) (2 ^ 64 - 1)

/-- The cast of an unsigned 64-bit value to the signed type, in two's complement. -/
def asI64 (value : ℕ) : ℤ := if value < 2 ^ 63 then (value : ℤ) else (value : ℤ) - 2 ^ 64

lemma addU64_eq_ok_iff (first second sum : ℕ) :
    (addU64 first second : Outcome ε ℕ) = .ok sum ↔ first + second = sum ∧ sum < 2 ^ 64 := by
  unfold addU64
  split_ifs with hrange
  · constructor
    · intro h
      obtain rfl := Outcome.ok.inj h
      exact ⟨rfl, hrange⟩
    · rintro ⟨rfl, _⟩
      rfl
  · simp only [false_iff, not_and]
    rintro rfl
    exact hrange

lemma addU64_of_lt {first second : ℕ} (hrange : first + second < 2 ^ 64) :
    (addU64 first second : Outcome ε ℕ) = .ok (first + second) := if_pos hrange

lemma addU64_of_le {first second : ℕ} (hrange : 2 ^ 64 ≤ first + second) :
    (addU64 first second : Outcome ε ℕ) = .panicked := if_neg (not_lt.mpr hrange)

lemma asI64_of_lt {value : ℕ} (hrange : value < 2 ^ 63) : asI64 value = value := if_pos hrange

/-- Assumes: a value of the unsigned type beyond the signed range. The cast is negative. -/
lemma asI64_neg {value : ℕ} (hlow : 2 ^ 63 ≤ value) (hhigh : value < 2 ^ 64) : asI64 value < 0 := by
  rw [asI64, if_neg (not_lt.mpr hlow)]
  have hcast : (value : ℤ) < 2 ^ 64 := by exact_mod_cast hhigh
  linarith

/-! ### Indexing and slicing -/

/-- The element at a position; out of range it is a panic. -/
def index (items : List α) (position : ℕ) : Outcome ε α :=
  match items[position]? with
  | some item => .ok item
  | none => .panicked

/-- The elements from `start` up to `stop`; a range that is reversed or leaves the list is a
panic. -/
def slice (items : List α) (start stop : ℕ) : Outcome ε (List α) :=
  if start ≤ stop ∧ stop ≤ items.length then .ok ((items.take stop).drop start) else .panicked

/-- What is left after the first elements are removed; more than there are is a panic. -/
def drain (items : List α) (count : ℕ) : Outcome ε (List α) :=
  if count ≤ items.length then .ok (items.drop count) else .panicked

lemma index_of_lt {position : ℕ} (hrange : position < items.length) :
    (index items position : Outcome ε α) = .ok items[position] := by
  simp [index, List.getElem?_eq_getElem hrange]

lemma slice_of_le {start stop : ℕ} (hstart : start ≤ stop) (hstop : stop ≤ items.length) :
    (slice items start stop : Outcome ε (List α)) = .ok ((items.take stop).drop start) :=
  if_pos ⟨hstart, hstop⟩

/-- What follows the list does not matter. -/
lemma slice_append {start stop : ℕ} (hstart : start ≤ stop) (hstop : stop ≤ items.length)
    (rest : List α) :
    (slice (items ++ rest) start stop : Outcome ε (List α)) = slice items start stop := by
  have happend : stop ≤ (items ++ rest).length := by
    rw [List.length_append]
    omega
  rw [slice_of_le hstart happend, slice_of_le hstart hstop, List.take_append_of_le_length hstop]

end Iicp.Rust
