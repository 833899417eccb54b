import Iicp.Lifecycle.Record

/-!
# Content-free event details

The durable store keeps no content in the detail of an event. `contentFreeDetail` is its filter: it
admits a fixed set of fields, each with its own check, writes digests in lower case, and turns an
absent detail into an empty object. Everything else is refused with a message that names what is
wrong.

What is admitted is an object, and a refusal is always a conflict (`contentFreeDetail_cases`).
-/

namespace Iicp.Lifecycle

open Rust

def utf8Length (text : List Char) : ℕ := (text.map Char.utf8Size).sum

/-- The characters of a token. A byte outside of them is also a character outside of them. -/
def isTokenChar (char : Char) : Bool := char.isAlphanum || ['.', '_', ':', '-'].contains char

def isHexDigit (char : Char) : Bool :=
  char.isDigit || ('a' ≤ char && char ≤ 'f') || ('A' ≤ char && char ≤ 'F')

def safeToken (value : String) : Outcome LifecycleError Unit :=
  if value.isEmpty || decide (256 < value.utf8ByteSize) || !value.toList.all isTokenChar then
    .err (.conflict "invalid durable lifecycle token")
  else .ok ()

def progressKeys : List String := ["completed_units", "total_units", "unit"]

/-- The check of the progress field: only known keys, two counts in order, and a unit that is a
token. -/
def checkProgress (value : Json) : Outcome LifecycleError Unit := do
  let progress ← .okOr (.conflict "invalid durable lifecycle progress") value.asObject
  if progress.any fun entry ↦ !(progressKeys.contains entry.1) then
    .err (.conflict "invalid durable lifecycle progress")
  else
    let completed ← .okOr (.conflict "invalid durable lifecycle progress counts")
      ((Json.getField progress "completed_units").bind Json.asU64)
    let total ← .okOr (.conflict "invalid durable lifecycle progress counts")
      ((Json.getField progress "total_units").bind Json.asU64)
    if total < completed then .err (.conflict "invalid durable lifecycle progress counts")
    else
      match Json.getField progress "unit" with
      | some unit => do
        let text ← .okOr (.conflict "invalid progress unit") unit.asStr
        safeToken text
      | none => .ok ()

/-- The text after the optional name of the digest algorithm. -/
def digestHex (digest : List Char) : List Char :=
  if "sha256:".toList.isPrefixOf digest then digest.drop "sha256:".toList.length else digest

variable (key : String)

/-- The check of a digest field; the digest is kept in lower case. -/
def checkDigest (value : Json) : Outcome LifecycleError Json := do
  let digest ← .okOr (.conflict ("invalid " ++ key)) value.asStr
  let hex := digestHex digest.toList
  if utf8Length hex ≠ 64 ∨ hex.all isHexDigit = false then .err (.conflict ("invalid " ++ key))
  else .ok (.string (String.ofList (digest.toList.map Char.toLower)))

def checkToken (value : Json) : Outcome LifecycleError Unit := do
  let token ← .okOr (.conflict ("invalid durable lifecycle " ++ key)) value.asStr
  safeToken token

def contentFreeField (value : Json) : Outcome LifecycleError Json :=
  if key = "progress" then do
    checkProgress value
    .ok value
  else if key = "receipt_digest" ∨ key = "checkpoint_digest" then checkDigest key value
  else if key = "event_id" ∨ key = "reason_code" ∨ key = "outcome" then do
    checkToken key value
    .ok value
  else .err (.conflict ("durable lifecycle detail contains unsupported field: " ++ key))

/-- The loop of `content_free_detail`: the fields kept so far. -/
def contentFreeFields :
    List (String × Json) → List (String × Json) → Outcome LifecycleError (List (String × Json))
  | [], result => .ok result
  | (key, value) :: rest, result => do
    let kept ← contentFreeField key value
    contentFreeFields rest (Json.insertField key kept result)

def contentFreeDetail (detail : Json) : Outcome LifecycleError Json :=
  if detail = .null then .ok (.object [])
  else do
    let fields ← .okOr (.conflict "durable lifecycle detail must be an object") detail.asObject
    let result ← contentFreeFields fields []
    .ok (.object result)

lemma contentFreeDetail_cancelDetail : contentFreeDetail cancelDetail = .ok cancelDetail := by
  decide

/-- A call that can only succeed or be refused as a conflict. -/
def OnlyConflicts {α : Type} (result : Outcome LifecycleError α) : Prop :=
  result ≠ .panicked ∧ ∀ error, result = .err error → ∃ message, error = .conflict message

section Refusals

variable {α β : Type}

lemma onlyConflicts_ok (value : α) : OnlyConflicts (.ok value) := ⟨nofun, nofun⟩

lemma onlyConflicts_conflict (message : String) :
    OnlyConflicts (.err (.conflict message) : Outcome LifecycleError α) :=
  ⟨nofun, fun _ h ↦ ⟨message, (Outcome.err.inj h).symm⟩⟩

lemma onlyConflicts_okOr (message : String) (value : Option α) :
    OnlyConflicts (Outcome.okOr (.conflict message) value) := by
  cases value with
  | none => exact onlyConflicts_conflict message
  | some value => exact onlyConflicts_ok value

lemma OnlyConflicts.bind {first : Outcome LifecycleError α} (hfirst : OnlyConflicts first)
    {next : α → Outcome LifecycleError β} (hnext : ∀ value, OnlyConflicts (next value)) :
    OnlyConflicts (first >>= next) := by
  cases first with
  | ok value => exact hnext value
  | err error =>
    obtain ⟨message, rfl⟩ := hfirst.2 error rfl
    exact onlyConflicts_conflict message
  | panicked => exact absurd rfl hfirst.1

lemma onlyConflicts_safeToken (value : String) : OnlyConflicts (safeToken value) := by
  unfold safeToken
  split_ifs
  · exact onlyConflicts_conflict _
  · exact onlyConflicts_ok _

lemma onlyConflicts_checkProgress (value : Json) : OnlyConflicts (checkProgress value) := by
  refine (onlyConflicts_okOr _ _).bind fun progress ↦ ?_
  split_ifs
  · exact onlyConflicts_conflict _
  · refine (onlyConflicts_okOr _ _).bind fun completed ↦ ?_
    refine (onlyConflicts_okOr _ _).bind fun total ↦ ?_
    split_ifs
    · exact onlyConflicts_conflict _
    · cases Json.getField progress "unit" with
      | none => exact onlyConflicts_ok _
      | some => exact (onlyConflicts_okOr _ _).bind fun text ↦ onlyConflicts_safeToken text

lemma onlyConflicts_contentFreeField (key : String) (value : Json) :
    OnlyConflicts (contentFreeField key value) := by
  unfold contentFreeField
  split_ifs
  · exact (onlyConflicts_checkProgress value).bind fun _ ↦ onlyConflicts_ok _
  · refine (onlyConflicts_okOr _ _).bind fun digest ↦ ?_
    dsimp only
    split_ifs
    · exact onlyConflicts_conflict _
    · exact onlyConflicts_ok _
  · refine OnlyConflicts.bind ?_ fun _ ↦ onlyConflicts_ok _
    exact (onlyConflicts_okOr _ _).bind fun token ↦ onlyConflicts_safeToken token
  · exact onlyConflicts_conflict _

lemma onlyConflicts_contentFreeFields (fields : List (String × Json)) :
    ∀ result, OnlyConflicts (contentFreeFields fields result) := by
  induction fields with
  | nil => intro result; exact onlyConflicts_ok result
  | cons entry rest ih =>
    intro result
    exact (onlyConflicts_contentFreeField entry.1 entry.2).bind fun kept ↦ ih _

end Refusals

lemma contentFreeDetail_cases (detail : Json) :
    (∃ fields, contentFreeDetail detail = .ok (.object fields)) ∨
      ∃ message, contentFreeDetail detail = .err (.conflict message) := by
  have honly : OnlyConflicts (contentFreeDetail detail) := by
    unfold contentFreeDetail
    split_ifs
    · exact onlyConflicts_ok _
    · refine (onlyConflicts_okOr _ _).bind fun fields ↦ ?_
      exact (onlyConflicts_contentFreeFields fields []).bind fun _ ↦ onlyConflicts_ok _
  cases hresult : contentFreeDetail detail with
  | ok =>
    refine .inl ?_
    unfold contentFreeDetail at hresult
    split_ifs at hresult
    · exact ⟨[], by rw [← Outcome.ok.inj hresult]⟩
    · obtain ⟨_, _, hfields⟩ := (Outcome.bind_eq_ok_iff _ _ _).mp hresult
      obtain ⟨result, _, hkept⟩ := (Outcome.bind_eq_ok_iff _ _ _).mp hfields
      exact ⟨result, by rw [← Outcome.ok.inj hkept]⟩
  | err error =>
    obtain ⟨message, rfl⟩ := honly.2 error hresult
    exact .inr ⟨message, rfl⟩
  | panicked => exact absurd hresult honly.1

end Iicp.Lifecycle
