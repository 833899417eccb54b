import Iicp.Native.StreamCall

/-!
# JSON values on the native transport

A handler returns a JSON value, the server sends it as CBOR, and the client turns it into JSON again.
There are two ways: the answer to a buffered call, where the CBOR of the value is a byte string in the
body (`encodeResponse`, `receiveCall`), and the event of a streamed call, where it is a part of the
body.

`transported` is the value that arrives. It is the value that was sent, except that an unsigned
integer from `2 ^ 63` on arrives as a text: the server writes it as a CBOR integer, and the client
reads only those of the signed type as numbers (`json_survives_iff`).
-/

namespace Iicp.Native

open Rust List

/-! ### Values of the JSON library -/

mutual

/-- What holds of every value of the library: negative numbers are negative, floats are finite, and
the entries of an object are in key order, each key once. -/
def Valid : Json → Prop
  | .number (.negInt value) => value.toInt < 0
  | .number (.float bits) => isFinite bits = true
  | .array items => ValidItems items
  | .object fields => (fields.map Prod.fst).Pairwise (· < ·) ∧ ValidFields fields
  | _ => True

def ValidItems : List Json → Prop
  | [] => True
  | item :: rest => Valid item ∧ ValidItems rest

def ValidFields : List (String × Json) → Prop
  | [] => True
  | (_, value) :: rest => Valid value ∧ ValidFields rest

end

mutual

def fitsSigned : Json → Bool
  | .number (.posInt value) => value.toNat < 2 ^ 63
  | .array items => fitsSignedItems items
  | .object fields => fitsSignedFields fields
  | _ => true

def fitsSignedItems : List Json → Bool
  | [] => true
  | item :: rest => fitsSigned item && fitsSignedItems rest

def fitsSignedFields : List (String × Json) → Bool
  | [] => true
  | (_, value) :: rest => fitsSigned value && fitsSignedFields rest

end

/-! ### What arrives -/

mutual

/-- The value that arrives: integers that do not fit the signed type are texts. -/
def transported : Json → Json
  | .number (.posInt value) =>
    if value.toNat < 2 ^ 63 then .number (.posInt value) else .string (toString value.toNat)
  | .array items => .array (transportedItems items)
  | .object fields => .object (transportedFields fields)
  | value => value

def transportedItems : List Json → List Json
  | [] => []
  | item :: rest => transported item :: transportedItems rest

def transportedFields : List (String × Json) → List (String × Json)
  | [] => []
  | (key, value) :: rest => (key, transported value) :: transportedFields rest

end

lemma integerToJson_ofU64 (value : UInt64) :
    integerToJson (.ofU64 value) =
      if value.toNat < 2 ^ 63 then .number (.posInt value) else .string (toString value.toNat) := by
  rw [integerToJson, CborInteger.ofU64]
  dsimp only
  by_cases hsmall : value.toNat < 2 ^ 63
  · have hrange : -2 ^ 63 ≤ (value.toNat : ℤ) ∧ (value.toNat : ℤ) < 2 ^ 63 := by omega
    have hint : (Int64.ofInt value.toNat).toInt = value.toNat :=
      Int64.toInt_ofInt_of_le hrange.1 hrange.2
    have hpos : 0 ≤ (value.toNat : ℤ) := by omega
    rw [if_pos hrange, if_pos hsmall, Json.ofI64, hint, if_pos hpos, Int.toNat_natCast, Json.ofU64,
      UInt64.ofNat_toNat]
  · have hrange : ¬ (-2 ^ 63 ≤ (value.toNat : ℤ) ∧ (value.toNat : ℤ) < 2 ^ 63) := by omega
    rw [if_neg hrange, if_neg hsmall]
    rfl

lemma integerToJson_ofI64 {value : Int64} (hneg : value.toInt < 0) :
    integerToJson (.ofI64 value) = .number (.negInt value) := by
  have hrange : -2 ^ 63 ≤ value.toInt ∧ value.toInt < 2 ^ 63 := ⟨value.le_toInt, value.toInt_lt⟩
  rw [integerToJson, CborInteger.ofI64]
  dsimp only
  rw [if_pos hrange, Int64.ofInt_toInt, Json.ofI64, if_neg (not_le.mpr hneg)]

variable {entries : List (String × CborValue)}

/-- An entry with a key after all others is added at the end. -/
lemma insertEntry_append {key : String} (value : CborValue)
    (hafter : ∀ entry ∈ entries, entry.1 < key) :
    sortedEntries.insertEntry key value entries = entries ++ [(key, value)] := by
  induction entries with
  | nil => rfl
  | cons entry rest ih =>
    obtain ⟨other, old⟩ := entry
    have hless : other < key := hafter (other, old) mem_cons_self
    rw [sortedEntries.insertEntry, if_neg (String.ne_of_lt hless), if_neg (String.lt_asymm hless),
      ih fun entry hentry ↦ hafter entry (mem_cons_of_mem _ hentry), cons_append]

lemma insertField_append {fields : List (String × Json)} {key : String} (value : Json)
    (hafter : ∀ field ∈ fields, field.1 < key) :
    Json.insertField key value fields = fields ++ [(key, value)] := by
  induction fields with
  | nil => rfl
  | cons field rest ih =>
    obtain ⟨other, old⟩ := field
    have hless : other < key := hafter (other, old) mem_cons_self
    rw [Json.insertField, if_neg (String.ne_of_lt hless), if_neg (String.lt_asymm hless),
      ih fun field hfield ↦ hafter field (mem_cons_of_mem _ hfield), cons_append]

/-- Entries in key order are left as they are. -/
lemma sortedEntries_of_pairwise
    (hsorted : (entries.map Prod.fst).Pairwise (· < ·)) : sortedEntries entries = entries := by
  suffices hfold : ∀ done : List (String × CborValue),
      ((done ++ entries).map Prod.fst).Pairwise (· < ·) →
        entries.foldl (fun sorted entry ↦ sortedEntries.insertEntry entry.1 entry.2 sorted) done =
          done ++ entries by
    exact hfold [] hsorted
  clear hsorted
  induction entries with
  | nil => exact fun done _ ↦ (append_nil done).symm
  | cons entry rest ih =>
    intro done hsorted
    have hafter : ∀ other ∈ done, other.1 < entry.1 := by
      rw [map_append, pairwise_append] at hsorted
      intro other hother
      exact hsorted.2.2 _ (mem_map_of_mem hother) _ mem_cons_self
    rw [foldl_cons, insertEntry_append entry.2 hafter, ih, append_assoc, singleton_append]
    rwa [append_assoc, singleton_append]

lemma map_fst_jsonToCborFields (fields : List (String × Json)) :
    (jsonToCborFields fields).map Prod.fst = fields.map Prod.fst := by
  induction fields with
  | nil => rfl
  | cons field rest ih => rw [jsonToCborFields, map_cons, map_cons, ih]

mutual

lemma cborToJson_jsonToCbor : ∀ value : Json, Valid value →
    cborToJson (jsonToCbor value) = transported value
  | .null, _ => rfl
  | .bool _, _ => rfl
  | .number (.posInt value), _ => by
    rw [jsonToCbor, numberToCbor, CborValue.ofU64, cborToJson, integerToJson_ofU64, transported]
  | .number (.negInt value), hvalid => by
    rw [Valid] at hvalid
    rw [jsonToCbor, numberToCbor, cborToJson, integerToJson_ofI64 hvalid]
    rfl
  | .number (.float bits), hvalid => by
    rw [Valid] at hvalid
    rw [jsonToCbor, numberToCbor, cborToJson, if_pos hvalid]
    rfl
  | .string _, _ => by rw [jsonToCbor, cborToJson]; rfl
  | .array items, hvalid => by
    rw [Valid] at hvalid
    rw [jsonToCbor, cborToJson, transported, cborToJsonItems_jsonToCborItems items hvalid]
  | .object fields, hvalid => by
    rw [Valid] at hvalid
    have hsorted : ((jsonToCborFields fields).map Prod.fst).Pairwise (· < ·) := by
      rw [map_fst_jsonToCborFields]
      exact hvalid.1
    rw [jsonToCbor, cborToJson, transported, sortedEntries_of_pairwise hsorted,
      cborToJsonFields_jsonToCborFields fields hvalid.2 [] hvalid.1, nil_append]

lemma cborToJsonItems_jsonToCborItems : ∀ items : List Json, ValidItems items →
    cborToJsonItems (jsonToCborItems items) = transportedItems items
  | [], _ => rfl
  | item :: rest, hvalid => by
    rw [ValidItems] at hvalid
    rw [jsonToCborItems, cborToJsonItems, transportedItems, cborToJson_jsonToCbor item hvalid.1,
      cborToJsonItems_jsonToCborItems rest hvalid.2]

/-- The fields are added after those that are there. -/
lemma cborToJsonFields_jsonToCborFields : ∀ fields : List (String × Json), ValidFields fields →
    ∀ done : List (String × Json), ((done ++ fields).map Prod.fst).Pairwise (· < ·) →
      cborToJsonFields ((jsonToCborFields fields).map fun entry ↦ (.text entry.1, entry.2)) done =
        done ++ transportedFields fields
  | [], _, done, _ => (append_nil done).symm
  | (key, value) :: rest, hvalid, done, hsorted => by
    rw [ValidFields] at hvalid
    have hafter : ∀ field ∈ done, field.1 < key := by
      rw [map_append, pairwise_append] at hsorted
      intro field hfield
      exact hsorted.2.2 _ (mem_map_of_mem hfield) _ mem_cons_self
    have hrest : ((done ++ [(key, transported value)] ++ rest).map Prod.fst).Pairwise (· < ·) := by
      rw [append_assoc, singleton_append, map_append, map_cons]
      rwa [map_append, map_cons] at hsorted
    rw [jsonToCborFields, map_cons, cborToJsonFields, cborKey]
    dsimp only
    rw [cborToJson_jsonToCbor value hvalid.1, insertField_append _ hafter,
      cborToJsonFields_jsonToCborFields rest hvalid.2 _ hrest, transportedFields, append_assoc,
      singleton_append]

end

mutual

lemma transported_eq_iff : ∀ value : Json, transported value = value ↔ fitsSigned value
  | .null => by simp [transported, fitsSigned]
  | .bool _ => by simp [transported, fitsSigned]
  | .number (.posInt _) => by simp [transported, fitsSigned]
  | .number (.negInt _) => by simp [transported, fitsSigned]
  | .number (.float _) => by simp [transported, fitsSigned]
  | .string _ => by simp [transported, fitsSigned]
  | .array items => by
    rw [transported, fitsSigned, Json.array.injEq, transportedItems_eq_iff items]
  | .object fields => by
    rw [transported, fitsSigned, Json.object.injEq, transportedFields_eq_iff fields]

lemma transportedItems_eq_iff : ∀ items : List Json,
    transportedItems items = items ↔ fitsSignedItems items
  | [] => by simp [transportedItems, fitsSignedItems]
  | item :: rest => by
    rw [transportedItems, fitsSignedItems, cons.injEq, Bool.and_eq_true,
      transported_eq_iff item, transportedItems_eq_iff rest]

lemma transportedFields_eq_iff : ∀ fields : List (String × Json),
    transportedFields fields = fields ↔ fitsSignedFields fields
  | [] => by simp [transportedFields, fitsSignedFields]
  | (key, value) :: rest => by
    rw [transportedFields, fitsSignedFields, cons.injEq, Prod.mk.injEq, Bool.and_eq_true,
      transported_eq_iff value, transportedFields_eq_iff rest]
    simp

end

/-- A value of the library is the same after the conversion to CBOR and back exactly if all its
integers fit the signed 64-bit type. -/
lemma cborToJson_jsonToCbor_eq_iff {value : Json} (hvalid : Valid value) :
    cborToJson (jsonToCbor value) = value ↔ fitsSigned value := by
  rw [cborToJson_jsonToCbor value hvalid, transported_eq_iff]

/-! ### Buffered calls -/

/-- What the server takes from the value that a handler returned: an error code with its message,
or the result. -/
def handlerAnswer (userResult : Json) : Except (ℤ × String) Json :=
  match userResult with
  | .object fields =>
    match (Json.getField fields "error_code").bind Json.asI64 with
    | some code =>
      .error (code, ((Json.getField fields "error_message").bind Json.asStr).getD "handler error")
    | none => .ok ((Json.getField fields "result").getD userResult)
  | _ => .ok userResult

/-- The answer to a task: the handler's, unless there is none or the gate is full. -/
def bufferedAnswer (handler : Option (TcpTask → Json)) (gate : Option ConcurrencyGate)
    (task : TcpTask) : Except (ℤ × String) Json :=
  match handler, gate.map ConcurrencyGate.acquire with
  | none, _ => .error (503, "no handler configured")
  | some _, some (.error maxConcurrent) =>
    .error (429, "IICP-E021: max_concurrent=" ++ toString maxConcurrent ++ " reached")
  | some handler, _ => handlerAnswer (handler task)

def responseBody (sessionId : String) (callId : Option String) (result : Option (List UInt8))
    (errorCode : Option Int64) (errorMessage : Option String) : CborValue :=
  .map ([(.ofU64 2, .text sessionId)] ++
    (callId.map fun callId ↦ (CborValue.ofU64 15, CborValue.text callId)).toList ++
    (result.map fun result ↦ (CborValue.ofU64 5, CborValue.bytes result)).toList ++
    (errorCode.map fun code ↦ (CborValue.ofU64 100, CborValue.integer (.ofI64 code))).toList ++
    (errorMessage.map fun message ↦ (CborValue.ofU64 101, CborValue.text message)).toList)

/-- Reads one frame from the bytes that the server wrote: its type and its payload. -/
def readFrame (bytes : List UInt8) : Outcome IicpTcpClientError (UInt8 × List UInt8) :=
  match bytes with
  | m₀ :: m₁ :: m₂ :: m₃ :: version :: msgType :: _ :: _ :: l₀ :: l₁ :: l₂ :: l₃ :: rest =>
    if [m₀, m₁, m₂, m₃] ≠ iicpMagic then
      .err (.protocol ("bad magic in response: " ++ debugBytes [m₀, m₁, m₂, m₃]))
    else if version ≠ framingVersion then
      .err (.protocol ("unsupported framing version " ++ toString version.toNat ++ " in response"))
    else
      match stableTaskMessageTypeError msgType with
      | some reason =>
        .err (.protocol ("rejected native task frame type 0x" ++ hexEncode [msgType] ++ ": " ++ reason))
      | none => do
        let payloadLen ← fromBeBytes [l₀, l₁, l₂, l₃]
        if maxFramePayload < payloadLen then
          .err (.protocol ("response frame payload too large: " ++ toString payloadLen ++ " > " ++
            toString maxFramePayload))
        else if rest.length < payloadLen then .err (.io "early eof")
        else .ok (msgType, rest.take payloadLen)
  | _ => .err (.io "early eof")

/-- Assumes: a payload within the limit. The client reads the response frame that holds it. -/
lemma readFrame_response {payload : List UInt8} (hfits : payload.length ≤ maxFramePayload) :
    readFrame (frameHeader MsgType.response.toU8 0 0 payload.length ++ payload) =
      .ok (MsgType.response.toU8, payload) := by
  have hlength := @fromBeBytes_payload IicpTcpClientError _ hfits
  have hversion : ¬ framingVersion ≠ framingVersion := by decide
  have htype : stableTaskMessageTypeError MsgType.response.toU8 = none := by decide
  simp only [frameHeader, iicpMagic, toBeBytes, cons_append, nil_append, readFrame,
    if_neg hversion, htype] at hlength ⊢
  rw [if_neg (not_not.mpr rfl), hlength, Outcome.ok_bind, if_neg (not_lt.mpr hfits),
    if_neg (lt_irrefl _), take_length]

section Call

variable (codec : CborCodec)

def encodeResponse (sessionId : String) (callId : Option String) (result : Option (List UInt8))
    (errorCode : Option Int64) (errorMessage : Option String) : List UInt8 :=
  codec.encodeCbor (responseBody sessionId callId result errorCode errorMessage)

/-- Answers a buffered call with one frame. -/
def onCall (handler : Option (TcpTask → Json)) (gate : Option ConcurrencyGate)
    (sessionId : String) (callId : Option String) (intent : String) (payload : Json) :
    Outcome String (List UInt8) :=
  let response :=
    match bufferedAnswer handler gate ⟨callId.getD sessionId, intent, payload⟩ with
    | .ok result =>
      encodeResponse codec sessionId callId (some (codec.encodeCbor (jsonToCbor result))) none none
    | .error (code, message) =>
      encodeResponse codec sessionId callId none (some (Int64.ofInt code)) (some message)
  tryEncodeFrame MsgType.response.toU8 response 0

/-- The result in the body of a response, which is CBOR in a byte string. -/
def callResult (body : CborValue) : Outcome IicpTcpClientError Json :=
  match cborMapGet body 100 with
  | some (.integer code) =>
    .err (.server (code.value.bmod (2 ^ 64)) (((cborMapGet body 101).bind cborToStr).getD ""))
  | _ =>
    match cborMapGet body 5 with
    | some (.bytes bytes) => do
      let inner ← (codec.decodeCbor bytes).mapErr .protocol
      .ok (cborToJson inner)
    | some other => .ok (cborToJson other)
    | none => .ok (.object [])

/-- What a call returns when the server has written these bytes. -/
def receiveCall (bytes : List UInt8) : Outcome IicpTcpClientError Json := do
  let (msgType, payload) ← readFrame bytes
  if msgType ≠ MsgType.response.toU8 then
    .err (.protocol ("expected RESPONSE (0x06), got 0x" ++ hexEncode [msgType]))
  else do
    let body ← (codec.decodeCbor payload).mapErr .protocol
    callResult codec body

/-- Assumes: a byte string that the decoder reads as a value. A response that holds the byte string
gives the caller the JSON of the value. -/
lemma callResult_responseBody (sessionId : String) (callId : Option String) {bytes : List UInt8}
    {inner : CborValue} (hinner : codec.decodeCbor bytes = .ok inner) :
    callResult codec (responseBody sessionId callId (some bytes) none none) =
      .ok (cborToJson inner) := by
  have hcode : cborMapGet (responseBody sessionId callId (some bytes) none none) 100 = none := by
    cases callId <;> simp [responseBody, cborMapGet_cons, cborMapGet_nil]
  have hresult :
      cborMapGet (responseBody sessionId callId (some bytes) none none) 5 = some (.bytes bytes) := by
    cases callId <;> simp [responseBody, cborMapGet_cons]
  rw [callResult, hcode, hresult]
  dsimp only
  rw [hinner, Outcome.mapErr_ok, Outcome.ok_bind]

def valueResponse (sessionId : String) (callId : Option String) (value : Json) : CborValue :=
  responseBody sessionId callId (some (codec.encodeCbor (jsonToCbor value))) none none

/-- The caller gets the value that went through CBOR and back. -/
lemma receiveCall_onCall {handler : Option (TcpTask → Json)} {gate : Option ConcurrencyGate}
    {sessionId intent : String} {callId : Option String} {payload value : Json}
    (hanswer : bufferedAnswer handler gate ⟨callId.getD sessionId, intent, payload⟩ = .ok value)
    (hvalue : codec.decodeCbor (codec.encodeCbor (jsonToCbor value)) = .ok (jsonToCbor value))
    (hbody : codec.Carries (valueResponse codec sessionId callId value)) :
    ∃ frame, onCall codec handler gate sessionId callId intent payload = .ok frame ∧
      receiveCall codec frame = .ok (cborToJson (jsonToCbor value)) := by
  set response := codec.encodeCbor (valueResponse codec sessionId callId value)
  refine ⟨frameHeader MsgType.response.toU8 0 0 response.length ++ response, ?_, ?_⟩
  · rw [onCall, hanswer]
    exact tryEncodeFrame_of_le _ _ hbody.1
  · rw [receiveCall, readFrame_response hbody.1, Outcome.ok_bind]
    dsimp only
    rw [if_neg (not_not.mpr rfl), hbody.2, Outcome.mapErr_ok, Outcome.ok_bind, valueResponse,
      callResult_responseBody codec sessionId callId hvalue]

end Call

/-- A JSON value survives the native transport exactly if all its integers fit the signed 64-bit
type: it is the same after the conversion to CBOR and back, a handler's result reaches the caller of
a buffered call, and the result of an event reaches the client of a streamed call.
Assumes: a value of the library, a CBOR library that decodes the value and the response that holds
it, a response that fits a frame, and an event with the value as its result. -/
theorem json_survives_iff {value : Json} (hvalid : Valid value) (codec : CborCodec)
    (hvalue : codec.decodeCbor (codec.encodeCbor (jsonToCbor value)) = .ok (jsonToCbor value))
    {handler : Option (TcpTask → Json)} {gate : Option ConcurrencyGate}
    {sessionId intent : String} {callId : Option String} {payload : Json}
    (hanswer : bufferedAnswer handler gate ⟨callId.getD sessionId, intent, payload⟩ = .ok value)
    (hbody : codec.Carries (valueResponse codec sessionId callId value))
    (streamCallId taskId : String) (sequence : ℕ) {event : TcpStreamEvent}
    (hevent : event.result = some value) :
    (cborToJson (jsonToCbor value) = value ∧
      (∃ frame, onCall codec handler gate sessionId callId intent payload = .ok frame ∧
        receiveCall codec frame = .ok value) ∧
      ∃ response, decodeLifecycleResponse
          (lifecycleBody sessionId streamCallId taskId sequence event) = .ok response ∧
        response.result = value) ↔ fitsSigned value := by
  rw [← cborToJson_jsonToCbor_eq_iff hvalid]
  constructor
  · rintro ⟨heq, _⟩
    exact heq
  · intro heq
    refine ⟨heq, ?_, _, decodeLifecycleResponse_lifecycleBody _ _ _ _ _, ?_⟩
    · obtain ⟨frame, hsent, hreceived⟩ := receiveCall_onCall codec hanswer hvalue hbody
      exact ⟨frame, hsent, hreceived.trans (congrArg Outcome.ok heq)⟩
    · rw [responseOf, hevent]
      exact heq

/-- The least unsigned integer that is not of the signed type. -/
def largeInteger : Json := .number (.posInt 0x8000000000000000)

/-- It arrives as a text. -/
theorem largeInteger_becomes_text :
    Valid largeInteger ∧
      cborToJson (jsonToCbor largeInteger) = .string "9223372036854775808" ∧
      cborToJson (jsonToCbor largeInteger) ≠ largeInteger := by
  have htext : cborToJson (jsonToCbor largeInteger) = .string "9223372036854775808" := by
    decide +kernel
  refine ⟨trivial, htext, ?_⟩
  rw [htext]
  nofun

/-! ### A small value -/

mutual

/-- The encoding of small integers, and of short ASCII texts, byte strings and maps. -/
def encodeShort : CborValue → List UInt8
  | .integer number => [UInt8.ofNat number.value.toNat]
  | .text value =>
    UInt8.ofNat (0x60 + value.length) :: value.toList.map fun char ↦ UInt8.ofNat char.toNat
  | .bytes value => UInt8.ofNat (0x40 + value.length) :: value
  | .map entries => UInt8.ofNat (0xa0 + entries.length) :: encodeShortEntries entries
  | _ => []

def encodeShortEntries : List (CborValue × CborValue) → List UInt8
  | [] => []
  | (key, value) :: rest => encodeShort key ++ encodeShort value ++ encodeShortEntries rest

end

def smallObject : Json := .object [("n", .number (.posInt 5))]

/-- Encodes as above, and decodes the object and the response that holds it. -/
def shortCodec : CborCodec where
  encodeCbor := encodeShort
  decodeCbor bytes :=
    if bytes = [0xa1, 0x61, 0x6e, 0x05] then .ok (jsonToCbor smallObject)
    else if bytes = [0xa2, 0x02, 0x66, 0x63, 0x61, 0x6c, 0x6c, 0x2d, 0x31, 0x05, 0x44,
        0xa1, 0x61, 0x6e, 0x05] then
      .ok (responseBody "call-1" none (some (encodeShort (jsonToCbor smallObject))) none none)
    else .err "cbor decode: unknown"

def smallEvent : TcpStreamEvent := ⟨"success", some smallObject, none, none, none, none⟩

theorem json_survives_small :
    (cborToJson (jsonToCbor smallObject) = smallObject ∧
      (∃ frame, onCall shortCodec (some fun _ ↦ smallObject) none "call-1" none "chat" .null =
          .ok frame ∧ receiveCall shortCodec frame = .ok smallObject) ∧
      ∃ response, decodeLifecycleResponse (lifecycleBody "call-1" "c" "t" 0 smallEvent) =
          .ok response ∧ response.result = smallObject) ↔ fitsSigned smallObject := by
  have hvalid : Valid smallObject := ⟨pairwise_singleton _ _, trivial, trivial⟩
  have hvalue : shortCodec.encodeCbor (jsonToCbor smallObject) = [0xa1, 0x61, 0x6e, 0x05] := by
    decide +kernel
  have hbody : shortCodec.encodeCbor (valueResponse shortCodec "call-1" none smallObject) =
      [0xa2, 0x02, 0x66, 0x63, 0x61, 0x6c, 0x6c, 0x2d, 0x31, 0x05, 0x44, 0xa1, 0x61, 0x6e, 0x05] := by
    decide +kernel
  refine json_survives_iff hvalid shortCodec ?_ rfl ⟨?_, ?_⟩ "c" "t" 0 rfl
  · rw [hvalue]
    rfl
  · rw [hbody]
    decide
  · rw [hbody]
    rfl

end Iicp.Native
