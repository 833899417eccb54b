import Iicp.Rust.Bytes
import Iicp.Stream.SelfDelimiting

/-!
# The native frame format

A frame is a header of twelve bytes and a payload. The header holds the magic, the framing
version, the message type, the flags, a reserved byte and the length of the payload in big-endian
order; a payload has at most sixteen mebibytes. `tryEncodeFrame` writes a frame and `decodeFrame`
reads one at the front of a byte string, each with its errors and with its panicking operations.

`decodeFrame_eq_ok_iff` says which strings the decoder accepts: those that start with the bytes of a
frame under some reserved byte. So it is a self-delimiting parser (`frames_self_delimiting`), and
`frame_format_lossless` states the format in both directions.
-/

namespace Iicp.Native

open Rust Iicp.Stream Outcome List

/-! ### Constants -/

def iicpMagic : List UInt8 := [0x49, 0x49, 0x43, 0x50]

def framingVersion : UInt8 := 0x01

def frameHeaderLen : ℕ := 12

/-- The largest number of payload bytes in one frame; the header is not counted. -/
def maxFramePayload : ℕ := 16 * 1024 * 1024

/-- Why the task profile refuses a message type, if it does. -/
def stableTaskMessageTypeError (msgType : UInt8) : Option String :=
  if (0x01 ≤ msgType ∧ msgType ≤ 0x0a) ∨ msgType = 0x0d ∨ msgType = 0x0e then none
  else if msgType = 0x00 ∨ msgType = 0xff then some "invalid_type"
  else if msgType = 0x0b ∨ msgType = 0x0c then some "conflicted_type"
  else if 0xf0 ≤ msgType ∧ msgType ≤ 0xfe then some "unsupported_extension"
  else some "unknown_type"

/-- The message types that have a name. -/
inductive MsgType where
  | init
  | ack
  | discover
  | subProtocol
  | call
  | response
  | close
  | feedback
  | ping
  | pong
  | relayBind
  | relayAck
  deriving DecidableEq, Repr

namespace MsgType

def toU8 : MsgType → UInt8
  | init => 0x01
  | ack => 0x02
  | discover => 0x03
  | subProtocol => 0x04
  | call => 0x05
  | response => 0x06
  | close => 0x07
  | feedback => 0x08
  | ping => 0x09
  | pong => 0x0a
  | relayBind => 0x0b
  | relayAck => 0x0c

def fromU8 (byte : UInt8) : Option MsgType :=
  if byte = 0x01 then some init
  else if byte = 0x02 then some ack
  else if byte = 0x03 then some discover
  else if byte = 0x04 then some subProtocol
  else if byte = 0x05 then some call
  else if byte = 0x06 then some response
  else if byte = 0x07 then some close
  else if byte = 0x08 then some feedback
  else if byte = 0x09 then some ping
  else if byte = 0x0a then some pong
  else if byte = 0x0b then some relayBind
  else if byte = 0x0c then some relayAck
  else none

end MsgType

/-! ### Encoding and decoding -/

structure IicpFrame where
  (version msgType flags : UInt8)
  payload : List UInt8
  deriving DecidableEq, Repr

variable (msgType flags reserved : UInt8)

def frameHeader (payloadLen : ℕ) : List UInt8 :=
  iicpMagic ++ [framingVersion, msgType, flags, reserved] ++ toBeBytes (asU32 payloadLen)

def tryEncodeFrame (msgType : UInt8) (payload : List UInt8) (flags : UInt8) :
    Outcome String (List UInt8) :=
  if maxFramePayload < payload.length then
    .err ("IICP frame payload too large: " ++ toString payload.length ++ " > " ++
      toString maxFramePayload)
  else do
    let _capacity ← addU64 frameHeaderLen payload.length
    .ok (frameHeader msgType flags 0 payload.length ++ payload)

/-- Reads one frame at the front of a byte string, with the number of bytes that it took. -/
def decodeFrame (data : List UInt8) : Outcome String (IicpFrame × ℕ) :=
  if data.length < frameHeaderLen then
    .err ("IICP frame too short: " ++ toString data.length ++ " < " ++ toString frameHeaderLen)
  else do
    let magic ← slice data 0 4
    if magic ≠ iicpMagic then .err ("Invalid IICP magic: " ++ debugBytes magic)
    else do
      let version ← index data 4
      if version ≠ framingVersion then
        .err ("Unsupported IICP framing version: " ++ toString version.toNat ++ "; expected " ++
          toString framingVersion.toNat)
      else do
        let msgType ← index data 5
        let flags ← index data 6
        let lengthBytes ← slice data 8 12
        let payloadLen ← fromBeBytes lengthBytes
        if maxFramePayload < payloadLen then
          .err ("IICP frame payload too large: " ++ toString payloadLen ++ " > " ++
            toString maxFramePayload)
        else do
          let total ← okOr "IICP frame length overflow" (checkedAddU64 frameHeaderLen payloadLen)
          if data.length < total then
            .err ("IICP payload truncated: need " ++ toString total ++ ", have " ++
              toString data.length)
          else do
            let payload ← slice data frameHeaderLen total
            .ok (⟨version, msgType, flags, payload⟩, total)

/-! ### The decoder on a full header -/

/-- A payload within the limit has a length that the header can hold. -/
lemma payload_lt {payloadLen : ℕ} (h : payloadLen ≤ maxFramePayload) : payloadLen < 2 ^ 32 := by
  have hlimit : maxFramePayload = 16777216 := rfl
  omega

lemma fromBeBytes_payload {ε : Type} {payloadLen : ℕ} (h : payloadLen ≤ maxFramePayload) :
    (fromBeBytes (toBeBytes (asU32 payloadLen)) : Outcome ε ℕ) = .ok payloadLen := by
  rw [asU32_of_lt (payload_lt h), fromBeBytes_toBeBytes (payload_lt h)]

/-- A payload within the limit has a frame length that no 64-bit sum overflows. -/
lemma frameLength_lt {payloadLen : ℕ} (h : payloadLen ≤ maxFramePayload) :
    frameHeaderLen + payloadLen < 2 ^ 64 := by
  have hlimit : maxFramePayload = 16777216 := rfl
  have hheader : frameHeaderLen = 12 := rfl
  omega

/-- The decoder on a string with a full header, whose last four bytes denote a length. The four
checks that remain are on the magic, the version, the length and the rest of the string. -/
lemma decodeFrame_header (m₀ m₁ m₂ m₃ version msgType flags reserved l₀ l₁ l₂ l₃ : UInt8)
    (rest : List UInt8) {payloadLen : ℕ}
    (hlen : (fromBeBytes [l₀, l₁, l₂, l₃] : Outcome String ℕ) = .ok payloadLen) :
    decodeFrame (m₀ :: m₁ :: m₂ :: m₃ :: version :: msgType :: flags :: reserved ::
        l₀ :: l₁ :: l₂ :: l₃ :: rest) =
      if [m₀, m₁, m₂, m₃] ≠ iicpMagic then
        .err ("Invalid IICP magic: " ++ debugBytes [m₀, m₁, m₂, m₃])
      else if version ≠ framingVersion then
        .err ("Unsupported IICP framing version: " ++ toString version.toNat ++ "; expected " ++
          toString framingVersion.toNat)
      else if maxFramePayload < payloadLen then
        .err ("IICP frame payload too large: " ++ toString payloadLen ++ " > " ++
          toString maxFramePayload)
      else if rest.length < payloadLen then
        .err ("IICP payload truncated: need " ++ toString (frameHeaderLen + payloadLen) ++
          ", have " ++ toString (frameHeaderLen + rest.length))
      else .ok (⟨version, msgType, flags, rest.take payloadLen⟩, frameHeaderLen + payloadLen) := by
  set data := m₀ :: m₁ :: m₂ :: m₃ :: version :: msgType :: flags :: reserved ::
    l₀ :: l₁ :: l₂ :: l₃ :: rest with hdata
  have hlength : data.length = frameHeaderLen + rest.length := by
    simp only [hdata, length_cons, frameHeaderLen]
    omega
  have hheader : 12 ≤ data.length := by
    rw [hlength, frameHeaderLen]
    omega
  have hmagic : (slice data 0 4 : Outcome String _) = .ok [m₀, m₁, m₂, m₃] :=
    slice_of_le (by omega) (by omega)
  have hversion : (index data 4 : Outcome String _) = .ok version := index_of_lt (by omega)
  have hmsgType : (index data 5 : Outcome String _) = .ok msgType := index_of_lt (by omega)
  have hflags : (index data 6 : Outcome String _) = .ok flags := index_of_lt (by omega)
  have hbytes : (slice data 8 12 : Outcome String _) = .ok [l₀, l₁, l₂, l₃] :=
    slice_of_le (by omega) hheader
  have hfull : ¬ data.length < frameHeaderLen := by
    rw [frameHeaderLen]
    omega
  rw [decodeFrame, if_neg hfull, hmagic, ok_bind]
  by_cases hm : [m₀, m₁, m₂, m₃] ≠ iicpMagic
  · rw [if_pos hm, if_pos hm]
  rw [if_neg hm, if_neg hm, hversion, ok_bind]
  by_cases hv : version ≠ framingVersion
  · rw [if_pos hv, if_pos hv]
  rw [if_neg hv, if_neg hv, hmsgType, ok_bind, hflags, ok_bind, hbytes, ok_bind, hlen, ok_bind]
  by_cases hlimit : maxFramePayload < payloadLen
  · rw [if_pos hlimit, if_pos hlimit]
  rw [if_neg hlimit, if_neg hlimit, checkedAddU64, if_pos (frameLength_lt (not_lt.mp hlimit)),
    okOr_some, ok_bind, hlength]
  by_cases hshort : rest.length < payloadLen
  · rw [if_pos hshort, if_pos (Nat.add_lt_add_left hshort _)]
  have hpayload : (slice data frameHeaderLen (frameHeaderLen + payloadLen) :
      Outcome String _) = .ok (rest.take payloadLen) := by
    rw [slice_of_le (by omega) (by omega), frameHeaderLen, Nat.add_comm, hdata]
    simp only [take_succ_cons, drop_succ_cons, drop_zero]
  rw [if_neg hshort, if_neg (by omega), hpayload, ok_bind]

/-- Every string with a full header is twelve bytes and a rest, and its length bytes denote a
32-bit value. -/
lemma exists_header {data : List UInt8} (h : frameHeaderLen ≤ data.length) :
    ∃ m₀ m₁ m₂ m₃ version msgType flags reserved l₀ l₁ l₂ l₃ rest,
      data = m₀ :: m₁ :: m₂ :: m₃ :: version :: msgType :: flags :: reserved ::
        l₀ :: l₁ :: l₂ :: l₃ :: rest := by
  rcases data with _ | ⟨m₀, _ | ⟨m₁, _ | ⟨m₂, _ | ⟨m₃, _ | ⟨version, _ | ⟨msgType, _ | ⟨flags,
    _ | ⟨reserved, _ | ⟨l₀, _ | ⟨l₁, _ | ⟨l₂, _ | ⟨l₃, rest⟩⟩⟩⟩⟩⟩⟩⟩⟩⟩⟩⟩
  iterate 12 (simp [frameHeaderLen] at h)
  exact ⟨m₀, m₁, m₂, m₃, version, msgType, flags, reserved, l₀, l₁, l₂, l₃, rest, rfl⟩

/-! ### Which strings decode -/

lemma length_frameHeader (payloadLen : ℕ) :
    (frameHeader msgType flags reserved payloadLen).length = frameHeaderLen := rfl

lemma take_frame (payload rest : List UInt8) :
    (frameHeader msgType flags reserved payload.length ++ (payload ++ rest)).take
        (frameHeaderLen + payload.length) =
      frameHeader msgType flags reserved payload.length ++ payload := by
  rw [← append_assoc]
  apply take_left'
  rw [length_append, length_frameHeader]

variable (data : List UInt8)

/-- The decoder takes exactly the bytes of a frame from the front of a string, whatever the
reserved byte. -/
lemma decodeFrame_eq_ok_iff (frame : IicpFrame) (taken : ℕ) :
    decodeFrame data = .ok (frame, taken) ↔
      frame.version = framingVersion ∧ frame.payload.length ≤ maxFramePayload ∧
        taken = frameHeaderLen + frame.payload.length ∧
        ∃ reserved rest, data =
          frameHeader frame.msgType frame.flags reserved frame.payload.length ++
            (frame.payload ++ rest) := by
  constructor
  · intro h
    have hheader : frameHeaderLen ≤ data.length := by
      by_contra hshort
      rw [decodeFrame, if_pos (not_le.mp hshort)] at h
      nomatch h
    obtain ⟨m₀, m₁, m₂, m₃, version, _, _, reserved, l₀, l₁, l₂, l₃, rest, rfl⟩ :=
      exists_header hheader
    obtain ⟨payloadLen, hlen, hrange, hbytes⟩ := fromBeBytes_four l₀ l₁ l₂ l₃
    rw [decodeFrame_header _ _ _ _ _ _ _ _ _ _ _ _ _ hlen] at h
    split_ifs at h with hmagic hversion hlimit hshort
    obtain ⟨rfl, rfl⟩ := Prod.mk.inj (ok.inj h)
    have hpayload : (rest.take payloadLen).length = payloadLen :=
      length_take_of_le (not_lt.mp hshort)
    refine ⟨not_not.mp hversion, hpayload.trans_le (not_lt.mp hlimit), by rw [hpayload], reserved,
      rest.drop payloadLen, ?_⟩
    have hmagic' : [m₀, m₁, m₂, m₃] = iicpMagic := not_not.mp hmagic
    have hversion' : version = framingVersion := not_not.mp hversion
    simp only [hpayload, frameHeader, ← hmagic', hversion', asU32_of_lt hrange, hbytes,
      take_append_drop, cons_append, nil_append]
  · rintro ⟨hversion, hlimit, rfl, _, rest, rfl⟩
    refine (decodeFrame_header _ _ _ _ _ _ _ _ _ _ _ _ _ (fromBeBytes_payload hlimit)).trans ?_
    have hfits : ¬ (frame.payload ++ rest).length < frame.payload.length := by
      rw [length_append]
      omega
    simp only [append_eq, nil_append]
    have hmagic : [0x49, 0x49, 0x43, 0x50] = iicpMagic := rfl
    rw [if_neg (not_not.mpr hmagic), if_neg (not_not.mpr rfl), if_neg (not_lt.mpr hlimit),
      if_neg hfits, take_left, ← hversion]

/-- The encoder writes the frame with a zero reserved byte. -/
lemma tryEncodeFrame_of_le (msgType flags : UInt8) {payload : List UInt8}
    (h : payload.length ≤ maxFramePayload) :
    tryEncodeFrame msgType payload flags =
      .ok (frameHeader msgType flags 0 payload.length ++ payload) := by
  rw [tryEncodeFrame, if_neg (not_lt.mpr h), addU64_of_lt (frameLength_lt h), ok_bind]

lemma tryEncodeFrame_returns (msgType flags : UInt8) (payload : List UInt8) :
    (tryEncodeFrame msgType payload flags).Returns := by
  by_cases h : payload.length ≤ maxFramePayload
  · rw [tryEncodeFrame_of_le msgType flags h]
    exact returns_ok _
  · rw [tryEncodeFrame, if_pos (not_le.mp h)]
    exact returns_err _

/-- An error whose text opens differently is not the error of an overflow. -/
lemma err_ne_overflow (opening rest : String)
    (hopening : ¬ opening.toList <+: "IICP frame length overflow".toList) :
    (.err (opening ++ rest) : Outcome String (IicpFrame × ℕ)) ≠
      .err "IICP frame length overflow" := by
  intro h
  apply hopening
  rw [← err.inj h, String.toList_append]
  exact prefix_append _ _

/-- No index of the decoder leaves the string, and its length never overflows. -/
lemma decodeFrame_returns :
    (decodeFrame data).Returns ∧ decodeFrame data ≠ .err "IICP frame length overflow" := by
  by_cases hheader : frameHeaderLen ≤ data.length
  · obtain ⟨_, _, _, _, _, _, _, _, l₀, l₁, l₂, l₃, _, rfl⟩ :=
      exists_header hheader
    obtain ⟨_, hlen, _, _⟩ := fromBeBytes_four l₀ l₁ l₂ l₃
    rw [decodeFrame_header _ _ _ _ _ _ _ _ _ _ _ _ _ hlen]
    simp only [String.append_assoc]
    split_ifs
    on_goal 5 => exact ⟨returns_ok _, nofun⟩
    all_goals exact ⟨returns_err _, err_ne_overflow _ _ (by decide)⟩
  · rw [decodeFrame, if_pos (not_le.mp hheader), String.append_assoc, String.append_assoc]
    exact ⟨returns_err _, err_ne_overflow _ _ (by decide)⟩

/-- The decoder as a parser that drops the text of its errors. -/
def parseFrame (data : List UInt8) : Option (IicpFrame × ℕ) :=
  match decodeFrame data with
  | .ok result => some result
  | _ => none

lemma parseFrame_eq_some_iff (result : IicpFrame × ℕ) :
    parseFrame data = some result ↔ decodeFrame data = .ok result := by
  unfold parseFrame
  cases decodeFrame data <;> simp

lemma frames_self_delimiting : SelfDelimiting parseFrame where
  pos := by
    intro data frame taken h
    obtain ⟨_, _, rfl, _⟩ := (decodeFrame_eq_ok_iff _ _ _).mp ((parseFrame_eq_some_iff _ _).mp h)
    rw [frameHeaderLen]
    omega
  le_length := by
    intro data frame taken h
    obtain ⟨_, _, rfl, reserved, rest, rfl⟩ :=
      (decodeFrame_eq_ok_iff _ _ _).mp ((parseFrame_eq_some_iff _ _).mp h)
    simp only [length_append, length_frameHeader]
    omega
  of_take_eq := by
    intro data other frame taken h htake
    obtain ⟨hversion, hlimit, rfl, reserved, _, rfl⟩ :=
      (decodeFrame_eq_ok_iff _ _ _).mp ((parseFrame_eq_some_iff _ _).mp h)
    rw [parseFrame_eq_some_iff, decodeFrame_eq_ok_iff]
    refine ⟨hversion, hlimit, rfl, reserved, other.drop (frameHeaderLen + frame.payload.length), ?_⟩
    rw [take_frame] at htake
    rw [← append_assoc, ← htake, take_append_drop]

/-! ### The format in both directions -/

/-- The frame format is self-delimiting and loses nothing. What the encoder writes is decoded to
the same type, flags and payload, whatever follows; what the decoder accepts lies within the
string, depends on the bytes taken only, is what the encoder writes up to the reserved byte, and
no shorter start of it is accepted; and neither function panics or overflows on any input. -/
theorem frame_format_lossless :
    (∀ (msgType flags : UInt8) (payload rest : List UInt8), payload.length ≤ maxFramePayload →
      ∃ bytes, tryEncodeFrame msgType payload flags = .ok bytes ∧
        decodeFrame (bytes ++ rest) =
          .ok (⟨framingVersion, msgType, flags, payload⟩, 12 + payload.length)) ∧
    (∀ (data : List UInt8) (frame : IicpFrame) (taken : ℕ), decodeFrame data = .ok (frame, taken) →
        taken ≤ data.length ∧
        (∀ other, other.take taken = data.take taken → decodeFrame other = .ok (frame, taken)) ∧
        tryEncodeFrame frame.msgType frame.payload frame.flags =
          .ok ((data.take taken).set 7 0) ∧
        ∀ size < taken, ∀ result, decodeFrame (data.take size) ≠ .ok result) ∧
    (∀ data, (decodeFrame data).Returns ∧
      decodeFrame data ≠ .err "IICP frame length overflow") ∧
    ∀ msgType flags payload, (tryEncodeFrame msgType payload flags).Returns := by
  refine ⟨?_, ?_, decodeFrame_returns, tryEncodeFrame_returns⟩
  · intro msgType flags payload rest hlimit
    refine ⟨_, tryEncodeFrame_of_le msgType flags hlimit, ?_⟩
    rw [decodeFrame_eq_ok_iff]
    exact ⟨rfl, hlimit, rfl, 0, rest, append_assoc _ _ _⟩
  · intro data frame taken h
    have hparse : parseFrame data = some (frame, taken) := (parseFrame_eq_some_iff _ _).mpr h
    refine ⟨frames_self_delimiting.le_length hparse, ?_, ?reencoded, ?_⟩
    case reencoded =>
      obtain ⟨_, hlimit, rfl, _, _, rfl⟩ := (decodeFrame_eq_ok_iff _ _ _).mp h
      rw [tryEncodeFrame_of_le _ _ hlimit, take_frame]
      rfl
    · intro other htake
      exact (parseFrame_eq_some_iff _ _).mp (frames_self_delimiting.of_take_eq hparse htake)
    · intro size hsize result hresult
      have hnone := frames_self_delimiting.take_eq_none hparse hsize
      rw [(parseFrame_eq_some_iff _ _).mpr hresult] at hnone
      nomatch hnone

/-- A ping with one payload byte and a nonzero reserved byte, followed by another byte. -/
def pingBytes : List UInt8 := [0x49, 0x49, 0x43, 0x50, 1, 9, 0, 5, 0, 0, 0, 1, 0xa0, 7]

theorem frame_format_lossless_on_ping :
    decodeFrame pingBytes = .ok (⟨framingVersion, 9, 0, [0xa0]⟩, 13) ∧
      tryEncodeFrame 9 [0xa0] 0 = .ok ((pingBytes.take 13).set 7 0) ∧
      ∃ bytes, tryEncodeFrame 9 [0xa0] 0 = .ok bytes ∧
        decodeFrame (bytes ++ [7]) = .ok (⟨framingVersion, 9, 0, [0xa0]⟩, 13) :=
  have hping : decodeFrame pingBytes = .ok (⟨framingVersion, 9, 0, [0xa0]⟩, 13) := by decide
  ⟨hping, (frame_format_lossless.2.1 _ _ _ hping).2.2.1,
    frame_format_lossless.1 9 0 [0xa0] [7] (by decide)⟩

end Iicp.Native
