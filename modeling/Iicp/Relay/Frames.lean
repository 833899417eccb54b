import Iicp.Native.Frame

/-!
# The frames of the relay

The relay and its workers write and read frames with functions of their own. `readFrame_eq_ok_iff`
compares the reader with `decodeFrame`: it reads a string as if its version byte were the current
one. The writer has no limit on the payload. `relay_frames_agree_iff` says where both speak the
native format, in terms of the bytes and of the length of the payload.
-/

namespace Iicp.Relay

open Rust Native Outcome List

/-- Writes a frame of any length; the header holds the last 32 bits of it. -/
def makeFrame (msgType : UInt8) (payload : List UInt8) : List UInt8 :=
  frameHeader msgType 0 0 payload.length ++ payload

variable (bytes : List UInt8)

/-- Reads one frame from a connection that closes after the given bytes. -/
def readFrame : Outcome String (UInt8 × List UInt8) :=
  match bytes with
  | m₀ :: m₁ :: m₂ :: m₃ :: _ :: msgType :: _ :: _ :: l₀ :: l₁ :: l₂ :: l₃ :: rest =>
    if [m₀, m₁, m₂, m₃] ≠ iicpMagic then .err ("bad magic " ++ debugBytes [m₀, m₁, m₂, m₃])
    else do
      let payloadLen ← fromBeBytes [l₀, l₁, l₂, l₃]
      if 16 * 1024 * 1024 < payloadLen then .err ("payload too large: " ++ toString payloadLen)
      else if rest.length < payloadLen then .err "early eof"
      else .ok (msgType, rest.take payloadLen)
  | _ => .err "early eof"

namespace Worker

def makeFrame (msgType : UInt8) (payload : List UInt8) : List UInt8 :=
  Relay.makeFrame msgType payload

/-- The reader of `relay_worker_client`, which drops the errors. -/
def readFrame (bytes : List UInt8) : Option (UInt8 × List UInt8) :=
  match Relay.readFrame bytes with
  | .ok frame => some frame
  | _ => none

end Worker

/-- A full header with the magic and a length within the limit, and as many bytes after it. The
version is not looked at. -/
def CarriesFrame : Prop :=
  ∃ payloadLen ≤ maxFramePayload, bytes.take 4 = iicpMagic ∧
    (bytes.drop 8).take 4 = toBeBytes payloadLen ∧ frameHeaderLen + payloadLen ≤ bytes.length

/-- Both readers take a frame from a string exactly when the decoder does, and the same one. -/
def ReadsAlike : Prop :=
  ∀ result, (readFrame bytes = .ok result ↔ Worker.readFrame bytes = some result) ∧
    (readFrame bytes = .ok result ↔ ∃ frame taken,
      decodeFrame bytes = .ok (frame, taken) ∧ (frame.msgType, frame.payload) = result)

/-- Both writers write what the encoder writes. As they cannot fail, the encoder must not either. -/
def WritesAlike (msgType : UInt8) (payload : List UInt8) : Prop :=
  tryEncodeFrame msgType payload 0 = .ok (makeFrame msgType payload) ∧
    tryEncodeFrame msgType payload 0 = .ok (Worker.makeFrame msgType payload)

lemma readFrame_of_short (hshort : bytes.length < frameHeaderLen) :
    readFrame bytes = .err "early eof" := by
  unfold readFrame
  split
  · exact absurd hshort (by simp [frameHeaderLen])
  · rfl

/-- The reader takes a string for what the decoder takes it for under the current version. -/
lemma readFrame_eq_ok_iff (result : UInt8 × List UInt8) :
    readFrame bytes = .ok result ↔ ∃ frame taken,
      decodeFrame (bytes.set 4 framingVersion) = .ok (frame, taken) ∧
        (frame.msgType, frame.payload) = result := by
  by_cases hheader : frameHeaderLen ≤ bytes.length
  · obtain ⟨_, _, _, _, _, _, _, _, l₀, l₁, l₂, l₃, _, rfl⟩ :=
      exists_header hheader
    obtain ⟨_, hlen, -⟩ := @fromBeBytes_four String l₀ l₁ l₂ l₃
    have hlimit : 16 * 1024 * 1024 = maxFramePayload := rfl
    simp only [set_cons_succ, set_cons_zero, readFrame, hlen, ok_bind, hlimit,
      decodeFrame_header _ _ _ _ _ _ _ _ _ _ _ _ _ hlen, if_neg (not_not.mpr rfl)]
    split_ifs <;> simp
  · have hshort : (bytes.set 4 framingVersion).length < frameHeaderLen := by
      rwa [length_set, ← not_le]
    simp only [readFrame_of_short bytes (not_le.mp hheader), decodeFrame, if_pos hshort, reduceCtorEq,
      false_and, exists_false]

/-- The reader takes the strings that carry a frame of any version. -/
lemma readFrame_ok_iff : (∃ result, readFrame bytes = .ok result) ↔ CarriesFrame bytes := by
  by_cases hheader : frameHeaderLen ≤ bytes.length
  · obtain ⟨m₀, m₁, m₂, m₃, _, msgType, _, _, l₀, l₁, l₂, l₃, rest, rfl⟩ := exists_header hheader
    obtain ⟨payloadLen, hlen, hrange, hbytes⟩ := @fromBeBytes_four String l₀ l₁ l₂ l₃
    have hlimit : 16 * 1024 * 1024 = maxFramePayload := rfl
    have hunique : ∀ other ≤ maxFramePayload,
        [l₀, l₁, l₂, l₃] = toBeBytes other ↔ other = payloadLen := by
      intro other hother
      refine ⟨fun hsame ↦ ?_, fun hsame ↦ by rw [hsame, hbytes]⟩
      rw [hsame, fromBeBytes_toBeBytes (payload_lt hother)] at hlen
      exact ok.inj hlen
    simp only [readFrame, CarriesFrame, hlen, ok_bind, hlimit, take_succ_cons, take_zero,
      drop_succ_cons, drop_zero, length_cons, frameHeaderLen]
    split_ifs with hmagic hlong hshort
    · simp [hmagic]
    · refine iff_of_false (by simp) ?_
      rintro ⟨other, hother, -, hsame, -⟩
      rw [(hunique other hother).mp hsame] at hother
      exact absurd hother (not_le.mpr hlong)
    · refine iff_of_false (by simp) ?_
      rintro ⟨other, hother, -, hsame, hfits⟩
      rw [(hunique other hother).mp hsame] at hfits
      omega
    · exact iff_of_true ⟨_, rfl⟩ ⟨payloadLen, not_lt.mp hlong, not_not.mp hmagic, hbytes.symm,
        by omega⟩
  · refine iff_of_false (by simp [readFrame_of_short bytes (not_le.mp hheader)]) ?_
    rintro ⟨payloadLen, -, -, -, hfits⟩
    omega

lemma version_of_decoded {bytes : List UInt8} {frame : IicpFrame} {taken : ℕ}
    (h : decodeFrame bytes = .ok (frame, taken)) : bytes[4]? = some framingVersion := by
  obtain ⟨-, -, -, _, _, rfl⟩ := (decodeFrame_eq_ok_iff _ _ _).mp h
  rfl

lemma worker_readFrame_eq_some_iff (result : UInt8 × List UInt8) :
    Worker.readFrame bytes = some result ↔ readFrame bytes = .ok result := by
  unfold Worker.readFrame
  cases readFrame bytes <;> simp

/-- The relay speaks the native format on the strings that carry no frame or one of the current
version, and for payloads within the limit, and on no others. -/
theorem relay_frames_agree_iff (bytes : List UInt8) (msgType : UInt8) (payload : List UInt8) :
    (ReadsAlike bytes ↔ (CarriesFrame bytes → bytes[4]? = some framingVersion)) ∧
      (WritesAlike msgType payload ↔ payload.length ≤ maxFramePayload) := by
  constructor
  · constructor
    · intro halike hcarries
      obtain ⟨result, hread⟩ := (readFrame_ok_iff bytes).mpr hcarries
      obtain ⟨frame, taken, hdecode, -⟩ := (halike result).2.mp hread
      exact version_of_decoded hdecode
    · intro hversion result
      have hset : bytes[4]? = some framingVersion → bytes.set 4 framingVersion = bytes := by
        intro h
        obtain ⟨_, hget⟩ := List.getElem?_eq_some_iff.mp h
        rw [← hget, set_getElem_self]
      refine ⟨(worker_readFrame_eq_some_iff bytes result).symm, fun hread ↦ ?_, ?_⟩
      · have hfound := (readFrame_eq_ok_iff bytes result).mp hread
        rwa [hset (hversion ((readFrame_ok_iff bytes).mp ⟨result, hread⟩))] at hfound
      · rintro ⟨frame, taken, hdecode, hresult⟩
        refine (readFrame_eq_ok_iff bytes result).mpr ⟨frame, taken, ?_, hresult⟩
        rwa [hset (version_of_decoded hdecode)]
  · constructor
    · intro halike
      by_contra hlong
      have hwrites := halike.1
      rw [tryEncodeFrame, if_pos (not_le.mp hlong)] at hwrites
      cases hwrites
    · intro hfits
      have hwrites := tryEncodeFrame_of_le msgType 0 hfits
      exact ⟨hwrites, hwrites⟩

/-- A frame of another version is read. -/
theorem other_version_read :
    let bytes := [0x49, 0x49, 0x43, 0x50, 2, 9, 0, 0, 0, 0, 0, 0]
    readFrame bytes = .ok (9, []) ∧
      decodeFrame bytes = .err "Unsupported IICP framing version: 2; expected 1" := by
  decide +kernel

end Iicp.Relay
