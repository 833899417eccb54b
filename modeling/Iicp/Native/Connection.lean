import Iicp.Native.Frame

/-!
# One connection of the native server

`handleConnection` reads a socket into a buffer, cuts frames from it and hands them to the message
handlers, until the peer stops, a check fails or a handler closes. What the peer sends is a list of
segments, one for each successful read, and the read that follows the last one ends the connection
or fails. The handlers are arbitrary functions on a state; `dispatch` chooses among them by the
message type.

Reading one frame does not depend on how the bytes are cut into segments (`receiveFrame_joined`),
and `receiveFrame_whole` relates it to the decoder of a whole string. By induction over the loop the
same holds for a connection (`segmentation_invisible`).
-/

namespace Iicp.Native

open Rust Iicp.Stream List

/-! ### Reading -/

/-- The size of the array that one read fills. -/
def readRoom : ℕ := 4096

/-- What one successful read of the socket delivers. -/
abbrev Read := Segment UInt8 readRoom

/-- A step of the connection: it goes on with a value, or the connection returns. -/
abbrev Flow (α : Type) := Except (Outcome String Unit) α

namespace Flow

variable {α β : Type}

/-- A call whose failure ends the connection. -/
def attempt : Outcome String α → Flow α
  | .ok value => .ok value
  | .err error => .error (.err error)
  | .panicked => .error .panicked

/-- The connection returns without an error. -/
def closed : Flow α := .error (.ok ())

@[simp] lemma attempt_ok (value : α) : attempt (.ok value) = .ok value := rfl

@[simp] lemma ok_bind (value : α) (next : α → Flow β) :
    ((.ok value : Flow α) >>= next) = next value := rfl

@[simp] lemma error_bind (result : Outcome String Unit) (next : α → Flow β) :
    ((.error result : Flow α) >>= next) = .error result := rfl

end Flow

open Native.Flow

/-- Reads until the buffer holds the needed number of bytes. `ending` is what the connection
returns when the segments run out: success at the end of the stream, the error of a failed read
otherwise. -/
def readTo (ending : Outcome String Unit) (needed : ℕ) (buf : List UInt8) (reads : List Read) :
    Flow (List UInt8 × List Read) :=
  match fillTo needed buf reads with
  | some filled => .ok filled
  | none => .error ending

def checkMagic (buf : List UInt8) : Flow Unit := do
  let magic ← attempt (slice buf 0 4)
  if magic ≠ iicpMagic then closed else .ok ()

/-- The checks on a header in the buffer, and the length of the frame that it announces. -/
def announcedLength (buf : List UInt8) : Flow ℕ := do
  checkMagic buf
  let msgType ← attempt (index buf 5)
  if (stableTaskMessageTypeError msgType).isSome then closed
  else do
    let lengthBytes ← attempt (slice buf 8 12)
    let payloadLen ← attempt (fromBeBytes lengthBytes)
    if maxFramePayload < payloadLen then closed
    else attempt (addU64 frameHeaderLen payloadLen)

def takeFrame (buf : List UInt8) : Flow (IicpFrame × List UInt8) :=
  match decodeFrame buf with
  | .ok (frame, consumed) => do
    let rest ← attempt (drain buf consumed)
    .ok (frame, rest)
  | .err _ => closed
  | .panicked => .error .panicked

/-- Reads one frame: the header, then as many bytes as it announces, and only then decodes. -/
def receiveFrame (ending : Outcome String Unit) (buf : List UInt8) (reads : List Read) :
    Flow (IicpFrame × List UInt8 × List Read) := do
  let (buf, reads) ← readTo ending frameHeaderLen buf reads
  let totalLen ← announcedLength buf
  let (buf, reads) ← readTo ending totalLen buf reads
  let (frame, rest) ← takeFrame buf
  .ok (frame, rest, reads)

/-! ### Reading does not depend on the segments -/

variable (ending : Outcome String Unit) {buf data : List UInt8}

lemma readTo_whole (needed : ℕ) (data : List UInt8) :
    readTo ending needed data [] =
      if needed ≤ data.length then .ok (data, []) else .error ending := by
  unfold readTo fillTo
  by_cases h : needed ≤ data.length
  · rw [if_pos h, if_pos h]
  · rw [if_neg h, if_neg h]

lemma readTo_cases (needed : ℕ) (buf : List UInt8) (reads : List Read) :
    (readTo ending needed buf reads = .error ending ∧
      (buf ++ joined reads).length < needed) ∨
    ∃ filled left, readTo ending needed buf reads = .ok (filled, left) ∧
      needed ≤ filled.length ∧ buf <+: filled ∧
      filled ++ joined left = buf ++ joined reads := by
  unfold readTo
  cases h : fillTo needed buf reads with
  | none => exact .inl ⟨rfl, (fillTo_eq_none_iff _ _ _).mp h⟩
  | some result => exact .inr ⟨result.1, result.2, rfl, fillTo_eq_some h⟩

lemma announcedLength_append (h : frameHeaderLen ≤ buf.length) (rest : List UInt8) :
    announcedLength (buf ++ rest) = announcedLength buf := by
  have hlength : 12 ≤ buf.length := h
  simp only [announcedLength, checkMagic, index]
  rw [slice_append (by omega) (by omega), List.getElem?_append_left (by omega),
    slice_append (by omega) hlength]

/-- Assumes: a string at whose front there is a frame. The header announces its length, unless
its type is refused. -/
lemma announcedLength_of_decoded {frame : IicpFrame} {taken : ℕ}
    (h : decodeFrame data = .ok (frame, taken)) :
    announcedLength data =
      if (stableTaskMessageTypeError frame.msgType).isSome then closed else .ok taken := by
  obtain ⟨_, hlimit, rfl, reserved, _, rfl⟩ := (decodeFrame_eq_ok_iff _ _ _).mp h
  set payloadLen := frame.payload.length with hpayload
  have hheader := length_frameHeader frame.msgType frame.flags reserved payloadLen
  set header := frameHeader frame.msgType frame.flags reserved payloadLen
  rw [announcedLength_append hheader.ge]
  have hmagic : checkMagic header = .ok () := rfl
  have hmsgType : (index header 5 : Outcome String UInt8) = .ok frame.msgType := rfl
  have hbytes : (slice header 8 12 : Outcome String _) = .ok (toBeBytes (asU32 payloadLen)) := rfl
  rw [announcedLength, hmagic, ok_bind, hmsgType, attempt_ok, ok_bind]
  by_cases htype : (stableTaskMessageTypeError frame.msgType).isSome
  · rw [if_pos htype, if_pos htype]
  · rw [if_neg htype, if_neg htype, hbytes, attempt_ok, ok_bind, fromBeBytes_payload hlimit,
      attempt_ok, ok_bind, if_neg (not_lt.mpr hlimit), addU64_of_lt (frameLength_lt hlimit), attempt_ok]

/-- What is cut from the buffer, in terms of the parser: the decoder never panics, and it never
takes more than the buffer holds. -/
lemma takeFrame_eq (buf : List UInt8) :
    takeFrame buf =
      match parseFrame buf with
      | some (frame, taken) => .ok (frame, buf.drop taken)
      | none => closed := by
  have hreturns := (decodeFrame_returns buf).1
  unfold takeFrame
  cases hdecode : decodeFrame buf with
  | ok result =>
    have hparse : parseFrame buf = some result := (parseFrame_eq_some_iff _ _).mpr hdecode
    have hdrain : (drain buf result.2 : Outcome String _) = .ok (buf.drop result.2) :=
      if_pos (frames_self_delimiting.le_length hparse)
    rw [hparse]
    dsimp only
    rw [hdrain, attempt_ok, ok_bind]
  | err =>
    have hparse : parseFrame buf = none := by rw [parseFrame, hdecode]
    rw [hparse]
  | panicked => exact absurd hdecode hreturns

/-- What follows the buffer does not change the frame that is cut from it. -/
lemma takeFrame_append {totalLen : ℕ} (hheader : frameHeaderLen ≤ buf.length)
    (htotal : announcedLength buf = .ok totalLen) (hfull : totalLen ≤ buf.length)
    (rest : List UInt8) :
    takeFrame (buf ++ rest) = (takeFrame buf).map fun cut ↦ (cut.1, cut.2 ++ rest) := by
  have hagree : parseFrame (buf ++ rest) = parseFrame buf := by
    cases hwhole : parseFrame (buf ++ rest) with
    | none =>
      cases hbuf : parseFrame buf with
      | none => rfl
      | some =>
        rw [frames_self_delimiting.append hbuf] at hwhole
        nomatch hwhole
    | some =>
      have htaken := announcedLength_of_decoded ((parseFrame_eq_some_iff _ _).mp hwhole)
      rw [announcedLength_append hheader, htotal] at htaken
      split_ifs at htaken
      · nomatch htaken
      obtain rfl := Except.ok.inj htaken
      exact (frames_self_delimiting.of_take_eq hwhole (take_append_of_le_length hfull).symm).symm
  rw [takeFrame_eq, takeFrame_eq, hagree]
  cases hbuf : parseFrame buf with
  | none => rfl
  | some =>
    change Except.ok _ = Except.ok _
    rw [drop_append_of_le_length (frames_self_delimiting.le_length hbuf)]

/-- The frame and the bytes that are still unread, in the buffer or in segments to come. -/
def unread (received : IicpFrame × List UInt8 × List Read) : IicpFrame × List UInt8 :=
  (received.1, received.2.1 ++ joined received.2.2)

/-- Reading a frame gives the same frame and the same unread bytes as when the whole string is
already in the buffer. -/
lemma receiveFrame_joined (buf : List UInt8) (reads : List Read) :
    (receiveFrame ending buf reads).map unread =
      (receiveFrame ending (buf ++ joined reads) []).map unread := by
  unfold receiveFrame
  rcases readTo_cases ending frameHeaderLen buf reads with
    ⟨hread, hshort⟩ | ⟨filled, left, hread, hheader, _, hjoined⟩
  · rw [hread, readTo_whole, if_neg (not_le.mpr hshort), error_bind]
  have hwhole : frameHeaderLen ≤ (filled ++ joined left).length := by
    rw [length_append]
    omega
  rw [hread, ← hjoined, readTo_whole, if_pos hwhole, ok_bind, ok_bind]
  dsimp only
  rw [announcedLength_append hheader]
  cases htotal : announcedLength filled with
  | error => rfl
  | ok totalLen =>
    rw [ok_bind, ok_bind]
    rcases readTo_cases ending totalLen filled left with
      ⟨hread, hshort⟩ | ⟨cutFrom, later, hread, hfull, hextends, hrejoined⟩
    · rw [hread, readTo_whole, if_neg (not_le.mpr hshort), error_bind]
    have hcutHeader : frameHeaderLen ≤ cutFrom.length := hheader.trans hextends.length_le
    have hcutTotal : announcedLength cutFrom = .ok totalLen := by
      rw [← announcedLength_append hcutHeader (joined later), hrejoined,
        announcedLength_append hheader, htotal]
    have hcutWhole : totalLen ≤ (cutFrom ++ joined later).length := by
      rw [length_append]
      omega
    rw [hread, ← hrejoined, readTo_whole, if_pos hcutWhole, ok_bind, ok_bind]
    dsimp only
    rw [takeFrame_append hcutHeader hcutTotal hfull]
    cases takeFrame cutFrom with
    | error => rfl
    | ok => simp only [Except.map, ok_bind, unread, joined_nil, append_nil]

/-- Reading one frame when the whole string is in the buffer: it succeeds when the decoder finds a
frame of an accepted type, and the decoder's count is what is cut off. -/
lemma receiveFrame_whole (data : List UInt8) :
    match parseFrame data with
    | some (frame, taken) =>
      receiveFrame ending data [] =
        if (stableTaskMessageTypeError frame.msgType).isSome then closed
        else .ok (frame, data.drop taken, [])
    | none => ∃ result, receiveFrame ending data [] = .error result := by
  cases hparse : parseFrame data with
  | none =>
    dsimp only
    rw [receiveFrame, readTo_whole]
    by_cases hheader : frameHeaderLen ≤ data.length
    · rw [if_pos hheader, ok_bind]
      dsimp only
      cases announcedLength data with
      | error result => exact ⟨result, rfl⟩
      | ok totalLen =>
        rw [ok_bind, readTo_whole]
        by_cases hfull : totalLen ≤ data.length
        · rw [if_pos hfull, ok_bind]
          dsimp only
          rw [takeFrame_eq, hparse]
          exact ⟨_, rfl⟩
        · rw [if_neg hfull]
          exact ⟨_, rfl⟩
    · rw [if_neg hheader]
      exact ⟨_, rfl⟩
  | some result =>
    have hdecode := (parseFrame_eq_some_iff _ _).mp hparse
    have htaken := frames_self_delimiting.le_length hparse
    have hheader : frameHeaderLen ≤ data.length := by
      obtain ⟨_, _, htotal, _⟩ := (decodeFrame_eq_ok_iff _ _ _).mp hdecode
      omega
    dsimp only
    rw [receiveFrame, readTo_whole, if_pos hheader, ok_bind]
    dsimp only
    rw [announcedLength_of_decoded hdecode]
    by_cases htype : (stableTaskMessageTypeError result.1.msgType).isSome
    · rw [if_pos htype, if_pos htype]
      rfl
    · rw [if_neg htype, if_neg htype, ok_bind, readTo_whole, if_pos htaken, ok_bind]
      dsimp only
      rw [takeFrame_eq, hparse]
      rfl

/-- What reading one frame can do, in terms of the whole unread string. It fails with a result
that the string determines, and then the decoder finds no frame of an accepted type; or it gives
the frame that the decoder finds, and what the decoder did not take stays unread. -/
lemma receiveFrame_cases (buf : List UInt8) (reads : List Read) :
    (∃ result, receiveFrame ending buf reads = .error result ∧
      receiveFrame ending (buf ++ joined reads) [] = .error result ∧
      ∀ frame taken, parseFrame (buf ++ joined reads) = some (frame, taken) →
        (stableTaskMessageTypeError frame.msgType).isSome) ∨
    ∃ frame taken rest left, receiveFrame ending buf reads = .ok (frame, rest, left) ∧
      receiveFrame ending (buf ++ joined reads) [] =
        .ok (frame, (buf ++ joined reads).drop taken, []) ∧
      parseFrame (buf ++ joined reads) = some (frame, taken) ∧
      ¬ (stableTaskMessageTypeError frame.msgType).isSome ∧
      rest ++ joined left = (buf ++ joined reads).drop taken := by
  have hjoined := receiveFrame_joined ending buf reads
  have hwhole := receiveFrame_whole ending (buf ++ joined reads)
  generalize buf ++ joined reads = data at hjoined hwhole ⊢
  have hfail : ∀ result, receiveFrame ending data [] = .error result →
      receiveFrame ending buf reads = .error result := by
    intro result hresult
    rw [hresult] at hjoined
    cases hcut : receiveFrame ending buf reads with
    | error =>
      rw [hcut] at hjoined
      rw [Except.error.inj hjoined]
    | ok =>
      rw [hcut] at hjoined
      nomatch hjoined
  cases hparse : parseFrame data with
  | none =>
    rw [hparse] at hwhole
    obtain ⟨result, hresult⟩ := hwhole
    exact .inl ⟨result, hfail result hresult, hresult, nofun⟩
  | some found =>
    rw [hparse] at hwhole
    dsimp only at hwhole
    by_cases htype : (stableTaskMessageTypeError found.1.msgType).isSome
    · rw [if_pos htype] at hwhole
      refine .inl ⟨.ok (), hfail _ hwhole, hwhole, ?_⟩
      intro frame taken h
      obtain rfl := Option.some.inj h
      exact htype
    · rw [if_neg htype] at hwhole
      rw [hwhole] at hjoined
      cases hcut : receiveFrame ending buf reads with
      | error =>
        rw [hcut] at hjoined
        nomatch hjoined
      | ok received =>
        rw [hcut] at hjoined
        obtain ⟨hframe, hunread⟩ := Prod.mk.inj (Except.ok.inj hjoined)
        refine .inr ⟨found.1, found.2, received.2.1, received.2.2, ?_, hwhole, rfl, htype, ?_⟩
        · rw [← show received.1 = found.1 from hframe]
        · rw [hunread]
          exact append_nil _

lemma receiveFrame_lt {ending : Outcome String Unit} {rest : List UInt8} {reads left : List Read}
    {frame : IicpFrame} (h : receiveFrame ending buf reads = .ok (frame, rest, left)) :
    (rest ++ joined left).length < (buf ++ joined reads).length := by
  rcases receiveFrame_cases ending buf reads with
    ⟨result, herror, _⟩ | ⟨_, taken, _, _, hok, _, hparse, _, hunread⟩
  · rw [h] at herror
    nomatch herror
  · rw [h] at hok
    obtain ⟨rfl, hpair⟩ := Prod.mk.inj (Except.ok.inj hok)
    obtain ⟨rfl, rfl⟩ := Prod.mk.inj hpair
    have hpos := frames_self_delimiting.pos hparse
    have hle := frames_self_delimiting.le_length hparse
    rw [hunread, length_drop]
    omega

/-! ### The connection -/

/-- The message handlers of a server, on a state that they share: each is given a frame and says
whether the connection stays open. -/
structure Handlers (σ : Type) where
  (onInit onPing onDiscover onCall : σ → IicpFrame → σ × Outcome String Bool)

variable {σ : Type}

def dispatch (handlers : Handlers σ) (world : σ) (frame : IicpFrame) : σ × Outcome String Bool :=
  match MsgType.fromU8 frame.msgType with
  | some .init => handlers.onInit world frame
  | some .ping => handlers.onPing world frame
  | some .discover => handlers.onDiscover world frame
  | some .call => handlers.onCall world frame
  | some .close => (world, .ok false)
  | some .feedback => (world, .ok true)
  | _ => (world, .ok true)

/-- What a connection did: the state it left, the frames it handed over, and what it returned. -/
structure Session (σ : Type) where
  world : σ
  dispatched : List IicpFrame
  result : Outcome String Unit

/-- A session that handed over one frame more, at its start. -/
def Session.after (frame : IicpFrame) (session : Session σ) : Session σ :=
  { session with dispatched := frame :: session.dispatched }

/-- The handshake is violated by a first frame that is not INIT and by a later one that is. -/
def handshakeViolated (initialized : Bool) (frame : IicpFrame) : Bool :=
  (!initialized && frame.msgType != MsgType.init.toU8) ||
    (initialized && frame.msgType == MsgType.init.toU8)

/-- Hands one frame over, unless it violates the handshake, and goes on if the handler keeps the
connection open. -/
def handOver (handlers : Handlers σ) (world : σ) (initialized : Bool) (frame : IicpFrame)
    (next : σ → Session σ) : Session σ :=
  if handshakeViolated initialized frame then ⟨world, [], .ok ()⟩
  else
    match dispatch handlers world frame with
    | (after, .ok true) => (next after).after frame
    | (after, .ok false) => ⟨after, [frame], .ok ()⟩
    | (after, .err error) => ⟨after, [frame], .err error⟩
    | (after, .panicked) => ⟨after, [frame], .panicked⟩

def serveFrames (handlers : Handlers σ) (ending : Outcome String Unit) (world : σ)
    (initialized : Bool) (buf : List UInt8) (reads : List Read) : Session σ :=
  match _h : receiveFrame ending buf reads with
  | .error result => ⟨world, [], result⟩
  | .ok (frame, rest, left) =>
    handOver handlers world initialized frame fun after ↦
      serveFrames handlers ending after true rest left
termination_by (buf ++ joined reads).length
decreasing_by exact receiveFrame_lt _h

/-- Reads until the magic can be checked, and then the rest of the first header. -/
def awaitHeader (ending : Outcome String Unit) (reads : List Read) :
    Flow (List UInt8 × List Read) := do
  let (buf, reads) ← readTo ending 4 [] reads
  checkMagic buf
  readTo ending frameHeaderLen buf reads

def handleConnection (handlers : Handlers σ) (world : σ) (ending : Outcome String Unit)
    (reads : List Read) : Session σ :=
  match awaitHeader ending reads with
  | .error result => ⟨world, [], result⟩
  | .ok (buf, left) => serveFrames handlers ending world false buf left

section Run

variable (handlers : Handlers σ) (ending : Outcome String Unit) (world : σ) (initialized : Bool)
  (frame : IicpFrame) (rest : List IicpFrame)

lemma serveFrames_of_error {reads : List Read} {result : Outcome String Unit}
    (h : receiveFrame ending buf reads = .error result) :
    serveFrames handlers ending world initialized buf reads = ⟨world, [], result⟩ := by
  rw [serveFrames]
  split
  · rename_i other hother
    rw [h] at hother
    rw [Except.error.inj hother]
  · rename_i frame rest left hok
    rw [h] at hok
    nomatch hok

lemma serveFrames_of_ok {rest : List UInt8} {reads left : List Read} {frame : IicpFrame}
    (h : receiveFrame ending buf reads = .ok (frame, rest, left)) :
    serveFrames handlers ending world initialized buf reads =
      handOver handlers world initialized frame fun after ↦
        serveFrames handlers ending after true rest left := by
  rw [serveFrames]
  split
  · rename_i other herror
    rw [h] at herror
    nomatch herror
  · rename_i other otherRest otherLeft hok
    rw [h] at hok
    obtain ⟨rfl, hpair⟩ := Prod.mk.inj (Except.ok.inj hok)
    obtain ⟨rfl, rfl⟩ := Prod.mk.inj hpair
    rfl

/-- The loop does the same as when the whole string is already in the buffer. -/
lemma serveFrames_joined (buf : List UInt8) (reads : List Read) :
    serveFrames handlers ending world initialized buf reads =
      serveFrames handlers ending world initialized (buf ++ joined reads) [] := by
  induction hsize : (buf ++ joined reads).length using Nat.strong_induction_on
    generalizing world initialized buf reads with
  | _ size ih =>
    rcases receiveFrame_cases ending buf reads with
      ⟨result, hcut, hwhole, _⟩ | ⟨frame, taken, rest, left, hcut, hwhole, _, _, hunread⟩
    · rw [serveFrames_of_error handlers ending world initialized hcut,
        serveFrames_of_error handlers ending world initialized hwhole]
    · have hless := receiveFrame_lt hcut
      rw [serveFrames_of_ok handlers ending world initialized hcut,
        serveFrames_of_ok handlers ending world initialized hwhole]
      congr 1
      funext after
      rw [ih _ (by omega) after true rest left rfl, hunread]

/-- The connection on the whole string that the peer sends. -/
lemma handleConnection_joined (reads : List Read) :
    handleConnection handlers world ending reads =
      if (joined reads).length < 4 then ⟨world, [], ending⟩
      else
        match checkMagic (joined reads) with
        | .error result => ⟨world, [], result⟩
        | .ok () =>
          if (joined reads).length < frameHeaderLen then ⟨world, [], ending⟩
          else serveFrames handlers ending world false (joined reads) [] := by
  unfold handleConnection awaitHeader
  rcases readTo_cases ending 4 [] reads with
    ⟨hread, hshort⟩ | ⟨buf, left, hread, hfour, _, hjoined⟩
  · rw [hread, error_bind, if_pos (by simpa using hshort)]
  have hlong : 4 ≤ (buf ++ joined left).length := by
    rw [length_append]
    omega
  rw [nil_append] at hjoined
  have hmagic : checkMagic (joined reads) = checkMagic buf := by
    rw [← hjoined, checkMagic, checkMagic, slice_append (by omega) hfour]
  rw [hread, ok_bind, ← hjoined, if_neg (not_lt.mpr hlong), hjoined, hmagic]
  dsimp only
  cases checkMagic buf with
  | error => rfl
  | ok _ =>
    rw [ok_bind]
    rcases readTo_cases ending frameHeaderLen buf left with
      ⟨hread, hshort⟩ | ⟨filled, later, hread, hheader, _, hrejoined⟩
    · rw [hjoined] at hshort
      rw [hread]
      dsimp only
      rw [if_pos hshort]
    · have hwhole : ¬ (joined reads).length < frameHeaderLen := by
        rw [← hjoined, ← hrejoined, length_append]
        omega
      rw [hread]
      dsimp only
      rw [if_neg hwhole, serveFrames_joined, hrejoined, hjoined]

/-! ### Which frames are handed over -/

/-- The frames from the front of a list that the connection hands over. -/
def admittedFrames : σ → Bool → List IicpFrame → List IicpFrame
  | _, _, [] => []
  | world, initialized, frame :: rest =>
    if (stableTaskMessageTypeError frame.msgType).isSome || handshakeViolated initialized frame
    then []
    else
      frame :: match dispatch handlers world frame with
        | (after, .ok true) => admittedFrames after true rest
        | _ => []

lemma parseFrame_eq_none (h : data.length < frameHeaderLen) : parseFrame data = none := by
  rw [parseFrame, decodeFrame, if_pos h]

lemma checkMagic_of_parsed {frame : IicpFrame} {taken : ℕ}
    (h : parseFrame data = some (frame, taken)) : checkMagic data = .ok () := by
  obtain ⟨_, _, _, _, _, rfl⟩ :=
    (decodeFrame_eq_ok_iff _ _ _).mp ((parseFrame_eq_some_iff _ _).mp h)
  rw [checkMagic, slice_append (by omega) (by rw [length_frameHeader, frameHeaderLen]; omega)]
  rfl

lemma dispatched_handOver (next : σ → Session σ)
    (hnext : ∀ after, (next after).dispatched = admittedFrames handlers after true rest)
    (htype : ¬ (stableTaskMessageTypeError frame.msgType).isSome) :
    (handOver handlers world initialized frame next).dispatched =
      admittedFrames handlers world initialized (frame :: rest) := by
  unfold handOver admittedFrames
  rw [Bool.eq_false_iff.mpr htype, Bool.false_or]
  by_cases hshake : handshakeViolated initialized frame
  · rw [if_pos hshake, if_pos hshake]
  · rw [if_neg hshake, if_neg hshake]
    rcases dispatch handlers world frame with ⟨after, (_ | _) | _ | _⟩
    · rfl
    · exact congrArg (frame :: ·) (hnext after)
    · rfl
    · rfl

/-- The loop hands over the admitted frames among those that repeated decoding finds. -/
lemma dispatched_serveFrames (data : List UInt8) :
    (serveFrames handlers ending world initialized data []).dispatched =
      admittedFrames handlers world initialized (parseAll parseFrame data) := by
  induction hsize : data.length using Nat.strong_induction_on
    generalizing world initialized data with
  | _ size ih =>
    have hcases := receiveFrame_cases ending data []
    rw [joined_nil, append_nil] at hcases
    rcases hcases with ⟨result, herror, _, hnone⟩ | ⟨frame, taken, _, _, _, hok, hparse, htype, _⟩
    · rw [serveFrames_of_error handlers ending world initialized herror]
      cases hparse : parseFrame data with
      | none =>
        rw [parseAll_of_none hparse]
        rfl
      | some =>
        rw [parseAll_of_some frames_self_delimiting hparse, admittedFrames, hnone _ _ hparse,
          Bool.true_or, if_pos rfl]
    · have hpos := frames_self_delimiting.pos hparse
      have hle := frames_self_delimiting.le_length hparse
      rw [serveFrames_of_ok handlers ending world initialized hok,
        parseAll_of_some frames_self_delimiting hparse]
      apply dispatched_handOver handlers world initialized frame _ _ _ htype
      intro after
      exact ih _ (by rw [length_drop]; omega) after true _ rfl

/-- A connection hands over the admitted frames among those that repeated decoding finds in the
whole string. -/
lemma dispatched_handleConnection (reads : List Read) :
    (handleConnection handlers world ending reads).dispatched =
      admittedFrames handlers world false (parseAll parseFrame (joined reads)) := by
  rw [handleConnection_joined]
  generalize joined reads = data
  cases hparse : parseFrame data with
  | none =>
    have hserve := dispatched_serveFrames handlers ending world false data
    rw [parseAll_of_none hparse, admittedFrames] at hserve ⊢
    by_cases hfour : data.length < 4
    · rw [if_pos hfour]
    · rw [if_neg hfour]
      cases checkMagic data with
      | error => rfl
      | ok =>
        by_cases hlong : data.length < frameHeaderLen
        · simp only [if_pos hlong]
        · simpa only [if_neg hlong] using hserve
  | some =>
    have hlong : ¬ data.length < frameHeaderLen := by
      intro hshort
      rw [parseFrame_eq_none hshort] at hparse
      nomatch hparse
    have hfour : ¬ data.length < 4 := by
      rw [frameHeaderLen] at hlong
      omega
    rw [if_neg hfour, checkMagic_of_parsed hparse]
    dsimp only
    rw [if_neg hlong, dispatched_serveFrames]

/-- Whether the handlers of all these frames keep the connection open. -/
def keepsOpen : σ → List IicpFrame → Bool
  | _, [] => true
  | world, frame :: rest =>
    match dispatch handlers world frame with
    | (after, .ok true) => keepsOpen after rest
    | _ => false

/-- The frames that a connection may hand over: each has an accepted type, INIT is the first frame
of the connection and no other, and every handler before the last keeps the connection open. -/
def Admitted (world : σ) (initialized : Bool) (frames : List IicpFrame) : Prop :=
  ∀ before frame after, frames = before ++ frame :: after →
    stableTaskMessageTypeError frame.msgType = none ∧
      (frame.msgType = MsgType.init.toU8 ↔ before = [] ∧ initialized = false) ∧
      keepsOpen handlers world before = true

lemma handshakeViolated_iff :
    ¬ handshakeViolated initialized frame ↔
      (frame.msgType = MsgType.init.toU8 ↔ initialized = false) := by
  cases initialized <;> simp [handshakeViolated]

lemma keepsOpen_cons_iff :
    keepsOpen handlers world (frame :: rest) ↔
      ∃ after, dispatch handlers world frame = (after, .ok true) ∧
        keepsOpen handlers after rest := by
  rw [keepsOpen]
  rcases dispatch handlers world frame with ⟨after, (_ | _) | _ | _⟩ <;> simp

lemma admitted_nil : Admitted handlers world initialized [] := by
  intro before frame after h
  cases before <;> nomatch h

lemma admitted_cons_iff :
    Admitted handlers world initialized (frame :: rest) ↔
      stableTaskMessageTypeError frame.msgType = none ∧
        ¬ handshakeViolated initialized frame ∧
        (rest = [] ∨ ∃ after, dispatch handlers world frame = (after, .ok true) ∧
          Admitted handlers after true rest) := by
  rw [handshakeViolated_iff]
  constructor
  · intro h
    obtain ⟨htype, hinit, _⟩ := h [] frame rest rfl
    refine ⟨htype, by simpa using hinit, ?_⟩
    cases rest with
    | nil => exact .inl rfl
    | cons second later =>
      obtain ⟨_, _, hopen⟩ := h [frame] second later rfl
      obtain ⟨after, hafter, _⟩ := (keepsOpen_cons_iff handlers _ _ _).mp hopen
      refine .inr ⟨after, hafter, ?_⟩
      intro before other tail hsplit
      obtain ⟨htype, hinit, hopen⟩ := h (frame :: before) other tail (by rw [hsplit]; rfl)
      obtain ⟨_, hsame, hopen⟩ := (keepsOpen_cons_iff handlers _ _ _).mp hopen
      rw [hafter] at hsame
      obtain rfl := congrArg Prod.fst hsame
      exact ⟨htype, by simpa using hinit, hopen⟩
  · rintro ⟨htype, hinit, hrest⟩ before other tail hsplit
    cases before with
    | nil =>
      obtain ⟨rfl, _⟩ := cons.inj hsplit
      exact ⟨htype, by simpa using hinit, rfl⟩
    | cons head before =>
      obtain ⟨rfl, rfl⟩ := cons.inj hsplit
      rcases hrest with hnil | ⟨after, hafter, hadmitted⟩
      · exact absurd hnil (by simp)
      · obtain ⟨htype, hinit, hopen⟩ := hadmitted before other tail rfl
        refine ⟨htype, by simpa using hinit, ?_⟩
        exact (keepsOpen_cons_iff handlers _ _ _).mpr ⟨after, hafter, hopen⟩

lemma admittedFrames_start (frames : List IicpFrame) :
    admittedFrames handlers world initialized frames <+: frames := by
  induction frames generalizing world initialized with
  | nil => exact prefix_refl _
  | cons frame rest ih =>
    rw [admittedFrames]
    split_ifs
    · exact nil_prefix
    · apply (prefix_cons_inj _).mpr
      rcases dispatch handlers world frame with ⟨after, (_ | _) | _ | _⟩
      · exact nil_prefix
      · exact ih after true
      · exact nil_prefix
      · exact nil_prefix

/-- The admitted frames start with a frame, and go on, under the same conditions as the frames of an
admitted list. -/
lemma start_admittedFrames_cons_iff (later rest : List IicpFrame) :
    frame :: later <+: admittedFrames handlers world initialized (frame :: rest) ↔
      stableTaskMessageTypeError frame.msgType = none ∧
        ¬ handshakeViolated initialized frame ∧
        (later = [] ∨ ∃ after, dispatch handlers world frame = (after, .ok true) ∧
          later <+: admittedFrames handlers after true rest) := by
  rw [admittedFrames]
  by_cases hbad : ((stableTaskMessageTypeError frame.msgType).isSome ||
      handshakeViolated initialized frame)
  · rw [if_pos hbad]
    refine iff_of_false (by simp) ?_
    rintro ⟨htype, hshake, _⟩
    rw [htype] at hbad
    exact hshake hbad
  · rw [if_neg hbad, prefix_cons_inj]
    rw [Bool.or_eq_true, not_or, Option.not_isSome_iff_eq_none] at hbad
    rw [and_iff_right hbad.1, and_iff_right hbad.2]
    rcases dispatch handlers world frame with ⟨after, (_ | _) | _ | _⟩
    · simp
    · simp only [Prod.mk.injEq, and_true, exists_eq_left']
      exact ⟨.inr, fun h ↦ h.elim (fun hnil ↦ hnil ▸ nil_prefix) id⟩
    · simp
    · simp

/-- A start of a list is admitted exactly when it is a start of the admitted frames. -/
lemma admitted_iff_start {taken frames : List IicpFrame} (hstart : taken <+: frames) :
    Admitted handlers world initialized taken ↔
      taken <+: admittedFrames handlers world initialized frames := by
  induction frames generalizing world initialized taken with
  | nil =>
    rw [prefix_nil.mp hstart]
    exact iff_of_true (admitted_nil handlers world initialized) nil_prefix
  | cons frame rest ih =>
    rcases prefix_cons_iff.mp hstart with rfl | ⟨later, rfl, hlater⟩
    · exact iff_of_true (admitted_nil handlers world initialized) nil_prefix
    · rw [admitted_cons_iff, start_admittedFrames_cons_iff]
      simp only [ih _ _ hlater]

end Run

/-- How the bytes of a peer are cut into reads does not matter. Two connections to the same
handlers that are sent the same bytes and end in the same way leave the same state, hand over the
same frames and return the same; and those frames are the longest admitted start of the frames that
repeated decoding finds in the bytes. -/
theorem segmentation_invisible (handlers : Handlers σ) (world : σ) (ending : Outcome String Unit)
    (first second : List Read) (hbytes : joined first = joined second) :
    handleConnection handlers world ending first = handleConnection handlers world ending second ∧
      (handleConnection handlers world ending first).dispatched <+:
        parseAll parseFrame (joined first) ∧
      Admitted handlers world false (handleConnection handlers world ending first).dispatched ∧
      ∀ taken, taken <+: parseAll parseFrame (joined first) →
        Admitted handlers world false taken →
          taken <+: (handleConnection handlers world ending first).dispatched := by
  refine ⟨by rw [handleConnection_joined, handleConnection_joined, hbytes], ?_⟩
  rw [dispatched_handleConnection]
  have hstart := admittedFrames_start handlers world false (parseAll parseFrame (joined first))
  refine ⟨hstart, (admitted_iff_start handlers world false hstart).mpr (prefix_refl _), ?_⟩
  intro taken htaken
  exact (admitted_iff_start handlers world false htaken).mp

def idleHandlers : Handlers Unit :=
  ⟨fun world _ ↦ (world, .ok true), fun world _ ↦ (world, .ok true),
    fun world _ ↦ (world, .ok true), fun world _ ↦ (world, .ok true)⟩

/-- An INIT frame without payload in one read. -/
def initWhole : List Read := [⟨[0x49, 0x49, 0x43, 0x50, 1, 1, 0, 0, 0, 0, 0, 0], by decide, by decide⟩]

/-- The same frame in two reads, the first of which ends within the magic. -/
def initCut : List Read :=
  [⟨[0x49, 0x49, 0x43], by decide, by decide⟩,
    ⟨[0x50, 1, 1, 0, 0, 0, 0, 0, 0], by decide, by decide⟩]

theorem segmentation_invisible_for_init :
    handleConnection idleHandlers () (.ok ()) initCut =
        handleConnection idleHandlers () (.ok ()) initWhole ∧
      [⟨framingVersion, 1, 0, []⟩] <+:
        (handleConnection idleHandlers () (.ok ()) initCut).dispatched := by
  obtain ⟨hsame, _, _, hlongest⟩ :=
    segmentation_invisible idleHandlers () (.ok ()) initCut initWhole (by decide)
  refine ⟨hsame, hlongest _ ?_ ?_⟩
  · have hparse : parseFrame (joined initCut) = some (⟨framingVersion, 1, 0, []⟩, 12) := by decide
    rw [parseAll_of_some frames_self_delimiting hparse]
    exact (prefix_cons_inj _).mpr nil_prefix
  · exact (admitted_cons_iff _ _ _ _ _).mpr ⟨by decide, by decide, .inl rfl⟩

end Iicp.Native
