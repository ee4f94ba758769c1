import YoAuthorize.Lib.Transfer
import YoAuthorize.Sdk.Client

/-!
# The socket and its frame readers

`UnixSocketTransport::readExact` and `writeAll` (`unix_socket.cpp`) and the two
functions that read frames over them, the service's and the SDK's.

A socket holds what is still to be received on it, up to where the peer closes
it, and what was sent.  Its events are what the iterations of the loops meet:
`waitFor` followed by a `recv` or `send` that moves at most so many bytes, one
that is interrupted (`EINTR`, `EAGAIN` or `EWOULDBLOCK`), or a `waitFor` or call
that fails.  A descriptor that cannot be duplicated is a first wait that is
canceled.
-/

namespace YoAuthorize.Transport

open Octets Protocol Sdk

inductive StatusCode : Type
  | ok
  | timeout
  | endOfFile
  | canceled
  | invalidArgument
  | systemError
  deriving DecidableEq, Repr

structure Status : Type where
  code : StatusCode := .ok
  systemError : Int := 0
  deriving DecidableEq, Repr

/-- Why a wait or a call failed. -/
inductive Failure : Type
  | timeout
  | canceled
  | systemError (error : Int)
  deriving DecidableEq, Repr

def Failure.status : Failure → Status
  | .timeout => { code := .timeout }
  | .canceled => { code := .canceled }
  | .systemError error => { code := .systemError, systemError := error }

abbrev SocketEvent : Type := Transfer.Event Failure

structure UnixSocket : Type where
  unread : Bytes
  sent : Bytes := []
  receives : List SocketEvent
  sends : List SocketEvent := []

namespace UnixSocket

/-- The loop of `readExact`; its buffer is full when the loop ends. -/
def receive (socket : UnixSocket) (size : Nat) : Transfer.Progress UInt8 Failure :=
  Transfer.run .timeout size [] socket.unread socket.receives

def readExact (socket : UnixSocket) (size : Nat) :
    UnixSocket × Except Status (FixedBytes size) :=
  let progress := socket.receive size
  let socket' := { socket with unread := progress.source, receives := progress.events }
  match outcome : progress.outcome with
  | .complete => (socket', .ok ⟨progress.target, Transfer.run_complete (Nat.zero_le size) outcome⟩)
  | .ended => (socket', .error { code := .endOfFile })
  | .failed failure => (socket', .error failure.status)

/-- The loop of `writeAll`, which moves the data to what was sent. -/
def transmit (socket : UnixSocket) (data : Bytes) : Transfer.Progress UInt8 Failure :=
  Transfer.run .timeout data.length [] data socket.sends

def writeAll (socket : UnixSocket) (data : Bytes) : UnixSocket × Status :=
  let progress := socket.transmit data
  let socket' :=
    { socket with sent := socket.sent ++ progress.target, sends := progress.events }
  match progress.outcome with
  | .complete => (socket', {})
  | .ended => (socket', { code := .endOfFile })
  | .failed failure => (socket', failure.status)

/-- The socket as a client or the service uses it. -/
def transport (connect : UnixSocket → UnixSocket × Bool) (close : UnixSocket → UnixSocket) :
    Sdk.Transport UnixSocket where
  connect := connect
  writeAll data socket :=
    let written := socket.writeAll data
    (written.1, written.2.code = .ok)
  readExact size socket :=
    let read := socket.readExact size
    (read.1, read.2.toOption)
  close := close

/-! ## Reading a number of bytes -/

/-- The socket can go on receiving: nothing fails and enough events move bytes. -/
structure Receives (socket : UnixSocket) (size : Nat) : Prop where
  proceeds : ∀ event ∈ socket.receives, event.Proceeds
  enough : size ≤ Transfer.moving socket.receives

theorem readExact_eq_ok {socket next : UnixSocket} {size : Nat} {bytes : FixedBytes size}
    (read : socket.readExact size = (next, .ok bytes)) :
    socket.unread = bytes.val ++ next.unread := by
  have conserved : (socket.receive size).target ++ (socket.receive size).source =
      socket.unread := Transfer.run_conserves
  unfold readExact at read
  dsimp only at read
  split at read
  · cases read
    exact conserved.symm
  · cases read
  · cases read

/-- A read of what there is succeeds, however it is cut into parts. -/
theorem readExact_of_receives {socket : UnixSocket} {size more : Nat}
    (long : size ≤ socket.unread.length) (receives : socket.Receives (size + more)) :
    ∃ next bytes, socket.readExact size = (next, .ok bytes) ∧
      bytes.val = socket.unread.take size ∧ next.unread = socket.unread.drop size ∧
      next.Receives more := by
  obtain ⟨complete, suffix, left⟩ := @Transfer.complete_of_enough UInt8 Failure .timeout size []
    socket.unread socket.receives (Nat.zero_le _) (by simpa using long) receives.proceeds
    (by have enough := receives.enough; simp; omega)
  have read : ∃ next bytes, socket.readExact size = (next, .ok bytes) ∧
      next.receives = (socket.receive size).events := by
    unfold readExact
    dsimp only
    split
    · exact ⟨_, _, rfl, rfl⟩
    · rename_i other
      cases other.symm.trans complete
    · rename_i other
      cases other.symm.trans complete
  obtain ⟨next, bytes, read, events⟩ := read
  have split := readExact_eq_ok read
  refine ⟨next, bytes, read, ?_, ?_, ?_, ?_⟩
  · rw [split, List.take_left' bytes.2]
  · rw [split, List.drop_left' bytes.2]
  · intro event mem
    rw [events] at mem
    exact receives.proceeds event (suffix.subset mem)
  · have enough := receives.enough
    rw [events]
    simp only [List.length_nil, Nat.sub_zero] at left
    change Transfer.moving socket.receives ≤
      Transfer.moving (socket.receive size).events + size at left
    omega

/-- `writeAll` sends its data and nothing else, in whatever parts. -/
theorem writeAll_of_sends {socket : UnixSocket} {data : Bytes}
    (proceeds : ∀ event ∈ socket.sends, event.Proceeds)
    (enough : data.length ≤ Transfer.moving socket.sends) :
    (socket.writeAll data).2 = {} ∧ (socket.writeAll data).1.sent = socket.sent ++ data := by
  obtain ⟨complete, -⟩ := @Transfer.complete_of_enough UInt8 Failure .timeout data.length []
    data socket.sends (Nat.zero_le _) (by simp) proceeds (by simpa using enough)
  have whole : (socket.transmit data).target = data := by
    have length := Transfer.run_complete (Nat.zero_le data.length) complete
    have conserved : (socket.transmit data).target ++ (socket.transmit data).source = data :=
      Transfer.run_conserves
    have same := List.append_inj
      (conserved.trans (List.append_nil data).symm) length
    exact same.1
  have outcome : (socket.transmit data).outcome = .complete := complete
  unfold writeAll
  simp only [outcome, whole, and_self]

/-- Whatever happens, what `writeAll` sends is the front of its data. -/
theorem writeAll_sent (socket : UnixSocket) (data : Bytes) :
    ∃ front rest, data = front ++ rest ∧
      (socket.writeAll data).1.sent = socket.sent ++ front ∧
      ((socket.writeAll data).2 = {} → rest = []) := by
  have conserved : (socket.transmit data).target ++ (socket.transmit data).source = data :=
    Transfer.run_conserves
  refine ⟨(socket.transmit data).target, (socket.transmit data).source, conserved.symm, ?_, ?_⟩
  · unfold writeAll
    dsimp only
    split <;> rfl
  · intro written
    unfold writeAll at written
    dsimp only at written
    split at written
    · rename_i complete
      have length := Transfer.run_complete (Nat.zero_le data.length) complete
      have whole := congrArg List.length conserved
      rw [List.length_append] at whole
      apply List.length_eq_zero_iff.mp
      change (socket.transmit data).target.length = data.length at length
      omega
    · cases written
    · rename_i failure _
      cases failure <;> cases written

end UnixSocket

/-! ## Frames -/

section

variable {World ε : Type}

/-- What the two `readFrame`s have in common: the header, its checks, the vector for
the frame and the payload.  The sizes of the vectors are kept. -/
def readFrameWith (unreadHeader malformed unreadPayload : ε) (transport : Sdk.Transport World)
    (world : World) : World × List Nat × Except ε Bytes :=
  match transport.readExact kFrameHeaderSize world with
  | (world, none) => (world, [], .error unreadHeader)
  | (world, some headerBytes) =>
      match decodeHeader headerBytes.val with
      | .error _ => (world, [], .error malformed)
      | .ok header =>
          let vectors := [kFrameHeaderSize + header.payloadSize.toNat]
          match transport.readExact header.payloadSize.toNat world with
          | (world, none) => (world, vectors, .error unreadPayload)
          | (world, some payload) => (world, vectors, .ok (headerBytes.val ++ payload.val))

/-- `ServiceError::Transport`, the only error of the service's `readFrame`. -/
inductive ServeError : Type
  | transport
  deriving DecidableEq, Repr

/-- `readFrame` of `service.cpp`. -/
def serviceReadFrame (transport : Sdk.Transport World) (world : World) :
    World × List Nat × Except ServeError Bytes :=
  readFrameWith .transport .transport .transport transport world

/-- `readFrame` of `client.cpp`. -/
def sdkReadFrame (transport : Sdk.Transport World) (world : World) :
    World × List Nat × Except Sdk.Status Bytes :=
  readFrameWith { error := .transport, message := "failed to read service frame" }
    { error := .protocol, message := "service sent an invalid frame" }
    { error := .transport, message := "failed to read service payload" } transport world

/-- The client's own function, but for the vectors. -/
theorem readFrame_eq_sdkReadFrame (transport : Sdk.Transport World) (world : World) :
    Sdk.readFrame transport world =
      ((sdkReadFrame transport world).1, (sdkReadFrame transport world).2.2) := by
  unfold Sdk.readFrame sdkReadFrame readFrameWith
  rcases transport.readExact kFrameHeaderSize world with ⟨middle, _ | headerBytes⟩
  · rfl
  dsimp only
  cases decodeHeader headerBytes.val with
  | error error => rfl
  | ok header =>
      dsimp only
      rcases transport.readExact header.payloadSize.toNat middle with ⟨last, _ | payload⟩
      · rfl
      · rfl

/-- A number of calls, one after the other. -/
def readFrames (read : World → World × List Nat × Except ε Bytes) :
    Nat → World → World × List (Except ε Bytes)
  | 0, world => (world, [])
  | count + 1, world =>
      let first := read world
      let rest := readFrames read count first.1
      (rest.1, first.2.2 :: rest.2)

end

section

variable {ε : Type} {unreadHeader malformed unreadPayload : ε}
  {connect : UnixSocket → UnixSocket × Bool} {close : UnixSocket → UnixSocket}
  {socket next : UnixSocket}

theorem transport_readExact {size : Nat} {bytes : FixedBytes size}
    (read : socket.readExact size = (next, .ok bytes)) :
    (UnixSocket.transport connect close).readExact size socket = (next, some bytes) := by
  unfold UnixSocket.transport
  simp only [read]
  rfl

theorem transport_readExact_error {size : Nat} {status : Status}
    (read : socket.readExact size = (next, .error status)) :
    (UnixSocket.transport connect close).readExact size socket = (next, none) := by
  unfold UnixSocket.transport
  simp only [read]
  rfl

/-- A frame that was read is a whole frame and the front of the stream, however the
read was scheduled. -/
theorem readFrameWith_eq_ok {vectors : List Nat} {bytes : Bytes}
    (read : readFrameWith unreadHeader malformed unreadPayload
      (UnixSocket.transport connect close) socket = (next, vectors, .ok bytes)) :
    socket.unread = bytes ++ next.unread ∧ ∃ frame, decodeFrame bytes = .ok frame := by
  unfold readFrameWith at read
  rcases header : socket.readExact kFrameHeaderSize with ⟨middle, status | headerBytes⟩
  · rw [transport_readExact_error header] at read
    cases read
  rw [transport_readExact header] at read
  dsimp only at read
  split at read
  · cases read
  rename_i decodedHeader decoded
  rcases body : middle.readExact decodedHeader.payloadSize.toNat with ⟨last, status | payload⟩
  · rw [transport_readExact_error body] at read
    cases read
  rw [transport_readExact body] at read
  cases read
  constructor
  · rw [UnixSocket.readExact_eq_ok header, UnixSocket.readExact_eq_ok body, List.append_assoc]
  · obtain ⟨long, magic, rfl, accepted⟩ := decodeHeader_eq_ok_iff.mp decoded
    have encoded : (encodeHeader (readHeader headerBytes.val)).val = headerBytes.val := by
      rw [encodeHeader_readHeader long magic]
      exact List.take_of_length_le (Nat.le_of_eq headerBytes.2)
    refine ⟨(readHeader headerBytes.val, payload.val),
      decodeFrame_eq_ok_encodeFrame.mpr ⟨?_, accepted, payload.2⟩⟩
    rw [encodeFrame, encoded]

theorem decodeHeader_take {frame : FrameHeader × Bytes} {rest : Bytes}
    (wellFormed : WellFormedFrame frame kDefaultMaxPayloadSize) :
    decodeHeader ((encodeFrame frame ++ rest).take kFrameHeaderSize) = .ok frame.1 := by
  have front : (encodeFrame frame ++ rest).take kFrameHeaderSize = (encodeHeader frame.1).val := by
    rw [encodeFrame, List.append_assoc]
    exact List.take_left' (encodeHeader frame.1).2
  have read := readHeader_encodeHeader frame.1 []
  rw [List.append_nil] at read
  rw [front]
  exact decodeHeader_eq_ok_iff.mpr
    ⟨Nat.le_of_eq (encodeHeader frame.1).2.symm, rfl, read.symm, wellFormed.accepted⟩

theorem length_encodeFrame {frame : FrameHeader × Bytes}
    (wellFormed : WellFormedFrame frame kDefaultMaxPayloadSize) :
    (encodeFrame frame).length = kFrameHeaderSize + frame.1.payloadSize.toNat := by
  rw [encodeFrame, List.length_append, (encodeHeader frame.1).2, wellFormed.announced]

/-- A frame at the front of the stream is read, and only it. -/
theorem readFrameWith_frame {frame : FrameHeader × Bytes} {rest : Bytes} {more : Nat}
    (wellFormed : WellFormedFrame frame kDefaultMaxPayloadSize)
    (stream : socket.unread = encodeFrame frame ++ rest)
    (receives : socket.Receives ((encodeFrame frame).length + more)) :
    ∃ next, readFrameWith unreadHeader malformed unreadPayload
        (UnixSocket.transport connect close) socket =
          (next, [(encodeFrame frame).length], .ok (encodeFrame frame)) ∧
      next.unread = rest ∧ next.Receives more := by
  have length := length_encodeFrame wellFormed
  rw [length, Nat.add_assoc] at receives
  have longHeader : kFrameHeaderSize ≤ socket.unread.length := by
    rw [stream, List.length_append, length]
    omega
  obtain ⟨middle, headerBytes, readHeader, front, unread, receives⟩ :=
    UnixSocket.readExact_of_receives longHeader receives
  have longPayload : frame.1.payloadSize.toNat ≤ middle.unread.length := by
    rw [unread, stream, List.length_drop, List.length_append, length]
    omega
  obtain ⟨last, payload, readPayload, body, left, receives⟩ :=
    UnixSocket.readExact_of_receives longPayload receives
  have decoded : decodeHeader headerBytes.val = .ok frame.1 := by
    rw [front, stream]
    exact decodeHeader_take wellFormed
  have ends : frame.1.payloadSize.toNat = frame.2.length := wellFormed.announced.symm
  have tail : middle.unread = frame.2 ++ rest := by
    rw [unread, stream, encodeFrame, List.append_assoc]
    exact List.drop_left' (encodeHeader frame.1).2
  refine ⟨last, ?_, ?_, receives⟩
  · unfold readFrameWith
    rw [transport_readExact readHeader]
    dsimp only
    rw [decoded]
    dsimp only
    rw [transport_readExact readPayload]
    dsimp only
    have whole : headerBytes.val ++ payload.val = encodeFrame frame := by
      rw [front, body, tail, ends, List.take_left, stream, encodeFrame, List.append_assoc,
        List.take_left' (encodeHeader frame.1).2]
    rw [whole, length]
  · rw [left, tail, ends, List.drop_left]

/-- At a malformed header the reader stops, after the header. -/
theorem readFrameWith_malformed {error : FrameError}
    (long : kFrameHeaderSize ≤ socket.unread.length)
    (refused : decodeHeader (socket.unread.take kFrameHeaderSize) = .error error)
    (receives : socket.Receives kFrameHeaderSize) :
    ∃ next, readFrameWith unreadHeader malformed unreadPayload
        (UnixSocket.transport connect close) socket = (next, [], .error malformed) ∧
      next.unread = socket.unread.drop kFrameHeaderSize := by
  obtain ⟨next, headerBytes, read, front, unread, -⟩ :=
    @UnixSocket.readExact_of_receives socket kFrameHeaderSize 0 long receives
  refine ⟨next, ?_, unread⟩
  unfold readFrameWith
  rw [transport_readExact read]
  dsimp only
  rw [front, refused]

/-- No frame is the front of another. -/
theorem encodeFrame_append_inj {left right : FrameHeader × Bytes} {leftRest rightRest : Bytes}
    (leftWellFormed : WellFormedFrame left kDefaultMaxPayloadSize)
    (rightWellFormed : WellFormedFrame right kDefaultMaxPayloadSize)
    (same : encodeFrame left ++ leftRest = encodeFrame right ++ rightRest) :
    left = right ∧ leftRest = rightRest := by
  have leftHeader := @decodeHeader_take left leftRest leftWellFormed
  have rightHeader := @decodeHeader_take right rightRest rightWellFormed
  rw [same, rightHeader] at leftHeader
  have sizes : (encodeFrame left).length = (encodeFrame right).length := by
    rw [length_encodeFrame leftWellFormed, length_encodeFrame rightWellFormed,
      Except.ok.inj leftHeader]
  obtain ⟨frames, rests⟩ := List.append_inj same sizes
  exact ⟨encodeFrame_injective frames, rests⟩

/-- A read that succeeds in front of a frame returns it. -/
theorem readFrameWith_sound {frame : FrameHeader × Bytes} {rest bytes : Bytes}
    {vectors : List Nat} (wellFormed : WellFormedFrame frame kDefaultMaxPayloadSize)
    (stream : socket.unread = encodeFrame frame ++ rest)
    (read : readFrameWith unreadHeader malformed unreadPayload
      (UnixSocket.transport connect close) socket = (next, vectors, .ok bytes)) :
    bytes = encodeFrame frame ∧ next.unread = rest := by
  obtain ⟨split, other, decoded⟩ := readFrameWith_eq_ok read
  obtain ⟨rfl, otherWellFormed⟩ := decodeFrame_eq_ok_encodeFrame.mp decoded
  obtain ⟨rfl, left⟩ :=
    encodeFrame_append_inj otherWellFormed wellFormed (split.symm.trans stream)
  exact ⟨rfl, left⟩

/-- A stream that ends inside a frame gives an error, however it is scheduled. -/
theorem readFrameWith_truncated {frame : FrameHeader × Bytes}
    (wellFormed : WellFormedFrame frame kDefaultMaxPayloadSize)
    (cut : socket.unread <+: encodeFrame frame) (missing : socket.unread ≠ encodeFrame frame) :
    ∃ next vectors error, readFrameWith unreadHeader malformed unreadPayload
        (UnixSocket.transport connect close) socket = (next, vectors, .error error) := by
  rcases read : readFrameWith unreadHeader malformed unreadPayload
    (UnixSocket.transport connect close) socket with ⟨next, vectors, error | bytes⟩
  · exact ⟨next, vectors, error, rfl⟩
  · obtain ⟨split, other, decoded⟩ := readFrameWith_eq_ok read
    obtain ⟨rfl, otherWellFormed⟩ := decodeFrame_eq_ok_encodeFrame.mp decoded
    obtain ⟨lost, whole⟩ := cut
    rw [split, List.append_assoc] at whole
    obtain ⟨rfl, nothing⟩ := encodeFrame_append_inj otherWellFormed wellFormed
      (whole.trans (List.append_nil _).symm)
    obtain ⟨nothing, -⟩ := List.append_eq_nil_iff.mp nothing
    rw [split, nothing, List.append_nil] at missing
    exact absurd rfl missing

/-! ## A stream of frames -/

theorem readFrames_stream {frames : List (FrameHeader × Bytes)} {rest : Bytes} {more : Nat}
    (wellFormed : ∀ frame ∈ frames, WellFormedFrame frame kDefaultMaxPayloadSize)
    (stream : socket.unread = frames.flatMap encodeFrame ++ rest)
    (receives : socket.Receives ((frames.flatMap encodeFrame).length + more)) :
    ∃ next, readFrames (readFrameWith unreadHeader malformed unreadPayload
        (UnixSocket.transport connect close)) frames.length socket =
          (next, frames.map fun frame => .ok (encodeFrame frame)) ∧
      next.unread = rest ∧ next.Receives more := by
  induction frames generalizing socket with
  | nil =>
      rw [List.flatMap_nil, List.length_nil, Nat.zero_add] at receives
      exact ⟨socket, rfl, stream, receives⟩
  | cons frame frames ih =>
      rw [List.flatMap_cons, List.append_assoc] at stream
      rw [List.flatMap_cons, List.length_append, Nat.add_assoc] at receives
      obtain ⟨middle, read, left, receives⟩ := readFrameWith_frame
        (wellFormed frame List.mem_cons_self) stream receives
      obtain ⟨last, reads, left, receives⟩ :=
        ih (fun frame mem => wellFormed frame (List.mem_cons_of_mem _ mem)) left receives
      refine ⟨last, ?_, left, receives⟩
      rw [List.length_cons, readFrames, read]
      dsimp only
      rw [reads, List.map_cons]

theorem readFrames_sound {frames : List (FrameHeader × Bytes)} {rest : Bytes}
    {results : List (Except ε Bytes)}
    (wellFormed : ∀ frame ∈ frames, WellFormedFrame frame kDefaultMaxPayloadSize)
    (stream : socket.unread = frames.flatMap encodeFrame ++ rest)
    (reads : readFrames (readFrameWith unreadHeader malformed unreadPayload
        (UnixSocket.transport connect close)) frames.length socket = (next, results))
    (succeed : ∀ result ∈ results, ∃ bytes, result = .ok bytes) :
    results = (frames.map fun frame => .ok (encodeFrame frame)) ∧ next.unread = rest := by
  induction frames generalizing socket next results with
  | nil =>
      cases reads
      exact ⟨rfl, stream⟩
  | cons frame frames ih =>
      rw [List.flatMap_cons, List.append_assoc] at stream
      rw [List.length_cons, readFrames] at reads
      cases reads
      obtain ⟨bytes, first⟩ := succeed _ List.mem_cons_self
      obtain ⟨same, left⟩ := readFrameWith_sound (wellFormed frame List.mem_cons_self) stream
        (Prod.ext rfl (Prod.ext rfl first))
      obtain ⟨rest, left⟩ := ih (fun frame mem => wellFormed frame (List.mem_cons_of_mem _ mem))
        left rfl fun result mem => succeed result (List.mem_cons_of_mem _ mem)
      refine ⟨?_, left⟩
      rw [first, same, rest, List.map_cons]

end

inductive FrameReader : Type
  | service
  | sdk

def FrameReader.Error : FrameReader → Type
  | .service => ServeError
  | .sdk => Sdk.Status

def FrameReader.read {World : Type} :
    (reader : FrameReader) → Sdk.Transport World → World →
      World × List Nat × Except reader.Error Bytes
  | .service => serviceReadFrame
  | .sdk => sdkReadFrame

theorem FrameReader.exists_readFrameWith (reader : FrameReader) :
    ∃ unreadHeader malformed unreadPayload : reader.Error,
      ∀ {World : Type} (transport : Sdk.Transport World),
        reader.read transport = readFrameWith unreadHeader malformed unreadPayload transport := by
  cases reader with
  | service => exact ⟨_, _, _, fun _ => rfl⟩
  | sdk => exact ⟨_, _, _, fun _ => rfl⟩

/-- Reading and writing over a socket do not depend on how the bytes are cut into
parts.  An event that moves bytes moves at least one, so as many of them as there
are bytes are enough for any sizes; those that are not needed are left. -/
theorem streamReassembly (connect : UnixSocket → UnixSocket × Bool)
    (close : UnixSocket → UnixSocket) (socket : UnixSocket) :
    (∀ (reader : FrameReader) (frames : List (FrameHeader × Bytes)) (rest : Bytes),
      (∀ frame ∈ frames, WellFormedFrame frame kDefaultMaxPayloadSize) →
      socket.unread = frames.flatMap encodeFrame ++ rest →
      (∀ next results,
        readFrames (reader.read (UnixSocket.transport connect close)) frames.length socket =
          (next, results) →
        (∀ result ∈ results, ∃ bytes, result = .ok bytes) →
        results = (frames.map fun frame => .ok (encodeFrame frame)) ∧ next.unread = rest) ∧
      (socket.Receives (frames.flatMap encodeFrame).length →
        ∃ next,
          readFrames (reader.read (UnixSocket.transport connect close)) frames.length socket =
            (next, frames.map fun frame => .ok (encodeFrame frame)) ∧ next.unread = rest)) ∧
    (∀ data : Bytes,
      (∃ front rest, data = front ++ rest ∧
        (socket.writeAll data).1.sent = socket.sent ++ front ∧
        ((socket.writeAll data).2 = {} → rest = [])) ∧
      ((∀ event ∈ socket.sends, event.Proceeds) →
        data.length ≤ Transfer.moving socket.sends →
        (socket.writeAll data).2 = {} ∧
          (socket.writeAll data).1.sent = socket.sent ++ data)) ∧
    (∀ (reader : FrameReader) (error : FrameError),
      kFrameHeaderSize ≤ socket.unread.length →
      decodeHeader (socket.unread.take kFrameHeaderSize) = .error error →
      socket.Receives kFrameHeaderSize →
      ∃ next failure,
        reader.read (UnixSocket.transport connect close) socket = (next, [], .error failure) ∧
          next.unread = socket.unread.drop kFrameHeaderSize) ∧
    ∀ (reader : FrameReader) (frame : FrameHeader × Bytes),
      WellFormedFrame frame kDefaultMaxPayloadSize →
      socket.unread <+: encodeFrame frame → socket.unread ≠ encodeFrame frame →
      ∃ next vectors failure,
        reader.read (UnixSocket.transport connect close) socket =
          (next, vectors, .error failure) := by
  refine ⟨?_, ?_, ?_, ?_⟩
  · intro reader frames rest wellFormed stream
    obtain ⟨unreadHeader, malformed, unreadPayload, reads⟩ := reader.exists_readFrameWith
    rw [reads]
    constructor
    · intro next results read succeed
      exact readFrames_sound wellFormed stream read succeed
    · intro receives
      obtain ⟨next, read, left, -⟩ := @readFrames_stream _ unreadHeader malformed unreadPayload
        connect close socket frames rest 0 wellFormed stream receives
      exact ⟨next, read, left⟩
  · intro data
    exact ⟨socket.writeAll_sent data, UnixSocket.writeAll_of_sends⟩
  · intro reader error long refused receives
    obtain ⟨unreadHeader, malformed, unreadPayload, reads⟩ := reader.exists_readFrameWith
    rw [reads]
    obtain ⟨next, read, left⟩ := readFrameWith_malformed long refused receives
    exact ⟨next, malformed, read, left⟩
  · intro reader frame wellFormed cut missing
    obtain ⟨unreadHeader, malformed, unreadPayload, reads⟩ := reader.exists_readFrameWith
    rw [reads]
    exact readFrameWith_truncated wellFormed cut missing

/-- Two frames of three bytes and of one. -/
def referenceFrames : List (FrameHeader × Bytes) :=
  [({ payloadSize := 3 }, [1, 2, 3]), ({ sequence := 1, payloadSize := 1 }, [4])]

/-- The frames arrive in parts of at most seven bytes, after an interrupted call. -/
def referenceSocket : UnixSocket where
  unread := referenceFrames.flatMap encodeFrame
  receives := .again :: List.replicate 44 (.moves 7)

theorem streamReassembly_two :
    ∃ next,
      readFrames
          (FrameReader.service.read (UnixSocket.transport (fun socket => (socket, true)) id)) 2
          referenceSocket =
        (next, referenceFrames.map fun frame => .ok (encodeFrame frame)) ∧ next.unread = [] := by
  have wellFormed : ∀ frame ∈ referenceFrames, WellFormedFrame frame kDefaultMaxPayloadSize := by
    intro frame mem
    rcases List.mem_cons.mp mem with rfl | mem
    · exact (wellFormedFrame_iff _ _ _).mpr (by decide)
    · rcases List.mem_singleton.mp mem with rfl
      exact (wellFormedFrame_iff _ _ _).mpr (by decide)
  have receives : referenceSocket.Receives (referenceFrames.flatMap encodeFrame).length := by
    refine ⟨?_, by decide⟩
    intro event mem
    rcases List.mem_cons.mp mem with rfl | mem
    · trivial
    · rcases List.eq_of_mem_replicate mem with rfl
      exact Nat.succ_pos 6
  exact ((streamReassembly _ _ referenceSocket).1 .service referenceFrames [] wellFormed
    (List.append_nil _).symm).2 receives

end YoAuthorize.Transport
