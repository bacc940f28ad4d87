import McServerNap.MinecraftVersion
import McServerNap.Packet

/-!
# Frames, handshakes and login starts

A client socket delivers its bytes in segments of any size. Those that arrive
before the initial deadline are followed by the end of the stream, by a read
error, or by silence until the deadline has passed; a reader that meets silence
waits, and the surrounding timeout turns the wait into an error.

The socket of an envelope is the state its readers share, so the envelope itself
holds only what was read from it.
-/

namespace McServerNap

open Encoding

/-- `MAX_PACKET_LENGTH`, what three length bytes can spell. -/
def maxPacketLength : Nat := 2 ^ 21 - 1
/-- `MAX_HANDSHAKE_PACKET_LENGTH`. -/
def maxHandshakePacketLength : Nat := 1024
/-- `MAX_LOGIN_START_PACKET_LENGTH`. -/
def maxLoginStartPacketLength : Nat := 128
/-- `MAX_STATUS_PACKET_LENGTH`. -/
def maxStatusPacketLength : Nat := 32

/-! ## Sockets -/

/-- What follows the segments that arrive before the initial deadline. The end of
the stream is an error of kind `unexpectedEof` to every reader that needs a byte. -/
inductive Ending where
  | broken (kind : ErrorKind)
  | silent (later : List Bytes)
  deriving DecidableEq, Repr

/-- What the client has still to send, and what its stream does behind that. -/
structure Socket where
  segments : List Bytes
  ending : Ending
  deriving DecidableEq, Repr

/-- The unread bytes that arrive before the initial deadline. -/
def Socket.stream (socket : Socket) : Bytes := socket.segments.flatten

/-- The unread bytes that arrive at any time. -/
def Socket.unread (socket : Socket) : Bytes :=
  match socket.ending with
  | .broken _ => socket.stream
  | .silent later => socket.stream ++ later.flatten

/-- What is read from a socket may stop early with an `Interruption`, and takes the bytes it has
read off the stream. -/
abbrev Receiving (α : Type) := ExceptT Interruption (StateM Socket) α

/-- Filling a buffer of the given length segment by segment: what it then holds,
and the segments left over. -/
def takeBytes : Nat → List Bytes → Bytes × List Bytes
  | _, [] => ([], [])
  | length, segment :: later =>
    if length ≤ segment.length then (segment.take length, segment.drop length :: later)
    else
      let (bytes, rest) := takeBytes (length - segment.length) later
      (segment ++ bytes, rest)

/-- `AsyncReadExt::read_exact`. Bytes taken before a failure are lost. -/
def readExact (length : Nat) (context : ErrorKind → ClientError) : Receiving Bytes := do
  let socket ← get
  let (bytes, segments) := takeBytes length socket.segments
  set { socket with segments := segments }
  if bytes.length = length then return bytes
  else
    match socket.ending with
    | .broken kind => throw (.failed (context kind))
    | .silent _ => throw .pending

/-- `AsyncReadExt::read_u8`. -/
def readU8 (context : ErrorKind → ClientError) : Receiving UInt8 := do
  match (← readExact 1 context) with
  | [byte] => return byte
  | _ => throw .panicked

/-- `timeout_at`: what is still waiting at the deadline fails. -/
def timeoutAt {α : Type} (error : ClientError) (reader : Receiving α) : Receiving α :=
  tryCatch reader fun interruption =>
    match interruption with
    | .pending => throw (.failed error)
    | other => throw other

/-! ## The handshake -/

/-- `HandshakeIntent`. -/
inductive HandshakeIntent where
  | status
  | login
  | transfer
  | unknown (value : Int32)
  deriving DecidableEq, Repr

/-- `Handshake`. The address is kept as its range in the packet, as the source borrows it. -/
structure Handshake where
  protocolVersion : Int32
  requestedAddressRange : Nat × Nat
  requestedPort : UInt16
  intent : HandshakeIntent
  deriving DecidableEq, Repr

/-- The meaning of the last handshake field. -/
def HandshakeIntent.ofValue (value : Int32) : HandshakeIntent :=
  if value = 1 then .status
  else if value = 2 then .login
  else if value = 3 then .transfer
  else .unknown value

/-- The fields of a handshake, in the order `parse_handshake` reads them. -/
def readHandshakeFields : Reading Handshake := do
  ensure ((← PacketCursor.readVarint) = 0) .expectedHandshake
  let protocolVersion ← PacketCursor.readVarint
  let requestedAddressRange ← PacketCursor.readUtf8StringRange
  let requestedPort ← PacketCursor.readU16
  let intent := HandshakeIntent.ofValue (← PacketCursor.readVarint)
  PacketCursor.ensureFinished
  return { protocolVersion, requestedAddressRange, requestedPort, intent }

/-- `parse_handshake`. -/
def parseHandshake (packet : Bytes) : Except Interruption Handshake :=
  readPacketFields readHandshakeFields packet

/-- `ConnectionEnvelope`: the handshake with the bytes of its frame, which are replayed to the
backend as they came. -/
structure ConnectionEnvelope where
  framedHandshake : Bytes
  protocolVersion : Int32
  requestedAddressRange : Nat × Nat
  requestedPort : UInt16
  intent : HandshakeIntent
  deriving DecidableEq, Repr

/-- The framing part of `ConnectionEnvelope::read_inner`: the whole frame and the
offset of its body in it. -/
def readHandshakeFrameFrom :
    (rounds position : Nat) → (framedHandshake : Bytes) → (declaredLength : Nat) →
      Receiving (Bytes × Nat)
  | 0, _, _, _ => throw (.failed .handshakeLengthExceedsThreeBytes)
  | rounds + 1, position, framedHandshake, declaredLength => do
    let byte ← readU8 .partialHandshakeLength
    let framedHandshake := framedHandshake ++ [byte]
    let declaredLength := declaredLength ||| ((byte &&& 0x7f).toNat <<< (position * 7))
    if byte &&& 0x80 = 0 then
      ensure (declaredLength ≤ maxPacketLength) .handshakeExceedsProtocolLimit
      ensure (declaredLength ≤ maxHandshakePacketLength) (.handshakeExceedsLimit declaredLength)
      let bodyOffset := framedHandshake.length
      let body ← readExact declaredLength .partialHandshakeBody
      return (framedHandshake ++ body, bodyOffset)
    else readHandshakeFrameFrom rounds (position + 1) framedHandshake declaredLength

/-- `read_handshake_frame`: the bytes of the frame and where its body begins. -/
def readHandshakeFrame : Receiving (Bytes × Nat) := readHandshakeFrameFrom 3 0 [] 0

/-- Parsing the body of a frame and keeping the frame. -/
def ConnectionEnvelope.ofFrame (framedHandshake : Bytes) (bodyOffset : Nat) :
    Receiving ConnectionEnvelope := do
  let body ← slice framedHandshake bodyOffset framedHandshake.length
  match parseHandshake body with
  | .error interruption => throw interruption
  | .ok handshake =>
    return {
      framedHandshake
      protocolVersion := handshake.protocolVersion
      requestedAddressRange := (bodyOffset + handshake.requestedAddressRange.1,
        bodyOffset + handshake.requestedAddressRange.2)
      requestedPort := handshake.requestedPort
      intent := handshake.intent }

/-- `ConnectionEnvelope::read_inner`. -/
def ConnectionEnvelope.readInner : Receiving ConnectionEnvelope := do
  let (framedHandshake, bodyOffset) ← readHandshakeFrame
  ConnectionEnvelope.ofFrame framedHandshake bodyOffset

/-- `ConnectionEnvelope::read`. -/
def ConnectionEnvelope.read : Receiving ConnectionEnvelope :=
  timeoutAt .handshakeTimedOut ConnectionEnvelope.readInner

/-- `ConnectionEnvelope::requested_address`, which panics when its range is not a
slice of the frame or not valid UTF-8. -/
def ConnectionEnvelope.requestedAddress (connection : ConnectionEnvelope) :
    Except Interruption (List Char) :=
  let (start, stop) := connection.requestedAddressRange
  if start ≤ stop ∧ stop ≤ connection.framedHandshake.length then
    match fromUtf8 ((connection.framedHandshake.drop start).take (stop - start)) with
    | some address => .ok address
    | none => .error .panicked
  else .error .panicked

/-! ## Packets -/

/-- The loop of `read_packet_after_first_byte`, which reads the next length byte
only while a position for it remains. -/
def readPacketFrom (applicationLimit : Nat) :
    (rounds position : Nat) → (byte : UInt8) → (length : Nat) → Receiving Bytes
  | 0, _, _, _ => throw (.failed .packetLengthExceedsThreeBytes)
  | rounds + 1, position, byte, length => do
    let length := length ||| ((byte &&& 0x7f).toNat <<< (position * 7))
    if byte &&& 0x80 = 0 then
      ensure (length ≤ maxPacketLength) .packetExceedsProtocolLimit
      ensure (length ≤ applicationLimit) (.packetExceedsLimit length applicationLimit)
      readExact length .partialPacket
    else if position < 2 then
      let byte ← readU8 .partialPacketLength
      readPacketFrom applicationLimit rounds (position + 1) byte length
    else readPacketFrom applicationLimit rounds (position + 1) byte length

/-- `read_packet_after_first_byte`. -/
def readPacketAfterFirstByte (first : UInt8) (applicationLimit : Nat) : Receiving Bytes :=
  readPacketFrom applicationLimit 3 0 first 0

/-- `read_packet`. -/
def readPacket (applicationLimit : Nat) : Receiving Bytes := do
  let first ← readU8 .packetLengthUnread
  readPacketAfterFirstByte first applicationLimit

/-- `read_initial_packet`. -/
def readInitialPacket (applicationLimit : Nat) : Receiving Bytes :=
  timeoutAt .exchangeTimedOut (readPacket applicationLimit)

/-- `i32::try_from` on a length. -/
def i32TryFrom (length : Nat) : Option Int32 :=
  if length < 2 ^ 31 then some (Int32.ofNat length) else none

/-- `encode_packet`. -/
def encodePacket (packetId : Int32) (payload : Bytes) : Except ClientError Bytes :=
  match usizeCheckedAdd (varintSize packetId) payload.length with
  | none => .error .packetLengthOverflow
  | some bodyLength =>
    if bodyLength ≤ maxPacketLength then
      match i32TryFrom bodyLength with
      | none => .error .packetTooLong
      | some bodyLengthI32 =>
        .ok (writeVarint packetId (writeVarint bodyLengthI32 []) ++ payload)
    else .error .packetExceedsProtocolLimit

/-- `encode_string_packet`. -/
def encodeStringPacket (packetId : Int32) (value : List Char) : Except ClientError Bytes :=
  if utf16Units value ≤ 32767 then
    match i32TryFrom (utf8 value).length with
    | none => .error .packetStringTooLong
    | some length => encodePacket packetId (writeVarint length [] ++ utf8 value)
  else .error .packetStringExceedsUnitLimit

/-! ## Requests to a sleeping server -/

/-- `LoginIntent`. -/
inductive LoginIntent where
  | login
  | transfer
  deriving DecidableEq, Repr

/-- `ClientRequest`. -/
inductive ClientRequest where
  | status
  | login (intent : LoginIntent)
  | unsupportedProtocol (protocolVersion : Int32)
  deriving DecidableEq, Repr

/-- The packets a responder has ready, and the release it stands for. -/
structure MinecraftResponder where
  minecraftVersion : MinecraftVersion
  statusResponse : Bytes
  loginDisconnect : Bytes
  conflictDisconnect : Bytes
  incompatibleDisconnect : Bytes

/-- `validate_login_intent`. -/
def validateLoginIntent (version : MinecraftVersion) (intent : LoginIntent) : Receiving Unit :=
  ensure (intent ≠ .transfer ∨ version.initialProtocol = .requiredUuidAndTransfer)
    (.transferNotSupported version.name)

/-- What follows the name in a login start. -/
def readLoginUuid : InitialProtocol → Reading Unit
  | .optionalUuid => do
    if (← PacketCursor.readBool) then
      let _ ← PacketCursor.readBytes 16
    return ()
  | .requiredUuid | .requiredUuidAndTransfer => do
    let _ ← PacketCursor.readBytes 16
    return ()
  | .noUuid => return ()

/-- The fields of a login start, in the order `parse_login_start` reads them. -/
def readLoginStartFields (layout : InitialProtocol) : Reading Unit := do
  ensure ((← PacketCursor.readVarint) = 0) .expectedLoginStart
  let username ← PacketCursor.readString 16
  ensure (username ≠ []) .emptyUsername
  readLoginUuid layout
  PacketCursor.ensureFinished

/-- `parse_login_start`. -/
def parseLoginStart (packet : Bytes) (version : MinecraftVersion) : Except Interruption Unit :=
  readPacketFields (readLoginStartFields version.initialProtocol) packet

/-- The fields of a status request. -/
def readStatusRequestFields : Reading Unit := do
  ensure ((← PacketCursor.readVarint) = 0) .expectedStatusRequest
  PacketCursor.ensureFinished

/-- A parser's verdict on a packet already taken from the socket. -/
def parsed {α : Type} : Except Interruption α → Receiving α
  | .ok value => pure value
  | .error interruption => throw interruption

/-- The login part of `MinecraftResponder::read_sleeping_request`. -/
def readLogin (responder : MinecraftResponder) (connection : ConnectionEnvelope)
    (loginIntent : LoginIntent) : Receiving (Option ClientRequest) := do
  if connection.protocolVersion ≠ responder.minecraftVersion.protocol then
    return some (.unsupportedProtocol connection.protocolVersion)
  else
    validateLoginIntent responder.minecraftVersion loginIntent
    let loginStart ← readInitialPacket maxLoginStartPacketLength
    parsed (parseLoginStart loginStart responder.minecraftVersion)
    return some (.login loginIntent)

/-- `MinecraftResponder::read_sleeping_request`. -/
def readSleepingRequest (responder : MinecraftResponder) (connection : ConnectionEnvelope) :
    Receiving (Option ClientRequest) :=
  match connection.intent with
  | .status => do
    let request ← readInitialPacket maxStatusPacketLength
    parsed (readPacketFields readStatusRequestFields request)
    return some .status
  | .login => readLogin responder connection .login
  | .transfer => readLogin responder connection .transfer
  | .unknown _ => return none

end McServerNap
