import McServerNap.Encoding.Varint
import McServerNap.Encoding.Utf8

/-!
# Packet fields

VarInts and the cursor that reads the fields of one packet body. Every slice,
array conversion and subtraction that would panic in the source stops the reader
with a panic of its own here, so that the absence of panics is something to prove.
A reader that stops keeps its cursor where the source leaves it.

Lengths and offsets are unbounded naturals except where the source checks for
overflow.
-/

namespace McServerNap

open Encoding

/-- The bytes of a packet or of a stream. -/
abbrev Bytes := List UInt8

/-- `std::io::ErrorKind`, as far as the source tells kinds apart. -/
inductive ErrorKind where
  | unexpectedEof
  | brokenPipe
  | connectionAborted
  | connectionReset
  | other
  deriving DecidableEq, Repr

/-- What a client task sends to its client. -/
inductive Sending where
  | statusResponse
  | statusPong
  | loginDisconnect
  | conflictDisconnect
  | incompatibleDisconnect
  deriving DecidableEq, Repr

/-- The errors a client task can end with. Input and output errors keep their kind
below the message, which is what `downcast_ref` finds. -/
inductive ClientError where
  /-- "truncated VarInt" -/
  | truncatedVarint
  /-- "VarInt exceeds 32 bits" -/
  | varintExceeds32Bits
  /-- "VarInt exceeds five bytes" -/
  | varintExceedsFiveBytes
  /-- "string has a negative byte length" -/
  | negativeStringLength
  /-- "string byte length is negative" -/
  | stringLengthConversion
  /-- "string exceeds its encoded byte limit" -/
  | stringExceedsByteLimit
  /-- "string is not valid UTF-8" -/
  | invalidUtf8
  /-- "string exceeds its UTF-16 length limit" -/
  | stringExceedsUnitLimit
  /-- "invalid Boolean value {value}" -/
  | invalidBoolean (value : UInt8)
  /-- "packet offset overflow" -/
  | packetOffsetOverflow
  /-- "packet is truncated" -/
  | packetTruncated
  /-- "packet contains trailing data" -/
  | trailingData
  /-- "expected handshake packet ID 0" -/
  | expectedHandshake
  /-- "expected login start packet ID 0" -/
  | expectedLoginStart
  /-- "login username must not be empty" -/
  | emptyUsername
  /-- "expected status request packet ID 0" -/
  | expectedStatusRequest
  /-- "expected status ping packet ID 1" -/
  | expectedStatusPing
  /-- "transfer login is not supported by Minecraft Java {name}" -/
  | transferNotSupported (name : String)
  /-- "initial Minecraft handshake timed out" -/
  | handshakeTimedOut
  /-- "initial Minecraft exchange timed out" -/
  | exchangeTimedOut
  /-- "client closed a partial handshake length" -/
  | partialHandshakeLength (kind : ErrorKind)
  /-- "handshake exceeds protocol limit" -/
  | handshakeExceedsProtocolLimit
  /-- "handshake length {length} exceeds the 1024-byte limit" -/
  | handshakeExceedsLimit (length : Nat)
  /-- "client closed a partial handshake body" -/
  | partialHandshakeBody (kind : ErrorKind)
  /-- "handshake length VarInt exceeds three bytes" -/
  | handshakeLengthExceedsThreeBytes
  /-- "failed to read packet length" -/
  | packetLengthUnread (kind : ErrorKind)
  /-- "packet exceeds protocol limit" -/
  | packetExceedsProtocolLimit
  /-- "packet length {length} exceeds the {limit}-byte limit" -/
  | packetExceedsLimit (length limit : Nat)
  /-- "client closed a partial packet" -/
  | partialPacket (kind : ErrorKind)
  /-- "client closed a partial packet length" -/
  | partialPacketLength (kind : ErrorKind)
  /-- "packet length VarInt exceeds three bytes" -/
  | packetLengthExceedsThreeBytes
  /-- "packet string exceeds 32767 UTF-16 code units" -/
  | packetStringExceedsUnitLimit
  /-- "packet string is too long" -/
  | packetStringTooLong
  /-- "packet length overflow" -/
  | packetLengthOverflow
  /-- "packet is too long" -/
  | packetTooLong
  /-- "failed to send …", over "socket write timed out" when there is no kind -/
  | notSent (what : Sending) (kind : Option ErrorKind)
  /-- "socket shutdown failed" -/
  | shutdownFailed (kind : ErrorKind)
  /-- "socket shutdown timed out" -/
  | shutdownTimedOut
  /-- "failed to read status ping" -/
  | statusPingUnread (cause : ClientError)
  /-- "failed to enable TCP_NODELAY for client" -/
  | clientNodelay
  /-- "failed to enable TCP_NODELAY for backend" -/
  | backendNodelay
  /-- "server supervisor wake channel is closed" -/
  | wakeChannelClosed
  /-- "server lifecycle authority stopped while opening a proxy connection" -/
  | lifecycleAuthorityStopped
  /-- "owned backend cycle changed while opening a proxy connection" -/
  | ownedCycleChanged
  /-- "backend activity cycle changed before proxy establishment" -/
  | activityCycleChanged
  /-- "could not connect to Minecraft backend …" -/
  | backendUnreachable
  /-- "failed to replay Minecraft handshake for …" -/
  | handshakeNotReplayed
  /-- "proxy I/O failed for …" -/
  | proxyFailed
  deriving DecidableEq, Repr

/-- Why an operation returned no value: an error, a wait that the deadline cut
short, or a panic. -/
inductive Interruption where
  | failed (error : ClientError)
  | pending
  | panicked
  deriving DecidableEq, Repr

/-- `ensure!`. -/
def ensure {σ : Type} (condition : Prop) [Decidable condition] (error : ClientError) :
    ExceptT Interruption (StateM σ) Unit :=
  if condition then pure () else throw (.failed error)

/-- The `?` operator on a result that does not touch the state. -/
def attempt {σ α : Type} : Except ClientError α → ExceptT Interruption (StateM σ) α
  | .ok value => pure value
  | .error error => throw (.failed error)

/-! ## VarInts -/

/-- The loop of `decode_varint`, with the number of positions still to come. -/
def decodeVarintFrom (input : Bytes) :
    (rounds position : Nat) → (result : UInt32) → Except ClientError (Int32 × Nat)
  | 0, _, _ => .error .varintExceedsFiveBytes
  | rounds + 1, position, result =>
    match input[position]? with
    | none => .error .truncatedVarint
    | some byte =>
      if position = 4 ∧ byte &&& 0xf0 ≠ 0 then .error .varintExceeds32Bits
      else
        let result := result ||| ((byte &&& 0x7f).toUInt32 <<< UInt32.ofNat (position * 7))
        if byte &&& 0x80 = 0 then .ok (result.toInt32, position + 1)
        else decodeVarintFrom input rounds (position + 1) result

/-- `decode_varint`: the value and the number of bytes that spell it. -/
def decodeVarint (input : Bytes) : Except ClientError (Int32 × Nat) :=
  decodeVarintFrom input 5 0 0

/-- A shift by seven bits divides by 128. -/
theorem shift_group (remaining : UInt32) : (remaining >>> 7).toNat = remaining.toNat / 128 := by
  simp [UInt32.toNat_shiftRight, Nat.shiftRight_eq_div_pow]

/-- The loop of `write_varint`: one group a round, until none is left. -/
def writeVarintFrom (remaining : UInt32) (output : Bytes) : Bytes :=
  let byte := (remaining &&& 0x7f).toUInt8
  if remaining >>> 7 ≠ 0 then writeVarintFrom (remaining >>> 7) (output ++ [byte ||| 0x80])
  else output ++ [byte]
termination_by remaining.toNat
decreasing_by
  rename_i follows
  have shifted := shift_group remaining
  have positive : (remaining >>> 7).toNat ≠ 0 := fun zero =>
    follows (UInt32.toNat_inj.mp (by simpa using zero))
  omega

/-- `write_varint`. -/
def writeVarint (value : Int32) (output : Bytes) : Bytes :=
  writeVarintFrom value.toUInt32 output

/-- `varint_size`. -/
def varintSize (value : Int32) : Nat :=
  let bits := value.toUInt32
  if bits ≤ 0x7f then 1
  else if bits ≤ 0x3fff then 2
  else if bits ≤ 0x1fffff then 3
  else if bits ≤ 0xfffffff then 4
  else 5

/-! ## The cursor -/

/-- `PacketCursor`: the packet and the offset of what is unread. -/
structure PacketCursor where
  packet : Bytes
  offset : Nat
  deriving DecidableEq, Repr

/-- What is read from a packet may stop early with an `Interruption`, and moves the cursor. -/
abbrev Reading (α : Type) := ExceptT Interruption (StateM PacketCursor) α

/-- `usize::checked_add`. -/
def usizeCheckedAdd (first second : Nat) : Option Nat :=
  if first + second < 2 ^ 64 then some (first + second) else none

/-- `&bytes[start..stop]`, which panics outside the slice. -/
def slice {σ : Type} (bytes : Bytes) (start stop : Nat) :
    ExceptT Interruption (StateM σ) Bytes :=
  if start ≤ stop ∧ stop ≤ bytes.length then pure ((bytes.drop start).take (stop - start))
  else throw .panicked

/-- `from_be_bytes`. -/
def fromBeBytes (bytes : Bytes) : Nat :=
  bytes.foldl (fun value byte => value * 256 + byte.toNat) 0

namespace PacketCursor

/-- `PacketCursor::new`. -/
def new (packet : Bytes) : PacketCursor := ⟨packet, 0⟩

/-- `PacketCursor::read_varint`. -/
def readVarint : Reading Int32 := do
  let cursor ← get
  let unread ← slice cursor.packet cursor.offset cursor.packet.length
  let (value, length) ← attempt (decodeVarint unread)
  set { cursor with offset := cursor.offset + length }
  return value

/-- `PacketCursor::read_bytes`. -/
def readBytes (length : Nat) : Reading Bytes := do
  let cursor ← get
  match usizeCheckedAdd cursor.offset length with
  | none => throw (.failed .packetOffsetOverflow)
  | some stop =>
    ensure (stop ≤ cursor.packet.length) .packetTruncated
    let bytes ← slice cursor.packet cursor.offset stop
    set { cursor with offset := stop }
    return bytes

/-- `self.offset`. -/
def position : Reading Nat := do return (← get).offset

/-- `usize::try_from` on the length of a string. -/
def stringLength (byteLength : Int32) : Reading Nat := do
  ensure (0 ≤ byteLength.toInt) .negativeStringLength
  if byteLength.toInt < 0 then throw (.failed .stringLengthConversion)
  return byteLength.toInt.toNat

/-- `std::str::from_utf8`. -/
def readUtf8 (bytes : Bytes) : Reading (List Char) :=
  match fromUtf8 bytes with
  | some text => pure text
  | none => throw (.failed .invalidUtf8)

/-- `PacketCursor::read_string_with_range`: the text and where its bytes stand. -/
def readStringWithRange (maxUtf16Units : Nat) : Reading (List Char × Nat × Nat) := do
  let byteLength ← readVarint
  let byteLength ← stringLength byteLength
  ensure (byteLength ≤ maxUtf16Units * 3) .stringExceedsByteLimit
  let start ← position
  let bytes ← readBytes byteLength
  let value ← readUtf8 bytes
  ensure (utf16Units value ≤ maxUtf16Units) .stringExceedsUnitLimit
  let stop ← position
  return (value, start, stop)

/-- `PacketCursor::read_string`. -/
def readString (maxUtf16Units : Nat) : Reading (List Char) := do
  return (← readStringWithRange maxUtf16Units).1

/-- `PacketCursor::read_utf8_string_range`. -/
def readUtf8StringRange : Reading (Nat × Nat) := do
  let byteLength ← readVarint
  let byteLength ← stringLength byteLength
  let start ← position
  let bytes ← readBytes byteLength
  let _ ← readUtf8 bytes
  let stop ← position
  return (start, stop)

/-- `PacketCursor::read_array`, whose conversion panics on another length. -/
def readArray (length : Nat) : Reading Bytes := do
  let bytes ← readBytes length
  if bytes.length = length then return bytes else throw .panicked

/-- `PacketCursor::read_u16`. -/
def readU16 : Reading UInt16 := do return UInt16.ofNat (fromBeBytes (← readArray 2))

/-- `PacketCursor::read_bool`. -/
def readBool : Reading Bool := do
  match (← readArray 1)[0]? with
  | none => throw .panicked
  | some value =>
    if value = 0 then return false
    else if value = 1 then return true
    else throw (.failed (.invalidBoolean value))

/-- `PacketCursor::read_i64`. -/
def readI64 : Reading Int64 := do
  return (UInt64.ofNat (fromBeBytes (← readArray 8))).toInt64

/-- `PacketCursor::remaining`, a subtraction that must not underflow. -/
def remaining : Reading Nat := do
  let cursor ← get
  if cursor.offset ≤ cursor.packet.length then return cursor.packet.length - cursor.offset
  else throw .panicked

/-- `PacketCursor::ensure_finished`. -/
def ensureFinished : Reading Unit := do ensure ((← remaining) = 0) .trailingData

end PacketCursor

/-- A reader applied to a whole packet. -/
def readPacketFields {α : Type} (reader : Reading α) (packet : Bytes) : Except Interruption α :=
  (reader.run (PacketCursor.new packet)).1

end McServerNap
