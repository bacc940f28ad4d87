import McServerNap.Encoding.LittleEndian
import McServerNap.Encoding.Reading
import McServerNap.Packet

/-!
# The RCON client

Packets on a byte stream, the authentication exchange and the collection of a reply that
comes in several packets. Every slice and conversion that would panic in the source stops
the client with a panic of its own here.

A read takes its bytes off the unread ones. Beyond them the stream has failed or been
closed, or the server is silent; a client that meets silence waits until whoever called it
gives up. Writes, and the pause between two requests, may also be cut short so. A client that
was given up keeps its state and may be used again.
-/

namespace McServerNap.Rcon

open Encoding

/-- `AUTH`. -/
def auth : Int32 := 3
/-- `AUTH_RESPONSE`. -/
def authResponse : Int32 := 2
/-- `EXEC_COMMAND`, the same number as the response to an authentication. -/
def execCommand : Int32 := 2
/-- `RESPONSE_VALUE`. -/
def responseValue : Int32 := 0
/-- `MAX_COMMAND_BYTES`. -/
def maxCommandBytes : Nat := 1413
/-- `MAX_PACKET_BYTES`. -/
def maxPacketBytes : Nat := 4 * 1024 * 1024
/-- `MAX_RESPONSE_BYTES`. -/
def maxResponseBytes : Nat := 1024 * 1024

/-- The errors an RCON exchange can end with. -/
inductive Error where
  /-- "{description} exceeds the 1413-byte Minecraft limit" -/
  | bodyTooLong
  /-- "{description} contains a NUL byte" -/
  | bodyContainsNul
  /-- "RCON packet length overflow" -/
  | packetLengthOverflow
  /-- "RCON packet is too long" -/
  | packetTooLong
  /-- "RCON packet is truncated" -/
  | packetTruncated
  /-- "RCON packet has invalid terminators" -/
  | invalidTerminators
  /-- "failed to read the RCON packet length" -/
  | lengthUnread (kind : ErrorKind)
  /-- "RCON packet length is below the protocol minimum" -/
  | lengthBelowMinimum
  /-- "RCON packet length is negative" -/
  | lengthNegative
  /-- "RCON packet exceeds the 4194304-byte limit" -/
  | packetExceedsLimit
  /-- "RCON connection closed during a packet" -/
  | closedDuringPacket (kind : ErrorKind)
  /-- "failed to write an RCON packet" -/
  | notWritten (kind : ErrorKind)
  /-- "failed to enable TCP_NODELAY for RCON" -/
  | nodelay (kind : ErrorKind)
  /-- "RCON authentication failed" -/
  | authenticationFailed
  /-- "RCON authentication response used an unexpected request ID" -/
  | unexpectedAuthenticationId
  /-- "RCON returned an unexpected response packet" -/
  | unexpectedPacket
  /-- "RCON response exceeds the 1048576-byte limit" -/
  | responseExceedsLimit
  /-- "RCON response is not valid UTF-8" -/
  | responseNotUtf8
  deriving DecidableEq, Repr

/-- Why an exchange returned no value: an error, a wait that was given up, or a panic. -/
inductive Interruption where
  | failed (error : Error)
  | pending
  | panicked
  deriving DecidableEq, Repr

/-- `Packet`. -/
structure Packet where
  id : Int32
  kind : Int32
  body : Bytes
  deriving DecidableEq, Repr

/-! ## Framing -/

/-- `ensure!`. -/
def ensure (condition : Prop) [Decidable condition] (error : Error) : Except Interruption Unit :=
  if condition then .ok () else .error (.failed error)

/-- `&bytes[start..stop]`, which panics outside the slice. -/
def slice (bytes : Bytes) (start stop : Nat) : Except Interruption Bytes :=
  if start ≤ stop ∧ stop ≤ bytes.length then .ok ((bytes.drop start).take (stop - start))
  else .error .panicked

/-- `bytes.len() - count`, which panics below zero. -/
def lengthWithout (bytes : Bytes) (count : Nat) : Except Interruption Nat :=
  if count ≤ bytes.length then .ok (bytes.length - count) else .error .panicked

/-- `i32::from_le_bytes` of a slice, whose conversion panics on another length. -/
def readInt32 (bytes : Bytes) : Except Interruption Int32 :=
  if bytes.length = 4 then .ok (int32FromLe bytes) else .error .panicked

/-- `encode_packet`. -/
def encodePacket (id kind : Int32) (body : Bytes) : Except Error Bytes :=
  match usizeCheckedAdd body.length 10 with
  | none => .error .packetLengthOverflow
  | some payloadLength =>
    if payloadLength < 2 ^ 31 then
      .ok (int32ToLe (Int32.ofNat payloadLength) ++ int32ToLe id ++ int32ToLe kind ++ body ++
        [0, 0])
    else .error .packetTooLong

/-- `decode_payload`. -/
def decodePayload (payload : Bytes) : Except Interruption Packet := do
  ensure (10 ≤ payload.length) .packetTruncated
  let terminators ← slice payload (← lengthWithout payload 2) payload.length
  ensure (terminators = [0, 0]) .invalidTerminators
  let id ← readInt32 (← slice payload 0 4)
  let kind ← readInt32 (← slice payload 4 8)
  let body ← slice payload 8 (← lengthWithout payload 2)
  return { id, kind, body }

/-- `validate_body`, on the UTF-8 bytes of the text. -/
def validateBody (value : List Char) : Except Error Unit :=
  if (utf8 value).length ≤ maxCommandBytes then
    if 0 ∈ utf8 value then .error .bodyContainsNul else .ok ()
  else .error .bodyTooLong

/-! ## The client -/

/-- What becomes of a wait that is not for bytes. -/
inductive Wait where
  | finished
  | failed (kind : ErrorKind)
  | givenUp
  deriving DecidableEq, Repr

/-- `RconClient`, with the other side of its connection: what the server has sent and how its
stream goes on, what becomes of the coming waits, and what was written. -/
structure RconClient where
  /-- The bytes from the server that have not been read. -/
  unread : Bytes
  /-- What reading beyond them fails with; nothing where the server is silent. -/
  closed : Option ErrorKind
  /-- The coming writes and pauses. Those beyond the list are over at once. -/
  waits : List Wait
  /-- The packets handed to the socket. -/
  written : List Bytes
  nextRequestId : Int32
  deriving DecidableEq, Repr

/-- What is exchanged with the server may stop early, and changes the connection as it goes. -/
abbrev Exchanging (α : Type) := ExceptT Interruption (StateM RconClient) α

/-- An operation that does not touch the client. -/
def lift {α : Type} : Except Interruption α → Exchanging α
  | .ok value => pure value
  | .error interruption => throw interruption

/-- The `?` operator on a result that cannot panic. -/
def attempt {α : Type} : Except Error α → Exchanging α
  | .ok value => pure value
  | .error error => throw (.failed error)

/-- The next wait that is not for bytes, as the surroundings decide it. -/
def nextWait : Exchanging Wait := do
  let client ← get
  set { client with waits := client.waits.tail }
  return client.waits.head?.getD .finished

/-- `AsyncWriteExt::write_all`. -/
def writeAll (packet : Bytes) : Exchanging Unit := do
  modify fun client => { client with written := client.written ++ [packet] }
  match (← nextWait) with
  | .finished => return ()
  | .failed kind => throw (.failed (.notWritten kind))
  | .givenUp => throw .pending

/-- `tokio::time::sleep`, which does not fail. -/
def pause : Exchanging Unit := do
  match (← nextWait) with
  | .finished | .failed _ => return ()
  | .givenUp => throw .pending

/-- `AsyncReadExt::read_exact`. Bytes taken before a failure are lost. -/
def readExact (length : Nat) (context : ErrorKind → Error) : Exchanging Bytes := do
  let client ← get
  set { client with unread := client.unread.drop length }
  if length ≤ client.unread.length then return client.unread.take length
  else
    match client.closed with
    | some kind => throw (.failed (context kind))
    | none => throw .pending

/-- `RconClient::read_packet`. -/
def readPacket : Exchanging Packet := do
  let length := int32FromLe (← readExact 4 .lengthUnread)
  lift (ensure (10 ≤ length.toInt) .lengthBelowMinimum)
  lift (ensure (0 ≤ length.toInt) .lengthNegative)
  let length := length.toInt.toNat
  lift (ensure (length ≤ maxPacketBytes) .packetExceedsLimit)
  let payload ← readExact length .closedDuringPacket
  lift (decodePayload payload)

/-- The id that follows another one. -/
def followingId (id : Int32) : Int32 := if id = Int32.maxValue then 1 else id + 1

/-- `RconClient::send_packet`. -/
def sendPacket (kind : Int32) (body : List Char) : Exchanging Int32 := do
  let client ← get
  let id := client.nextRequestId
  set { client with nextRequestId := followingId id }
  let packet ← attempt (encodePacket id kind (utf8 body))
  writeAll packet
  return id

/-! ## Replies -/

/-- So many bytes are read exactly when the server has sent them, and they are taken off the
front. -/
theorem readExact_eq_ok (length : Nat) (context : ErrorKind → Error) (client later : RconClient)
    (bytes : Bytes) :
    outcome (readExact length context) client = (.ok bytes, later) ↔
      length ≤ client.unread.length ∧ bytes = client.unread.take length ∧
        later = { client with unread := client.unread.drop length } := by
  unfold readExact
  simp only [outcome_bind, outcome_get, outcome_set]
  by_cases enough : length ≤ client.unread.length
  · rw [if_pos enough]
    simp only [outcome_pure, Prod.mk.injEq, Except.ok.injEq, enough, true_and]
    constructor
    · rintro ⟨rfl, rfl⟩
      exact ⟨rfl, rfl⟩
    · rintro ⟨rfl, rfl⟩
      exact ⟨rfl, rfl⟩
  · rw [if_neg enough]
    cases client.closed with
    | none => simp [enough]
    | some kind => simp [enough]

/-- A result that needs no connection leaves it alone. -/
@[simp] theorem outcome_lift {α : Type} (result : Except Interruption α) (client : RconClient) :
    outcome (lift result) client = (result, client) := by
  cases result <;> rfl

/-- Every packet that is read takes some of the unread bytes. -/
theorem readPacket_shorter {client later : RconClient} {packet : Packet}
    (read : outcome readPacket client = (.ok packet, later)) :
    later.unread.length < client.unread.length := by
  simp only [readPacket, outcome_bind_eq_ok, readExact_eq_ok, outcome_lift, Prod.mk.injEq] at read
  obtain ⟨_, _, ⟨enough, rfl, rfl⟩, _, _, ⟨_, rfl⟩, _, _, ⟨_, rfl⟩, _, _, ⟨_, rfl⟩, _, _,
    ⟨_, rfl, rfl⟩, _, rfl⟩ := read
  simp only [List.length_drop]
  omega

/-- The loop of `RconClient::authenticate`. -/
def awaitAuthentication (authenticationId : Int32) (client : RconClient) :
    Except Interruption Unit × RconClient :=
  match _read : outcome readPacket client with
  | (.error interruption, later) => (.error interruption, later)
  | (.ok packet, later) =>
    if packet.kind ≠ authResponse then awaitAuthentication authenticationId later
    else if packet.id = -1 then (.error (.failed .authenticationFailed), later)
    else if packet.id = authenticationId then (.ok (), later)
    else (.error (.failed .unexpectedAuthenticationId), later)
termination_by client.unread.length
decreasing_by exact readPacket_shorter _read

/-- `RconClient::authenticate`, where enabling TCP_NODELAY may fail. -/
def authenticate (nodelay : Except ErrorKind Unit) (password : List Char) : Exchanging Unit := do
  attempt (nodelay.mapError .nodelay)
  modify fun client => { client with nextRequestId := 1 }
  let authenticationId ← sendPacket auth password
  awaitAuthentication authenticationId

/-- The loop of `RconClient::command`. -/
def collectResponse (commandId endMarkerId : Int32) (response : Bytes) (client : RconClient) :
    Except Interruption (List Char) × RconClient :=
  match _read : outcome readPacket client with
  | (.error interruption, later) => (.error interruption, later)
  | (.ok packet, later) =>
    if packet.id = endMarkerId then
      match fromUtf8 response with
      | some text => (.ok text, later)
      | none => (.error (.failed .responseNotUtf8), later)
    else if packet.id = commandId ∧ packet.kind = responseValue then
      if response.length + packet.body.length ≤ maxResponseBytes then
        collectResponse commandId endMarkerId (response ++ packet.body) later
      else (.error (.failed .responseExceedsLimit), later)
    else (.error (.failed .unexpectedPacket), later)
termination_by client.unread.length
decreasing_by exact readPacket_shorter _read

/-- `RconClient::command`. -/
def command (text : List Char) : Exchanging (List Char) := do
  attempt (validateBody text)
  let commandId ← sendPacket execCommand text
  pause
  let endMarkerId ← sendPacket execCommand []
  collectResponse commandId endMarkerId []

/-- `RconClient::stop`. -/
def stop : Exchanging Unit := do
  let _ ← sendPacket execCommand "stop".toList

end McServerNap.Rcon
