import Mathlib.Data.List.Range
import McServerNap.RoundTrip
import McServerNap.Wakes

/-!
# What clients of a sleeping server are told

A sleeping server answers the request that its client's stream begins with. The answer is
fixed by the request, by the phase and by the prepared packets; a status request may be followed
by a ping, whose eight bytes come back to the client as they were.
-/

namespace McServerNap

open Encoding

/-! ## Timestamps -/

/-- A further byte moves those before it up by eight bits. -/
theorem fromBeBytes_append (bytes : Bytes) (byte : UInt8) :
    fromBeBytes (bytes ++ [byte]) = fromBeBytes bytes * 256 + byte.toNat := by
  simp [fromBeBytes]

/-- So many bytes spell only numbers below this power. -/
theorem fromBeBytes_lt (bytes : Bytes) : fromBeBytes bytes < 256 ^ bytes.length := by
  induction bytes using List.reverseRecOn with
  | nil => simp [fromBeBytes]
  | append_singleton bytes byte inductionHypothesis =>
    have digit := byte.toNat_lt
    rw [fromBeBytes_append, List.length_append, List.length_singleton, Nat.pow_succ]
    omega

/-- The digits of what some bytes spell are these bytes. The induction takes the last byte first,
which is the remainder of the number; the others spell its quotient. -/
theorem digits_fromBeBytes (bytes : Bytes) :
    ((List.range bytes.length).map fun place =>
      UInt8.ofNat (fromBeBytes bytes / 256 ^ (bytes.length - 1 - place))) = bytes := by
  induction bytes using List.reverseRecOn with
  | nil => rfl
  | append_singleton bytes byte inductionHypothesis =>
    have digit := byte.toNat_lt
    rw [List.length_append, List.length_singleton, List.range_succ, List.map_append,
      List.map_singleton, fromBeBytes_append]
    congr 1
    · refine Eq.trans ?_ inductionHypothesis
      refine List.map_congr_left fun place among => ?_
      have inside := List.mem_range.mp among
      have shifted : bytes.length + 1 - 1 - place = (bytes.length - 1 - place) + 1 := by omega
      have dropped : (fromBeBytes bytes * 256 + byte.toNat) / 256 = fromBeBytes bytes := by omega
      rw [shifted, Nat.pow_succ', ← Nat.div_div_eq_div_mul, dropped]
    · have last : bytes.length + 1 - 1 - bytes.length = 0 := by omega
      rw [last, Nat.pow_zero, Nat.div_one]
      have same : UInt8.ofNat (fromBeBytes bytes * 256 + byte.toNat) = byte := by
        apply UInt8.toNat_inj.mp
        rw [UInt8.toNat_ofNat']
        omega
      rw [same]

/-- A timestamp is written as it was read: the sign is only a reading of the same sixty-four bits,
and these are the eight bytes. -/
theorem toBeBytes_read {bytes : Bytes} (counted : bytes.length = 8) :
    toBeBytes (UInt64.ofNat (fromBeBytes bytes)).toInt64 = bytes := by
  have small := fromBeBytes_lt bytes
  have fits : (UInt64.ofNat (fromBeBytes bytes)).toInt64.toUInt64.toNat = fromBeBytes bytes := by
    rw [counted] at small
    rw [UInt64.toUInt64_toInt64, UInt64.toNat_ofNat']
    exact Nat.mod_eq_of_lt small
  have digits := digits_fromBeBytes bytes
  rw [counted] at digits
  unfold toBeBytes
  rw [fits]
  exact digits

/-- A ping is the id 1 and eight bytes. -/
def IsPing (body timestamp : Bytes) : Prop :=
  ∃ packetId, body = packetId ++ timestamp ∧ IsVarint packetId 1 ∧ timestamp.length = 8

/-- The fields of a ping before the check that nothing follows. -/
def statusPingFields : Reading Int64 := do
  ensure ((← PacketCursor.readVarint) = 1) .expectedStatusPing
  PacketCursor.readI64

/-- A ping is read field by field, and nothing may follow. -/
theorem readStatusPingFields_eq : readStatusPingFields =
    statusPingFields >>= fun read => PacketCursor.ensureFinished >>= fun _ => pure read := by
  simp only [readStatusPingFields, statusPingFields, bind_assoc]

/-- Eight bytes are read as a signed number, most significant first. Every eight bytes are
accepted. -/
theorem readI64_reads : FieldReads 8 PacketCursor.readI64
    (fun _ field value => field.length = 8 ∧ value = (UInt64.ofNat (fromBeBytes field)).toInt64) := by
  have chain : FieldReads (8 + 0) PacketCursor.readI64 _ :=
    (readArray_reads 8).bind fun bytes _ =>
      Reads.pure (UInt64.ofNat (fromBeBytes bytes)).toInt64
  apply chain.congr
  intro before field value
  constructor
  · rintro ⟨_, _, bytes, rfl, ⟨counted, rfl⟩, rfl, rfl⟩
    rw [List.append_nil]
    exact ⟨counted, rfl⟩
  · rintro ⟨counted, rfl⟩
    exact ⟨field, [], field, by simp, ⟨counted, rfl⟩, rfl, rfl⟩

/-- The fields of a ping are its id and its eight bytes, in this order. -/
theorem statusPingFields_reads : FieldReads 13 statusPingFields
    (fun _ field value => ∃ timestamp, IsPing field timestamp ∧
      value = (UInt64.ofNat (fromBeBytes timestamp)).toInt64) := by
  have chain : FieldReads (5 + (0 + 8)) statusPingFields _ :=
    readVarint_reads.bind fun packetId _ => (ensure_reads (packetId = 1) _).bind fun _ _ =>
      readI64_reads
  apply chain.congr
  intro before field value
  simp only [silent_followed]
  constructor
  · rintro ⟨packetId, timestamp, _, rfl, isId, _, rfl, counted, rfl⟩
    exact ⟨timestamp, ⟨packetId, rfl, isId, counted⟩, rfl⟩
  · rintro ⟨timestamp, ⟨packetId, rfl, isId, counted⟩, rfl⟩
    exact ⟨packetId, timestamp, 1, rfl, isId, ⟨⟩, rfl, counted, rfl⟩

/-- A body is a ping exactly when it has this form as a whole. -/
theorem statusPing_iff (body : Bytes) (value : Int64) :
    readPacketFields readStatusPingFields body = .ok value ↔
      ∃ timestamp, IsPing body timestamp ∧
        value = (UInt64.ofNat (fromBeBytes timestamp)).toInt64 := by
  rw [readStatusPingFields_eq, whole_packet statusPingFields_reads (by decide)]

/-- The pong to a ping: a frame of the id 1 and the same eight bytes. -/
def pongTo (timestamp : Bytes) : Bytes := [9, 1] ++ timestamp

/-- A pong can always be encoded: its payload has eight bytes. -/
theorem encodePacket_pong {timestamp : Bytes} (counted : timestamp.length = 8) :
    encodePacket 1 timestamp = .ok (pongTo timestamp) := by
  have size : varintSize 1 = 1 := by decide
  have written : writeVarint 1 [] = [1] := by decide +kernel
  have framed : writeVarint (Int32.ofNat 9) [] = [9] := by decide +kernel
  have limit : maxPacketLength = 0x1fffff := rfl
  rw [encodePacket_eq, size, counted, if_pos (by omega), written, framed]
  rfl

/-! ## Openings -/

/-- What may follow a handshake, by the request that the two make. -/
def IsRequest (version : MinecraftVersion) (handshake : Handshake) (field : Bytes) :
    ClientRequest → Prop
  | .status => handshake.intent = .status ∧
      ∃ body, IsFrame maxStatusPacketLength field body ∧ IsVarint body 0
  | .unsupportedProtocol protocol =>
      (handshake.intent = .login ∨ handshake.intent = .transfer) ∧
      protocol = handshake.protocolVersion ∧ protocol ≠ version.protocol ∧ field = []
  | .login intent =>
      (handshake.intent = .login ∧ intent = .login ∨
        handshake.intent = .transfer ∧ intent = .transfer ∧
          version.initialProtocol = .requiredUuidAndTransfer) ∧
      handshake.protocolVersion = version.protocol ∧
      ∃ body, IsFrame maxLoginStartPacketLength field body ∧
        IsLoginStart version.initialProtocol body

/-- The stream begins with a handshake and what makes it a request. -/
def Opens (version : MinecraftVersion) (stream : Bytes) (request : ClientRequest)
    (rest : Bytes) : Prop :=
  ∃ (handshakeFrame handshakeBody field : Bytes) (address : List Char) (handshake : Handshake),
    stream = handshakeFrame ++ (field ++ rest) ∧
    IsFrame maxHandshakePacketLength handshakeFrame handshakeBody ∧
    IsHandshake handshakeBody address handshake ∧ IsRequest version handshake field request

/-- The fields of a status request before the check that nothing follows. -/
def statusRequestFields : Reading Unit := do
  ensure ((← PacketCursor.readVarint) = 0) .expectedStatusRequest

/-- A status request is its id, and nothing may follow. -/
theorem readStatusRequestFields_eq : readStatusRequestFields =
    statusRequestFields >>= fun read => PacketCursor.ensureFinished >>= fun _ => pure read := by
  simp only [readStatusRequestFields, statusRequestFields, bind_assoc, bind_pure_unit]

/-- A body is a status request exactly when it spells the id zero, and nothing else, since the
packet has no fields. -/
theorem statusRequest_iff (body : Bytes) :
    readPacketFields readStatusRequestFields body = .ok () ↔ IsVarint body 0 := by
  have reads : FieldReads 5 statusRequestFields (fun _ field _ => IsVarint field 0) := by
    have chain : FieldReads (5 + 0) statusRequestFields _ :=
      readVarint_reads.bind fun packetId _ => ensure_reads (packetId = 0) _
    apply chain.congr
    intro before field value
    constructor
    · rintro ⟨packetId, _, _, rfl, isId, rfl, rfl⟩
      rw [List.append_nil]
      exact isId
    · intro isId
      exact ⟨field, [], 0, by simp, isId, rfl, rfl⟩
  rw [readStatusRequestFields_eq, whole_packet reads (by decide)]

/-- A login that its release turns away is one for another protocol; nothing behind its handshake
was read then. A login for this protocol is followed by its login start. -/
theorem loginForm_iff (responder : MinecraftResponder) (connection : ConnectionEnvelope)
    (intent : LoginIntent) (field : Bytes) (request : ClientRequest) :
    LoginForm responder connection intent field (some request) ↔
      (connection.protocolVersion ≠ responder.minecraftVersion.protocol ∧ field = [] ∧
        request = .unsupportedProtocol connection.protocolVersion) ∨
      (connection.protocolVersion = responder.minecraftVersion.protocol ∧ request = .login intent ∧
        (intent = .transfer →
          responder.minecraftVersion.initialProtocol = .requiredUuidAndTransfer) ∧
        ∃ body, IsFrame maxLoginStartPacketLength field body ∧
          IsLoginStart responder.minecraftVersion.initialProtocol body) := by
  unfold LoginForm
  by_cases other : connection.protocolVersion = responder.minecraftVersion.protocol
  · simp only [other, ne_eq, not_true_eq_false, ↓reduceIte, Option.some.injEq, false_and, true_and,
      false_or]
    constructor
    · rintro ⟨supported, body, frame, isLoginStart, rfl⟩
      exact ⟨rfl, fun transfer => supported.resolve_left (not_not_intro transfer), body, frame,
        isLoginStart⟩
    · rintro ⟨rfl, supported, body, frame, isLoginStart⟩
      exact ⟨Decidable.not_or_of_imp supported, body, frame, isLoginStart, rfl⟩
  · simp [other]

/-- What is read behind an envelope is a request of its protocol, in the form that its intent and
version ask for. -/
theorem requestForm_iff (responder : MinecraftResponder) (framedHandshake : Bytes)
    (bodyOffset : Nat) (handshake : Handshake) (field : Bytes) (request : ClientRequest) :
    RequestForm responder (envelopeOf framedHandshake bodyOffset handshake) field
        (some request) ↔
      IsRequest responder.minecraftVersion handshake field request := by
  cases intended : handshake.intent with
  | status =>
    simp only [RequestForm, envelopeOf, intended, statusRequest_iff]
    cases request <;> simp [IsRequest, intended]
  | unknown value =>
    simp only [RequestForm, envelopeOf, intended]
    cases request <;> simp [IsRequest, intended]
  | login =>
    simp only [RequestForm, envelopeOf, intended, loginForm_iff]
    cases request with
    | status => simp [IsRequest, intended]
    | unsupportedProtocol protocol =>
      simp only [IsRequest, intended]
      grind
    | login intent =>
      simp only [IsRequest, intended]
      grind
  | transfer =>
    simp only [RequestForm, envelopeOf, intended, loginForm_iff]
    cases request with
    | status => simp [IsRequest, intended]
    | unsupportedProtocol protocol =>
      simp only [IsRequest, intended]
      grind
    | login intent =>
      simp only [IsRequest, intended]
      grind

/-- The two reads of a connection succeed exactly on the streams that open with a request. -/
theorem reads_request_iff (responder : MinecraftResponder) (socket : Socket)
    (request : ClientRequest) (rest : Bytes) :
    (∃ connection later last, outcome ConnectionEnvelope.read socket = (.ok connection, later) ∧
        outcome (readSleepingRequest responder connection) later = (.ok (some request), last) ∧
        last.stream = rest) ↔
      Opens responder.minecraftVersion socket.stream request rest := by
  constructor
  · rintro ⟨connection, later, last, readEnvelope, readRequest, rfl⟩
    obtain ⟨_, stream, lengthField, body, handshake, rfl, isLength, within, accepted, rfl⟩ :=
      (envelope_reads.iff socket connection later.stream).mp ⟨later, readEnvelope, rfl⟩
    obtain ⟨field, follows, form⟩ := ((readSleepingRequest_reads responder _).iff later
      (some request) last.stream).mp ⟨last, readRequest, rfl⟩
    obtain ⟨address, isHandshake⟩ := (parseHandshake_iff body handshake).mp accepted
    exact ⟨lengthField ++ body, body, field, address, handshake, follows ▸ stream,
      ⟨lengthField, rfl, isLength, within⟩, isHandshake, (requestForm_iff _ _ _ _ _ _).mp form⟩
  · rintro ⟨_, body, field, address, handshake, stream, ⟨lengthField, rfl, isLength, within⟩,
      isHandshake, isRequest⟩
    have accepted := (parseHandshake_iff body handshake).mpr ⟨address, isHandshake⟩
    obtain ⟨later, readEnvelope, left⟩ := (envelope_reads.iff socket
      (envelopeOf (lengthField ++ body) lengthField.length handshake) (field ++ rest)).mpr
        ⟨lengthField ++ body, stream, lengthField, body, handshake, rfl, isLength, within, accepted,
          rfl⟩
    obtain ⟨last, readRequest, remains⟩ := ((readSleepingRequest_reads responder _).iff later
      (some request) rest).mpr ⟨field, left, (requestForm_iff _ _ _ _ _ _).mpr isRequest⟩
    exact ⟨_, later, last, readEnvelope, readRequest, remains⟩

/-! ## Packets sent -/

/-- The packets among some effects. -/
def packets (effects : List ClientEffect) : List (Sending × Bytes) :=
  effects.filterMap fun effect =>
    match effect with
    | .toClient what bytes => some (what, bytes)
    | _ => none

/-- The packets of effects one after the other are those of both. -/
theorem packets_append (earlier later : List ClientEffect) :
    packets (earlier ++ later) = packets earlier ++ packets later := by
  simp [packets]

/-- The step adds these packets, whatever its outcome. -/
def Tells {α : Type} (step : Handling α) (client : Client) (told : List (Sending × Bytes)) : Prop :=
  packets (outcome step client).2.effects = packets client.effects ++ told

/-- Returning a value tells nothing. -/
theorem Tells.pure {α : Type} (value : α) (client : Client) : Tells (pure value) client [] :=
  (List.append_nil _).symm

/-- Nor does failing. -/
theorem Tells.throw {α : Type} (interruption : Interruption) (client : Client) :
    Tells (throw interruption : Handling α) client [] :=
  (List.append_nil _).symm

/-- A step that succeeds hands on to the next one. -/
theorem Tells.bind_ok {α β : Type} {step : Handling α} {next : α → Handling β} {value : α}
    {client later : Client} {told more : List (Sending × Bytes)}
    (done : outcome step client = (.ok value, later)) (first : Tells step client told)
    (second : Tells (next value) later more) : Tells (step >>= next) client (told ++ more) := by
  unfold Tells at *
  rw [done] at first
  rw [outcome_bind_ok _ _ done, second, first, List.append_assoc]

/-- After a failure no more is told. -/
theorem Tells.bind_error {α β : Type} {step : Handling α} {next : α → Handling β}
    {interruption : Interruption} {client later : Client} {told : List (Sending × Bytes)}
    (failed : outcome step client = (.error interruption, later)) (first : Tells step client told) :
    Tells (step >>= next) client told := by
  unfold Tells at *
  rw [failed] at first
  rw [outcome_bind_error _ _ failed, first]

/-- An effect tells the packet that it is, if it is one. -/
theorem tells_emit (effect : ClientEffect) (client : Client) :
    Tells (emit effect) client (packets [effect]) :=
  packets_append client.effects [effect]

/-- How a write ends is known after its packet was handed to it. -/
theorem outcome_sendToClient (surroundings : Surroundings) (what : Sending) (bytes : Bytes)
    (client : Client) :
    outcome (sendToClient surroundings what bytes) client =
      (match surroundings.sends what with
        | .done => .ok ()
        | .broken kind => .error (.failed (.notSent what (some kind)))
        | .timedOut => .error (.failed (.notSent what none)),
        { client with effects := client.effects ++ [.toClient what bytes] }) := by
  unfold sendToClient emit
  simp only [outcome_bind, outcome_get, outcome_set]
  cases surroundings.sends what <;> rfl

/-- Sending tells the packet even when the write fails, as what was attempted. -/
theorem tells_sendToClient (surroundings : Surroundings) (what : Sending) (bytes : Bytes)
    (client : Client) : Tells (sendToClient surroundings what bytes) client [(what, bytes)] := by
  unfold Tells
  rw [outcome_sendToClient, packets_append]
  rfl

/-- Shutting down the client's side tells no packet; the effect that it records is not one that
sends anything. -/
theorem tells_shutdownClient (surroundings : Surroundings) (client : Client) :
    Tells (shutdownClient surroundings) client [] := by
  unfold Tells shutdownClient emit
  simp only [outcome_bind, outcome_get, outcome_set]
  have silent : packets (client.effects ++ [.shutdownClient]) = packets client.effects := by
    rw [packets_append]
    exact List.append_nil _
  rw [List.append_nil]
  cases surroundings.shutdown with
  | done => exact silent
  | timedOut => exact silent
  | broken kind =>
    dsimp only
    split
    · exact silent
    · exact silent

/-- A step that is silent wherever it starts adds nothing to the one before it. -/
theorem Tells.bind_silent {α β : Type} {step : Handling α} {next : α → Handling β}
    {client : Client} {told : List (Sending × Bytes)} (first : Tells step client told)
    (silent : ∀ value later, Tells (next value) later []) : Tells (step >>= next) client told := by
  cases run : outcome step client with
  | mk result later =>
    cases result with
    | error interruption => exact first.bind_error run
    | ok value => exact List.append_nil told ▸ first.bind_ok run (silent value later)

/-- A disconnect is one packet, before the shutdown. -/
theorem tells_sendDisconnect (surroundings : Surroundings) (what : Sending) (bytes : Bytes)
    (client : Client) : Tells (sendDisconnect surroundings what bytes) client [(what, bytes)] :=
  (tells_sendToClient surroundings what bytes client).bind_silent fun _ later =>
    tells_shutdownClient surroundings later

/-- Reading tells nothing. -/
theorem tells_onSocket {α : Type} (reader : Receiving α) (client : Client) :
    Tells (onSocket reader) client [] := by
  unfold Tells
  rw [outcome_onSocket, List.append_nil]

/-! ## Pings -/

/-- The stream begins with a ping. -/
def BeginsWithPing (stream timestamp : Bytes) : Prop :=
  ∃ frame body rest, stream = frame ++ rest ∧ IsFrame maxStatusPacketLength frame body ∧
    IsPing body timestamp

/-- Whatever ends the wait for a ping makes no ping out of it: a timeout, an end of the stream and
a packet that is too long all count as no ping. -/
theorem outcome_readStatusPing (socket later : Socket) (body : Bytes) :
    outcome readStatusPing socket = (.ok (some body), later) ↔
      outcome (readPacket maxStatusPacketLength) socket = (.ok body, later) := by
  unfold readStatusPing
  rw [outcome_tryCatch, outcome_bind]
  cases read : outcome (readPacket maxStatusPacketLength) socket with
  | mk result left =>
    cases result with
    | ok packet => simp
    | error interruption =>
      cases interruption with
      | pending => simp
      | panicked => simp
      | failed error =>
        dsimp only
        split
        · simp
        · simp

/-- A ping is answered with its own eight bytes, and nothing else is answered: a body that is no
ping ends the task without a packet. -/
theorem tells_answerPing (surroundings : Surroundings) (body : Bytes) (client : Client) :
    (∀ timestamp, IsPing body timestamp →
      Tells (answerPing surroundings (some body)) client [(.statusPong, pongTo timestamp)]) ∧
    ((∀ timestamp, ¬ IsPing body timestamp) →
      Tells (answerPing surroundings (some body)) client []) := by
  constructor
  · intro timestamp ping
    have fields := (statusPing_iff body _).mpr ⟨timestamp, ping, rfl⟩
    obtain ⟨_, _, _, counted⟩ := ping
    simp only [answerPing, fields, toBeBytes_read counted, encodePacket_pong counted]
    exact tells_sendToClient surroundings .statusPong (pongTo timestamp) client
  · intro other
    cases fields : readPacketFields readStatusPingFields body with
    | error interruption =>
      simp only [answerPing, fields]
      exact Tells.throw interruption client
    | ok value =>
      obtain ⟨timestamp, ping, -⟩ := (statusPing_iff body value).mp fields
      exact absurd ping (other timestamp)

/-- The end of a status exchange. -/
def awaitPing (surroundings : Surroundings) : Handling Unit := do
  let ping ← onSocket readStatusPing
  answerPing surroundings ping
  shutdownClient surroundings

/-- What follows the status is answered exactly if it begins with a ping. What is read there is a
frame under its own limit, and the answer is that of its body. -/
theorem tells_awaitPing (surroundings : Surroundings) (client : Client) :
    (∀ timestamp, BeginsWithPing client.socket.stream timestamp →
      Tells (awaitPing surroundings) client [(.statusPong, pongTo timestamp)]) ∧
    ((∀ timestamp, ¬ BeginsWithPing client.socket.stream timestamp) →
      Tells (awaitPing surroundings) client []) := by
  have answered {ping : Option Bytes} {told : List (Sending × Bytes)} {later : Socket}
      (read : outcome readStatusPing client.socket = (.ok ping, later))
      (answer : Tells (answerPing surroundings ping) { client with socket := later } told) :
      Tells (awaitPing surroundings) client told := by
    have done : outcome (onSocket readStatusPing) client =
        (.ok ping, { client with socket := later }) := by
      rw [outcome_onSocket, read]
    exact List.nil_append told ▸ (tells_onSocket readStatusPing client).bind_ok done
      (answer.bind_silent fun _ last => tells_shutdownClient surroundings last)
  constructor
  · rintro timestamp ⟨frame, body, rest, stream, isFrame, ping⟩
    obtain ⟨later, read, -⟩ := ((readPacket_reads maxStatusPacketLength).iff client.socket body
      rest).mpr ⟨frame, stream, isFrame⟩
    exact answered ((outcome_readStatusPing _ _ _).mpr read)
      ((tells_answerPing surroundings body _).1 timestamp ping)
  · intro other
    cases read : outcome readStatusPing client.socket with
    | mk result later =>
      cases result with
      | error interruption =>
        have failed : outcome (onSocket readStatusPing) client =
            (.error interruption, { client with socket := later }) := by
          rw [outcome_onSocket, read]
        exact (tells_onSocket readStatusPing client).bind_error failed
      | ok ping =>
        cases ping with
        | none => exact answered read (Tells.pure () _)
        | some body =>
          have taken := (outcome_readStatusPing _ _ _).mp read
          obtain ⟨frame, stream, isFrame⟩ := ((readPacket_reads maxStatusPacketLength).iff
            client.socket body later.stream).mp ⟨later, taken, rfl⟩
          refine answered read ((tells_answerPing surroundings body _).2 fun timestamp ping => ?_)
          exact other timestamp ⟨frame, body, _, stream, isFrame, ping⟩

/-! ## Answers -/

/-- Serving a status is the response, the time that passes until the ping, and the answer to
it. -/
theorem serveStatus_eq (responder : MinecraftResponder) (surroundings : Surroundings) :
    serveStatus responder surroundings =
      sendToClient surroundings .statusResponse responder.statusResponse >>= fun _ =>
        modify (fun client : Client =>
          { client with socket := surroundings.atPing client.socket }) >>= fun _ =>
          awaitPing surroundings := rfl

/-- A status is answered, and after that the ping that has come by then. The stream may have grown
in between, which is why the surroundings say what it holds there. -/
theorem tells_serveStatus (responder : MinecraftResponder) (surroundings : Surroundings)
    (client : Client) :
    (∀ timestamp, surroundings.sends .statusResponse = .done →
      BeginsWithPing (surroundings.atPing client.socket).stream timestamp →
      Tells (serveStatus responder surroundings) client
        [(.statusResponse, responder.statusResponse), (.statusPong, pongTo timestamp)]) ∧
    ((surroundings.sends .statusResponse = .done →
        ∀ timestamp, ¬ BeginsWithPing (surroundings.atPing client.socket).stream timestamp) →
      Tells (serveStatus responder surroundings) client
        [(.statusResponse, responder.statusResponse)]) := by
  have sent := outcome_sendToClient surroundings .statusResponse responder.statusResponse client
  have told := tells_sendToClient surroundings .statusResponse responder.statusResponse client
  rw [serveStatus_eq]
  have awaited {rest : List (Sending × Bytes)}
      (done : surroundings.sends .statusResponse = .done)
      (ping : Tells (awaitPing surroundings)
        ⟨surroundings.atPing client.socket,
          client.effects ++ [.toClient .statusResponse responder.statusResponse]⟩ rest) :
      Tells (sendToClient surroundings .statusResponse responder.statusResponse >>= fun _ =>
        modify (fun client : Client =>
          { client with socket := surroundings.atPing client.socket }) >>= fun _ =>
          awaitPing surroundings) client
        ((.statusResponse, responder.statusResponse) :: rest) := by
    rw [done] at sent
    refine told.bind_ok sent ?_
    unfold Tells at *
    rw [outcome_bind_ok _ _ (outcome_modify _ _)]
    exact ping
  constructor
  · intro timestamp done ping
    exact awaited done ((tells_awaitPing surroundings _).1 timestamp ping)
  · intro other
    cases done : surroundings.sends .statusResponse with
    | done => exact awaited done ((tells_awaitPing surroundings _).2 (other done))
    | broken kind =>
      rw [done] at sent
      exact told.bind_error sent
    | timedOut =>
      rw [done] at sent
      exact told.bind_error sent

/-- What a login is told in a phase, unless nobody is left to hear of its request. -/
def loginAnswer (responder : MinecraftResponder) (surroundings : Surroundings)
    (phase : ServerPhase) : List (Sending × Bytes) :=
  if World.wakes phase ∧ surroundings.trySend = .closed then []
  else if phase = .conflict then [(.conflictDisconnect, responder.conflictDisconnect)]
  else [(.loginDisconnect, responder.loginDisconnect)]

/-- A login is answered by the phase that was observed, after its wake was sent where the phase
wakes. -/
theorem tells_serveLogin (responder : MinecraftResponder) (surroundings : Surroundings)
    (observed : LifecycleState) (client : Client) :
    Tells (serveLogin responder surroundings observed) client
      (loginAnswer responder surroundings observed.phase) := by
  have disconnected (later : Client) : Tells (disconnectLogin responder surroundings observed) later
      (if observed.phase = .conflict then [(.conflictDisconnect, responder.conflictDisconnect)]
        else [(.loginDisconnect, responder.loginDisconnect)]) := by
    unfold disconnectLogin
    by_cases conflict : observed.phase = .conflict
    · rw [if_pos conflict, if_pos conflict]
      exact tells_sendDisconnect surroundings _ _ later
    · rw [if_neg conflict, if_neg conflict]
      exact tells_sendDisconnect surroundings _ _ later
  unfold serveLogin requestWake loginAnswer
  by_cases waking : World.wakes observed.phase
  · simp only [waking, ↓reduceIte, true_and]
    unfold trySendWake
    rw [bind_assoc]
    have asked : outcome (emit (.trySend ⟨observed⟩)) client =
        (.ok (), { client with effects := client.effects ++ [.trySend ⟨observed⟩] }) := rfl
    refine (tells_emit _ client).bind_ok asked ?_
    cases surroundings.trySend with
    | closed => exact Tells.throw _ _
    | sent => exact disconnected _
    | full => exact disconnected _
  · simp only [waking, Bool.false_eq_true, ↓reduceIte, false_and, pure_bind]
    exact disconnected client

/-- The packets that a task sends its client, in order. -/
def toldTo (responder : MinecraftResponder) (surroundings : Surroundings)
    (observed : LifecycleState) (socket : Socket) : List (Sending × Bytes) :=
  packets (outcome (handleClient responder surroundings observed) ⟨socket, []⟩).2.effects

/-- What a task tells its client once its request is read, in a phase without a proxy. -/
theorem told_request {responder : MinecraftResponder} {surroundings : Surroundings}
    {observed : LifecycleState} {socket later last : Socket} {connection : ConnectionEnvelope}
    {request : Option ClientRequest} {told : List (Sending × Bytes)}
    (nodelay : surroundings.clientNodelay = true)
    (running : observed.phase ≠ .running) (external : observed.phase ≠ .external)
    (readEnvelope : outcome ConnectionEnvelope.read socket = (.ok connection, later))
    (readRequest : outcome (readSleepingRequest responder connection) later = (.ok request, last))
    (answer : Tells (match request with
      | none => pure ()
      | some .status => serveStatus responder surroundings
      | some (.unsupportedProtocol _) =>
        sendDisconnect surroundings .incompatibleDisconnect responder.incompatibleDisconnect
      | some (.login _) => serveLogin responder surroundings observed) ⟨last, []⟩ told) :
    toldTo responder surroundings observed socket = told := by
  have enveloped : outcome (onSocket ConnectionEnvelope.read) ⟨socket, []⟩ =
      (.ok connection, ⟨later, []⟩) := by
    rw [outcome_onSocket, readEnvelope]
  have requested : outcome (onSocket (readSleepingRequest responder connection)) ⟨later, []⟩ =
      (.ok request, ⟨last, []⟩) := by
    rw [outcome_onSocket, readRequest]
  unfold toldTo handleClient handleSampledConnection serveSleeping
  rw [outcome_bind, outcome_ensure, if_pos nodelay]
  dsimp only
  rw [outcome_bind_ok _ _ enveloped, if_neg running, if_neg external,
    outcome_bind_ok _ _ requested]
  exact answer

/-- A task that gets no request tells its client nothing: it fails in the envelope, or in what has
to follow it, and each of these ends comes before the first packet. -/
theorem told_nothing {responder : MinecraftResponder} {surroundings : Surroundings}
    {observed : LifecycleState} {socket : Socket}
    (nodelay : surroundings.clientNodelay = true)
    (running : observed.phase ≠ .running) (external : observed.phase ≠ .external)
    (unopened : ∀ request rest, ¬ Opens responder.minecraftVersion socket.stream request rest) :
    toldTo responder surroundings observed socket = [] := by
  cases readEnvelope : outcome ConnectionEnvelope.read socket with
  | mk result later =>
    cases result with
    | error interruption =>
      unfold toldTo handleClient
      rw [outcome_bind, outcome_ensure, if_pos nodelay]
      dsimp only
      rw [outcome_bind, outcome_onSocket, readEnvelope]
      rfl
    | ok connection =>
      cases readRequest : outcome (readSleepingRequest responder connection) later with
      | mk result last =>
        cases result with
        | error interruption =>
          unfold toldTo handleClient handleSampledConnection serveSleeping
          rw [outcome_bind, outcome_ensure, if_pos nodelay]
          dsimp only
          rw [outcome_bind, outcome_onSocket, readEnvelope]
          dsimp only
          rw [if_neg running, if_neg external, outcome_bind, outcome_onSocket, readRequest]
          rfl
        | ok request =>
          cases request with
          | none =>
            exact told_request nodelay running external readEnvelope readRequest (Tells.pure () _)
          | some request =>
            exact absurd ((reads_request_iff responder socket request last.stream).mp
              ⟨connection, later, last, readEnvelope, readRequest, rfl⟩) (unopened request _)

/-- In a phase without a proxy, what a client is told depends on nothing but what its stream opens
with. A status request gets the prepared status and, if that was written, a ping that has come gets
its own eight bytes back; a login for another protocol gets the prepared refusal; and an accepted
login gets the message of the phase, unless the supervisor is gone. Any other stream gets
nothing. -/
theorem sleeping_clients_are_answered (responder : MinecraftResponder)
    (surroundings : Surroundings) (observed : LifecycleState) (socket : Socket)
    (nodelay : surroundings.clientNodelay = true)
    (running : observed.phase ≠ .running) (external : observed.phase ≠ .external) :
    ((∀ request rest, ¬ Opens responder.minecraftVersion socket.stream request rest) →
      toldTo responder surroundings observed socket = []) ∧
    (∀ rest, Opens responder.minecraftVersion socket.stream .status rest →
      ∃ later : Socket, later.stream = rest ∧
        (∀ timestamp, surroundings.sends .statusResponse = .done →
          BeginsWithPing (surroundings.atPing later).stream timestamp →
          toldTo responder surroundings observed socket =
            [(.statusResponse, responder.statusResponse), (.statusPong, pongTo timestamp)]) ∧
        ((surroundings.sends .statusResponse = .done →
            ∀ timestamp, ¬ BeginsWithPing (surroundings.atPing later).stream timestamp) →
          toldTo responder surroundings observed socket =
            [(.statusResponse, responder.statusResponse)])) ∧
    (∀ protocol rest,
      Opens responder.minecraftVersion socket.stream (.unsupportedProtocol protocol) rest →
      toldTo responder surroundings observed socket =
        [(.incompatibleDisconnect, responder.incompatibleDisconnect)]) ∧
    (∀ intent rest, Opens responder.minecraftVersion socket.stream (.login intent) rest →
      toldTo responder surroundings observed socket =
        loginAnswer responder surroundings observed.phase) := by
  refine ⟨told_nothing nodelay running external, ?_, ?_, ?_⟩
  · intro rest opens
    obtain ⟨connection, later, last, readEnvelope, readRequest, rfl⟩ :=
      (reads_request_iff responder socket _ rest).mpr opens
    obtain ⟨pinged, silent⟩ := tells_serveStatus responder surroundings ⟨last, []⟩
    refine ⟨last, rfl, fun timestamp done ping => ?_, fun other => ?_⟩
    · exact told_request nodelay running external readEnvelope readRequest
        (pinged timestamp done ping)
    · exact told_request nodelay running external readEnvelope readRequest (silent other)
  · intro protocol rest opens
    obtain ⟨connection, later, last, readEnvelope, readRequest, rfl⟩ :=
      (reads_request_iff responder socket _ rest).mpr opens
    exact told_request nodelay running external readEnvelope readRequest
      (tells_sendDisconnect surroundings _ _ _)
  · intro intent rest opens
    obtain ⟨connection, later, last, readEnvelope, readRequest, rfl⟩ :=
      (reads_request_iff responder socket _ rest).mpr opens
    exact told_request nodelay running external readEnvelope readRequest
      (tells_serveLogin responder surroundings observed _)

/-- A list ping of release 1.8 in three segments gets the status and its eight bytes back. -/
theorem fragmented_ping_is_echoed :
    toldTo plainResponder (obliging (.reconciling 0)) (.reconciling 0)
      ⟨[[7, 0, 47, 1, 97, 0x63], [0xdd, 1, 1, 0, 9, 1], [1, 2, 3, 4, 5, 6, 7, 8]], .silent []⟩ =
      [(.statusResponse, [1]), (.statusPong, [9, 1, 1, 2, 3, 4, 5, 6, 7, 8])] := by
  obtain ⟨-, status, -, -⟩ := sleeping_clients_are_answered plainResponder
    (obliging (.reconciling 0)) (.reconciling 0)
    ⟨[[7, 0, 47, 1, 97, 0x63], [0xdd, 1, 1, 0, 9, 1], [1, 2, 3, 4, 5, 6, 7, 8]], .silent []⟩
    rfl (by decide) (by decide)
  obtain ⟨later, stream, echoed, -⟩ := status [9, 1, 1, 2, 3, 4, 5, 6, 7, 8]
    ⟨[7, 0, 47, 1, 97, 0x63, 0xdd, 1], [0, 47, 1, 97, 0x63, 0xdd, 1], [1, 0], ['a'],
      ⟨47, (3, 4), 25565, .status⟩, rfl,
      ⟨[7], rfl, ⟨(terminated_singleton 7).mpr (by decide), by decide, rfl⟩, by decide⟩,
      ⟨[0], [47], [1], [0x63, 0xdd], [1], 1, 1, 0x63, 0xdd, by decide, .of_decoded rfl,
        .of_decoded rfl, .of_decoded rfl, by decide, rfl, by decide, rfl, by decide,
        .of_decoded rfl, rfl⟩, rfl, [0],
      ⟨[1], rfl, ⟨(terminated_singleton 1).mpr (by decide), by decide, rfl⟩, by decide⟩,
      .of_decoded rfl⟩
  refine echoed [1, 2, 3, 4, 5, 6, 7, 8] rfl ⟨[9, 1, 1, 2, 3, 4, 5, 6, 7, 8],
    [1, 1, 2, 3, 4, 5, 6, 7, 8], [], ?_,
    ⟨[9], rfl, ⟨(terminated_singleton 9).mpr (by decide), by decide, rfl⟩, by decide⟩,
    [1], rfl, .of_decoded rfl, rfl⟩
  rw [List.append_nil]
  exact stream

end McServerNap
