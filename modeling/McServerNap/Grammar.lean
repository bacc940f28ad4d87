import McServerNap.Framing

/-!
# The packets a sleeping server understands

The grammars of the handshake body and of the four login starts, and that the two
parsers accept exactly these. A handshake's address is kept as a range of the body
and later sliced out of the frame; the slice is shown to be the address.
-/

namespace McServerNap

open Encoding

/-! ## Handshakes -/

/-- The body of a handshake with its address and the values of its other fields. -/
def IsHandshake (body : Bytes) (address : List Char) (handshake : Handshake) : Prop :=
  ∃ (packetId protocol length port intent : Bytes) (addressLength intentValue : Int32)
    (high low : UInt8),
    body = packetId ++ protocol ++ length ++ utf8 address ++ port ++ intent ∧
      IsVarint packetId 0 ∧ IsVarint protocol handshake.protocolVersion ∧
      IsVarint length addressLength ∧ addressLength.toInt = (utf8 address).length ∧
      handshake.requestedAddressRange.1 = (packetId ++ protocol ++ length).length ∧
      handshake.requestedAddressRange.2 =
        handshake.requestedAddressRange.1 + (utf8 address).length ∧
      port = [high, low] ∧
      handshake.requestedPort = UInt16.ofNat (high.toNat * 256 + low.toNat) ∧
      IsVarint intent intentValue ∧ handshake.intent = HandshakeIntent.ofValue intentValue

/-- The fields of a handshake before the check that nothing follows. -/
def handshakeFields : Reading Handshake := do
  ensure ((← PacketCursor.readVarint) = 0) .expectedHandshake
  let protocolVersion ← PacketCursor.readVarint
  let requestedAddressRange ← PacketCursor.readUtf8StringRange
  let requestedPort ← PacketCursor.readU16
  let intent ← PacketCursor.readVarint
  return ⟨protocolVersion, requestedAddressRange, requestedPort, HandshakeIntent.ofValue intent⟩

/-- A handshake is read field by field, and nothing may follow. -/
theorem readHandshakeFields_eq : readHandshakeFields =
    handshakeFields >>= fun read => PacketCursor.ensureFinished >>= fun _ => pure read := by
  simp only [readHandshakeFields, handshakeFields, bind_assoc, pure_bind]

/-- The fields of a handshake are its id, version, address, port and intent, in this order, and
the address keeps its range in the packet. -/
theorem handshakeFields_reads : FieldReads (2 ^ 32) handshakeFields
    (fun before field handshake => ∃ (packetId protocol text port intent : Bytes)
      (address : List Char) (intentValue : Int32) (high low : UInt8),
      field = packetId ++ protocol ++ text ++ port ++ intent ∧ IsVarint packetId 0 ∧
        IsVarint protocol handshake.protocolVersion ∧
        IsString (before ++ packetId ++ protocol) text address
          handshake.requestedAddressRange.1 handshake.requestedAddressRange.2 ∧
        port = [high, low] ∧
        handshake.requestedPort = UInt16.ofNat (high.toNat * 256 + low.toNat) ∧
        IsVarint intent intentValue ∧
        handshake.intent = HandshakeIntent.ofValue intentValue) := by
  have chain : FieldReads (5 + (0 + (5 + ((5 + 2 ^ 31) + (2 + (5 + 0)))))) handshakeFields _ :=
    readVarint_reads.bind fun packetId _ => (ensure_reads (packetId = 0) _).bind fun _ _ =>
      readVarint_reads.bind fun protocolVersion _ => readUtf8StringRange_reads.bind fun range _ =>
      readU16_reads.bind fun port _ => readVarint_reads.bind fun intent _ =>
        Reads.pure (Handshake.mk protocolVersion range port (HandshakeIntent.ofValue intent))
  apply (chain.relax (by decide)).congr
  intro before field handshake
  simp only [silent_followed]
  constructor
  · rintro ⟨packetId, _, _, rfl, isId, _, rfl, protocol, _, _, rfl, isProtocol, text, _, range, rfl,
      ⟨address, isString⟩, portField, _, port, rfl, ⟨high, low, isPort, value⟩, intent, _,
      intentValue, rfl, isIntent, rfl, rfl⟩
    exact ⟨packetId, protocol, text, portField, intent, address, intentValue, high, low, by simp,
      isId, isProtocol, isString, isPort, value, isIntent, rfl⟩
  · rintro ⟨packetId, protocol, text, portField, intent, address, intentValue, high, low, rfl, isId,
      isProtocol, isString, isPort, value, isIntent, meant⟩
    refine ⟨packetId, protocol ++ (text ++ (portField ++ intent)), 0, by simp, isId, ⟨⟩, rfl,
      protocol, text ++ (portField ++ intent), _, rfl, isProtocol, text, portField ++ intent, _,
      rfl, ⟨address, isString⟩, portField, intent, _, rfl, ⟨high, low, isPort, value⟩, intent, [],
      intentValue, by simp, isIntent, rfl, ?_⟩
    cases handshake
    simp only [Handshake.mk.injEq, true_and]
    exact meant

/-- `parse_handshake` accepts exactly the bodies of the grammar. The handshake keeps only the
range of the address, so the address itself is found for it here. -/
theorem parseHandshake_iff (body : Bytes) (handshake : Handshake) :
    parseHandshake body = .ok handshake ↔ ∃ address, IsHandshake body address handshake := by
  rw [parseHandshake, readHandshakeFields_eq, whole_packet handshakeFields_reads (by decide)]
  constructor
  · rintro ⟨packetId, protocol, text, port, intent, address, intentValue, high, low, rfl, isId,
      isProtocol, ⟨length, addressLength, rfl, isLength, counted, started, stopped⟩, isPort, value,
      isIntent, meant⟩
    exact ⟨address, packetId, protocol, length, port, intent, addressLength, intentValue, high, low,
      by simp, isId, isProtocol, isLength, counted, by simpa [Nat.add_assoc] using started, stopped, isPort,
      value, isIntent, meant⟩
  · rintro ⟨address, packetId, protocol, length, port, intent, addressLength, intentValue, high,
      low, rfl, isId, isProtocol, isLength, counted, started, stopped, isPort, value, isIntent,
      meant⟩
    exact ⟨packetId, protocol, length ++ utf8 address, port, intent, address, intentValue, high,
      low, by simp, isId, isProtocol, ⟨length, addressLength, rfl, isLength, counted,
        by simpa [Nat.add_assoc] using started, stopped⟩, isPort, value, isIntent, meant⟩

/-- The address stands in the body where the parser says. -/
theorem IsHandshake.address_range {body : Bytes} {address : List Char} {handshake : Handshake}
    (isHandshake : IsHandshake body address handshake) :
    ∃ before after, body = before ++ utf8 address ++ after ∧
      handshake.requestedAddressRange = (before.length, before.length + (utf8 address).length) := by
  obtain ⟨packetId, protocol, length, port, intent, _, _, _, _, rfl, _, _, _, _, started, stopped,
    _⟩ := isHandshake
  exact ⟨packetId ++ protocol ++ length, port ++ intent, by simp, Prod.ext started
    (by rw [stopped, started])⟩

/-- The envelope of a frame whose body starts at an offset. -/
def envelopeOf (framedHandshake : Bytes) (bodyOffset : Nat) (handshake : Handshake) :
    ConnectionEnvelope where
  framedHandshake := framedHandshake
  protocolVersion := handshake.protocolVersion
  requestedAddressRange := (bodyOffset + handshake.requestedAddressRange.1,
    bodyOffset + handshake.requestedAddressRange.2)
  requestedPort := handshake.requestedPort
  intent := handshake.intent

/-- An envelope is what the handshake inside its frame parses to. -/
theorem ofFrame_eq (framedHandshake : Bytes) (bodyOffset : Nat)
    (inside : bodyOffset ≤ framedHandshake.length) :
    ConnectionEnvelope.ofFrame framedHandshake bodyOffset =
      parsed (parseHandshake (framedHandshake.drop bodyOffset)) >>= fun handshake =>
        pure (envelopeOf framedHandshake bodyOffset handshake) := by
  have sliced : slice (σ := Socket) framedHandshake bodyOffset framedHandshake.length =
      pure (framedHandshake.drop bodyOffset) := by
    rw [slice, if_pos ⟨inside, Nat.le_refl _⟩, List.take_of_length_le (by simp)]
  rw [ConnectionEnvelope.ofFrame, sliced, pure_bind]
  cases parseHandshake (framedHandshake.drop bodyOffset) <;> rfl

/-- Reading an envelope takes the frame of an accepted handshake and nothing else, which is what
the client is forwarded with. The parser takes no byte of the stream. -/
theorem envelope_reads : StreamReads (3 + maxHandshakePacketLength) ConnectionEnvelope.read
    (fun field connection => ∃ lengthField body handshake, field = lengthField ++ body ∧
      IsLength lengthField body.length ∧ body.length ≤ maxHandshakePacketLength ∧
      parseHandshake body = .ok handshake ∧
      connection = envelopeOf field lengthField.length handshake) := by
  apply StreamReads.timeoutAt
  intro ending room
  have chain : Reads (SocketAt ending) room ((3 + maxHandshakePacketLength) + (0 + 0))
      ConnectionEnvelope.readInner
      (Followed (fun _ field (result : Bytes × Nat) => ∃ body, IsFrame maxHandshakePacketLength field body ∧
          result.1 = field ∧ result.2 + body.length = field.length)
        fun result => Followed
          (Silent fun _ handshake => parseHandshake (result.1.drop result.2) = .ok handshake)
          fun handshake => Silent fun _ connection =>
            connection = envelopeOf result.1 result.2 handshake) :=
    (readHandshakeFrame_reads ending room).bind fun result formed => by
      obtain ⟨_, field, body, _, whole, offset⟩ := formed
      have inside : result.2 ≤ result.1.length := by
        rw [whole]
        omega
      change Reads (SocketAt ending) room (0 + 0) (ConnectionEnvelope.ofFrame result.1 result.2) _
      rw [ofFrame_eq _ _ inside]
      exact (parsed_reads _ ending room).bind fun handshake _ => Reads.pure _
  apply chain.congr
  intro before field connection
  simp only [silent_followed]
  constructor
  · rintro ⟨_, _, ⟨framed, offset⟩, rfl, ⟨body, frame, rfl, counted⟩, handshake, accepted, rfl,
      rfl⟩
    rw [frame.drop_offset counted] at accepted
    obtain ⟨lengthField, whole, isLength, within⟩ := frame
    dsimp only at whole counted ⊢
    have same : offset = lengthField.length := by
      rw [whole, List.length_append] at counted
      omega
    exact ⟨lengthField, body, handshake, by simpa using whole, isLength, within, accepted,
      by rw [same, List.append_nil]⟩
  · rintro ⟨lengthField, body, handshake, rfl, isLength, within, accepted, rfl⟩
    exact ⟨lengthField ++ body, [], (lengthField ++ body, lengthField.length), by simp,
      ⟨body, ⟨lengthField, rfl, isLength, within⟩, rfl, by simp⟩, handshake, by simpa using accepted,
      rfl, rfl⟩

/-- The address of an envelope is the address of its handshake: the range that the parser noted,
moved behind the length field, cuts the text of the address out of the frame. -/
theorem requestedAddress_envelopeOf {lengthField body : Bytes} {address : List Char}
    {handshake : Handshake} (isHandshake : IsHandshake body address handshake) :
    (envelopeOf (lengthField ++ body) lengthField.length handshake).requestedAddress =
      .ok address := by
  obtain ⟨before, after, rfl, range⟩ := isHandshake.address_range
  have inside : lengthField.length + before.length ≤
        lengthField.length + (before.length + (utf8 address).length) ∧
      lengthField.length + (before.length + (utf8 address).length) ≤
        (lengthField ++ (before ++ utf8 address ++ after)).length := by
    simp only [List.length_append]
    omega
  have sliced : ((lengthField ++ (before ++ utf8 address ++ after)).drop
        (lengthField.length + before.length)).take
          (lengthField.length + (before.length + (utf8 address).length) -
            (lengthField.length + before.length)) = utf8 address := by
    have width : lengthField.length + (before.length + (utf8 address).length) -
        (lengthField.length + before.length) = (utf8 address).length := by omega
    rw [width, ← List.drop_drop, List.drop_left, List.append_assoc, List.drop_left, List.take_left]
  simp only [ConnectionEnvelope.requestedAddress, envelopeOf, range, if_pos inside, sliced,
    fromUtf8_utf8]

/-- `parse_handshake` accepts exactly its grammar and returns its components, and the
address of every envelope that was read is the address of its handshake. -/
theorem parse_handshake_accepts_its_grammar :
    (∀ (body : Bytes) (handshake : Handshake),
      parseHandshake body = .ok handshake ↔ ∃ address, IsHandshake body address handshake) ∧
    (∀ (socket later : Socket) (connection : ConnectionEnvelope),
      outcome ConnectionEnvelope.read socket = (.ok connection, later) →
        ∃ lengthField body, connection.framedHandshake = lengthField ++ body ∧
          IsLength lengthField body.length ∧
          (∃ address handshake, IsHandshake body address handshake) ∧
          ∀ address handshake, IsHandshake body address handshake →
            connection.requestedAddress = .ok address) := by
  refine ⟨parseHandshake_iff, fun socket later connection read => ?_⟩
  obtain ⟨field, _, lengthField, body, handshake, rfl, isLength, _, accepted, rfl⟩ :=
    (envelope_reads.iff socket connection later.stream).mp ⟨later, read, rfl⟩
  refine ⟨lengthField, body, rfl, isLength, ?_, fun address known isHandshake => ?_⟩
  · obtain ⟨address, isHandshake⟩ := (parseHandshake_iff body handshake).mp accepted
    exact ⟨address, handshake, isHandshake⟩
  · have sameHandshake : handshake = known := by
      have accepted' := (parseHandshake_iff body known).mpr ⟨address, isHandshake⟩
      rw [accepted] at accepted'
      exact Except.ok.inj accepted'
    rw [sameHandshake]
    exact requestedAddress_envelopeOf isHandshake

/-- A handshake for protocol 47 whose packet id takes two bytes, alone and in a frame
that arrives in two segments. -/
theorem padded_handshake_is_parsed :
    parseHandshake [0x80, 0x00, 47, 1, 97, 0x63, 0xdd, 2] = .ok ⟨47, (4, 5), 25565, .login⟩ ∧
      ∃ address, ConnectionEnvelope.requestedAddress
        ⟨[8, 0x80, 0x00, 47, 1, 97, 0x63, 0xdd, 2], 47, (5, 6), 25565, .login⟩ = .ok address := by
  constructor
  · exact (parse_handshake_accepts_its_grammar.1 _ _).mpr
      ⟨['a'], [0x80, 0x00], [47], [1], [0x63, 0xdd], [2], 1, 2, 0x63, 0xdd, by decide,
        .of_decoded rfl, .of_decoded rfl, .of_decoded rfl, by decide, rfl, by decide, rfl,
        by decide, .of_decoded rfl, rfl⟩
  · obtain ⟨_, _, _, _, ⟨address, handshake, isHandshake⟩, every⟩ :=
      parse_handshake_accepts_its_grammar.2
        ⟨[[8, 0x80, 0x00], [47, 1, 97, 0x63, 0xdd, 2, 7]], .silent []⟩ ⟨[[7]], .silent []⟩
        ⟨[8, 0x80, 0x00, 47, 1, 97, 0x63, 0xdd, 2], 47, (5, 6), 25565, .login⟩ (by decide +kernel)
    exact ⟨address, every address handshake isHandshake⟩

/-! ## Login starts -/

/-- What follows the name in each layout. -/
def IsUuidPart : InitialProtocol → Bytes → Prop
  | .noUuid, field => field = []
  | .optionalUuid, field => field = [0] ∨ ∃ uuid, uuid.length = 16 ∧ field = 1 :: uuid
  | .requiredUuid, field => field.length = 16
  | .requiredUuidAndTransfer, field => field.length = 16

/-- The body of a login start. -/
def IsLoginStart (layout : InitialProtocol) (body : Bytes) : Prop :=
  ∃ (packetId length uuid : Bytes) (nameLength : Int32) (name : List Char),
    body = packetId ++ length ++ utf8 name ++ uuid ∧ IsVarint packetId 0 ∧
      IsVarint length nameLength ∧ nameLength.toInt = (utf8 name).length ∧ name ≠ [] ∧
      utf16Units name ≤ 16 ∧ IsUuidPart layout uuid

/-- Sixteen bytes are skipped, whatever they are; fewer are refused. -/
theorem sixteen_reads : FieldReads 16
    (PacketCursor.readBytes 16 >>= fun _ => (pure () : Reading Unit))
    (fun _ field _ => field.length = 16) := by
  have chain : FieldReads (16 + 0) (PacketCursor.readBytes 16 >>= fun _ => (pure () : Reading Unit))
      _ := (readBytes_reads 16).bind fun _ _ => Reads.pure ()
  apply chain.congr
  intro before field value
  constructor
  · rintro ⟨_, _, _, rfl, ⟨counted, _⟩, rfl, _⟩
    simpa using counted
  · intro counted
    exact ⟨field, [], field, by simp, ⟨counted, rfl⟩, rfl, rfl⟩

/-- What follows the name is what the layout says: nothing, a UUID, or one behind a flag. -/
theorem readLoginUuid_reads (layout : InitialProtocol) :
    FieldReads 17 (readLoginUuid layout) (fun _ field _ => IsUuidPart layout field) := by
  cases layout with
  | noUuid =>
    exact ((Reads.pure ()).relax (Nat.zero_le _)).congr fun _ field _ => by
      simp [Silent, IsUuidPart]
  | requiredUuid => exact sixteen_reads.relax (by decide)
  | requiredUuidAndTransfer => exact sixteen_reads.relax (by decide)
  | optionalUuid =>
    have chain : FieldReads (1 + 16) (readLoginUuid .optionalUuid)
        (Followed (fun _ field (value : Bool) => field = [if value then 1 else 0]) fun present =>
          fun _ field _ => if present then field.length = 16 else field = []) :=
      readBool_reads.bind fun present _ => by
        cases present with
        | false =>
          exact ((Reads.pure ()).relax (Nat.zero_le _)).congr fun _ field _ => by simp [Silent]
        | true => exact sixteen_reads
    apply chain.congr
    intro before field value
    constructor
    · rintro ⟨_, rest, present, rfl, rfl, after⟩
      cases present with
      | false => exact Or.inl (by simpa using after)
      | true => exact Or.inr ⟨rest, by simpa using after, rfl⟩
    · rintro (rfl | ⟨uuid, counted, rfl⟩)
      · exact ⟨[0], [], false, rfl, rfl, rfl⟩
      · exact ⟨[1], uuid, true, rfl, rfl, by simpa using counted⟩

/-- The fields of a login start before the check that nothing follows. -/
def loginStartFields (layout : InitialProtocol) : Reading Unit := do
  ensure ((← PacketCursor.readVarint) = 0) .expectedLoginStart
  let username ← PacketCursor.readString 16
  ensure (username ≠ []) .emptyUsername
  readLoginUuid layout

/-- A login start is read field by field, and nothing may follow. -/
theorem readLoginStartFields_eq (layout : InitialProtocol) : readLoginStartFields layout =
    loginStartFields layout >>= fun read => PacketCursor.ensureFinished >>= fun _ => pure read := by
  simp only [readLoginStartFields, loginStartFields, bind_assoc, bind_pure_unit]

/-- Its fields are the id, the name, and what follows it in the layout. The readers are chained in
this order, and the forms of the fields with them. -/
theorem loginStartFields_reads (layout : InitialProtocol) :
    FieldReads (2 ^ 32) (loginStartFields layout)
      (fun _ field _ => IsLoginStart layout field) := by
  have chain : FieldReads (5 + (0 + ((5 + 2 ^ 31) + (0 + 17)))) (loginStartFields layout) _ :=
    readVarint_reads.bind fun packetId _ => (ensure_reads (packetId = 0) _).bind fun _ _ =>
      (readString_reads 16).bind fun username _ => (ensure_reads (username ≠ []) _).bind fun _ _ =>
        readLoginUuid_reads layout
  apply (chain.relax (by decide)).congr
  intro before field value
  simp only [silent_followed]
  constructor
  · rintro ⟨packetId, _, _, rfl, isId, _, rfl, _, uuid, name, rfl,
      ⟨⟨length, nameLength, rfl, isLength, counted⟩, units⟩, _, nonempty, isUuid⟩
    exact ⟨packetId, length, uuid, nameLength, name, by simp, isId, isLength, counted, nonempty,
      units, isUuid⟩
  · rintro ⟨packetId, length, uuid, nameLength, name, rfl, isId, isLength, counted, nonempty,
      units, isUuid⟩
    exact ⟨packetId, length ++ utf8 name ++ uuid, 0, by simp, isId, ⟨⟩, rfl, length ++ utf8 name,
      uuid, name, rfl, ⟨⟨length, nameLength, rfl, isLength, counted⟩, units⟩, ⟨⟩, nonempty, isUuid⟩

/-- A body is a login start of the layout exactly when it has this form as a whole. -/
theorem loginStart_iff (layout : InitialProtocol) (body : Bytes) :
    readPacketFields (readLoginStartFields layout) body = .ok () ↔ IsLoginStart layout body := by
  rw [readLoginStartFields_eq, whole_packet (loginStartFields_reads layout) (by decide)]

/-- What follows the name takes a flag and a UUID at most. -/
theorem IsUuidPart.length_le {layout : InitialProtocol} {field : Bytes}
    (isUuid : IsUuidPart layout field) : field.length ≤ 17 := by
  cases layout with
  | noUuid => simp [show field = [] from isUuid]
  | optionalUuid =>
    rcases isUuid with rfl | ⟨uuid, counted, rfl⟩
    · decide
    · simp [counted]
  | requiredUuid => exact Nat.le_succ_of_le (Nat.le_of_eq isUuid)
  | requiredUuidAndTransfer => exact Nat.le_succ_of_le (Nat.le_of_eq isUuid)

/-- Two VarInts, a name of 48 bytes and an identifier of 17 stay within the frame. -/
theorem IsLoginStart.length_le {layout : InitialProtocol} {body : Bytes}
    (isLoginStart : IsLoginStart layout body) : body.length ≤ maxLoginStartPacketLength := by
  obtain ⟨packetId, length, uuid, _, name, rfl, isId, isLength, _, _, units, isUuid⟩ := isLoginStart
  have idFits := isId.short
  have lengthFits := isLength.short
  have nameFits := utf8_length_le name
  have uuidFits := isUuid.length_le
  have limit : maxLoginStartPacketLength = 128 := rfl
  simp only [List.length_append]
  omega

/-- `parse_login_start` accepts exactly its grammar in every layout. The limit on the
bytes of a name refuses no name of sixteen code units, and the limit on the frame
refuses no login start of the grammar. -/
theorem parse_login_start_accepts_its_grammar :
    (∀ (layout : InitialProtocol) (body : Bytes),
      readPacketFields (readLoginStartFields layout) body = .ok () ↔ IsLoginStart layout body) ∧
    (∀ (version : MinecraftVersion) (body : Bytes),
      parseLoginStart body version = .ok () ↔ IsLoginStart version.initialProtocol body) ∧
    (∀ name : List Char, utf16Units name ≤ 16 → (utf8 name).length ≤ 3 * 16) ∧
    (∀ (layout : InitialProtocol) (body : Bytes),
      IsLoginStart layout body → body.length ≤ maxLoginStartPacketLength) ∧
    (∀ (layout : InitialProtocol) (socket : Socket) (lengthField body rest : Bytes),
      IsLoginStart layout body → IsLength lengthField body.length →
        socket.stream = lengthField ++ body ++ rest →
          ∃ later, outcome (readInitialPacket maxLoginStartPacketLength) socket = (.ok body, later) ∧
            later.stream = rest) := by
  refine ⟨loginStart_iff, fun version body => loginStart_iff version.initialProtocol body,
    fun name units => ?_, fun layout body isLoginStart => isLoginStart.length_le,
    fun layout socket lengthField body rest isLoginStart isLength stream => ?_⟩
  · have bytes := utf8_length_le name
    omega
  · exact (((readPacket_reads maxLoginStartPacketLength).timeoutAt .exchangeTimedOut).iff socket
      body rest).mpr ⟨lengthField ++ body, stream, lengthField, rfl, isLength,
        isLoginStart.length_le⟩

/-- A name of one code unit and an identifier of sixteen bytes are a login start where the layout
requires the identifier. -/
theorem short_login_start_is_parsed :
    readPacketFields (readLoginStartFields .requiredUuid)
      ([0, 1, 97] ++ List.replicate 16 0) = .ok () :=
  (parse_login_start_accepts_its_grammar.1 _ _).mpr
    ⟨[0], [1], List.replicate 16 0, 1, ['a'], by decide, .of_decoded rfl, .of_decoded rfl,
      by decide, by decide, by decide, rfl⟩

end McServerNap
