import McServerNap.Framing

/-!
# What the encoders write is read back

A VarInt is written in as few bytes as its value allows, so the length of a frame
takes three bytes at most. A string within the limit of code units stays within the
limit of bytes that its reader checks first, and within what a frame can carry.
-/

namespace McServerNap

open Encoding

/-! ## Written VarInts -/

/-- The low seven bits are what remains modulo 128. -/
theorem low_group (remaining : UInt32) :
    (remaining &&& 0x7f).toUInt8.toNat = remaining.toNat % 128 := by
  have masked : (remaining &&& 0x7f).toNat = remaining.toNat % 128 := by
    rw [UInt32.toNat_and]
    exact Nat.and_two_pow_sub_one_eq_mod remaining.toNat 7
  rw [UInt32.toNat_toUInt8, masked]
  omega

/-- Setting the continuation bit of a group. -/
theorem continued_group (byte : UInt8) (group : byte.toNat < 128) :
    (byte ||| 0x80).toNat = 128 + byte.toNat := by
  have joined := Nat.two_pow_add_eq_or_of_lt (i := 7) group 1
  rw [UInt8.toNat_or, Nat.or_comm]
  exact joined.symm

/-- The written bytes are a terminated number in its shortest spelling. The induction is that of
the loop, which writes the low group and goes on with the rest of the value. -/
theorem writeVarintFrom_spec (remaining : UInt32) (output : Bytes) :
    ∃ field, writeVarintFrom remaining output = output ++ field ∧ Terminated field ∧
      groups field = remaining.toNat ∧
      (field.length = 1 ∨ 128 ^ (field.length - 1) ≤ remaining.toNat) := by
  induction remaining, output using writeVarintFrom.induct with
  | case1 remaining output byte follows inductionHypothesis =>
    obtain ⟨field, written, terminated, spells, shortest⟩ := inductionHypothesis
    have low : byte.toNat = remaining.toNat % 128 := low_group remaining
    have continued := continued_group byte (by omega)
    have shifted := shift_group remaining
    have positive := terminated.pos
    refine ⟨(byte ||| 0x80) :: field, ?_, ?_, ?_, Or.inr ?_⟩
    · rw [writeVarintFrom, if_pos follows, written, List.append_assoc, List.singleton_append]
    · exact (terminated_cons _ _).mpr (Or.inr ⟨by omega, terminated⟩)
    · simp only [groups_cons, spells, continued]
      omega
    · simp only [List.length_cons, Nat.add_sub_cancel]
      rcases shortest with single | bounded
      · have nonzero : (remaining >>> 7).toNat ≠ 0 := fun zero =>
          follows (UInt32.toNat_inj.mp (by simpa using zero))
        rw [single]
        omega
      · obtain ⟨count, counted⟩ : ∃ count, field.length = count + 1 :=
          ⟨field.length - 1, by omega⟩
        rw [counted, Nat.add_sub_cancel] at bounded
        rw [counted, Nat.pow_succ]
        omega
  | case2 remaining output ends =>
    have small : remaining.toNat < 128 := by
      have shifted := shift_group remaining
      have zero : (remaining >>> 7).toNat = 0 := by
        rw [Decidable.not_not.mp ends]
        rfl
      omega
    have low := low_group remaining
    refine ⟨[(remaining &&& 0x7f).toUInt8], ?_, ?_, ?_, Or.inl rfl⟩
    · rw [writeVarintFrom, if_neg ends]
    · rw [terminated_singleton]
      omega
    · simp only [groups_cons, groups_nil]
      omega

/-- A number of 32 bits whose shortest spelling has the given length. There are five lengths, and
the comparisons of `varint_size` tell them apart. -/
theorem size_of_bounds (bits length : Nat) (shortest : length = 1 ∨ 128 ^ (length - 1) ≤ bits)
    (fits : bits < 128 ^ length) (word : bits < 2 ^ 32) :
    length = if bits ≤ 0x7f then 1 else if bits ≤ 0x3fff then 2 else if bits ≤ 0x1fffff then 3
      else if bits ≤ 0xfffffff then 4 else 5 := by
  match length with
  | 0 => omega
  | 1 => rw [if_pos (by omega)]
  | 2 => rw [if_neg (by omega), if_pos (by omega)]
  | 3 => rw [if_neg (by omega), if_neg (by omega), if_pos (by omega)]
  | 4 => rw [if_neg (by omega), if_neg (by omega), if_neg (by omega), if_pos (by omega)]
  | 5 => rw [if_neg (by omega), if_neg (by omega), if_neg (by omega), if_neg (by omega)]
  | more + 6 =>
    -- Five groups already hold 35 bits.
    have power : 128 ^ 5 ≤ 128 ^ (more + 6 - 1) := Nat.pow_le_pow_right (by decide) (by omega)
    omega

/-- `write_varint` appends a VarInt of the size that `varint_size` announces. The size is found by
comparing the value with powers of 128, as the shortest spelling is. -/
theorem writeVarint_spec (value : Int32) :
    IsVarint (writeVarint value []) value ∧
      (writeVarint value []).length = varintSize value ∧
      ∀ output, writeVarint value output = output ++ writeVarint value [] := by
  obtain ⟨field, written, terminated, spells, shortest⟩ :=
    writeVarintFrom_spec value.toUInt32 []
  have bound := groups_lt field
  have word := value.toUInt32.toNat_lt
  have size := size_of_bounds value.toUInt32.toNat field.length shortest (by omega) (by omega)
  have announced : field.length = varintSize value := by
    rw [size, varintSize]
    simp only [UInt32.le_iff_toNat_le, UInt32.reduceToNat]
  have short : field.length ≤ 5 := by
    rw [size]
    split_ifs <;> omega
  have whole : writeVarint value [] = field := by rw [writeVarint, written, List.nil_append]
  rw [whole]
  refine ⟨⟨terminated, short, spells⟩, announced, fun output => ?_⟩
  -- The bytes do not depend on what stands before them.
  obtain ⟨other, written', terminated', spells', shortest'⟩ :=
    writeVarintFrom_spec value.toUInt32 output
  rw [writeVarint, written']
  congr 1
  have bound' := groups_lt other
  have size' := size_of_bounds value.toUInt32.toNat other.length shortest' (by omega) (by omega)
  exact Terminated.eq_of_groups terminated' terminated (by omega) (by omega)

/-- A written VarInt is decoded, whatever follows it. -/
theorem writeVarint_decoded (value : Int32) (rest : Bytes) :
    decodeVarint (writeVarint value [] ++ rest) = .ok (value, varintSize value) := by
  obtain ⟨varint, size, _⟩ := writeVarint_spec value
  rw [varint.decoded rest, size]

/-- A length below 2³¹ is kept by the conversion to a signed number. -/
theorem ofNat_toNat (length : Nat) (small : length < 2 ^ 31) :
    (Int32.ofNat length).toUInt32.toNat = length := by
  change (BitVec.ofNat 32 length).toNat = length
  rw [BitVec.toNat_ofNat]
  exact Nat.mod_eq_of_lt (by omega)

/-- The length of a frame takes at most three bytes. -/
theorem writeVarint_isLength (length : Nat) (allowed : length ≤ maxPacketLength) :
    IsLength (writeVarint (Int32.ofNat length) []) length := by
  have limit : maxPacketLength = 0x1fffff := rfl
  have value := ofNat_toNat length (by omega)
  obtain ⟨varint, size, _⟩ := writeVarint_spec (Int32.ofNat length)
  refine ⟨varint.terminated, ?_, varint.spells.trans value⟩
  rw [size, varintSize]
  simp only [UInt32.le_iff_toNat_le, value, UInt32.reduceToNat]
  split_ifs <;> omega

/-! ## Encoded packets -/

/-- `encode_packet` fails for one reason only: the body, which is the id and the payload, is
longer than a packet may be. The overflow before that check is the same reason, for a longer
body. -/
theorem encodePacket_eq (packetId : Int32) (payload : Bytes) :
    encodePacket packetId payload =
      if varintSize packetId + payload.length ≤ maxPacketLength then
        .ok (writeVarint (Int32.ofNat (varintSize packetId + payload.length)) [] ++
          (writeVarint packetId [] ++ payload))
      else if varintSize packetId + payload.length < 2 ^ 64 then .error .packetExceedsProtocolLimit
      else .error .packetLengthOverflow := by
  have limit : maxPacketLength = 0x1fffff := rfl
  obtain ⟨_, _, appended⟩ := writeVarint_spec packetId
  unfold encodePacket usizeCheckedAdd i32TryFrom
  by_cases allowed : varintSize packetId + payload.length ≤ maxPacketLength
  · rw [if_pos (by omega : varintSize packetId + payload.length < 2 ^ 64), if_pos allowed]
    dsimp only
    rw [if_pos allowed, if_pos (by omega : varintSize packetId + payload.length < 2 ^ 31)]
    dsimp only
    rw [appended, List.append_assoc]
  · by_cases word : varintSize packetId + payload.length < 2 ^ 64
    · rw [if_pos word, if_neg allowed, if_pos word]
      dsimp only
      rw [if_neg allowed]
    · rw [if_neg word, if_neg allowed, if_neg word]

/-- A packet can be encoded exactly when its id and payload fit the protocol's limit. -/
theorem encodePacket_ok_iff (packetId : Int32) (payload : Bytes) :
    (∃ packet, encodePacket packetId payload = .ok packet) ↔
      varintSize packetId + payload.length ≤ maxPacketLength := by
  rw [encodePacket_eq]
  by_cases allowed : varintSize packetId + payload.length ≤ maxPacketLength
  · simp [allowed]
  · rw [if_neg allowed]
    simp only [allowed, iff_false, not_exists]
    intro packet encoded
    split at encoded <;> cases encoded

/-- An encoded packet is one frame, of the packet id and the payload. -/
theorem encodePacket_isFrame {packetId : Int32} {payload packet : Bytes} {limit : Nat}
    (encoded : encodePacket packetId payload = .ok packet)
    (admitted : varintSize packetId + payload.length ≤ limit) :
    IsFrame limit packet (writeVarint packetId [] ++ payload) := by
  have allowed := (encodePacket_ok_iff packetId payload).mp ⟨packet, encoded⟩
  obtain ⟨_, size, _⟩ := writeVarint_spec packetId
  have counted : (writeVarint packetId [] ++ payload).length =
      varintSize packetId + payload.length := by rw [List.length_append, size]
  rw [encodePacket_eq, if_pos allowed] at encoded
  obtain rfl := Except.ok.inj encoded
  exact ⟨_, rfl, counted.symm ▸ writeVarint_isLength _ allowed, counted ▸ admitted⟩

/-- The body of a string packet. -/
def stringBody (packetId : Int32) (value : List Char) : Bytes :=
  writeVarint packetId [] ++ (writeVarint (Int32.ofNat (utf8 value).length) [] ++ utf8 value)

/-- `encode_string_packet` fails for one reason only: the byte length and the packet
length are within their limits whenever the code units are. -/
theorem encodeStringPacket_eq (packetId : Int32) (value : List Char)
    (units : utf16Units value ≤ 32767) :
    encodeStringPacket packetId value = encodePacket packetId
        (writeVarint (Int32.ofNat (utf8 value).length) [] ++ utf8 value) ∧
      (stringBody packetId value).length ≤ maxPacketLength ∧
      (Int32.ofNat (utf8 value).length).toInt = (utf8 value).length := by
  have bytes := utf8_length_le value
  have limit : maxPacketLength = 0x1fffff := rfl
  have value_eq := ofNat_toNat (utf8 value).length (by omega)
  obtain ⟨varintId, _, _⟩ := writeVarint_spec packetId
  obtain ⟨varintLength, _, _⟩ := writeVarint_spec (Int32.ofNat (utf8 value).length)
  have idFits := varintId.short
  have lengthFits := varintLength.short
  refine ⟨?_, ?_, ?_⟩
  · unfold encodeStringPacket i32TryFrom
    rw [if_pos units, if_pos (by omega : (utf8 value).length < 2 ^ 31)]
  · simp only [stringBody, List.length_append]
    omega
  · rw [toInt_of_small _ (by omega), value_eq]

/-- A text packet can be encoded exactly when its text has at most 32767 units: the limit in bytes
follows from that. -/
theorem encodeStringPacket_ok_iff (packetId : Int32) (value : List Char) :
    (∃ packet, encodeStringPacket packetId value = .ok packet) ↔ utf16Units value ≤ 32767 := by
  constructor
  · rintro ⟨packet, encoded⟩
    by_contra beyond
    rw [encodeStringPacket, if_neg beyond] at encoded
    simp at encoded
  · intro units
    obtain ⟨same, within, _⟩ := encodeStringPacket_eq packetId value units
    rw [same, encodePacket_ok_iff]
    obtain ⟨_, size, _⟩ := writeVarint_spec packetId
    rw [stringBody, List.length_append, size] at within
    exact within

/-- The reader of a string packet's body. -/
def readStringBody : Reading (Int32 × List Char) := do
  let packetId ← PacketCursor.readVarint
  let value ← PacketCursor.readString 32767
  PacketCursor.ensureFinished
  return (packetId, value)

/-- The body of a text packet reads back to its id and its text, with nothing left. -/
theorem readStringBody_stringBody (packetId : Int32) (value : List Char)
    (units : utf16Units value ≤ 32767) :
    readPacketFields readStringBody (stringBody packetId value) = .ok (packetId, value) := by
  have fields : readStringBody =
      (PacketCursor.readVarint >>= fun packetId => PacketCursor.readString 32767 >>= fun value =>
        pure (packetId, value)) >>= fun read => PacketCursor.ensureFinished >>= fun _ => pure read := by
    simp only [readStringBody, bind_assoc, pure_bind]
  have chain : FieldReads (5 + ((5 + 2 ^ 31) + 0))
      (PacketCursor.readVarint >>= fun packetId => PacketCursor.readString 32767 >>= fun value =>
        pure (packetId, value)) _ :=
    readVarint_reads.bind fun packetId _ => (readString_reads 32767).bind fun value _ =>
      Reads.pure (packetId, value)
  obtain ⟨_, _, announced⟩ := encodeStringPacket_eq packetId value units
  rw [fields, whole_packet chain (by decide)]
  exact ⟨_, _, packetId, rfl, (writeVarint_spec packetId).1, _, [], value, (List.append_nil _).symm,
    ⟨⟨_, _, rfl, (writeVarint_spec _).1, announced⟩, units⟩, rfl, rfl⟩

/-- Encoded packets are read back. A string packet is encoded exactly when its string
is within the limit of code units, any packet exactly when it fits in a frame. Reading
the output under a limit that admits the body yields what was encoded and leaves what
followed it. -/
theorem encoded_packets_are_read_back :
    (∀ (packetId : Int32) (value : List Char),
      (∃ packet, encodeStringPacket packetId value = .ok packet) ↔ utf16Units value ≤ 32767) ∧
    (∀ (packetId : Int32) (value : List Char) (packet : Bytes),
      encodeStringPacket packetId value = .ok packet →
        ∃ body : Bytes, readPacketFields readStringBody body = .ok (packetId, value) ∧
          ∀ (limit : Nat) (socket : Socket) (rest : Bytes), body.length ≤ limit →
            socket.stream = packet ++ rest →
              ∃ later, outcome (readPacket limit) socket = (.ok body, later) ∧
                later.stream = rest) ∧
    (∀ (packetId : Int32) (payload : Bytes),
      (∃ packet, encodePacket packetId payload = .ok packet) ↔
        varintSize packetId + payload.length ≤ maxPacketLength) ∧
    (∀ (packetId : Int32) (payload packet : Bytes), encodePacket packetId payload = .ok packet →
      ∃ idField : Bytes, IsVarint idField packetId ∧
        ∀ (limit : Nat) (socket : Socket) (rest : Bytes),
          idField.length + payload.length ≤ limit → socket.stream = packet ++ rest →
            ∃ later, outcome (readPacket limit) socket = (.ok (idField ++ payload), later) ∧
              later.stream = rest) := by
  refine ⟨encodeStringPacket_ok_iff, fun packetId value packet encoded => ?_, encodePacket_ok_iff,
    fun packetId payload packet encoded => ?_⟩
  · have units := (encodeStringPacket_ok_iff packetId value).mp ⟨packet, encoded⟩
    obtain ⟨same, _, _⟩ := encodeStringPacket_eq packetId value units
    obtain ⟨_, size, _⟩ := writeVarint_spec packetId
    refine ⟨stringBody packetId value, readStringBody_stringBody packetId value units,
      fun limit socket rest admitted stream => ?_⟩
    rw [stringBody, List.length_append, size] at admitted
    exact ((readPacket_reads limit).iff socket _ rest).mpr
      ⟨packet, stream, encodePacket_isFrame (same ▸ encoded) admitted⟩
  · obtain ⟨varint, size, _⟩ := writeVarint_spec packetId
    refine ⟨writeVarint packetId [], varint, fun limit socket rest admitted stream => ?_⟩
    rw [size] at admitted
    exact ((readPacket_reads limit).iff socket _ rest).mpr
      ⟨packet, stream, encodePacket_isFrame encoded admitted⟩

/-- A letter of two bytes, a letter of two code units, and a byte after the packet: the text comes
back and the byte is left. -/
theorem encoded_text_is_read_back :
    ∃ (packet body : Bytes) (later : Socket), encodeStringPacket 0 ['é', '𝄞'] = .ok packet ∧
      outcome (readPacket body.length) ⟨[packet ++ [9]], .silent []⟩ = (.ok body, later) ∧
      later.stream = [9] ∧ readPacketFields readStringBody body = .ok (0, ['é', '𝄞']) := by
  obtain ⟨packet, encoded⟩ := (encoded_packets_are_read_back.1 0 ['é', '𝄞']).mpr (by decide)
  obtain ⟨body, fields, every⟩ := encoded_packets_are_read_back.2.1 0 ['é', '𝄞'] packet encoded
  obtain ⟨later, read, left⟩ := every body.length ⟨[packet ++ [9]], .silent []⟩ [9]
    (Nat.le_refl _) (by simp [Socket.stream])
  exact ⟨packet, body, later, encoded, read, left, fields⟩

end McServerNap
