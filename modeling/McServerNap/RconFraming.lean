import McServerNap.Rcon

/-!
# RCON packets on the wire

A packet has one frame: its length, its two numbers, its body and two zero bytes. Reading
accepts frames and nothing else, and every way that a declared length can be wrong ends in
an error before anything is sliced.
-/

namespace McServerNap.Rcon

open Encoding

/-- What stands behind the declared length of a packet. -/
def Packet.payload (packet : Packet) : Bytes :=
  int32ToLe packet.id ++ int32ToLe packet.kind ++ packet.body ++ [0, 0]

/-- The bytes that spell a packet. -/
def Packet.frame (packet : Packet) : Bytes :=
  int32ToLe (Int32.ofNat packet.payload.length) ++ packet.payload

/-- The packet is within the limit of a reader. -/
def Packet.WithinLimit (packet : Packet) : Prop := 10 + packet.body.length ≤ maxPacketBytes

instance (packet : Packet) : Decidable packet.WithinLimit :=
  inferInstanceAs (Decidable (10 + packet.body.length ≤ maxPacketBytes))

/-- Behind its length a packet has ten bytes beside its body. -/
theorem Packet.payload_length (packet : Packet) :
    packet.payload.length = packet.body.length + 10 := by
  simp only [payload, List.length_append, int32ToLe_length, List.length_cons, List.length_nil]
  omega

/-! ## Encoding -/

/-- A body whose length fits in the prefix has its frame as its encoding. -/
theorem encodePacket_frame (id kind : Int32) (body : Bytes) (fits : body.length + 10 < 2 ^ 31) :
    encodePacket id kind body = .ok (Packet.frame ⟨id, kind, body⟩) := by
  have noOverflow : body.length + 10 < 2 ^ 64 := by omega
  simp only [encodePacket, usizeCheckedAdd, if_pos noOverflow, if_pos fits]
  simp only [Packet.frame, Packet.payload_length]
  simp only [Packet.payload, List.append_assoc]

/-- A longer body has none. -/
theorem encodePacket_refuses (id kind : Int32) (body : Bytes)
    (large : 2 ^ 31 ≤ body.length + 10) : ∃ error, encodePacket id kind body = .error error := by
  unfold encodePacket usizeCheckedAdd
  split
  · exact ⟨_, rfl⟩
  · rename_i payloadLength counted
    split at counted
    · obtain rfl := Option.some.inj counted
      exact ⟨_, if_neg (by omega)⟩
    · cases counted

/-! ## Decoding -/

/-- A slice inside the bytes succeeds. -/
theorem slice_eq_ok (bytes : Bytes) {start stop : Nat} (ordered : start ≤ stop)
    (inside : stop ≤ bytes.length) :
    slice bytes start stop = .ok ((bytes.drop start).take (stop - start)) :=
  if_pos ⟨ordered, inside⟩

/-- Four bytes are read as a number. -/
theorem readInt32_eq_ok (bytes : Bytes) (counted : bytes.length = 4) :
    readInt32 bytes = .ok (int32FromLe bytes) := if_pos counted

/-- After a success the next step goes on with its value. -/
theorem ok_bind {α β : Type} (value : α) (next : α → Except Interruption β) :
    (Except.ok value >>= next) = next value := rfl

/-- Once the length is checked, every slice is in range: what remains is to look at the
terminators. -/
theorem decodePayload_long (payload : Bytes) (long : 10 ≤ payload.length) :
    decodePayload payload =
      if payload.drop (payload.length - 2) = [0, 0] then
        .ok ⟨int32FromLe (payload.take 4), int32FromLe ((payload.drop 4).take 4),
          (payload.drop 8).take (payload.length - 10)⟩
      else .error (.failed .invalidTerminators) := by
  have ending : payload.length - (payload.length - 2) = 2 := by omega
  have inner : payload.length - 2 - 8 = payload.length - 10 := by omega
  have last : (payload.drop (payload.length - 2)).take 2 = payload.drop (payload.length - 2) :=
    List.take_of_length_le (by rw [List.length_drop]; omega)
  have first : ((payload.drop 0).take (4 - 0)).length = 4 := by
    simp only [List.length_take, List.length_drop]
    omega
  have second : ((payload.drop 4).take (8 - 4)).length = 4 := by
    simp only [List.length_take, List.length_drop]
    omega
  unfold decodePayload
  simp only [ensure, if_pos long, ok_bind, lengthWithout, if_pos (show 2 ≤ payload.length by omega),
    slice_eq_ok payload (Nat.sub_le payload.length 2) (Nat.le_refl _),
    slice_eq_ok payload (Nat.zero_le 4) (show 4 ≤ payload.length by omega),
    slice_eq_ok payload (show 4 ≤ 8 by decide) (show 8 ≤ payload.length by omega),
    slice_eq_ok payload (show 8 ≤ payload.length - 2 by omega) (Nat.sub_le payload.length 2),
    readInt32_eq_ok _ first, readInt32_eq_ok _ second, ending, inner, last]
  by_cases terminated : payload.drop (payload.length - 2) = [0, 0]
  · rw [if_pos terminated, if_pos terminated]
    rfl
  · rw [if_neg terminated, if_neg terminated]
    rfl

/-- A payload without room for the ten bytes is refused as truncated. -/
theorem decodePayload_short (payload : Bytes) (short : ¬ 10 ≤ payload.length) :
    decodePayload payload = .error (.failed .packetTruncated) := by
  simp only [decodePayload, ensure, if_neg short]
  rfl

/-- Every slice of a payload that is long enough is in range, so decoding does not panic. -/
theorem decodePayload_calm (payload : Bytes) : decodePayload payload ≠ .error .panicked := by
  by_cases long : 10 ≤ payload.length
  · rw [decodePayload_long payload long]
    split <;> exact nofun
  · rw [decodePayload_short payload long]
    exact nofun

/-- A payload is decoded as the packet that it spells, and only then. It has at least ten bytes:
two numbers, and two zeroes behind the body. -/
theorem decodePayload_eq_ok (payload : Bytes) (packet : Packet) :
    decodePayload payload = .ok packet ↔ payload = packet.payload := by
  constructor
  · intro decoded
    by_cases long : 10 ≤ payload.length
    · rw [decodePayload_long payload long] at decoded
      split at decoded
      · rename_i terminated
        obtain rfl := Except.ok.inj decoded
        have first : (payload.take 4).length = 4 := List.length_take_of_le (by omega)
        have second : ((payload.drop 4).take 4).length = 4 :=
          List.length_take_of_le (by rw [List.length_drop]; omega)
        have inner : payload.drop 8 =
            (payload.drop 8).take (payload.length - 10) ++ [0, 0] := by
          have behind : (payload.drop 8).drop (payload.length - 10) = [0, 0] := by
            rw [List.drop_drop, ← terminated]
            congr 1
            omega
          rw [← behind, List.take_append_drop]
        have rest : payload.drop 4 = (payload.drop 4).take 4 ++ payload.drop 8 := by
          have after := (List.take_append_drop 4 (payload.drop 4)).symm
          rwa [List.drop_drop] at after
        simp only [Packet.payload, int32ToLe_int32FromLe _ first, int32ToLe_int32FromLe _ second,
          List.append_assoc, ← inner, ← rest]
        exact (List.take_append_drop 4 payload).symm
      · cases decoded
    · rw [decodePayload_short payload long] at decoded
      cases decoded
  · rintro rfl
    have counted := packet.payload_length
    have ending : packet.payload.length - 2 =
        (int32ToLe packet.id ++ int32ToLe packet.kind ++ packet.body).length := by
      rw [counted]
      simp only [List.length_append, int32ToLe_length]
      omega
    have terminated : packet.payload.drop (packet.payload.length - 2) = [0, 0] := by
      rw [ending]
      exact List.drop_left
    rw [decodePayload_long _ (by omega), if_pos terminated]
    have bodyLength : packet.payload.length - 10 = packet.body.length := by omega
    have first : packet.payload.take 4 = int32ToLe packet.id := by
      simp only [Packet.payload, List.append_assoc]
      exact List.take_left' (int32ToLe_length _)
    have afterFirst : packet.payload.drop 4 =
        int32ToLe packet.kind ++ (packet.body ++ [0, 0]) := by
      simp only [Packet.payload, List.append_assoc]
      exact List.drop_left' (int32ToLe_length _)
    have afterSecond : packet.payload.drop 8 = packet.body ++ [0, 0] := by
      have later : packet.payload.drop 8 = (packet.payload.drop 4).drop 4 := by
        rw [List.drop_drop]
      rw [later, afterFirst]
      exact List.drop_left' (int32ToLe_length _)
    rw [first, afterFirst, afterSecond, bodyLength, List.take_left' (int32ToLe_length _),
      List.take_left, int32FromLe_int32ToLe, int32FromLe_int32ToLe]

/-! ## Reading -/

/-- The operation does not panic, and waits for ever only where the server is silent. -/
def Returns {α : Type} (operation : Exchanging α) : Prop :=
  ∀ client, (outcome operation client).1 ≠ .error .panicked ∧
    (client.closed ≠ none → (outcome operation client).1 ≠ .error .pending) ∧
    (outcome operation client).2.closed = client.closed

namespace Returns

variable {α β : Type} {operation : Exchanging α} {next : α → Exchanging β}

/-- Operations that return do so one after the other; if the first fails, that is how both end. -/
theorem bind (first : Returns operation) (second : ∀ value, Returns (next value)) :
    Returns (operation >>= next) := by
  intro client
  obtain ⟨calm, ends, kept⟩ := first client
  rw [outcome_bind]
  cases read : outcome operation client with
  | mk result later =>
    rw [read] at calm ends kept
    cases result with
    | error interruption =>
      refine ⟨fun same => calm ?_, fun closed same => ends closed ?_, kept⟩
      · rw [Except.error.inj same]
      · rw [Except.error.inj same]
    | ok value =>
      obtain ⟨calm', ends', kept'⟩ := second value later
      exact ⟨calm', fun closed => ends' (kept ▸ closed), kept'.trans kept⟩

/-- An operation that leaves the client alone returns what it was given. -/
theorem lift {result : Except Interruption α} (calm : result ≠ .error .panicked)
    (ends : result ≠ .error .pending) : Returns (Rcon.lift result) := by
  intro client
  rw [outcome_lift]
  exact ⟨calm, fun _ => ends, rfl⟩

/-- A check returns. -/
theorem ensured (condition : Prop) [Decidable condition] (error : Error) :
    Returns (Rcon.lift (ensure condition error)) := by
  apply lift
  · unfold ensure
    split <;> exact nofun
  · unfold ensure
    split <;> exact nofun

/-- Reading returns unless the server neither sends nor closes; then it would wait for ever, which
the caller's timeout decides. -/
theorem readExact (length : Nat) (context : ErrorKind → Error) :
    Returns (readExact length context) := by
  intro client
  unfold Rcon.readExact
  simp only [outcome_bind, outcome_get, outcome_set]
  by_cases enough : length ≤ client.unread.length
  · rw [if_pos enough]
    exact ⟨nofun, fun _ => nofun, rfl⟩
  · rw [if_neg enough]
    cases closed : client.closed with
    | none => exact ⟨nofun, fun broken => absurd rfl broken, rfl⟩
    | some kind => exact ⟨nofun, fun _ => nofun, rfl⟩

/-- Decoding returns. -/
theorem decodePayload (payload : Bytes) : Returns (Rcon.lift (decodePayload payload)) := by
  apply lift (decodePayload_calm payload)
  by_cases long : 10 ≤ payload.length
  · rw [decodePayload_long payload long]
    split <;> exact nofun
  · rw [decodePayload_short payload long]
    exact nofun

/-- So reading a whole packet returns, by its parts. -/
theorem readPacket : Returns readPacket :=
  (readExact 4 _).bind fun _ => (ensured _ _).bind fun _ => (ensured _ _).bind fun _ =>
    (ensured _ _).bind fun _ => (readExact _ _).bind fun payload => decodePayload payload

end Returns

/-- A check passes exactly where its condition holds. -/
theorem ensure_eq_ok (condition : Prop) [Decidable condition] (error : Error) (value : Unit) :
    ensure condition error = .ok value ↔ condition := by
  unfold ensure
  split <;> simp [*]

/-- A nonnegative number is the one of its own value. -/
theorem int32_ofNat_toInt (value : Int32) (nonnegative : 0 ≤ value.toInt) :
    Int32.ofNat value.toInt.toNat = value := by
  have bound := value.toInt_lt
  apply Int32.toInt_inj.mp
  rw [Int32.toInt_ofNat_of_lt (by omega)]
  omega

/-- A packet is read exactly where its frame comes next and is within the limit. What
follows the frame is left. -/
theorem readPacket_eq_ok (client later : RconClient) (packet : Packet) :
    outcome readPacket client = (.ok packet, later) ↔ packet.WithinLimit ∧
      ∃ rest, client.unread = packet.frame ++ rest ∧ later = { client with unread := rest } := by
  have counted := packet.payload_length
  simp only [readPacket, outcome_bind_eq_ok, readExact_eq_ok, outcome_lift, Prod.mk.injEq,
    ensure_eq_ok, decodePayload_eq_ok]
  constructor
  · rintro ⟨prefixed, _, ⟨enough, rfl, rfl⟩, _, _, ⟨minimum, rfl⟩, _, _, ⟨nonnegative, rfl⟩, _, _,
      ⟨limited, rfl⟩, payload, _, ⟨whole, rfl, rfl⟩, spells, rfl⟩
    have four : (client.unread.take 4).length = 4 := List.length_take_of_le enough
    have length : (int32FromLe (client.unread.take 4)).toInt.toNat = packet.payload.length := by
      rw [← spells, List.length_take_of_le whole]
    have declared : int32ToLe (Int32.ofNat packet.payload.length) = client.unread.take 4 := by
      rw [← length, int32_ofNat_toInt _ nonnegative, int32ToLe_int32FromLe _ four]
    refine ⟨?_, (client.unread.drop 4).drop packet.payload.length, ?_, by rw [← length]⟩
    · unfold Packet.WithinLimit
      omega
    · have behind : packet.payload ++ (client.unread.drop 4).drop packet.payload.length =
          client.unread.drop 4 := by
        calc packet.payload ++ (client.unread.drop 4).drop packet.payload.length
            = (client.unread.drop 4).take packet.payload.length ++
                (client.unread.drop 4).drop packet.payload.length := by rw [← length, spells]
          _ = client.unread.drop 4 := List.take_append_drop _ _
      rw [Packet.frame, declared, List.append_assoc, behind, List.take_append_drop]
  · rintro ⟨limited, rest, split, rfl⟩
    have small : packet.payload.length ≤ maxPacketBytes := by
      unfold Packet.WithinLimit at limited
      omega
    have bounded : packet.payload.length < 2 ^ 31 := by
      unfold maxPacketBytes at small
      omega
    have declared : (Int32.ofNat packet.payload.length).toInt = packet.payload.length :=
      Int32.toInt_ofNat_of_lt bounded
    have first : client.unread.take 4 = int32ToLe (Int32.ofNat packet.payload.length) := by
      rw [split, Packet.frame, List.append_assoc]
      exact List.take_left' (int32ToLe_length _)
    have second : client.unread.drop 4 = packet.payload ++ rest := by
      rw [split, Packet.frame, List.append_assoc]
      exact List.drop_left' (int32ToLe_length _)
    have enough : 4 ≤ client.unread.length := by
      rw [split, Packet.frame, List.length_append, List.length_append, int32ToLe_length]
      omega
    refine ⟨client.unread.take 4, _, ⟨enough, rfl, rfl⟩, (), _, ⟨?_, rfl⟩, (), _, ⟨?_, rfl⟩, (), _,
      ⟨?_, rfl⟩, packet.payload, _, ⟨?_, ?_, rfl⟩, rfl, ?_⟩
    · rw [first, int32FromLe_int32ToLe, declared]
      omega
    · rw [first, int32FromLe_int32ToLe, declared]
      omega
    · rw [first, int32FromLe_int32ToLe, declared]
      exact small
    · rw [first, int32FromLe_int32ToLe, declared, second, List.length_append]
      omega
    · rw [first, int32FromLe_int32ToLe, declared, second]
      exact List.take_left.symm
    · simp only [first, int32FromLe_int32ToLe, declared, second, Int.toNat_natCast,
        List.drop_left]

/-- Encoding and reading invert each other. A packet within the limit is encoded as bytes
that are read back as this packet, whatever follows, and what follows is left. A payload is
decoded only as the packet that it spells, whose encoding is then the length of the payload
and the payload, as far as that length can be declared. Whatever the bytes are, reading and
decoding do not panic, and reading waits only where the server is silent. -/
theorem rcon_framing_round_trips :
    (∀ (id kind : Int32) (body rest : Bytes) (client : RconClient),
      10 + body.length ≤ maxPacketBytes → ∃ encoded, encodePacket id kind body = .ok encoded ∧
        outcome readPacket { client with unread := encoded ++ rest } =
          (.ok ⟨id, kind, body⟩, { client with unread := rest })) ∧
    (∀ (payload : Bytes) (packet : Packet), payload.length < 2 ^ 31 →
      decodePayload payload = .ok packet →
        encodePacket packet.id packet.kind packet.body =
          .ok (int32ToLe (Int32.ofNat payload.length) ++ payload)) ∧
    (∀ payload : Bytes, decodePayload payload ≠ .error .panicked) ∧
    ∀ client : RconClient, (outcome readPacket client).1 ≠ .error .panicked ∧
      (client.closed ≠ none → (outcome readPacket client).1 ≠ .error .pending) := by
  refine ⟨?_, ?_, decodePayload_calm, fun client => ?_⟩
  · intro id kind body rest client limited
    refine ⟨Packet.frame ⟨id, kind, body⟩, ?_, ?_⟩
    · apply encodePacket_frame
      unfold maxPacketBytes at limited
      omega
    · exact (readPacket_eq_ok _ _ _).mpr ⟨limited, rest, rfl, rfl⟩
  · intro payload packet declarable decoded
    obtain rfl := (decodePayload_eq_ok payload packet).mp decoded
    apply encodePacket_frame
    have counted := packet.payload_length
    omega
  · obtain ⟨calm, ends, -⟩ := Returns.readPacket client
    exact ⟨calm, ends⟩

/-- A payload whose length does not fit in a signed 32-bit number is decoded, but its packet
has no encoding. -/
theorem oversized_payload_is_not_encoded :
    ¬ ∀ (payload : Bytes) (packet : Packet), decodePayload payload = .ok packet →
      encodePacket packet.id packet.kind packet.body =
        .ok (int32ToLe (Int32.ofNat payload.length) ++ payload) := by
  intro always
  have decoded := (decodePayload_eq_ok _ ⟨0, 0, List.replicate (2 ^ 31) 0⟩).mpr rfl
  obtain ⟨error, refused⟩ := encodePacket_refuses 0 0 (List.replicate (2 ^ 31) 0)
    (by rw [List.length_replicate]; omega)
  cases (always _ _ decoded).symm.trans refused

end McServerNap.Rcon
