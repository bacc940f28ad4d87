import McServerNap.Fields
import McServerNap.Minecraft

/-!
# Frames on a stream of segments

A frame is a length of at most three bytes and a body of that length. The source
reads frames with two loops of different shape; both are shown to accept the same
form, however the stream is cut into segments. The loops differ only in when they
fetch the next length byte, so they share the description of what may follow a
byte that has just been fetched.
-/

namespace McServerNap

open Encoding

/-! ## Reading from a socket -/

/-- Filling a buffer takes a prefix of the stream and leaves the rest of it. -/
theorem takeBytes_spec (length : Nat) (segments : List Bytes) :
    (takeBytes length segments).1 = segments.flatten.take length ∧
      (takeBytes length segments).2.flatten = segments.flatten.drop length := by
  induction segments generalizing length with
  | nil => simp [takeBytes]
  | cons segment later inductionHypothesis =>
    unfold takeBytes
    by_cases enough : length ≤ segment.length
    · simp [enough, List.take_append_of_le_length, List.drop_append_of_le_length]
    · have beyond : segment.length ≤ length := by omega
      rw [if_neg enough]
      have step := inductionHypothesis (length - segment.length)
      simp [step, List.take_append, List.drop_append, List.take_of_length_le beyond,
        List.drop_of_length_le beyond]

/-- A socket whose unread stream and ending are the given ones. What was read before
is no part of it. -/
def SocketAt (ending : Ending) (socket : Socket) (_ unread : Bytes) : Prop :=
  socket.stream = unread ∧ socket.ending = ending

/-- A reader of the socket and its form. A stream has no offsets to run out of. -/
abbrev StreamReads {α : Type} (budget : Nat) (reader : Receiving α)
    (Form : Bytes → α → Prop) : Prop :=
  ∀ ending room, Reads (SocketAt ending) room budget reader fun _ field value => Form field value

/-- How a reader fails that finds no byte when it needs one. -/
def Ending.interruption (context : ErrorKind → ClientError) : Ending → Interruption
  | .broken kind => .failed (context kind)
  | .silent _ => .pending

/-- `read_exact` takes the bytes that are asked for, or all there are. How it fails then is told
by the way in which the stream ends. -/
theorem outcome_readExact (length : Nat) (context : ErrorKind → ClientError) (socket : Socket) :
    ∃ later, later.stream = socket.stream.drop length ∧ later.ending = socket.ending ∧
      outcome (readExact length context) socket =
        (if length ≤ socket.stream.length then .ok (socket.stream.take length)
          else .error (socket.ending.interruption context), later) := by
  obtain ⟨taken, left⟩ := takeBytes_spec length socket.segments
  refine ⟨{ socket with segments := (takeBytes length socket.segments).2 }, left, rfl, ?_⟩
  have enough : (takeBytes length socket.segments).1.length = length ↔
      length ≤ socket.stream.length := by
    rw [taken, List.length_take, Socket.stream]
    omega
  simp only [readExact, outcome_bind, outcome_get, outcome_set, enough]
  by_cases held : length ≤ socket.stream.length
  · simp only [if_pos held, taken]
    rfl
  · simp only [if_neg held]
    cases socket.ending <;> rfl

/-- So many bytes are read exactly when the stream still has them, and none are read behind
them. -/
theorem readExact_reads (length : Nat) (context : ErrorKind → ClientError) :
    StreamReads length (readExact length context)
      (fun field value => field.length = length ∧ value = field) := fun ending room =>
  { within := by
      rintro _ field value ⟨counted, _⟩
      omega
    sound := by
      rintro socket before unread value later _ ⟨rfl, rfl⟩ read
      obtain ⟨left, stream, same, found⟩ := outcome_readExact length context socket
      rw [found] at read
      obtain ⟨result, rfl⟩ := Prod.mk.inj read
      split at result
      · next enough =>
        obtain rfl := Except.ok.inj result
        exact ⟨_, _, (List.take_append_drop length _).symm,
          ⟨List.length_take_of_le enough, rfl⟩, stream, same⟩
      · simp at result
    complete := by
      rintro socket before field rest value _ ⟨split, rfl⟩ ⟨rfl, rfl⟩
      obtain ⟨left, stream, same, found⟩ := outcome_readExact value.length context socket
      refine ⟨left, ?_, by simp [stream, split], same⟩
      rw [found, split]
      simp }

/-- One byte is read exactly when the stream has one. It is read as an array of one byte, whose
only element is then taken out. -/
theorem readU8_reads (context : ErrorKind → ClientError) :
    StreamReads 1 (readU8 context) (fun field byte => field = [byte]) := fun ending room => by
  have chain : Reads (SocketAt ending) room (1 + 0) (readU8 context)
      (Followed (fun _ field value => field.length = 1 ∧ value = field)
        fun bytes => Silent fun _ byte => bytes = [byte]) :=
    (readExact_reads 1 context ending room).bind fun bytes formed => by
      obtain ⟨_, _, counted, rfl⟩ := formed
      obtain ⟨byte, rfl⟩ := List.length_eq_one_iff.mp counted
      exact (Reads.pure byte).congr fun _ _ value => by
        simp only [Silent, List.cons.injEq, and_true]
        exact and_congr_right fun _ => eq_comm
  apply chain.congr
  intro before field byte
  constructor
  · rintro ⟨_, _, _, rfl, ⟨_, rfl⟩, rfl, rfl⟩
    simp
  · rintro rfl
    exact ⟨[byte], [], [byte], rfl, ⟨rfl, rfl⟩, rfl, rfl⟩

/-- A check on a stream reads nothing of it. -/
theorem ensure_stream_reads (condition : Prop) [Decidable condition] (error : ClientError)
    (ending : Ending) (room : Nat) :
    Reads (SocketAt ending) room 0 (ensure condition error) (Silent fun _ _ => condition) := by
  unfold ensure
  split
  case isTrue held => exact (Reads.pure _).congr fun _ _ _ => by simp [Silent, held]
  case isFalse failed => exact (Reads.throw _).congr fun _ _ _ => by simp [Silent, failed]

/-- A timeout changes how a reader fails, not what it reads: only a read that would never end
becomes the timeout's error. -/
theorem outcome_timeoutAt {α : Type} (error : ClientError) (reader : Receiving α)
    (socket : Socket) :
    outcome (timeoutAt error reader) socket =
      match outcome reader socket with
      | (.error .pending, later) => (.error (.failed error), later)
      | (.error (.failed cause), later) => (.error (.failed cause), later)
      | (.error .panicked, later) => (.error .panicked, later)
      | (.ok value, later) => (.ok value, later) := by
  rw [timeoutAt, outcome_tryCatch]
  cases outcome reader socket with
  | mk result later =>
    cases result with
    | ok value => rfl
    | error interruption => cases interruption <;> rfl

/-- A deadline changes no success: it only names the error of what was not done in time. -/
theorem outcome_timeoutAt_ok {α : Type} (error : ClientError) (reader : Receiving α)
    (socket later : Socket) (value : α) :
    outcome (timeoutAt error reader) socket = (.ok value, later) ↔
      outcome reader socket = (.ok value, later) := by
  rw [outcome_timeoutAt]
  cases outcome reader socket with
  | mk result left =>
    cases result with
    | ok value => exact Iff.rfl
    | error interruption => cases interruption <;> simp

/-- So a reader with a deadline accepts the same form. -/
theorem StreamReads.timeoutAt {α : Type} {budget : Nat} {reader : Receiving α}
    {Form : Bytes → α → Prop} (reads : StreamReads budget reader Form) (error : ClientError) :
    StreamReads budget (timeoutAt error reader) Form := fun ending room =>
  { within := fun formed => @Reads.within _ _ _ _ _ _ _ _ _ (reads ending room) [] _ _ formed
    sound := fun roomy placed read => (reads ending room).sound roomy placed
      ((outcome_timeoutAt_ok error reader _ _ _).mp read)
    complete := fun roomy placed formed => by
      obtain ⟨later, read, left⟩ := (reads ending room).complete roomy placed formed
      exact ⟨later, (outcome_timeoutAt_ok error reader _ _ _).mpr read, left⟩ }

/-- A parser's verdict takes nothing from the stream. -/
theorem parsed_reads {α : Type} (result : Except Interruption α) (ending : Ending) (room : Nat) :
    Reads (SocketAt ending) room 0 (parsed result) (Silent fun _ value => result = .ok value) := by
  cases result with
  | ok value =>
    exact (Reads.pure value).congr fun _ _ returned => by
      simp only [Silent, Except.ok.injEq]
      exact and_congr_right fun _ => eq_comm
  | error interruption =>
    exact (Reads.throw interruption).congr fun _ _ _ => by simp [Silent]

/-- What a reader returns and leaves, told by its form alone. The fragments in which the stream
arrives do not matter any more from here on. -/
theorem StreamReads.iff {α : Type} {budget : Nat} {reader : Receiving α}
    {Form : Bytes → α → Prop} (reads : StreamReads budget reader Form) (socket : Socket)
    (value : α) (rest : Bytes) :
    (∃ later, outcome reader socket = (.ok value, later) ∧ later.stream = rest) ↔
      ∃ field, socket.stream = field ++ rest ∧ Form field value := by
  have here := reads socket.ending (budget + 1)
  have roomy : ([] : Bytes).length + budget < budget + 1 := by simp
  constructor
  · rintro ⟨later, read, rfl⟩
    obtain ⟨field, rest, split, formed, left, _⟩ := here.sound roomy ⟨rfl, rfl⟩ read
    exact ⟨field, left ▸ split, formed⟩
  · rintro ⟨field, split, formed⟩
    obtain ⟨later, read, left, _⟩ := here.complete roomy ⟨split, rfl⟩ formed
    exact ⟨later, read, left⟩

/-! ## Frames -/

/-- A length prefix of at most three bytes for a body of the given length. -/
structure IsLength (lengthField : Bytes) (length : Nat) : Prop where
  terminated : Terminated lengthField
  short : lengthField.length ≤ 3
  spells : groups lengthField = length

/-- A frame whose body is within the limit. -/
def IsFrame (limit : Nat) (field body : Bytes) : Prop :=
  ∃ lengthField, field = lengthField ++ body ∧ IsLength lengthField body.length ∧
    body.length ≤ limit

/-- A body is no longer than its frame. -/
theorem IsFrame.length_le {limit : Nat} {field body : Bytes} (frame : IsFrame limit field body) :
    body.length ≤ field.length := by
  obtain ⟨lengthField, rfl, _⟩ := frame
  simp

/-- The body is what a frame has after its length. -/
theorem IsFrame.drop_offset {limit offset : Nat} {field body : Bytes}
    (frame : IsFrame limit field body) (counted : offset + body.length = field.length) :
    field.drop offset = body := by
  obtain ⟨lengthField, rfl, _⟩ := frame
  have same : offset = lengthField.length := by
    simp only [List.length_append] at counted
    omega
  rw [same, List.drop_left]

/-- What may follow a length byte that was fetched after the bytes `read`. -/
def FrameTail (limit : Nat) (read : Bytes) (byte : UInt8) (field body : Bytes) : Prop :=
  ∃ more, field = more ++ body ∧ IsLength (read ++ byte :: more) body.length ∧
    body.length ≤ limit

/-- A length of three bytes never exceeds what the protocol allows. -/
theorem IsLength.within_protocol {lengthField : Bytes} {length : Nat}
    (isLength : IsLength lengthField length) : length ≤ maxPacketLength := by
  have bound := groups_lt lengthField
  have power : 128 ^ lengthField.length ≤ 128 ^ 3 :=
    Nat.pow_le_pow_right (by decide) isLength.short
  have spells := isLength.spells
  have limit : maxPacketLength + 1 = 128 ^ 3 := rfl
  omega

/-- A length is terminated by its last byte: not before, and not by an earlier one. -/
theorem terminated_append {read field : Bytes} (continued : Continued read) :
    Terminated (read ++ field) ↔ Terminated field := by
  induction read with
  | nil => simp
  | cons byte rest inductionHypothesis =>
    rw [continued_cons] at continued
    rw [List.cons_append, terminated_cons, inductionHypothesis continued.2]
    constructor
    · rintro (⟨small, _⟩ | ⟨_, terminated⟩)
      · have := continued.1
        omega
      · exact terminated
    · intro terminated
      exact Or.inr ⟨continued.1, terminated⟩

/-- After a byte that ends the length comes the body: all bytes of the length are read, and the
body has as many bytes as they spell. -/
theorem frameTail_ends {limit : Nat} {read field body : Bytes} {byte : UInt8}
    (continued : Continued read) (early : read.length < 3) (ends : byte.toNat < 128) :
    FrameTail limit read byte field body ↔
      field.length = groups (read ++ [byte]) ∧ body = field ∧
        groups (read ++ [byte]) ≤ limit := by
  constructor
  · rintro ⟨more, rfl, isLength, within⟩
    have terminated := (terminated_append continued).mp isLength.terminated
    rcases (terminated_cons _ _).mp terminated with ⟨_, rfl⟩ | ⟨follows, _⟩
    · exact ⟨isLength.spells.symm, rfl, isLength.spells ▸ within⟩
    · omega
  · rintro ⟨counted, rfl, within⟩
    refine ⟨[], rfl, ⟨?_, ?_, counted.symm⟩, counted ▸ within⟩
    · exact (terminated_append continued).mpr ((terminated_singleton byte).mpr ends)
    · simp only [List.length_append, List.length_singleton]
      omega

/-- After a byte that ends nothing comes another one, and what was said of the first is said of
the two together. -/
theorem frameTail_follows {limit : Nat} {read field body : Bytes} {byte : UInt8}
    (continued : Continued read) (follows : 128 ≤ byte.toNat) :
    FrameTail limit read byte field body ↔
      ∃ next rest, field = next :: rest ∧ FrameTail limit (read ++ [byte]) next rest body := by
  constructor
  · rintro ⟨more, rfl, isLength, within⟩
    have terminated := (terminated_append continued).mp isLength.terminated
    cases more with
    | nil =>
      rw [terminated_singleton] at terminated
      omega
    | cons next more =>
      exact ⟨next, more ++ body, rfl, more, rfl, by simpa using isLength, within⟩
  · rintro ⟨next, rest, rfl, more, rfl, isLength, within⟩
    exact ⟨next :: more, rfl, by simpa using isLength, within⟩

/-- Three length bytes spell no number above the protocol's limit, whatever limit the caller
gives. -/
theorem FrameTail.within_protocol {limit : Nat} {read field body : Bytes} {byte : UInt8}
    (frame : FrameTail limit read byte field body) : body.length ≤ maxPacketLength := by
  obtain ⟨more, _, isLength, _⟩ := frame
  exact isLength.within_protocol

/-- Past the third byte nothing may follow. -/
theorem frameTail_late {limit : Nat} {read field body : Bytes} {byte : UInt8}
    (late : 3 ≤ read.length) : ¬ FrameTail limit read byte field body := by
  rintro ⟨more, _, isLength, _⟩
  have short := isLength.short
  simp only [List.length_append, List.length_cons] at short
  omega

/-- Adding one group to a length, as both loops do. -/
theorem gather_length (read : Bytes) (byte : UInt8) :
    groups read ||| ((byte &&& 0x7f).toNat <<< (read.length * 7)) = groups (read ++ [byte]) := by
  have below : groups read < 2 ^ (read.length * 7) := weight read.length ▸ groups_lt read
  rw [low_bits, or_shift _ _ _ below, groups_append, weight]
  simp

/-- The body after a length that has just ended: both limits and the bytes. The limits are checked
before anything of the body is read or room is made for it. -/
theorem body_reads {α : Type} (limit length : Nat) (protocolError limitError : ClientError)
    (context : ErrorKind → ClientError) (finish : Bytes → α) (ending : Ending) (room : Nat) :
    Reads (SocketAt ending) room limit
      (ensure (length ≤ maxPacketLength) protocolError >>= fun _ =>
        ensure (length ≤ limit) limitError >>= fun _ =>
          readExact length context >>= fun body => pure (finish body))
      (fun _ field value => field.length = length ∧ length ≤ maxPacketLength ∧ length ≤ limit ∧
        value = finish field) := by
  have chain : Reads (SocketAt ending) room (0 + (0 + (limit + 0))) _ _ :=
    (ensure_stream_reads (length ≤ maxPacketLength) protocolError ending room).bind fun _ _ =>
      (ensure_stream_reads (length ≤ limit) limitError ending room).bind fun _ held =>
        ((readExact_reads length context ending room).relax (by
          obtain ⟨_, _, _, within⟩ := held
          exact within)).bind fun body _ => Reads.pure (finish body)
  apply (chain.relax (by omega : _ ≤ limit)).congr
  intro before field value
  simp only [silent_followed]
  constructor
  · rintro ⟨_, protocol, _, within, _, _, _, rfl, ⟨counted, rfl⟩, rfl, rfl⟩
    exact ⟨by simpa using counted, protocol, within, by simp⟩
  · rintro ⟨counted, protocol, within, rfl⟩
    exact ⟨⟨⟩, protocol, ⟨⟩, within, field, [], field, by simp, ⟨counted, rfl⟩, rfl, rfl⟩

/-- One turn of the handshake reader, in terms of the bytes it has. The value and the index that
the source carries along are those of these bytes. -/
theorem readHandshakeFrameFrom_succ (rounds : Nat) (read : Bytes) :
    readHandshakeFrameFrom (rounds + 1) read.length read (groups read) =
      readU8 .partialHandshakeLength >>= fun byte =>
        if byte &&& 0x80 = 0 then
          ensure (groups (read ++ [byte]) ≤ maxPacketLength) .handshakeExceedsProtocolLimit >>=
            fun _ => ensure (groups (read ++ [byte]) ≤ maxHandshakePacketLength)
              (.handshakeExceedsLimit (groups (read ++ [byte]))) >>=
            fun _ => readExact (groups (read ++ [byte])) .partialHandshakeBody >>=
            fun body => pure (read ++ [byte] ++ body, (read ++ [byte]).length)
        else
          readHandshakeFrameFrom rounds (read ++ [byte]).length (read ++ [byte])
            (groups (read ++ [byte])) := by
  rw [readHandshakeFrameFrom]
  congr 1
  funext byte
  dsimp only
  rw [gather_length, List.length_append, List.length_singleton]

/-- One turn of the packet reader, in terms of the bytes it has. Unlike the other reader it has
read the next byte before the turn begins. -/
theorem readPacketFrom_succ (limit rounds : Nat) (read : Bytes) (byte : UInt8) :
    readPacketFrom limit (rounds + 1) read.length byte (groups read) =
      if byte &&& 0x80 = 0 then
        ensure (groups (read ++ [byte]) ≤ maxPacketLength) .packetExceedsProtocolLimit >>=
          fun _ => ensure (groups (read ++ [byte]) ≤ limit)
            (.packetExceedsLimit (groups (read ++ [byte])) limit) >>=
          fun _ => readExact (groups (read ++ [byte])) .partialPacket >>= fun body => pure (id body)
      else if read.length < 2 then
        readU8 .partialPacketLength >>= fun next =>
          readPacketFrom limit rounds (read ++ [byte]).length next (groups (read ++ [byte]))
      else
        readPacketFrom limit rounds (read ++ [byte]).length byte (groups (read ++ [byte])) := by
  rw [readPacketFrom, ← gather_length read byte, List.length_append, List.length_singleton]
  simp only [id_eq, bind_pure]

/-- The loop of the handshake reader, after the continued length bytes `read`. The induction is on
the rounds left; each turn reads one byte, which ends the length or is continued. -/
theorem readHandshakeFrameFrom_reads (rounds : Nat) (read : Bytes)
    (position : read.length + rounds = 3) (continued : Continued read) :
    StreamReads (rounds + maxHandshakePacketLength)
      (readHandshakeFrameFrom rounds read.length read (groups read))
      (fun field result => ∃ byte tail body, field = byte :: tail ∧
        FrameTail maxHandshakePacketLength read byte tail body ∧ result.1 = read ++ field ∧
        result.2 + body.length = result.1.length) := by
  intro ending room
  induction rounds generalizing read with
  | zero =>
    apply ((Reads.throw _).relax (Nat.zero_le _)).congr
    intro before field result
    constructor
    · exact fun impossible => impossible.2.elim
    · rintro ⟨byte, tail, body, _, frame, _⟩
      exact absurd frame (frameTail_late (by omega))
  | succ rounds inductionHypothesis =>
    have chain : Reads (SocketAt ending) room (1 + (rounds + maxHandshakePacketLength))
        (readHandshakeFrameFrom (rounds + 1) read.length read (groups read))
        (Followed (fun _ field byte => field = [byte]) fun byte => fun _ tail result =>
          ∃ body, FrameTail maxHandshakePacketLength read byte tail body ∧
            result.1 = read ++ byte :: tail ∧ result.2 + body.length = result.1.length) := by
      rw [readHandshakeFrameFrom_succ]
      refine (readU8_reads .partialHandshakeLength ending room).bind fun byte _ => ?_
      by_cases ends : byte &&& 0x80 = 0
      · rw [if_pos ends]
        have small := (continuation_clear byte).mp ends
        apply ((body_reads _ _ _ _ _ _ ending room).relax (by omega)).congr
        intro before field result
        constructor
        · rintro ⟨counted, _, within, rfl⟩
          exact ⟨field, (frameTail_ends continued (by omega) small).mpr ⟨counted, rfl, within⟩,
            by simp, by simp only [List.length_append]⟩
        · rintro ⟨body, frame, framed, offset⟩
          have protocol := frame.within_protocol
          obtain ⟨counted, rfl, within⟩ := (frameTail_ends continued (by omega) small).mp frame
          refine ⟨counted, counted ▸ protocol, within, Prod.ext (by simpa using framed) ?_⟩
          rw [framed] at offset
          simp only [List.length_append, List.length_cons, List.length_nil] at offset ⊢
          omega
      · rw [if_neg ends]
        have follows : 128 ≤ byte.toNat :=
          Nat.le_of_not_lt fun small => ends ((continuation_clear byte).mpr small)
        have step := inductionHypothesis (read ++ [byte])
          (by simp only [List.length_append, List.length_singleton]; omega)
          (fun known among => by
            rcases List.mem_append.mp among with earlier | last
            · exact continued known earlier
            · exact List.mem_singleton.mp last ▸ follows)
        apply step.congr
        intro before field result
        constructor
        · rintro ⟨next, tail, body, rfl, frame, framed, offset⟩
          exact ⟨body, (frameTail_follows continued follows).mpr ⟨next, tail, rfl, frame⟩,
            by simpa using framed, offset⟩
        · rintro ⟨body, frame, framed, offset⟩
          obtain ⟨next, tail, rfl, after⟩ := (frameTail_follows continued follows).mp frame
          exact ⟨next, tail, body, rfl, after, by simpa using framed, offset⟩
    apply (chain.relax (by omega)).congr
    intro before field result
    constructor
    · rintro ⟨_, tail, byte, rfl, rfl, body, frame, framed, offset⟩
      exact ⟨byte, tail, body, rfl, frame, framed, offset⟩
    · rintro ⟨byte, tail, body, rfl, frame, framed, offset⟩
      exact ⟨[byte], tail, byte, rfl, rfl, body, frame, framed, offset⟩

/-- The loop of the packet reader, whose next length byte has been fetched after the
continued bytes `read`. -/
theorem readPacketFrom_reads (limit rounds : Nat) (read : Bytes) (byte : UInt8)
    (position : read.length + rounds = 3) (continued : Continued read) :
    StreamReads (rounds + limit) (readPacketFrom limit rounds read.length byte (groups read))
      (fun tail body => FrameTail limit read byte tail body) := by
  intro ending room
  induction rounds generalizing read byte with
  | zero =>
    apply ((Reads.throw _).relax (Nat.zero_le _)).congr
    intro before tail body
    constructor
    · exact fun impossible => impossible.2.elim
    · exact fun frame => absurd frame (frameTail_late (by omega))
  | succ rounds inductionHypothesis =>
    rw [readPacketFrom_succ]
    by_cases ends : byte &&& 0x80 = 0
    · rw [if_pos ends]
      have small := (continuation_clear byte).mp ends
      have body := body_reads limit (groups (read ++ [byte])) .packetExceedsProtocolLimit
        (.packetExceedsLimit (groups (read ++ [byte])) limit) .partialPacket id ending room
      apply (body.relax (by omega)).congr
      intro before field body
      constructor
      · rintro ⟨counted, _, within, rfl⟩
        exact (frameTail_ends continued (by omega) small).mpr ⟨counted, rfl, within⟩
      · intro frame
        have protocol := frame.within_protocol
        obtain ⟨counted, rfl, within⟩ := (frameTail_ends continued (by omega) small).mp frame
        exact ⟨counted, counted ▸ protocol, within, rfl⟩
    · rw [if_neg ends]
      have follows : 128 ≤ byte.toNat :=
        Nat.le_of_not_lt fun small => ends ((continuation_clear byte).mpr small)
      have counted : (read ++ [byte]).length = read.length + 1 := by simp
      have continued' : Continued (read ++ [byte]) := fun known among => by
        rcases List.mem_append.mp among with earlier | last
        · exact continued known earlier
        · exact List.mem_singleton.mp last ▸ follows
      by_cases more : read.length < 2
      · rw [if_pos more]
        have chain : Reads (SocketAt ending) room (1 + (rounds + limit)) _
            (Followed (fun _ field next => field = [next]) fun next => fun _ tail body =>
              FrameTail limit (read ++ [byte]) next tail body) :=
          (readU8_reads .partialPacketLength ending room).bind fun next _ =>
            inductionHypothesis (read ++ [byte]) next (by omega) continued'
        apply (chain.relax (by omega)).congr
        intro before field body
        refine Iff.trans ?_ (frameTail_follows continued follows).symm
        constructor
        · rintro ⟨_, tail, next, rfl, rfl, frame⟩
          exact ⟨next, tail, rfl, frame⟩
        · rintro ⟨next, tail, rfl, frame⟩
          exact ⟨[next], tail, next, rfl, rfl, frame⟩
      · -- The third byte is the last one fetched; the loop then runs out of positions.
        rw [if_neg more]
        have step := inductionHypothesis (read ++ [byte]) byte (by omega) continued'
        apply (step.relax (by omega)).congr
        intro before field body
        refine Iff.trans ?_ (frameTail_follows continued follows).symm
        constructor
        · exact fun frame => absurd frame (frameTail_late (by omega))
        · rintro ⟨next, tail, _, frame⟩
          exact absurd frame (frameTail_late (by omega))

/-- A frame starts with its first length byte. -/
theorem isFrame_iff (limit : Nat) (field body : Bytes) :
    IsFrame limit field body ↔
      ∃ byte tail, field = byte :: tail ∧ FrameTail limit [] byte tail body := by
  constructor
  · rintro ⟨lengthField, rfl, isLength, within⟩
    cases lengthField with
    | nil => exact absurd isLength.terminated not_terminated_nil
    | cons byte more => exact ⟨byte, more ++ body, rfl, more, rfl, isLength, within⟩
  · rintro ⟨byte, tail, rfl, more, rfl, isLength, within⟩
    exact ⟨byte :: more, rfl, isLength, within⟩

/-- The handshake reader takes one frame and keeps all of it, with the place at which the body
begins. -/
theorem readHandshakeFrame_reads :
    StreamReads (3 + maxHandshakePacketLength) readHandshakeFrame
      (fun field result => ∃ body, IsFrame maxHandshakePacketLength field body ∧
        result.1 = field ∧ result.2 + body.length = field.length) := by
  intro ending room
  apply (readHandshakeFrameFrom_reads 3 [] rfl continued_nil ending room).congr
  intro before field result
  simp only [isFrame_iff, List.nil_append]
  constructor
  · rintro ⟨byte, tail, body, rfl, frame, whole, offset⟩
    exact ⟨body, ⟨byte, tail, rfl, frame⟩, whole, whole ▸ offset⟩
  · rintro ⟨body, ⟨byte, tail, rfl, frame⟩, whole, offset⟩
    exact ⟨byte, tail, body, rfl, frame, whole, whole ▸ offset⟩

/-- The packet reader takes one frame and returns its body. Its first byte is read before the
loop, which is why the loop's invariant has a byte of its own. -/
theorem readPacket_reads (limit : Nat) :
    StreamReads (4 + limit) (readPacket limit) (IsFrame limit) := by
  intro ending room
  have chain : Reads (SocketAt ending) room (1 + (3 + limit)) (readPacket limit)
      (Followed (fun _ field byte => field = [byte]) fun byte => fun _ tail body =>
        FrameTail limit [] byte tail body) :=
    (readU8_reads .packetLengthUnread ending room).bind fun byte _ =>
      readPacketFrom_reads limit 3 [] byte rfl continued_nil ending room
  apply (chain.relax (by omega)).congr
  intro before field body
  rw [isFrame_iff]
  constructor
  · rintro ⟨_, tail, byte, rfl, rfl, frame⟩
    exact ⟨byte, tail, rfl, frame⟩
  · rintro ⟨byte, tail, rfl, frame⟩
    exact ⟨[byte], tail, byte, rfl, rfl, frame⟩

/-! ## Lengths as VarInts -/

/-- A VarInt below the sign bit is the number its groups spell. -/
theorem toInt_of_small (value : Int32) (small : value.toUInt32.toNat < 2 ^ 31) :
    value.toInt = value.toUInt32.toNat :=
  BitVec.toInt_eq_toNat_of_lt (by change 2 * value.toUInt32.toNat < 2 ^ 32; omega)

/-- A stream begins with a length exactly when `decode_varint` finds a VarInt of at
most three bytes there. -/
theorem begins_with_length (stream after : Bytes) (length : Nat) :
    (∃ lengthField, stream = lengthField ++ after ∧ IsLength lengthField length) ↔
      ∃ taken value, decodeVarint stream = .ok (value, taken) ∧ taken ≤ 3 ∧
        value.toInt = length ∧ stream.drop taken = after := by
  constructor
  · rintro ⟨lengthField, rfl, isLength⟩
    have protocol := isLength.within_protocol
    have limit : maxPacketLength = 2097151 := rfl
    have value : (UInt32.ofNat length).toInt32.toUInt32.toNat = length := by
      rw [UInt32.toUInt32_toInt32, UInt32.toNat_ofNat']
      exact Nat.mod_eq_of_lt (by omega)
    have varint : IsVarint lengthField (UInt32.ofNat length).toInt32 :=
      ⟨isLength.terminated, by have := isLength.short; omega, by rw [value, isLength.spells]⟩
    exact ⟨lengthField.length, _, varint.decoded after, isLength.short,
      by rw [toInt_of_small _ (by omega), value], by simp⟩
  · rintro ⟨taken, value, decoded, short, spelled, rfl⟩
    obtain ⟨field, rest, rfl, rfl, varint⟩ := (decodeVarint_eq_ok _ _ _).mp decoded
    have bound := groups_lt field
    have power : 128 ^ field.length ≤ 128 ^ 3 := Nat.pow_le_pow_right (by decide) short
    have spells := varint.spells
    have same := toInt_of_small value (by omega)
    exact ⟨field, by simp, varint.terminated, short, by omega⟩

/-! ## Lengths that are refused -/

/-- A length prefix that the packet reader refuses: over the limit, or still not
ended after three bytes. -/
def RefusedLength (limit : Nat) (lengthField : Bytes) : Prop :=
  (∃ length, IsLength lengthField length ∧ limit < length) ∨
    (Continued lengthField ∧ lengthField.length = 3)

/-- Fetching the next byte of a stream that has one. -/
theorem outcome_readU8 (context : ErrorKind → ClientError) {socket : Socket} {byte : UInt8}
    {rest : Bytes} (stream : socket.stream = byte :: rest) :
    ∃ later, outcome (readU8 context) socket = (.ok byte, later) ∧ later.stream = rest := by
  exact ((readU8_reads context).iff socket byte rest).mpr ⟨[byte], stream, rfl⟩

/-- A refused length is an error, and only its own bytes are gone by then. The induction is on the
rounds left, with the bytes read so far generalized. -/
theorem readPacketFrom_refuses (limit rounds : Nat) (read more : Bytes) (byte : UInt8)
    (rest : Bytes) (socket : Socket) (position : read.length + rounds = 3)
    (continued : Continued read) (refused : RefusedLength limit (read ++ byte :: more))
    (stream : socket.stream = more ++ rest) :
    ∃ error later, outcome (readPacketFrom limit rounds read.length byte (groups read)) socket =
      (.error (.failed error), later) ∧ later.stream = rest := by
  induction rounds generalizing read byte more socket with
  | zero =>
    -- A length has at most three bytes, and the three of `read` are continued.
    rcases refused with ⟨_, isLength, _⟩ | ⟨_, counted⟩
    · have short := isLength.short
      simp only [List.length_append, List.length_cons] at short
      omega
    · simp only [List.length_append, List.length_cons] at counted
      omega
  | succ rounds inductionHypothesis =>
    rw [readPacketFrom_succ]
    by_cases ends : byte &&& 0x80 = 0
    · have small := (continuation_clear byte).mp ends
      rw [if_pos ends]
      rcases refused with ⟨length, isLength, oversized⟩ | ⟨follows, _⟩
      · have terminated := (terminated_append continued).mp isLength.terminated
        obtain ⟨_, rfl⟩ | ⟨follows, _⟩ := (terminated_cons _ _).mp terminated
        · have protocol := isLength.within_protocol
          have spells := isLength.spells
          refine ⟨.packetExceedsLimit (groups (read ++ [byte])) limit, socket, ?_, stream⟩
          rw [outcome_bind, outcome_ensure, if_pos (by omega)]
          simp only [outcome_bind, outcome_ensure, if_neg (show ¬ groups (read ++ [byte]) ≤ limit by omega)]
        · omega
      · have := follows byte (by simp)
        omega
    · have follows : 128 ≤ byte.toNat :=
        Nat.le_of_not_lt fun small => ends ((continuation_clear byte).mpr small)
      have continued' : Continued (read ++ [byte]) := fun known among => by
        rcases List.mem_append.mp among with earlier | last
        · exact continued known earlier
        · exact List.mem_singleton.mp last ▸ follows
      have counted : (read ++ [byte]).length = read.length + 1 := by simp
      rw [if_neg ends]
      by_cases early : read.length < 2
      · rw [if_pos early]
        cases more with
        | nil =>
          rcases refused with ⟨_, isLength, _⟩ | ⟨_, whole⟩
          · exact absurd continued' (List.append_nil (read ++ [byte]) ▸
              isLength.terminated.not_continued)
          · omega
        | cons next more =>
          obtain ⟨later, fetched, left⟩ := outcome_readU8 .partialPacketLength stream
          rw [outcome_bind_ok _ _ fetched]
          exact inductionHypothesis (read ++ [byte]) more next later (by omega) continued'
            (by simpa using refused) left
      · -- Three continued bytes: the loop ends without fetching another one.
        rw [if_neg early]
        obtain rfl : rounds = 0 := by omega
        have alone : more = [] := by
          apply List.eq_nil_of_length_eq_zero
          rcases refused with ⟨_, isLength, _⟩ | ⟨_, whole⟩
          · have short := isLength.short
            simp only [List.length_append, List.length_cons] at short
            omega
          · simp only [List.length_append, List.length_cons] at whole
            omega
        rw [alone] at stream
        exact ⟨.packetLengthExceedsThreeBytes, socket, rfl, stream⟩

/-- A refused length is read up to its last byte and no further. An empty one is none, so there is
a first byte to read before the loop. -/
theorem readPacket_refuses (limit : Nat) {socket : Socket} {lengthField rest : Bytes}
    (stream : socket.stream = lengthField ++ rest) (refused : RefusedLength limit lengthField) :
    ∃ error later, outcome (readPacket limit) socket = (.error (.failed error), later) ∧
      later.stream = rest := by
  cases lengthField with
  | nil =>
    rcases refused with ⟨_, isLength, _⟩ | ⟨_, counted⟩
    · exact absurd isLength.terminated not_terminated_nil
    · simp at counted
  | cons byte more =>
    obtain ⟨later, fetched, left⟩ := outcome_readU8 .packetLengthUnread stream
    rw [readPacket, outcome_bind_ok _ _ fetched]
    exact readPacketFrom_refuses limit 3 [] more byte rest later rfl continued_nil refused left

/-! ## The two readers -/

/-- The framing part of the handshake reader and the packet reader under the same
limit succeed on the same streams, with the same body and the same bytes left. The
packet reader succeeds exactly when the stream begins with a length of at most three
bytes that `decode_varint` decodes to a value within the limit, and with that many
bytes after it. A refused length costs its own bytes and no others. -/
theorem frame_readers_agree :
    (∀ (socket : Socket) (body rest : Bytes),
      (∃ framed offset later, outcome readHandshakeFrame socket = (.ok (framed, offset), later) ∧
          framed.drop offset = body ∧ later.stream = rest) ↔
        ∃ later, outcome (readPacket maxHandshakePacketLength) socket = (.ok body, later) ∧
          later.stream = rest) ∧
    (∀ (limit : Nat) (socket : Socket) (body rest : Bytes),
      (∃ later, outcome (readPacket limit) socket = (.ok body, later) ∧ later.stream = rest) ↔
        ∃ taken value, decodeVarint socket.stream = .ok (value, taken) ∧ taken ≤ 3 ∧
          value.toInt ≤ limit ∧ value.toInt = body.length ∧
          socket.stream.drop taken = body ++ rest) ∧
    (∀ (limit : Nat) (socket : Socket) (lengthField rest : Bytes),
      socket.stream = lengthField ++ rest → RefusedLength limit lengthField →
        ∃ error later, outcome (readPacket limit) socket = (.error (.failed error), later) ∧
          later.stream = rest) := by
  refine ⟨fun socket body rest => ?_, fun limit socket body rest => ?_,
    fun limit socket lengthField rest stream refused => readPacket_refuses limit stream refused⟩
  · rw [(readPacket_reads maxHandshakePacketLength).iff socket body rest]
    constructor
    · rintro ⟨framed, offset, later, read, rfl, left⟩
      obtain ⟨field, split, body, frame, rfl, counted⟩ :=
        (readHandshakeFrame_reads.iff socket (framed, offset) rest).mp ⟨later, read, left⟩
      refine ⟨framed, split, ?_⟩
      rwa [frame.drop_offset counted]
    · rintro ⟨field, split, frame⟩
      have counted : field.length - body.length + body.length = field.length := by
        have := frame.length_le
        omega
      obtain ⟨later, read, left⟩ := (readHandshakeFrame_reads.iff socket
        (field, field.length - body.length) rest).mpr ⟨field, split, body, frame, rfl, counted⟩
      exact ⟨field, _, later, read, frame.drop_offset counted, left⟩
  · rw [(readPacket_reads limit).iff socket body rest]
    have lengths := begins_with_length socket.stream (body ++ rest) body.length
    constructor
    · rintro ⟨_, split, lengthField, rfl, isLength, within⟩
      obtain ⟨taken, value, decoded, short, spelled, after⟩ :=
        lengths.mp ⟨lengthField, by simpa using split, isLength⟩
      exact ⟨taken, value, decoded, short, by omega, spelled, after⟩
    · rintro ⟨taken, value, decoded, short, within, spelled, after⟩
      obtain ⟨lengthField, split, isLength⟩ := lengths.mpr ⟨taken, value, decoded, short, spelled, after⟩
      exact ⟨lengthField ++ body, by simpa using split, lengthField, rfl, isLength, by omega⟩

/-- A length of three bytes for a body of two, in two segments, is read as that body, and the
bytes behind it stay in the stream. -/
theorem padded_length_is_read :
    ∃ later, outcome (readPacket 32) ⟨[[0x82], [0x80, 0x00, 7, 8, 9]], .silent []⟩ =
      (.ok [7, 8], later) ∧ later.stream = [9] :=
  (frame_readers_agree.2.1 32 ⟨[[0x82], [0x80, 0x00, 7, 8, 9]], .silent []⟩ [7, 8] [9]).mpr
    ⟨3, 2, rfl, by decide, by decide, rfl, rfl⟩

end McServerNap
