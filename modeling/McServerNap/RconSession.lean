import McServerNap.RconFraming
import Mathlib.Algebra.Group.Int.Defs

/-!
# Which replies an RCON client believes

The client numbers its requests, and the numbers go round only after all positive 32-bit
ones. A reply is believed when every packet up to the end marker carries the number of the
command itself, so whatever an earlier exchange left on the stream makes the next command
fail instead of becoming part of its result.
-/

namespace McServerNap.Rcon

open Encoding

/-! ## Request numbers -/

/-- The number of the request that follows so many others. -/
def requestId (index : Nat) : Int32 := Int32.ofNat (index % (2 ^ 31 - 1) + 1)

/-- The ids go round from one to the largest positive number, and are never zero or negative. -/
theorem requestId_toInt (index : Nat) :
    (requestId index).toInt = (index % (2 ^ 31 - 1) + 1 : Nat) :=
  Int32.toInt_ofNat_of_lt (by omega)

/-- So two requests share an id only a whole round apart. -/
theorem requestId_eq_iff (first second : Nat) :
    requestId first = requestId second ↔ first % (2 ^ 31 - 1) = second % (2 ^ 31 - 1) := by
  rw [← Int32.toInt_inj, requestId_toInt, requestId_toInt]
  omega

/-- `next_request_id` goes from each id to the next one, and from the largest back to the first,
so that the ids are those of a sequence. -/
theorem followingId_requestId (index : Nat) :
    followingId (requestId index) = requestId (index + 1) := by
  have largest : Int32.maxValue.toInt = 2 ^ 31 - 1 := by decide
  unfold followingId
  by_cases last : requestId index = Int32.maxValue
  · rw [if_pos last]
    have value := congrArg Int32.toInt last
    rw [requestId_toInt, largest] at value
    have first : requestId 0 = requestId (index + 1) := (requestId_eq_iff _ _).mpr (by omega)
    rw [← first]
    rfl
  · rw [if_neg last]
    have notLast : (requestId index).toInt ≠ 2 ^ 31 - 1 := fun same =>
      last (Int32.toInt_inj.mp (same.trans largest.symm))
    rw [requestId_toInt] at notLast
    have step : (index + 1) % (2 ^ 31 - 1) = index % (2 ^ 31 - 1) + 1 := by omega
    rw [requestId, requestId, step]
    exact (Int32.ofNat_add _ 1).symm

/-- The client carries the number of its next request, and the packets it has written carry
theirs. -/
structure Numbered (client : RconClient) : Prop where
  next : client.nextRequestId = requestId client.written.length
  written : ∀ index (before : index < client.written.length),
    ∃ kind body, encodePacket (requestId index) kind body = .ok client.written[index]

/-! ## Sending -/

/-- The text can be the body of a packet. -/
def Sendable (text : List Char) : Prop := (utf8 text).length + 10 < 2 ^ 31

/-- A command is valid exactly when it is short enough and contains no zero byte. -/
theorem validateBody_eq_ok (text : List Char) :
    validateBody text = .ok () ↔ (utf8 text).length ≤ maxCommandBytes ∧ 0 ∉ utf8 text := by
  unfold validateBody
  split
  · split <;> simp_all
  · rename_i long
    simp [long]

/-- A valid command can be the body of a packet. -/
theorem sendable_of_validateBody {text : List Char} (valid : validateBody text = .ok ()) :
    Sendable text := by
  have short := ((validateBody_eq_ok text).mp valid).1
  unfold maxCommandBytes at short
  unfold Sendable
  omega

/-- So can the empty body of an end marker. -/
theorem sendable_nil : Sendable [] := by
  unfold Sendable
  decide

/-- So can the stop command. -/
theorem sendable_stop : Sendable "stop".toList := by
  unfold Sendable
  decide

/-- The client once it has handed a packet to the socket. -/
def RconClient.sent (client : RconClient) (kind : Int32) (text : List Char) : RconClient :=
  { client with
    nextRequestId := followingId client.nextRequestId
    written := client.written ++ [Packet.frame ⟨client.nextRequestId, kind, utf8 text⟩]
    waits := client.waits.tail }

/-- A packet that was sent uses up its id. -/
@[simp] theorem RconClient.sent_nextRequestId (client : RconClient) (kind : Int32)
    (text : List Char) :
    (client.sent kind text).nextRequestId = followingId client.nextRequestId := rfl

/-- Sending reads nothing. -/
@[simp] theorem RconClient.sent_unread (client : RconClient) (kind : Int32) (text : List Char) :
    (client.sent kind text).unread = client.unread := rfl

/-- A packet is handed to the socket whatever becomes of the write. -/
theorem outcome_sendPacket (kind : Int32) (text : List Char) (sendable : Sendable text)
    (client : RconClient) :
    outcome (sendPacket kind text) client =
      ((match client.waits.head?.getD .finished with
        | .finished => .ok client.nextRequestId
        | .failed kind => .error (.failed (.notWritten kind))
        | .givenUp => .error .pending), client.sent kind text) := by
  have encoded := encodePacket_frame client.nextRequestId kind (utf8 text) sendable
  simp only [sendPacket, outcome_bind, outcome_get, outcome_set, encoded, attempt, outcome_pure,
    writeAll, nextWait, outcome_modify]
  cases client.waits.head?.getD .finished <;> rfl

/-- A pause takes one wait, and only being given up ends it early. -/
theorem outcome_pause (client : RconClient) :
    outcome pause client =
      (if client.waits.head?.getD .finished = .givenUp then .error .pending else .ok (),
        { client with waits := client.waits.tail }) := by
  simp only [pause, nextWait, outcome_bind, outcome_get, outcome_set, outcome_pure]
  cases client.waits.head?.getD .finished <;> rfl

/-- The next write succeeds. -/
def RconClient.Writes (client : RconClient) : Prop := client.waits.head?.getD .finished = .finished

/-- A packet is sent exactly when its body fits and the write succeeds, with the next id. -/
theorem sendPacket_eq_ok (kind : Int32) (text : List Char) (client later : RconClient)
    (id : Int32) :
    outcome (sendPacket kind text) client = (.ok id, later) ↔
      Sendable text ∧ client.Writes ∧ id = client.nextRequestId ∧ later = client.sent kind text := by
  by_cases sendable : Sendable text
  · rw [outcome_sendPacket kind text sendable, RconClient.Writes]
    cases client.waits.head?.getD .finished with
    | finished => simp [sendable, eq_comm]
    | failed kind => simp
    | givenUp => simp
  · obtain ⟨error, refused⟩ := encodePacket_refuses client.nextRequestId kind (utf8 text)
      (Nat.le_of_not_lt sendable)
    simp [sendPacket, outcome_bind, refused, attempt, sendable]

/-- Sending keeps the numbering: the packet carries the id that was next, and the id after it
becomes the next one. -/
theorem Numbered.sent {client : RconClient} (numbered : Numbered client) (kind : Int32)
    (text : List Char) (sendable : Sendable text) : Numbered (client.sent kind text) where
  next := by
    simp only [RconClient.sent, List.length_append, List.length_singleton]
    rw [numbered.next, followingId_requestId]
  written := by
    intro index before
    simp only [RconClient.sent, List.length_append, List.length_singleton] at before ⊢
    by_cases earlier : index < client.written.length
    · rw [List.getElem_append_left earlier]
      exact numbered.written index earlier
    · obtain rfl : index = client.written.length := by omega
      rw [List.getElem_append_right (Nat.le_refl _)]
      simp only [Nat.sub_self, List.getElem_cons_zero]
      rw [← numbered.next]
      exact ⟨kind, utf8 text, encodePacket_frame _ _ _ sendable⟩

/-- What does not send keeps the numbers. -/
theorem Numbered.congr {client later : RconClient} (numbered : Numbered client)
    (sameNext : later.nextRequestId = client.nextRequestId)
    (sameWritten : later.written = client.written) : Numbered later where
  next := by rw [sameNext, sameWritten, numbered.next]
  written := by
    intro index before
    simp only [sameWritten] at before ⊢
    exact numbered.written index before

/-! ## Packets in a row -/

/-- The bytes of the packets, one frame after the other. -/
def frames (packets : List Packet) : Bytes := packets.flatMap Packet.frame

/-- What the packets carry, joined. -/
def bodies (packets : List Packet) : Bytes := packets.flatMap Packet.body

/-- The frames of packets follow one another. -/
@[simp] theorem frames_cons (packet : Packet) (packets : List Packet) :
    frames (packet :: packets) = packet.frame ++ frames packets := rfl

/-- So do their bodies. -/
@[simp] theorem bodies_cons (packet : Packet) (packets : List Packet) :
    bodies (packet :: packets) = packet.body ++ bodies packets := rfl

/-- The stream begins with these packets, each of them within the limit and as described,
and `rest` is behind them. -/
def Begins (stream : Bytes) (Described : Packet → Prop) (packets : List Packet) (rest : Bytes) :
    Prop :=
  stream = frames packets ++ rest ∧ ∀ packet ∈ packets, packet.WithinLimit ∧ Described packet

/-- One packet comes first. -/
theorem begins_cons_iff {stream rest : Bytes} {Described : Packet → Prop} {packet : Packet}
    {packets : List Packet} :
    Begins stream Described (packet :: packets) rest ↔
      ∃ behind, stream = packet.frame ++ behind ∧ (packet.WithinLimit ∧ Described packet) ∧
        Begins behind Described packets rest := by
  constructor
  · rintro ⟨rfl, all⟩
    obtain ⟨first, others⟩ := List.forall_mem_cons.mp all
    exact ⟨frames packets ++ rest, by simp, first, rfl, others⟩
  · rintro ⟨_, rfl, first, rfl, others⟩
    exact ⟨by simp, List.forall_mem_cons.mpr ⟨first, others⟩⟩

/-! ## Authentication -/

/-- The packet that comes next decides how the wait for authentication goes on. -/
theorem awaitAuthentication_read (authenticationId : Int32) {client later : RconClient}
    {packet : Packet} (read : outcome readPacket client = (.ok packet, later)) :
    awaitAuthentication authenticationId client =
      if packet.kind ≠ authResponse then awaitAuthentication authenticationId later
      else if packet.id = -1 then (.error (.failed .authenticationFailed), later)
      else if packet.id = authenticationId then (.ok (), later)
      else (.error (.failed .unexpectedAuthenticationId), later) := by
  rw [awaitAuthentication]
  split
  · rename_i failed
    cases read.symm.trans failed
  · rename_i again
    obtain ⟨same, rfl⟩ := Prod.mk.inj (read.symm.trans again)
    obtain rfl := Except.ok.inj same
    rfl

/-- A packet that cannot be read ends the authentication with its error. -/
theorem awaitAuthentication_failed (authenticationId : Int32) {client later : RconClient}
    {interruption : Interruption}
    (failed : outcome readPacket client = (.error interruption, later)) :
    awaitAuthentication authenticationId client = (.error interruption, later) := by
  rw [awaitAuthentication]
  split
  · rename_i again
    obtain ⟨same, rfl⟩ := Prod.mk.inj (failed.symm.trans again)
    obtain rfl := Except.error.inj same
    rfl
  · rename_i read
    cases failed.symm.trans read

/-- The stream has packets of other kinds and then an authentication response that carries
the number of the request. -/
def Authenticates (stream : Bytes) (authenticationId : Int32) (rest : Bytes) : Prop :=
  ∃ (skipped : List Packet) (answer : Packet),
    Begins stream (fun packet => packet.kind ≠ authResponse) skipped (answer.frame ++ rest) ∧
      answer.WithinLimit ∧ answer.kind = authResponse ∧ answer.id = authenticationId

/-- Authentication succeeds exactly when the response to its request is among what the server
sent, with only packets of other kinds before it. -/
theorem awaitAuthentication_eq_ok (authenticationId : Int32) (regular : authenticationId ≠ -1)
    (client later : RconClient) :
    awaitAuthentication authenticationId client = (.ok (), later) ↔
      ∃ rest, Authenticates client.unread authenticationId rest ∧
        later = { client with unread := rest } := by
  constructor
  · intro authenticated
    induction unread : client.unread.length using Nat.strongRecOn generalizing client with
    | ind length inductionHypothesis =>
      cases read : outcome readPacket client with
      | mk result between =>
        cases result with
        | error interruption =>
          cases (awaitAuthentication_failed authenticationId read).symm.trans authenticated
        | ok packet =>
          rw [awaitAuthentication_read authenticationId read] at authenticated
          have shorter := readPacket_shorter read
          obtain ⟨limited, rest, split, rfl⟩ := (readPacket_eq_ok _ _ _).mp read
          by_cases answers : packet.kind ≠ authResponse
          · rw [if_pos answers] at authenticated
            obtain ⟨rest', ⟨skipped, answer, begins, answered⟩, rfl⟩ :=
              inductionHypothesis _ (unread ▸ shorter) _ authenticated rfl
            exact ⟨rest', ⟨packet :: skipped, answer,
              begins_cons_iff.mpr ⟨rest, split, ⟨limited, answers⟩, begins⟩, answered⟩, rfl⟩
          · rw [if_neg answers] at authenticated
            have kind : packet.kind = authResponse := Decidable.not_not.mp answers
            split at authenticated
            · cases authenticated
            · split at authenticated
              · rename_i same
                exact ⟨rest, ⟨[], packet, ⟨split, nofun⟩, limited, kind, same⟩,
                  (Prod.mk.inj authenticated).2.symm⟩
              · cases authenticated
  · rintro ⟨rest, ⟨skipped, answer, begins, limited, kind, rfl⟩, rfl⟩
    induction skipped generalizing client with
    | nil =>
      obtain ⟨stream, -⟩ := begins
      have read := (readPacket_eq_ok client _ answer).mpr ⟨limited, rest, stream, rfl⟩
      rw [awaitAuthentication_read _ read, if_neg (Decidable.not_not.mpr kind), if_neg regular,
        if_pos rfl]
    | cons packet skipped inductionHypothesis =>
      obtain ⟨behind, stream, ⟨packetLimited, other⟩, begins⟩ := begins_cons_iff.mp begins
      have read := (readPacket_eq_ok client _ packet).mpr ⟨packetLimited, behind, stream, rfl⟩
      rw [awaitAuthentication_read _ read, if_pos other]
      exact inductionHypothesis { client with unread := behind } begins

/-! ## Replies in several packets -/

/-- One packet is the end marker's reply, a part of the response, or an error. This unrolls one
turn of the loop, for a packet that is known. -/
theorem collectResponse_read (commandId endMarkerId : Int32) (response : Bytes)
    {client later : RconClient} {packet : Packet}
    (read : outcome readPacket client = (.ok packet, later)) :
    collectResponse commandId endMarkerId response client =
      if packet.id = endMarkerId then
        match fromUtf8 response with
        | some text => (.ok text, later)
        | none => (.error (.failed .responseNotUtf8), later)
      else if packet.id = commandId ∧ packet.kind = responseValue then
        if response.length + packet.body.length ≤ maxResponseBytes then
          collectResponse commandId endMarkerId (response ++ packet.body) later
        else (.error (.failed .responseExceedsLimit), later)
      else (.error (.failed .unexpectedPacket), later) := by
  rw [collectResponse]
  split
  · rename_i failed
    cases read.symm.trans failed
  · rename_i again
    obtain ⟨same, rfl⟩ := Prod.mk.inj (read.symm.trans again)
    obtain rfl := Except.ok.inj same
    rfl

/-- A packet that cannot be read ends the command with its error, whatever part of the response
was collected before. -/
theorem collectResponse_failed (commandId endMarkerId : Int32) (response : Bytes)
    {client later : RconClient} {interruption : Interruption}
    (failed : outcome readPacket client = (.error interruption, later)) :
    collectResponse commandId endMarkerId response client = (.error interruption, later) := by
  rw [collectResponse]
  split
  · rename_i again
    obtain ⟨same, rfl⟩ := Prod.mk.inj (failed.symm.trans again)
    obtain rfl := Except.error.inj same
    rfl
  · rename_i read
    cases failed.symm.trans read

/-- The packet carries part of the reply to the command. -/
def Answers (commandId : Int32) (packet : Packet) : Prop :=
  packet.id = commandId ∧ packet.kind = responseValue

instance (commandId : Int32) (packet : Packet) : Decidable (Answers commandId packet) :=
  inferInstanceAs (Decidable (packet.id = commandId ∧ packet.kind = responseValue))

/-- What was collected and the packets of the command up to the end marker make up the
reply. -/
def Completes (stream : Bytes) (commandId endMarkerId : Int32) (collected : Bytes)
    (reply : List Char) (rest : Bytes) : Prop :=
  ∃ (packets : List Packet) (marker : Packet),
    Begins stream (Answers commandId) packets (marker.frame ++ rest) ∧ marker.WithinLimit ∧
      marker.id = endMarkerId ∧ (collected ++ bodies packets).length ≤ maxResponseBytes ∧
      collected ++ bodies packets = utf8 reply

/-- The loop returns a reply that what it has collected is the beginning of. The induction is on
the bytes that are unread, since every packet takes some of them. -/
theorem collectResponse_eq_ok (commandId endMarkerId : Int32) (distinct : commandId ≠ endMarkerId)
    (response : Bytes) (within : response.length ≤ maxResponseBytes) (client later : RconClient)
    (reply : List Char) :
    collectResponse commandId endMarkerId response client = (.ok reply, later) ↔
      ∃ rest, Completes client.unread commandId endMarkerId response reply rest ∧
        later = { client with unread := rest } := by
  constructor
  · intro collected
    induction unread : client.unread.length using Nat.strongRecOn generalizing client response with
    | ind length inductionHypothesis =>
      cases read : outcome readPacket client with
      | mk result between =>
        cases result with
        | error interruption =>
          cases (collectResponse_failed _ _ _ read).symm.trans collected
        | ok packet =>
          rw [collectResponse_read _ _ _ read] at collected
          have shorter := readPacket_shorter read
          obtain ⟨limited, rest, split, rfl⟩ := (readPacket_eq_ok _ _ _).mp read
          by_cases ends : packet.id = endMarkerId
          · rw [if_pos ends] at collected
            split at collected
            · rename_i text decoded
              obtain ⟨same, rfl⟩ := Prod.mk.inj collected
              obtain rfl := Except.ok.inj same
              have spelled := (fromUtf8_eq_some _ _).mp decoded
              refine ⟨rest, ⟨[], packet, ⟨split, by simp⟩, limited, ends, ?_, ?_⟩, rfl⟩
              · simpa [bodies] using within
              · simpa [bodies] using spelled
            · cases collected
          · rw [if_neg ends] at collected
            split at collected
            · rename_i answers
              split at collected
              · rename_i room
                obtain ⟨rest', ⟨packets, marker, begins, bound, marks, small, spelled⟩, rfl⟩ :=
                  inductionHypothesis _ (unread ▸ shorter) (response ++ packet.body)
                    (by rw [List.length_append]; exact room) _ collected rfl
                refine ⟨rest', ⟨packet :: packets, marker, begins_cons_iff.mpr
                  ⟨rest, split, ⟨limited, answers⟩, begins⟩, bound, marks, ?_, ?_⟩, rfl⟩
                · simpa using small
                · simpa using spelled
              · cases collected
            · cases collected
  · rintro ⟨rest, ⟨packets, marker, begins, limited, rfl, small, spelled⟩, rfl⟩
    induction packets generalizing client response with
    | nil =>
      obtain ⟨stream, -⟩ := begins
      have read := (readPacket_eq_ok client _ marker).mpr ⟨limited, rest, stream, rfl⟩
      have decoded : fromUtf8 response = some reply :=
        (fromUtf8_eq_some _ _).mpr (by simpa [bodies] using spelled)
      rw [collectResponse_read _ _ _ read, if_pos rfl, decoded]
    | cons packet packets inductionHypothesis =>
      obtain ⟨behind, stream, ⟨packetLimited, answers⟩, begins⟩ := begins_cons_iff.mp begins
      have read := (readPacket_eq_ok client _ packet).mpr ⟨packetLimited, behind, stream, rfl⟩
      have room : response.length + packet.body.length ≤ maxResponseBytes := by
        simp only [bodies_cons, List.length_append] at small
        omega
      have other : packet.id ≠ marker.id := fun same => distinct (answers.1.symm.trans same)
      rw [collectResponse_read _ _ _ read, if_neg other,
        if_pos (And.intro answers.1 answers.2), if_pos room]
      exact inductionHypothesis (response ++ packet.body) (by rw [List.length_append]; exact room)
        { client with unread := behind } begins (by simpa using small) (by simpa using spelled)

/-- A packet with any other number ends the collection with an error, whatever was collected
before it. -/
theorem collectResponse_stale (commandId endMarkerId : Int32) (response : Bytes)
    (client : RconClient) (packets : List Packet) (stale : Packet) (rest : Bytes)
    (begins : Begins client.unread (Answers commandId) packets (stale.frame ++ rest))
    (limited : stale.WithinLimit) (notCommand : stale.id ≠ commandId)
    (notMarker : stale.id ≠ endMarkerId) (distinct : commandId ≠ endMarkerId) :
    ∃ error, (collectResponse commandId endMarkerId response client).1 =
      .error (.failed error) := by
  induction packets generalizing client response with
  | nil =>
    obtain ⟨stream, -⟩ := begins
    have read := (readPacket_eq_ok client _ stale).mpr ⟨limited, rest, stream, rfl⟩
    rw [collectResponse_read _ _ _ read, if_neg notMarker,
      if_neg fun answers => notCommand answers.1]
    exact ⟨_, rfl⟩
  | cons packet packets inductionHypothesis =>
    obtain ⟨behind, stream, ⟨packetLimited, answers⟩, begins⟩ := begins_cons_iff.mp begins
    have read := (readPacket_eq_ok client _ packet).mpr ⟨packetLimited, behind, stream, rfl⟩
    have other : packet.id ≠ endMarkerId := fun same => distinct (answers.1.symm.trans same)
    rw [collectResponse_read _ _ _ read, if_neg other, if_pos (And.intro answers.1 answers.2)]
    split
    · exact inductionHypothesis _ { client with unread := behind } begins
    · exact ⟨_, rfl⟩

/-! ## Commands -/

/-- The client once both packets of a command are written and the pause between them is
over. -/
def RconClient.asked (client : RconClient) (text : List Char) : RconClient :=
  let sent := client.sent execCommand text
  { sent with waits := sent.waits.tail }.sent execCommand []

/-- Nothing keeps the client from sending both packets of a command. -/
def RconClient.Unhindered (client : RconClient) : Prop :=
  client.Writes ∧ client.waits.tail.head?.getD .finished ≠ .givenUp ∧
    client.waits.tail.tail.head?.getD .finished = .finished

/-- Validating a command touches no connection. -/
theorem attempt_validateBody_eq_ok (text : List Char) (client later : RconClient) :
    outcome (attempt (validateBody text)) client = (.ok (), later) ↔
      validateBody text = .ok () ∧ later = client := by
  cases validateBody text with
  | ok value => simp [attempt, eq_comm]
  | error error => simp [attempt]

/-- A pause ends well exactly when it is not given up. It reads and writes nothing, and uses up
one of the surroundings' answers. -/
theorem pause_eq_ok (client later : RconClient) (value : Unit) :
    outcome pause client = (.ok value, later) ↔
      client.waits.head?.getD .finished ≠ .givenUp ∧
        later = { client with waits := client.waits.tail } := by
  rw [outcome_pause]
  by_cases impatient : client.waits.head?.getD .finished = .givenUp
  · simp [impatient]
  · rw [if_neg impatient]
    constructor
    · intro same
      exact ⟨impatient, (Prod.mk.inj same).2.symm⟩
    · rintro ⟨-, rfl⟩
      rfl

/-- A command that returns a reply was sent, and the collection returned it. Between the two
packets that are sent lies a pause, so both sends and the pause must succeed. -/
theorem command_collects (text reply : List Char) (client later : RconClient) :
    outcome (command text) client = (.ok reply, later) ↔
      validateBody text = .ok () ∧ client.Unhindered ∧
        collectResponse client.nextRequestId (followingId client.nextRequestId) []
          (client.asked text) = (.ok reply, later) := by
  unfold command
  rw [outcome_bind_eq_ok]
  constructor
  · rintro ⟨_, _, validated, sends⟩
    obtain ⟨valid, rfl⟩ := (attempt_validateBody_eq_ok _ _ _).mp validated
    simp only [outcome_bind_eq_ok, sendPacket_eq_ok, pause_eq_ok] at sends
    obtain ⟨_, _, ⟨-, first, rfl, rfl⟩, _, _, ⟨patient, rfl⟩, _, _, ⟨-, second, rfl, rfl⟩,
      collected⟩ := sends
    exact ⟨valid, ⟨first, patient, second⟩, collected⟩
  · rintro ⟨valid, ⟨first, patient, second⟩, collected⟩
    refine ⟨(), client, (attempt_validateBody_eq_ok _ _ _).mpr ⟨valid, rfl⟩, ?_⟩
    simp only [outcome_bind_eq_ok, sendPacket_eq_ok, pause_eq_ok]
    exact ⟨_, _, ⟨sendable_of_validateBody valid, first, rfl, rfl⟩, (), _, ⟨patient, rfl⟩, _, _,
      ⟨sendable_nil, second, rfl, rfl⟩, collected⟩

/-- A command returns a reply exactly when it is sent and the reply comes next, up to the end
marker. -/
theorem command_eq_ok (text reply : List Char) (client later : RconClient)
    (distinct : client.nextRequestId ≠ followingId client.nextRequestId) :
    outcome (command text) client = (.ok reply, later) ↔
      validateBody text = .ok () ∧ client.Unhindered ∧
        ∃ rest, Completes client.unread client.nextRequestId (followingId client.nextRequestId) []
          reply rest ∧ later = { client.asked text with unread := rest } := by
  rw [command_collects, collectResponse_eq_ok _ _ distinct [] (Nat.zero_le _)]
  rfl

/-- A packet with any other number makes the command fail when it comes before the end
marker. -/
theorem command_stale (text : List Char) (client : RconClient) (packets : List Packet)
    (stale : Packet) (rest : Bytes)
    (begins : Begins client.unread (Answers client.nextRequestId) packets (stale.frame ++ rest))
    (limited : stale.WithinLimit) (notCommand : stale.id ≠ client.nextRequestId)
    (notMarker : stale.id ≠ followingId client.nextRequestId)
    (distinct : client.nextRequestId ≠ followingId client.nextRequestId) :
    ∃ interruption, (outcome (command text) client).1 = .error interruption := by
  cases returned : outcome (command text) client with
  | mk result later =>
    cases result with
    | error interruption => exact ⟨interruption, rfl⟩
    | ok reply =>
      obtain ⟨-, -, collected⟩ := (command_collects _ _ _ _).mp returned
      obtain ⟨error, failed⟩ := collectResponse_stale _ _ [] (client.asked text) packets stale rest
        begins limited notCommand notMarker distinct
      rw [collected] at failed
      cases failed

/-! ## Numbers over a whole session -/

/-- The operation keeps the numbering, however it ends. -/
def Keeps {α : Type} (operation : Exchanging α) : Prop :=
  ∀ client, Numbered client → Numbered (outcome operation client).2

namespace Keeps

variable {α β : Type} {operation : Exchanging α} {next : α → Exchanging β}

/-- Operations that keep the numbering do so one after the other. -/
theorem bind (first : Keeps operation) (second : ∀ value, Keeps (next value)) :
    Keeps (operation >>= next) := by
  intro client numbered
  have between := first client numbered
  rw [outcome_bind]
  cases read : outcome operation client with
  | mk result later =>
    rw [read] at between
    cases result with
    | error interruption => exact between
    | ok value => exact second value later between

/-- What leaves the numbers alone keeps the numbering. -/
theorem silent
    (same : ∀ client, (outcome operation client).2.nextRequestId = client.nextRequestId ∧
      (outcome operation client).2.written = client.written) : Keeps operation :=
  fun client numbered => numbered.congr (same client).1 (same client).2

/-- A result that needs no connection keeps it. -/
theorem lift (result : Except Interruption α) : Keeps (Rcon.lift result) :=
  silent fun client => by
    rw [outcome_lift]
    exact ⟨rfl, rfl⟩

/-- So does one with an error of the client's own. -/
theorem attempt (result : Except Error α) : Keeps (Rcon.attempt result) := by
  apply silent
  intro client
  cases result <;> exact ⟨rfl, rfl⟩

/-- So does a pause. -/
theorem pause : Keeps pause := by
  apply silent
  intro client
  rw [outcome_pause]
  exact ⟨rfl, rfl⟩

/-- So does reading, which sends nothing. -/
theorem readExact (length : Nat) (context : ErrorKind → Error) :
    Keeps (readExact length context) := by
  apply silent
  intro client
  unfold Rcon.readExact
  simp only [outcome_bind, outcome_get, outcome_set]
  by_cases enough : length ≤ client.unread.length
  · rw [if_pos enough]
    exact ⟨rfl, rfl⟩
  · rw [if_neg enough]
    cases client.closed <;> exact ⟨rfl, rfl⟩

/-- So does reading a whole packet. -/
theorem readPacket : Keeps readPacket :=
  (readExact 4 _).bind fun _ => (lift _).bind fun _ => (lift _).bind fun _ =>
    (lift _).bind fun _ => (readExact _ _).bind fun _ => lift _

/-- Sending keeps it, as the packet takes the next id even if its write fails. -/
theorem sendPacket (kind : Int32) (text : List Char) (sendable : Sendable text) :
    Keeps (sendPacket kind text) := by
  intro client numbered
  rw [outcome_sendPacket kind text sendable]
  exact numbered.sent kind text sendable

/-- Collecting a response only reads, so the numbering of the client stays as it is. The induction
is on what is unread. -/
theorem collectResponse (commandId endMarkerId : Int32) (response : Bytes) :
    Keeps (collectResponse commandId endMarkerId response) := by
  intro client numbered
  induction unread : client.unread.length using Nat.strongRecOn generalizing client response with
  | ind length inductionHypothesis =>
    have kept := readPacket client numbered
    change Numbered (Rcon.collectResponse commandId endMarkerId response client).2
    cases read : outcome Rcon.readPacket client with
    | mk result later =>
      rw [read] at kept
      cases result with
      | error interruption =>
        rw [collectResponse_failed _ _ _ read]
        exact kept
      | ok packet =>
        have shorter := readPacket_shorter read
        rw [collectResponse_read _ _ _ read]
        split
        · split <;> exact kept
        · split
          · split
            · exact inductionHypothesis _ (unread ▸ shorter) _ later kept rfl
            · exact kept
          · exact kept

/-- A command keeps it: its packet and its end marker take two ids, one after the other, and
collecting the response takes none. -/
theorem command (text : List Char) : Keeps (command text) := by
  by_cases valid : validateBody text = .ok ()
  · exact (attempt _).bind fun _ =>
      (sendPacket _ _ (sendable_of_validateBody valid)).bind fun _ => pause.bind fun _ =>
        (sendPacket _ _ sendable_nil).bind fun _ => collectResponse _ _ _
  · intro client numbered
    cases checked : validateBody text with
    | ok value => exact absurd checked valid
    | error error =>
      unfold Rcon.command
      rw [outcome_bind, checked]
      exact numbered

/-- So does the stop command. -/
theorem stop : Keeps stop :=
  (sendPacket _ _ sendable_stop).bind fun _ =>
    silent fun _ => ⟨rfl, rfl⟩

end Keeps

/-! ## Sessions -/

/-- What may be asked of an authenticated client: a command, or to stop the server. -/
inductive Request where
  | command (text : List Char)
  | stop

/-- A request, with what is on the connection when it is made: further bytes from the server,
how the stream goes on behind them, and the coming waits. -/
structure Exchange where
  request : Request
  arrived : Bytes
  closed : Option ErrorKind
  waits : List Wait

/-- The client in the surroundings of its next exchange. -/
def RconClient.meets (client : RconClient) (exchange : Exchange) : RconClient :=
  { client with
    unread := client.unread ++ exchange.arrived
    closed := exchange.closed
    waits := exchange.waits }

/-- The client after an exchange, however it ended. -/
def RconClient.exchanged (client : RconClient) (exchange : Exchange) : RconClient :=
  match exchange.request with
  | .command text => (outcome (command text) (client.meets exchange)).2
  | .stop => (outcome stop (client.meets exchange)).2

/-- The client after several exchanges in a row, whatever came of each. -/
def RconClient.after (client : RconClient) (exchanges : List Exchange) : RconClient :=
  exchanges.foldl RconClient.exchanged client

/-- The client that authentication returned on a fresh stream. -/
def Authenticated (client : RconClient) : Prop :=
  ∃ nodelay password start, start.written = [] ∧
    outcome (authenticate nodelay password) start = (.ok (), client)

/-- A client that has written nothing begins with the id one. -/
theorem numbered_start (start : RconClient) (fresh : start.written = []) :
    Numbered { start with nextRequestId := 1 } where
  next := by
    simp only [fresh]
    rfl
  written := by
    intro index before
    simp only [fresh, List.length_nil, Nat.not_lt_zero] at before

/-- Once the connection is set up, the client sends its first request and waits. -/
theorem outcome_authenticate (nodelay : Except ErrorKind Unit) (password : List Char)
    (start later : RconClient) :
    outcome (authenticate nodelay password) start = (.ok (), later) ↔
      nodelay = .ok () ∧
        outcome (sendPacket auth password >>= fun authenticationId =>
          (awaitAuthentication authenticationId : Exchanging Unit))
            { start with nextRequestId := 1 } = (.ok (), later) := by
  unfold authenticate
  rw [outcome_bind]
  cases nodelay with
  | ok value =>
    simp only [Except.mapError, attempt, outcome_pure, true_and]
    rw [outcome_bind_ok _ _ (outcome_modify _ start)]
  | error kind => simp [Except.mapError, attempt]

/-- A client authenticates exactly when its socket takes the option, the password can be sent and
is, and the server responds to the id one. -/
theorem authenticate_eq_ok (nodelay : Except ErrorKind Unit) (password : List Char)
    (start later : RconClient) :
    outcome (authenticate nodelay password) start = (.ok (), later) ↔
      nodelay = .ok () ∧ Sendable password ∧ start.Writes ∧
        ∃ rest, Authenticates start.unread 1 rest ∧
          later = { ({ start with nextRequestId := 1 } : RconClient).sent auth password with
            unread := rest } := by
  rw [outcome_authenticate, outcome_bind_eq_ok]
  simp only [sendPacket_eq_ok]
  constructor
  · rintro ⟨enabled, _, _, ⟨sendable, writes, rfl, rfl⟩, awaited⟩
    exact ⟨enabled, sendable, writes,
      (awaitAuthentication_eq_ok 1 (by decide) _ _).mp awaited⟩
  · rintro ⟨enabled, sendable, writes, awaited⟩
    exact ⟨enabled, _, _, ⟨sendable, writes, rfl, rfl⟩,
      (awaitAuthentication_eq_ok 1 (by decide) _ _).mpr awaited⟩

/-- An authenticated client is numbered. -/
theorem Authenticated.numbered {client : RconClient} (authenticated : Authenticated client) :
    Numbered client := by
  obtain ⟨nodelay, password, start, fresh, returned⟩ := authenticated
  obtain ⟨-, sendable, -, rest, -, rfl⟩ := (authenticate_eq_ok _ _ _ _).mp returned
  exact ((numbered_start start fresh).sent auth password sendable).congr rfl rfl

/-- It stays so over an exchange, whichever it is and however it ends. -/
theorem Numbered.exchanged {client : RconClient} (numbered : Numbered client)
    (exchange : Exchange) : Numbered (client.exchanged exchange) := by
  have meets : Numbered (client.meets exchange) := numbered.congr rfl rfl
  unfold RconClient.exchanged
  cases exchange.request with
  | command text => exact Keeps.command text _ meets
  | stop => exact Keeps.stop _ meets

/-- So it does over a whole session. -/
theorem Numbered.after {client : RconClient} (numbered : Numbered client)
    (exchanges : List Exchange) : Numbered (client.after exchanges) := by
  induction exchanges generalizing client with
  | nil => exact numbered
  | cons exchange exchanges inductionHypothesis =>
    exact inductionHypothesis (numbered.exchanged exchange)

/-- The numbers of a command and its end marker are positive and differ, and while the numbers
have not gone round they differ from those of every earlier request. -/
theorem Numbered.distinct {client : RconClient} (numbered : Numbered client) :
    (1 ≤ client.nextRequestId.toInt ∧ 1 ≤ (followingId client.nextRequestId).toInt ∧
      client.nextRequestId ≠ followingId client.nextRequestId) ∧
    (client.written.length + 2 < 2 ^ 31 - 1 → ∀ index, index < client.written.length →
      requestId index ≠ client.nextRequestId ∧
        requestId index ≠ followingId client.nextRequestId) := by
  rw [numbered.next, followingId_requestId]
  refine ⟨⟨?_, ?_, ?_⟩, fun few index earlier => ⟨?_, ?_⟩⟩
  · rw [requestId_toInt]
    omega
  · rw [requestId_toInt]
    omega
  · rw [Ne, requestId_eq_iff]
    omega
  · rw [Ne, requestId_eq_iff]
    omega
  · rw [Ne, requestId_eq_iff]
    omega

/-- Authentication succeeds exactly on packets of other kinds followed by the response to its
request. In whatever session follows, requests carry numbers from one to the largest signed
32-bit one, and those of a command and its end marker differ. A command returns a reply exactly
when it is sent and packets of its own number and kind, within the limit, spell the reply up
to the end marker. While the numbers have not gone round, a packet with a number of an earlier
request makes the command fail. -/
theorem rcon_replies_belong_to_their_commands :
    (∀ nodelay password start, (outcome (authenticate nodelay password) start).1 = .ok () ↔
      nodelay = .ok () ∧ Sendable password ∧ start.Writes ∧
        ∃ rest, Authenticates start.unread 1 rest) ∧
    ∀ client, Authenticated client → ∀ (earlier : List Exchange) (exchange : Exchange),
      let before := (client.after earlier).meets exchange
      let commandId := before.nextRequestId
      let endMarkerId := followingId commandId
      (∀ index (sent : index < before.written.length), ∃ id kind body,
        (1 ≤ Int32.toInt id ∧ id.toInt ≤ 2 ^ 31 - 1) ∧ id = requestId index ∧
          encodePacket id kind body = .ok before.written[index]) ∧
      (1 ≤ commandId.toInt ∧ 1 ≤ endMarkerId.toInt ∧ commandId ≠ endMarkerId) ∧
      (∀ text reply later, outcome (command text) before = (.ok reply, later) ↔
        validateBody text = .ok () ∧ before.Unhindered ∧
          ∃ rest, Completes before.unread commandId endMarkerId [] reply rest ∧
            later = { before.asked text with unread := rest }) ∧
      (before.written.length + 2 < 2 ^ 31 - 1 → ∀ index, index < before.written.length →
        ∀ (text : List Char) (packets : List Packet) (stale : Packet) (rest : Bytes),
          Begins before.unread (Answers commandId) packets (stale.frame ++ rest) →
          stale.WithinLimit → stale.id = requestId index →
            ∃ interruption, (outcome (command text) before).1 = .error interruption) := by
  constructor
  · intro nodelay password start
    constructor
    · intro succeeded
      obtain ⟨enabled, sendable, writes, rest, authenticates, -⟩ :=
        (authenticate_eq_ok nodelay password start _).mp (Prod.ext succeeded rfl)
      exact ⟨enabled, sendable, writes, rest, authenticates⟩
    · rintro ⟨enabled, sendable, writes, rest, authenticates⟩
      have returned := (authenticate_eq_ok nodelay password start _).mpr
        ⟨enabled, sendable, writes, rest, authenticates, rfl⟩
      rw [returned]
  · intro client authenticated earlier exchange
    have numbered : Numbered ((client.after earlier).meets exchange) :=
      (authenticated.numbered.after earlier).congr rfl rfl
    obtain ⟨⟨commandPositive, markerPositive, different⟩, fresh⟩ := numbered.distinct
    refine ⟨fun index sent => ?_, ⟨commandPositive, markerPositive, different⟩,
      fun text reply later => command_eq_ok text reply _ later different, ?_⟩
    · obtain ⟨kind, body, encoded⟩ := numbered.written index sent
      refine ⟨requestId index, kind, body, ?_, rfl, encoded⟩
      rw [requestId_toInt]
      omega
    · intro few index sent text packets stale rest begins limited old
      obtain ⟨notCommand, notMarker⟩ := fresh few index sent
      exact command_stale text _ packets stale rest begins limited (old ▸ notCommand)
        (old ▸ notMarker) different

/-- The client of a server that accepted its password, with nothing left on the stream. -/
def acceptedClient : RconClient :=
  RconClient.sent ⟨[], none, [], [], 1⟩ auth "secret".toList

/-- The client of the example is authenticated by its server's response. -/
theorem acceptedClient_authenticated : Authenticated acceptedClient := by
  refine ⟨.ok (), "secret".toList, ⟨Packet.frame ⟨1, authResponse, []⟩, none, [], [], 1⟩, rfl, ?_⟩
  refine (authenticate_eq_ok _ _ _ _).mpr ⟨rfl, ?_, rfl, [], ?_, rfl⟩
  · unfold Sendable
    decide
  · exact ⟨[], ⟨1, authResponse, []⟩, ⟨rfl, nofun⟩, by decide, rfl, rfl⟩

/-- A command whose reply comes at once. -/
def answeredExchange : Exchange where
  request := .command "list".toList
  arrived := Packet.frame ⟨2, responseValue, utf8 "none".toList⟩ ++
    Packet.frame ⟨3, responseValue, []⟩
  closed := none
  waits := []

/-- The same command, with a late packet for the request of the password before its reply. -/
def overtakenExchange : Exchange :=
  { answeredExchange with
    arrived := Packet.frame ⟨1, responseValue, []⟩ ++ answeredExchange.arrived }

/-- The reply to the command is returned, and the late packet makes the command fail with an
error, although its own reply comes behind it. -/
theorem late_packet_fails_the_command :
    (∃ later, outcome (command "list".toList) (acceptedClient.meets answeredExchange) =
      (.ok "none".toList, later)) ∧
    ∃ interruption, (outcome (command "list".toList)
      (acceptedClient.meets overtakenExchange)).1 = .error interruption := by
  have accepted := rcon_replies_belong_to_their_commands.2 _ acceptedClient_authenticated []
  constructor
  · obtain ⟨-, -, returns, -⟩ := accepted answeredExchange
    refine ⟨_, (returns _ _ _).mpr ⟨by decide, ⟨rfl, nofun, rfl⟩, [], ?_, rfl⟩⟩
    exact ⟨[⟨2, responseValue, utf8 "none".toList⟩], ⟨3, responseValue, []⟩,
      ⟨rfl, List.forall_mem_singleton.mpr (by decide)⟩, by decide, rfl, by decide, rfl⟩
  · obtain ⟨-, -, -, fails⟩ := accepted overtakenExchange
    exact fails (by decide) 0 (by decide) "list".toList [] ⟨1, responseValue, []⟩
      answeredExchange.arrived ⟨rfl, nofun⟩ (by decide) rfl

end McServerNap.Rcon
