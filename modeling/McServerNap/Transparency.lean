import McServerNap.Wakes

/-!
# Proxied bytes

The backend of a proxied client receives the framed handshake first and then
whatever the copy passes on. Neither reading the handshake nor opening the backend
touches the bytes behind it, so together they are the client's stream.
-/

namespace McServerNap

open Encoding

/-- The bytes that reached the backend, in order. -/
def relayed (effects : List ClientEffect) : Bytes :=
  effects.flatMap fun effect =>
    match effect with
    | .toBackend bytes => bytes
    | _ => []

/-- What is relayed in two steps is relayed in their order. -/
theorem relayed_append (earlier later : List ClientEffect) :
    relayed (earlier ++ later) = relayed earlier ++ relayed later := by
  simp [relayed]

/-- The step neither reads from the client nor writes to the backend. -/
def Undisturbing (step : Handling Unit) : Prop :=
  ∀ client, (outcome step client).2.socket = client.socket ∧
    relayed (outcome step client).2.effects = relayed client.effects

/-- The step passes some bytes on, in order: a part of them if it fails, and all of
them if it does not. -/
def Passes (bytes : Socket → Bytes) (step : Handling Unit) : Prop :=
  ∀ client, ∃ passed, relayed (outcome step client).2.effects =
      relayed client.effects ++ passed ∧ passed <+: bytes client.socket ∧
    ((outcome step client).1 = .ok () → passed = bytes client.socket)

namespace Undisturbing

/-- Doing nothing disturbs nothing. -/
theorem pure : Undisturbing (pure ()) := fun _ => ⟨rfl, rfl⟩

/-- Nor does failing. -/
theorem throw (interruption : Interruption) : Undisturbing (throw interruption) := fun _ => ⟨rfl, rfl⟩

/-- Nor does a check. -/
theorem ensure (condition : Prop) [Decidable condition] (error : ClientError) :
    Undisturbing (ensure condition error) := fun client => by
  rw [outcome_ensure]
  exact ⟨rfl, rfl⟩

/-- Steps that disturb nothing do so one after the other; if the first fails, the second does not
run. -/
theorem bind {step : Handling Unit} {next : Unit → Handling Unit} (first : Undisturbing step)
    (second : Undisturbing (next ())) : Undisturbing (step >>= next) := fun client => by
  obtain ⟨socket, bytes⟩ := first client
  rw [outcome_bind]
  cases result : outcome step client with
  | mk value later =>
    rw [result] at socket bytes
    cases value with
    | error interruption => exact ⟨socket, bytes⟩
    | ok value =>
      obtain ⟨socket', bytes'⟩ := second later
      exact ⟨socket'.trans socket, bytes'.trans bytes⟩

end Undisturbing

/-- Comparing the cycle reads the lifecycle only. -/
theorem ensureCurrentOwnedCycle_keeps (surroundings : Surroundings) (checkpoint : Checkpoint)
    (cycle : BackendCycle) : Undisturbing (ensureCurrentOwnedCycle surroundings checkpoint cycle) := by
  unfold ensureCurrentOwnedCycle
  split
  · exact Undisturbing.throw _
  · exact Undisturbing.ensure _ _

/-- Connecting sends no byte, however many attempts it takes. -/
theorem connectBackendFrom_keeps (attempts : List Bool) : Undisturbing (connectBackendFrom attempts) := by
  induction attempts with
  | nil => exact Undisturbing.throw _
  | cons connected later inductionHypothesis =>
    have attempted : Undisturbing (emit .connect) := fun client =>
      ⟨rfl, by simp [emit, outcome_bind, relayed]⟩
    refine attempted.bind ?_
    cases connected
    · exact inductionHypothesis
    · exact Undisturbing.pure

/-- So the whole connection disturbs nothing. -/
theorem connectBackend_keeps (surroundings : Surroundings) : Undisturbing (connectBackend surroundings) :=
  (connectBackendFrom_keeps surroundings.attempts).bind (Undisturbing.ensure _ _)

/-- Nor does counting the session. -/
theorem establishOwnedProxyActivity_keeps (surroundings : Surroundings) (cycle : BackendCycle)
    (intent : HandshakeIntent) :
    Undisturbing (establishOwnedProxyActivity surroundings cycle intent) :=
  (ensureCurrentOwnedCycle_keeps surroundings .replayed cycle).bind (by
    cases intent
    · exact Undisturbing.pure
    · exact Undisturbing.ensure _ _
    · exact Undisturbing.ensure _ _
    · exact Undisturbing.pure)

/-- A step that passes nothing may come before one that does. The socket is as it was, so what is
passed is still the front of what is unread. -/
theorem Passes.after {bytes : Socket → Bytes} {step : Handling Unit} {next : Unit → Handling Unit}
    (keeps : Undisturbing step) (passes : Passes bytes (next ())) : Passes bytes (step >>= next) := by
  intro client
  obtain ⟨socket, unchanged⟩ := keeps client
  rw [outcome_bind]
  cases result : outcome step client with
  | mk value later =>
    rw [result] at socket unchanged
    cases value with
    | error interruption =>
      exact ⟨[], by rw [List.append_nil]; exact unchanged, List.nil_prefix, by simp⟩
    | ok value =>
      obtain ⟨passed, effects, part, whole⟩ := passes later
      dsimp only at socket unchanged ⊢
      rw [socket] at part whole
      exact ⟨passed, by rw [effects, unchanged], part, whole⟩

/-- The replay passes the handshake on before anything else. If it is interrupted, what was passed
on until then is the front of it. -/
theorem Passes.replay {bytes : Socket → Bytes} {next : Unit → Handling Unit}
    (surroundings : Surroundings) (framedHandshake : Bytes) (passes : Passes bytes (next ())) :
    Passes (fun socket => framedHandshake ++ bytes socket)
      (replayHandshake surroundings framedHandshake >>= next) := by
  intro client
  unfold replayHandshake
  cases surroundings.replayed with
  | some count =>
    refine ⟨framedHandshake.take count, ?_, ?_, ?_⟩
    · simp [emit, outcome_bind, relayed]
    · exact (List.take_prefix _ _).trans (List.prefix_append _ _)
    · simp [emit, outcome_bind]
  | none =>
    have sent : outcome (emit (.toBackend framedHandshake)) client =
        (.ok (), ⟨client.socket, client.effects ++ [.toBackend framedHandshake]⟩) := rfl
    rw [outcome_bind_ok _ _ sent]
    obtain ⟨passed, effects, part, whole⟩ :=
      passes ⟨client.socket, client.effects ++ [.toBackend framedHandshake]⟩
    refine ⟨framedHandshake ++ passed, ?_, (List.prefix_append_right_inj _).mpr part,
      fun ok => by rw [whole ok]⟩
    rw [effects, relayed_append]
    simp [relayed]

/-- The copy of `copy_bidirectional` is faithful: it forwards bytes in order, and all
of them unless it fails. -/
def Surroundings.CopiesFaithfully (surroundings : Surroundings) : Prop :=
  ∀ unread, (surroundings.copyBidirectional unread).forwarded <+: unread ∧
    ((surroundings.copyBidirectional unread).failed = false →
      (surroundings.copyBidirectional unread).forwarded = unread)

/-- A faithful copy passes on a part of what is unread, and all of it when it ends without an
error. -/
theorem proxyStreams_passes {surroundings : Surroundings}
    (faithful : surroundings.CopiesFaithfully) :
    Passes Socket.unread (proxyStreams surroundings) := by
  intro client
  obtain ⟨part, whole⟩ := faithful client.socket.unread
  refine ⟨(surroundings.copyBidirectional client.socket.unread).forwarded, ?_, part, ?_⟩
  · simp only [proxyStreams, outcome_bind, outcome_get, emit, outcome_set]
    split <;> simp [relayed]
  · intro ok
    apply whole
    by_contra failed
    have failed : (surroundings.copyBidirectional client.socket.unread).failed = true := by
      simpa using failed
    simp [proxyStreams, outcome_bind, emit, failed] at ok

/-- The whole task passes on the frame and what follows it: the frame is replayed first, and
everything before that disturbs nothing. -/
theorem proxyOwnedConnection_passes {surroundings : Surroundings}
    (faithful : surroundings.CopiesFaithfully) (connection : ConnectionEnvelope)
    (cycle : BackendCycle) :
    Passes (fun socket => connection.framedHandshake ++ socket.unread)
      (proxyOwnedConnection surroundings connection cycle) :=
  Passes.after (ensureCurrentOwnedCycle_keeps surroundings .leased cycle)
    (Passes.after (connectBackend_keeps surroundings)
      (Passes.after (ensureCurrentOwnedCycle_keeps surroundings .connected cycle)
        (Passes.replay surroundings connection.framedHandshake
          (Passes.after (establishOwnedProxyActivity_keeps surroundings cycle connection.intent)
            (proxyStreams_passes faithful)))))

/-- So does the task that forwards to an external server. -/
theorem proxyExternalConnection_passes {surroundings : Surroundings}
    (faithful : surroundings.CopiesFaithfully) (connection : ConnectionEnvelope) :
    Passes (fun socket => connection.framedHandshake ++ socket.unread)
      (proxyExternalConnection surroundings connection) :=
  Passes.after (connectBackend_keeps surroundings)
    (Passes.replay surroundings connection.framedHandshake (proxyStreams_passes faithful))

/-- An envelope was read off the front of the stream; what follows its frame is still
to be read, now or later. -/
theorem envelope_prefix {socket later : Socket} {connection : ConnectionEnvelope}
    (read : outcome ConnectionEnvelope.read socket = (.ok connection, later)) :
    (∃ body, IsFrame maxHandshakePacketLength connection.framedHandshake body) ∧
      socket.stream = connection.framedHandshake ++ later.stream ∧
      socket.unread = connection.framedHandshake ++ later.unread := by
  have roomy : ([] : Bytes).length + (3 + maxHandshakePacketLength) <
      3 + maxHandshakePacketLength + 1 := by simp
  obtain ⟨field, rest, split, ⟨lengthField, body, handshake, rfl, isLength, within, _, rfl⟩, left,
    ending⟩ := (envelope_reads socket.ending (3 + maxHandshakePacketLength + 1)).sound
      roomy ⟨rfl, rfl⟩ read
  have stream : socket.stream = (lengthField ++ body) ++ later.stream := by rw [split, left]
  refine ⟨⟨body, lengthField, rfl, isLength, within⟩, stream, ?_⟩
  unfold Socket.unread
  rw [ending, stream]
  cases socket.ending with
  | broken kind => rfl
  | silent after => exact List.append_assoc _ _ _

/-- Proxying is transparent. Reading an envelope takes its frame off the stream and
nothing behind it. In the proxied phases what the backend has received is always an
initial part of the client's stream, and the whole of it when the task ends without an
error, provided that the copy between the sockets is faithful. -/
theorem proxying_is_transparent (responder : MinecraftResponder) (surroundings : Surroundings)
    (faithful : surroundings.CopiesFaithfully) (observed : LifecycleState)
    (proxied : observed.phase = .running ∨ observed.phase = .external) (socket : Socket) :
    (∀ connection later, outcome ConnectionEnvelope.read socket = (.ok connection, later) →
      (∃ body, IsFrame maxHandshakePacketLength connection.framedHandshake body) ∧
        socket.stream = connection.framedHandshake ++ later.stream ∧
        socket.unread = connection.framedHandshake ++ later.unread) ∧
    relayed (outcome (handleClient responder surroundings observed) ⟨socket, []⟩).2.effects <+:
      socket.unread ∧
    ((outcome (handleClient responder surroundings observed) ⟨socket, []⟩).1 = .ok () →
      relayed (outcome (handleClient responder surroundings observed) ⟨socket, []⟩).2.effects =
        socket.unread) := by
  refine ⟨fun connection later read => envelope_prefix read, ?_⟩
  have task : ∃ passed, relayed (outcome (handleClient responder surroundings observed)
      ⟨socket, []⟩).2.effects = passed ∧ passed <+: socket.unread ∧
      ((outcome (handleClient responder surroundings observed) ⟨socket, []⟩).1 = .ok () →
        passed = socket.unread) := by
    unfold handleClient
    by_cases nodelay : surroundings.clientNodelay = true
    · simp only [outcome_bind, outcome_ensure, if_pos nodelay, outcome_onSocket]
      cases read : outcome ConnectionEnvelope.read socket with
      | mk result later =>
        cases result with
        | error interruption => exact ⟨[], rfl, List.nil_prefix, by simp⟩
        | ok connection =>
          obtain ⟨_, _, unread⟩ := envelope_prefix read
          rw [unread]
          have passes : Passes (fun socket => connection.framedHandshake ++ socket.unread)
              (handleSampledConnection responder surroundings observed connection) := by
            unfold handleSampledConnection
            rcases proxied with running | external
            · have owned : observed.ownedRunningCycle = some ⟨observed.launchGeneration⟩ := by
                rw [LifecycleState.ownedRunningCycle, if_pos running]
              rw [if_pos running, owned]
              exact proxyOwnedConnection_passes faithful connection _
            · rw [if_neg (by rw [external]; decide), if_pos external]
              exact proxyExternalConnection_passes faithful connection
          exact passes ⟨later, []⟩
    · refine ⟨[], ?_, List.nil_prefix, ?_⟩
      · rw [outcome_bind, outcome_ensure, if_neg nodelay]
        rfl
      · rw [outcome_bind, outcome_ensure, if_neg nodelay]
        simp
  obtain ⟨passed, bytes, part, whole⟩ := task
  rw [bytes]
  exact ⟨part, whole⟩

/-! ## When a proxied task ends without an error -/

/-- Whether the step succeeds depends on the client's socket alone, by this condition. -/
def SucceedsWhen (condition : Socket → Prop) (step : Handling Unit) : Prop :=
  ∀ client, (outcome step client).1 = .ok () ↔ condition client.socket

/-- Where the first step leaves the socket alone, the two succeed together when each does. If the
first fails, the second is not reached and its condition does not matter. -/
theorem SucceedsWhen.bind {first second : Socket → Prop} {step : Handling Unit}
    {next : Unit → Handling Unit} (succeeds : SucceedsWhen first step)
    (keeps : ∀ client, (outcome step client).2.socket = client.socket)
    (continues : SucceedsWhen second (next ())) :
    SucceedsWhen (fun socket => first socket ∧ second socket) (step >>= next) := by
  intro client
  have before := succeeds client
  have socket := keeps client
  rw [outcome_bind]
  cases result : outcome step client with
  | mk value later =>
    rw [result] at before socket
    cases value with
    | error interruption =>
      constructor
      · intro impossible
        cases impossible
      · intro both
        cases before.mpr both.1
    | ok value =>
      rw [← show later.socket = client.socket from socket] at before ⊢
      exact (continues later).trans (and_iff_right (before.mp rfl)).symm

/-- The condition may be stated otherwise. -/
theorem SucceedsWhen.congr {first second : Socket → Prop} {step : Handling Unit}
    (succeeds : SucceedsWhen first step) (same : ∀ socket, first socket ↔ second socket) :
    SucceedsWhen second step :=
  fun client => (succeeds client).trans (same client.socket)

/-- The lifecycle shows the cycle as the running one at this look. -/
def Surroundings.ShowsOwned (surroundings : Surroundings) (cycle : BackendCycle)
    (checkpoint : Checkpoint) : Prop :=
  ∃ lifecycle, surroundings.lifecycle checkpoint = some lifecycle ∧
    lifecycle.ownedRunningCycle = some cycle

/-- An attempt to connect succeeds in time, the handshake is written whole, and the copy of
these bytes does not fail. -/
structure Surroundings.Relays (surroundings : Surroundings) (unread : Bytes) : Prop where
  connects : true ∈ surroundings.attempts
  backendNodelay : surroundings.backendNodelay = true
  replays : surroundings.replayed = none
  copies : (surroundings.copyBidirectional unread).failed = false

/-- The cycle is the running one at every look, and the record still counts its logins. -/
structure Surroundings.StaysOwned (surroundings : Surroundings) (cycle : BackendCycle)
    (intent : HandshakeIntent) : Prop where
  shown : ∀ checkpoint, surroundings.ShowsOwned cycle checkpoint
  counted : intent = .login ∨ intent = .transfer → surroundings.establishes = true

/-- A check succeeds exactly where its condition holds. -/
theorem ensure_succeeds (condition : Prop) [Decidable condition] (error : ClientError) :
    SucceedsWhen (fun _ => condition) (ensure condition error) := by
  intro client
  rw [outcome_ensure]
  by_cases held : condition <;> simp [held]

/-- The comparison succeeds exactly where the lifecycle still shows the cycle. -/
theorem ensureCurrentOwnedCycle_succeeds (surroundings : Surroundings) (checkpoint : Checkpoint)
    (cycle : BackendCycle) :
    SucceedsWhen (fun _ => surroundings.ShowsOwned cycle checkpoint)
      (ensureCurrentOwnedCycle surroundings checkpoint cycle) := by
  intro client
  unfold ensureCurrentOwnedCycle Surroundings.ShowsOwned
  cases surroundings.lifecycle checkpoint with
  | none => simp
  | some lifecycle =>
    rw [ensure_succeeds _ _ client]
    simp

/-- By induction on the attempts that are left: the first one that succeeds ends them. -/
theorem connectBackendFrom_succeeds (attempts : List Bool) :
    SucceedsWhen (fun _ => true ∈ attempts) (connectBackendFrom attempts) := by
  induction attempts with
  | nil =>
    intro client
    simp [connectBackendFrom]
  | cons connected later inductionHypothesis =>
    intro client
    have attempted : outcome (emit .connect) client =
        (.ok (), ⟨client.socket, client.effects ++ [.connect]⟩) := rfl
    rw [connectBackendFrom, outcome_bind_ok _ _ attempted]
    cases connected with
    | true => simp
    | false =>
      rw [if_neg (by decide), inductionHypothesis]
      simp

/-- A connection succeeds exactly when one of the attempts does and the socket takes its
option. -/
theorem connectBackend_succeeds (surroundings : Surroundings) :
    SucceedsWhen (fun _ => true ∈ surroundings.attempts ∧ surroundings.backendNodelay = true)
      (connectBackend surroundings) :=
  (connectBackendFrom_succeeds surroundings.attempts).bind
    (fun client => (connectBackendFrom_keeps surroundings.attempts client).1)
    (ensure_succeeds _ _)

/-- A replay succeeds exactly when all of it is written. -/
theorem replayHandshake_succeeds (surroundings : Surroundings) (framedHandshake : Bytes) :
    SucceedsWhen (fun _ => surroundings.replayed = none)
      (replayHandshake surroundings framedHandshake) := by
  intro client
  unfold replayHandshake
  cases surroundings.replayed with
  | none => exact ⟨fun _ => rfl, fun _ => rfl⟩
  | some count => simp [emit, outcome_bind]

/-- A replay reads nothing from the client, so the copy begins where the frame ended. -/
theorem replayHandshake_keeps_socket (surroundings : Surroundings) (framedHandshake : Bytes)
    (client : Client) :
    (outcome (replayHandshake surroundings framedHandshake) client).2.socket = client.socket := by
  unfold replayHandshake
  cases surroundings.replayed <;> rfl

/-- The copy succeeds exactly when neither direction fails. -/
theorem proxyStreams_succeeds (surroundings : Surroundings) :
    SucceedsWhen (fun socket => (surroundings.copyBidirectional socket.unread).failed = false)
      (proxyStreams surroundings) := by
  intro client
  simp only [proxyStreams, outcome_bind, outcome_get, emit, outcome_set]
  cases (surroundings.copyBidirectional client.socket.unread).failed <;> simp

/-- Counting succeeds exactly when the cycle is still the same, and the record takes the session
of a login or a transfer. -/
theorem establishOwnedProxyActivity_succeeds (surroundings : Surroundings) (cycle : BackendCycle)
    (intent : HandshakeIntent) :
    SucceedsWhen (fun _ => surroundings.ShowsOwned cycle .replayed ∧
        (intent = .login ∨ intent = .transfer → surroundings.establishes = true))
      (establishOwnedProxyActivity surroundings cycle intent) := by
  refine (ensureCurrentOwnedCycle_succeeds surroundings .replayed cycle).bind
    (fun client => (ensureCurrentOwnedCycle_keeps surroundings .replayed cycle client).1)
    (fun client => ?_)
  cases intent with
  | status => exact ⟨nofun, fun _ => rfl⟩
  | unknown _ => exact ⟨nofun, fun _ => rfl⟩
  | login => exact (ensure_succeeds _ _ client).trans (by simp)
  | transfer => exact (ensure_succeeds _ _ client).trans (by simp)

/-- Forwarding to an external server succeeds exactly when connection, replay and copy do. The
three are chained, and none of them touches the socket before the copy. -/
theorem proxyExternalConnection_succeeds (surroundings : Surroundings)
    (connection : ConnectionEnvelope) :
    SucceedsWhen (fun socket => surroundings.Relays socket.unread)
      (proxyExternalConnection surroundings connection) := by
  refine SucceedsWhen.congr
    ((connectBackend_succeeds surroundings).bind
      (fun client => (connectBackend_keeps surroundings client).1)
      ((replayHandshake_succeeds surroundings connection.framedHandshake).bind
        (replayHandshake_keeps_socket surroundings connection.framedHandshake)
        (proxyStreams_succeeds surroundings)))
    fun socket => ?_
  constructor
  · rintro ⟨⟨connects, backendNodelay⟩, replays, copies⟩
    exact ⟨connects, backendNodelay, replays, copies⟩
  · rintro ⟨connects, backendNodelay, replays, copies⟩
    exact ⟨⟨connects, backendNodelay⟩, replays, copies⟩

/-- The proxied task succeeds exactly when these do and the cycle stays owned at each check
between them. -/
theorem proxyOwnedConnection_succeeds (surroundings : Surroundings)
    (connection : ConnectionEnvelope) (cycle : BackendCycle) :
    SucceedsWhen (fun socket => surroundings.Relays socket.unread ∧
        surroundings.StaysOwned cycle connection.intent)
      (proxyOwnedConnection surroundings connection cycle) := by
  refine SucceedsWhen.congr
    ((ensureCurrentOwnedCycle_succeeds surroundings .leased cycle).bind
      (fun client => (ensureCurrentOwnedCycle_keeps surroundings .leased cycle client).1)
      ((connectBackend_succeeds surroundings).bind
        (fun client => (connectBackend_keeps surroundings client).1)
        ((ensureCurrentOwnedCycle_succeeds surroundings .connected cycle).bind
          (fun client => (ensureCurrentOwnedCycle_keeps surroundings .connected cycle client).1)
          ((replayHandshake_succeeds surroundings connection.framedHandshake).bind
            (replayHandshake_keeps_socket surroundings connection.framedHandshake)
            ((establishOwnedProxyActivity_succeeds surroundings cycle connection.intent).bind
              (fun client =>
                (establishOwnedProxyActivity_keeps surroundings cycle connection.intent client).1)
              (proxyStreams_succeeds surroundings))))))
    fun socket => ?_
  constructor
  · rintro ⟨leased, ⟨connects, backendNodelay⟩, connected, replays, ⟨replayed, counted⟩, copies⟩
    refine ⟨⟨connects, backendNodelay, replays, copies⟩, fun checkpoint => ?_, counted⟩
    cases checkpoint with
    | leased => exact leased
    | connected => exact connected
    | replayed => exact replayed
  · rintro ⟨⟨connects, backendNodelay, replays, copies⟩, shown, counted⟩
    exact ⟨shown .leased, ⟨connects, backendNodelay⟩, shown .connected, replays,
      ⟨shown .replayed, counted⟩, copies⟩

/-- A proxied task ends without an error exactly when the handshake is read, the backend is
connected and takes the handshake, the copy does not fail and, for an owned server, its cycle
stays the running one meanwhile. So the whole of the stream is promised in a case that occurs. -/
theorem proxied_task_succeeds_iff (responder : MinecraftResponder) (surroundings : Surroundings)
    (observed : LifecycleState)
    (proxied : observed.phase = .running ∨ observed.phase = .external) (socket : Socket) :
    (outcome (handleClient responder surroundings observed) ⟨socket, []⟩).1 = .ok () ↔
      surroundings.clientNodelay = true ∧ ∃ connection later,
        outcome ConnectionEnvelope.read socket = (.ok connection, later) ∧
          surroundings.Relays later.unread ∧
          (observed.phase = .running →
            surroundings.StaysOwned ⟨observed.launchGeneration⟩ connection.intent) := by
  unfold handleClient
  by_cases nodelay : surroundings.clientNodelay = true
  · simp only [outcome_bind, outcome_ensure, if_pos nodelay, outcome_onSocket]
    rw [and_iff_right nodelay]
    cases read : outcome ConnectionEnvelope.read socket with
    | mk result later =>
      cases result with
      | error interruption => simp
      | ok connection =>
        have task : (outcome (handleSampledConnection responder surroundings observed connection)
            ⟨later, []⟩).1 = .ok () ↔ surroundings.Relays later.unread ∧
              (observed.phase = .running →
                surroundings.StaysOwned ⟨observed.launchGeneration⟩ connection.intent) := by
          unfold handleSampledConnection
          rcases proxied with running | external
          · have owned : observed.ownedRunningCycle = some ⟨observed.launchGeneration⟩ := by
              rw [LifecycleState.ownedRunningCycle, if_pos running]
            rw [if_pos running, owned]
            simpa [running] using proxyOwnedConnection_succeeds surroundings connection
              ⟨observed.launchGeneration⟩ ⟨later, []⟩
          · rw [if_neg (by rw [external]; decide), if_pos external]
            simpa [external] using
              proxyExternalConnection_succeeds surroundings connection ⟨later, []⟩
        refine task.trans ⟨fun succeeds => ⟨connection, later, rfl, succeeds⟩, ?_⟩
        rintro ⟨_, _, same, succeeds⟩
        cases same
        exact succeeds
  · rw [outcome_bind, outcome_ensure, if_neg nodelay]
    simp [nodelay]

/-- A handshake whose packet id takes two bytes reaches the backend as it was sent, with what
came behind it before and after the deadline: that of an owned server, and that of an external
one. Both tasks end without an error. -/
theorem padded_login_reaches_backend :
    relayed (outcome (handleClient plainResponder
        (obliging { LifecycleState.reconciling 0 with phase := .running })
        { LifecycleState.reconciling 0 with phase := .running })
      ⟨⟨[[8, 0x80, 0x00], [47, 1, 97, 0x63, 0xdd, 2, 5]], .silent [[6], [7]]⟩, []⟩).2.effects =
        [8, 0x80, 0x00, 47, 1, 97, 0x63, 0xdd, 2, 5, 6, 7] ∧
    relayed (outcome (handleClient plainResponder
        (obliging { LifecycleState.reconciling 0 with phase := .external })
        { LifecycleState.reconciling 0 with phase := .external })
      ⟨⟨[[8, 0x80, 0x00], [47, 1, 97, 0x63, 0xdd, 2, 5]], .silent [[6], [7]]⟩, []⟩).2.effects =
        [8, 0x80, 0x00, 47, 1, 97, 0x63, 0xdd, 2, 5, 6, 7] := by
  constructor
  · exact (proxying_is_transparent plainResponder
      (obliging { LifecycleState.reconciling 0 with phase := .running })
      (fun unread => ⟨List.prefix_refl unread, fun _ => rfl⟩)
      { LifecycleState.reconciling 0 with phase := .running } (Or.inl rfl)
      ⟨[[8, 0x80, 0x00], [47, 1, 97, 0x63, 0xdd, 2, 5]], .silent [[6], [7]]⟩).2.2
        (by decide +kernel)
  · exact (proxying_is_transparent plainResponder
      (obliging { LifecycleState.reconciling 0 with phase := .external })
      (fun unread => ⟨List.prefix_refl unread, fun _ => rfl⟩)
      { LifecycleState.reconciling 0 with phase := .external } (Or.inr rfl)
      ⟨[[8, 0x80, 0x00], [47, 1, 97, 0x63, 0xdd, 2, 5]], .silent [[6], [7]]⟩).2.2
        (by decide +kernel)

end McServerNap
