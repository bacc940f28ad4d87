import McServerNap.Client
import McServerNap.Grammar

/-!
# Which clients wake a server

A client task asks for a launch when, and only when, its stream begins with a login
the sleeping server accepts, in a phase that wakes. Whatever else happens to the
task comes after the request or in a branch that has none, so the effects of each
function are sorted first into those that may be part of it.
-/

namespace McServerNap

open Encoding

/-! ## Effects of a step -/

/-- Whatever the step's outcome, it adds only effects that are permitted. -/
def Only {α : Type} (permitted : ClientEffect → Prop) (step : Handling α) : Prop :=
  ∀ client, ∃ added, (outcome step client).2.effects = client.effects ++ added ∧
    ∀ effect ∈ added, permitted effect

namespace Only

variable {α β : Type} {permitted : ClientEffect → Prop}

/-- Doing nothing adds no effect. -/
theorem pure (value : α) : Only permitted (pure value) := fun client =>
  ⟨[], (List.append_nil _).symm, by simp⟩

/-- Nor does failing. -/
theorem throw (interruption : Interruption) : Only (α := α) permitted (throw interruption) :=
  fun client => ⟨[], (List.append_nil _).symm, by simp⟩

/-- Steps that add only permitted effects do so one after the other. If the first fails, its own
effects are all that is added. -/
theorem bind {step : Handling α} {next : α → Handling β} (first : Only permitted step)
    (second : ∀ value, Only permitted (next value)) : Only permitted (step >>= next) := by
  intro client
  obtain ⟨added, effects, allowed⟩ := first client
  rw [outcome_bind]
  cases result : outcome step client with
  | mk value later =>
    rw [result] at effects
    cases value with
    | error interruption => exact ⟨added, effects, allowed⟩
    | ok value =>
      obtain ⟨more, effects', allowed'⟩ := second value later
      refine ⟨added ++ more, ?_, ?_⟩
      · dsimp only
        rw [effects', effects, List.append_assoc]
      · intro effect among
        rcases List.mem_append.mp among with earlier | after
        · exact allowed effect earlier
        · exact allowed' effect after

/-- One effect is added if it is permitted. -/
theorem emit {effect : ClientEffect} (allowed : permitted effect) :
    Only permitted (emit effect) := fun client =>
  ⟨[effect], rfl, by simpa using allowed⟩

/-- A check adds none. -/
theorem ensure (condition : Prop) [Decidable condition] (error : ClientError) :
    Only permitted (ensure condition error) := fun client =>
  ⟨[], by rw [outcome_ensure, List.append_nil], by simp⟩

/-- More may be permitted. -/
theorem weaken {permitted' : ClientEffect → Prop} {step : Handling α}
    (only : Only permitted step) (wider : ∀ effect, permitted effect → permitted' effect) :
    Only permitted' step := fun client => by
  obtain ⟨added, effects, allowed⟩ := only client
  exact ⟨added, effects, fun effect among => wider effect (allowed effect among)⟩

end Only

/-- A reader of the socket has no effects on others. -/
theorem outcome_onSocket {α : Type} (reader : Receiving α) (client : Client) :
    outcome (onSocket reader) client =
      ((outcome reader client.socket).1,
        { client with socket := (outcome reader client.socket).2 }) := by
  simp only [onSocket, outcome_bind, outcome_get, outcome_set]
  cases (outcome reader client.socket).1 <;> rfl

/-- Reading from the client adds no effect. -/
theorem Only.onSocket {α : Type} {permitted : ClientEffect → Prop} (reader : Receiving α) :
    Only permitted (onSocket reader) := fun client =>
  ⟨[], by rw [outcome_onSocket, List.append_nil], by simp⟩

/-- Effects on the client alone. -/
def Local : ClientEffect → Prop
  | .toClient _ _ | .shutdownClient => True
  | _ => False

/-- Effects on the backend alone. -/
def Proxied : ClientEffect → Prop
  | .connect | .toBackend _ => True
  | _ => False

/-- Sending to the client stays with the client. -/
theorem sendToClient_local (surroundings : Surroundings) (what : Sending) (bytes : Bytes) :
    Only Local (sendToClient surroundings what bytes) :=
  (Only.emit trivial).bind fun _ => by
    cases surroundings.sends what
    · exact Only.pure _
    · exact Only.throw _
    · exact Only.throw _

/-- So does shutting down its side. -/
theorem shutdownClient_local (surroundings : Surroundings) :
    Only Local (shutdownClient surroundings) :=
  (Only.emit trivial).bind fun _ => by
    cases surroundings.shutdown with
    | done => exact Only.pure _
    | timedOut => exact Only.throw _
    | broken kind =>
      dsimp only
      split
      · exact Only.pure _
      · exact Only.throw _

/-- So does a disconnect, which is both. -/
theorem sendDisconnect_local (surroundings : Surroundings) (what : Sending) (bytes : Bytes) :
    Only Local (sendDisconnect surroundings what bytes) :=
  (sendToClient_local surroundings what bytes).bind fun _ => shutdownClient_local surroundings

/-- So does the answer to a ping. -/
theorem answerPing_local (surroundings : Surroundings) (ping : Option Bytes) :
    Only Local (answerPing surroundings ping) := by
  cases ping with
  | none => exact Only.pure _
  | some packet =>
    simp only [answerPing]
    split
    · exact Only.throw _
    · split
      · exact Only.throw _
      · exact sendToClient_local surroundings _ _

/-- So does a whole status exchange. -/
theorem serveStatus_local (responder : MinecraftResponder) (surroundings : Surroundings) :
    Only Local (serveStatus responder surroundings) := by
  have awaited : Only Local (modify fun client : Client =>
      { client with socket := surroundings.atPing client.socket } : Handling Unit) := fun client =>
    ⟨[], (List.append_nil _).symm, by simp⟩
  exact (sendToClient_local surroundings _ _).bind fun _ => awaited.bind fun _ =>
    (Only.onSocket _).bind fun ping => (answerPing_local surroundings ping).bind fun _ =>
      shutdownClient_local surroundings

/-- Comparing the cycle adds no effect at all. -/
theorem ensureCurrentOwnedCycle_only {permitted : ClientEffect → Prop}
    (surroundings : Surroundings) (checkpoint : Checkpoint) (cycle : BackendCycle) :
    Only permitted (ensureCurrentOwnedCycle surroundings checkpoint cycle) := by
  unfold ensureCurrentOwnedCycle
  split
  · exact Only.throw _
  · exact Only.ensure _ _

/-- The attempts to connect are for the backend. -/
theorem connectBackendFrom_proxied (attempts : List Bool) :
    Only Proxied (connectBackendFrom attempts) := by
  induction attempts with
  | nil => exact Only.throw _
  | cons connected later inductionHypothesis =>
    refine (Only.emit trivial).bind fun _ => ?_
    cases connected
    · exact inductionHypothesis
    · exact Only.pure _

/-- So the whole connection is. -/
theorem connectBackend_proxied (surroundings : Surroundings) :
    Only Proxied (connectBackend surroundings) :=
  (connectBackendFrom_proxied surroundings.attempts).bind fun _ => Only.ensure _ _

/-- So is the replay. -/
theorem replayHandshake_proxied (surroundings : Surroundings) (framedHandshake : Bytes) :
    Only Proxied (replayHandshake surroundings framedHandshake) := by
  unfold replayHandshake
  split
  · exact Only.emit trivial
  · exact (Only.emit trivial).bind fun _ => Only.throw _

/-- So is the copy. -/
theorem proxyStreams_proxied (surroundings : Surroundings) :
    Only Proxied (proxyStreams surroundings) := by
  unfold proxyStreams
  have got : Only Proxied (get : Handling Client) := fun client =>
    ⟨[], (List.append_nil _).symm, by simp⟩
  refine got.bind fun client => (Only.emit trivial).bind fun _ => ?_
  split
  · exact Only.throw _
  · exact Only.pure _

/-- Counting a session adds no effect at all. -/
theorem establishOwnedProxyActivity_only {permitted : ClientEffect → Prop}
    (surroundings : Surroundings) (cycle : BackendCycle) (intent : HandshakeIntent) :
    Only permitted (establishOwnedProxyActivity surroundings cycle intent) :=
  (ensureCurrentOwnedCycle_only surroundings .replayed cycle).bind fun _ => by
    cases intent
    · exact Only.pure _
    · exact Only.ensure _ _
    · exact Only.ensure _ _
    · exact Only.pure _

/-- So a proxied task sends no wake and answers nothing itself. -/
theorem proxyOwnedConnection_proxied (surroundings : Surroundings)
    (connection : ConnectionEnvelope) (cycle : BackendCycle) :
    Only Proxied (proxyOwnedConnection surroundings connection cycle) :=
  (ensureCurrentOwnedCycle_only surroundings .leased cycle).bind fun _ =>
    (connectBackend_proxied surroundings).bind fun _ =>
      (ensureCurrentOwnedCycle_only surroundings .connected cycle).bind fun _ =>
        (replayHandshake_proxied surroundings connection.framedHandshake).bind fun _ =>
          (establishOwnedProxyActivity_only surroundings cycle connection.intent).bind fun _ =>
            proxyStreams_proxied surroundings

/-- Nor does a forwarded one. -/
theorem proxyExternalConnection_proxied (surroundings : Surroundings)
    (connection : ConnectionEnvelope) :
    Only Proxied (proxyExternalConnection surroundings connection) :=
  (connectBackend_proxied surroundings).bind fun _ =>
    (replayHandshake_proxied surroundings connection.framedHandshake).bind fun _ =>
      proxyStreams_proxied surroundings

/-! ## Requests of a sleeping server's clients -/

/-- The request of a login, by the packet that follows its handshake. -/
def LoginForm (responder : MinecraftResponder) (connection : ConnectionEnvelope)
    (intent : LoginIntent) (field : Bytes) (result : Option ClientRequest) : Prop :=
  if connection.protocolVersion ≠ responder.minecraftVersion.protocol then
    field = [] ∧ result = some (.unsupportedProtocol connection.protocolVersion)
  else
    (intent ≠ .transfer ∨ responder.minecraftVersion.initialProtocol = .requiredUuidAndTransfer) ∧
      ∃ body, IsFrame maxLoginStartPacketLength field body ∧
        IsLoginStart responder.minecraftVersion.initialProtocol body ∧
        result = some (.login intent)

/-- A login is read exactly in its form, from the length of its frame on. For another protocol
nothing is read, and a transfer must be supported before anything is. -/
theorem readLogin_reads (responder : MinecraftResponder) (connection : ConnectionEnvelope)
    (intent : LoginIntent) :
    StreamReads (4 + maxLoginStartPacketLength) (readLogin responder connection intent)
      (LoginForm responder connection intent) := by
  intro ending room
  unfold readLogin LoginForm
  by_cases other : connection.protocolVersion ≠ responder.minecraftVersion.protocol
  · simp only [if_pos other]
    exact ((Reads.pure _).relax (Nat.zero_le _)).congr fun _ _ _ => Iff.rfl
  · simp only [if_neg other]
    have chain : Reads (SocketAt ending) room (0 + ((4 + maxLoginStartPacketLength) + (0 + 0))) _ _ :=
      (ensure_stream_reads (intent ≠ .transfer ∨
          responder.minecraftVersion.initialProtocol = .requiredUuidAndTransfer)
          (.transferNotSupported responder.minecraftVersion.name) ending room).bind fun _ _ =>
        ((readPacket_reads maxLoginStartPacketLength).timeoutAt .exchangeTimedOut ending room).bind
          fun body _ => (parsed_reads (parseLoginStart body responder.minecraftVersion) ending
            room).bind fun _ _ => Reads.pure (some (ClientRequest.login intent))
    apply (chain.relax (by omega)).congr
    intro before field result
    simp only [silent_followed]
    constructor
    · rintro ⟨_, allowed, _, _, body, rfl, frame, _, accepted, rfl, rfl⟩
      exact ⟨allowed, body, by simpa using frame, (loginStart_iff _ _).mp accepted, rfl⟩
    · rintro ⟨allowed, body, frame, isLoginStart, rfl⟩
      exact ⟨⟨⟩, allowed, field, [], body, by simp, frame, ⟨⟩, (loginStart_iff _ _).mpr isLoginStart,
        rfl, rfl⟩

/-- The request of a connection, by its intent and what follows its handshake. -/
def RequestForm (responder : MinecraftResponder) (connection : ConnectionEnvelope)
    (field : Bytes) (result : Option ClientRequest) : Prop :=
  match connection.intent with
  | .status => ∃ body, IsFrame maxStatusPacketLength field body ∧
      readPacketFields readStatusRequestFields body = .ok () ∧ result = some .status
  | .login => LoginForm responder connection .login field result
  | .transfer => LoginForm responder connection .transfer field result
  | .unknown _ => field = [] ∧ result = none

/-- A request is read exactly in the form that the handshake announces: the intents with a login
start share one reader, and an unknown intent is no request. -/
theorem readSleepingRequest_reads (responder : MinecraftResponder)
    (connection : ConnectionEnvelope) :
    StreamReads (4 + maxLoginStartPacketLength) (readSleepingRequest responder connection)
      (RequestForm responder connection) := by
  unfold readSleepingRequest
  cases intent : connection.intent with
  | login =>
    exact fun ending room => (readLogin_reads responder connection .login ending room).congr
      fun _ _ _ => by simp only [RequestForm, intent]
  | transfer =>
    exact fun ending room => (readLogin_reads responder connection .transfer ending room).congr
      fun _ _ _ => by simp only [RequestForm, intent]
  | unknown value =>
    exact fun ending room => ((Reads.pure none).relax (Nat.zero_le _)).congr
      fun _ _ _ => by simp only [RequestForm, intent, Silent]
  | status =>
    intro ending room
    have chain : Reads (SocketAt ending) room ((4 + maxStatusPacketLength) + (0 + 0)) _ _ :=
      ((readPacket_reads maxStatusPacketLength).timeoutAt .exchangeTimedOut ending room).bind
        fun body _ => (parsed_reads (readPacketFields readStatusRequestFields body) ending
          room).bind fun _ _ => Reads.pure (some ClientRequest.status)
    apply (chain.relax (by decide)).congr
    intro before field result
    simp only [silent_followed, RequestForm, intent]
    constructor
    · rintro ⟨_, _, body, rfl, frame, _, accepted, rfl, rfl⟩
      exact ⟨body, by simpa using frame, accepted, rfl⟩
    · rintro ⟨body, frame, accepted, rfl⟩
      exact ⟨field, [], body, by simp, frame, ⟨⟩, accepted, rfl, rfl⟩

/-- The stream begins with a login that a release accepts: a handshake of its protocol
whose intent it supports, and a login start in its layout. -/
def IsLogin (version : MinecraftVersion) (stream : Bytes) : Prop :=
  ∃ (handshakeFrame handshakeBody loginFrame loginBody rest : Bytes) (address : List Char)
    (handshake : Handshake), stream = handshakeFrame ++ loginFrame ++ rest ∧
      IsFrame maxHandshakePacketLength handshakeFrame handshakeBody ∧
      IsHandshake handshakeBody address handshake ∧
      handshake.protocolVersion = version.protocol ∧
      (handshake.intent = .login ∨
        handshake.intent = .transfer ∧ version.initialProtocol = .requiredUuidAndTransfer) ∧
      IsFrame maxPacketLength loginFrame loginBody ∧
      IsLoginStart version.initialProtocol loginBody

/-- A frame is one under any limit that its body keeps. -/
theorem IsFrame.within {limit other : Nat} {field body : Bytes} (frame : IsFrame limit field body)
    (fits : body.length ≤ other) : IsFrame other field body := by
  obtain ⟨lengthField, whole, isLength, _⟩ := frame
  exact ⟨lengthField, whole, isLength, fits⟩

/-- The request of a login spells out its conditions: the protocol is that of the release, a
transfer is one that the release knows, and a login start fills the frame. -/
theorem requestForm_login {responder : MinecraftResponder} {connection : ConnectionEnvelope}
    {field : Bytes} {intent : LoginIntent}
    (form : RequestForm responder connection field (some (.login intent))) :
    connection.protocolVersion = responder.minecraftVersion.protocol ∧
      (connection.intent = .login ∨ connection.intent = .transfer ∧
        responder.minecraftVersion.initialProtocol = .requiredUuidAndTransfer) ∧
      ∃ body, IsFrame maxLoginStartPacketLength field body ∧
        IsLoginStart responder.minecraftVersion.initialProtocol body := by
  unfold RequestForm at form
  cases arrived : connection.intent with
  | status =>
    rw [arrived] at form
    obtain ⟨_, _, _, impossible⟩ := form
    simp at impossible
  | unknown value =>
    rw [arrived] at form
    simp at form
  | login =>
    rw [arrived] at form
    simp only [LoginForm] at form
    split at form
    · simp at form
    · next same =>
      obtain ⟨_, body, frame, isLoginStart, _⟩ := form
      exact ⟨Decidable.not_not.mp same, Or.inl rfl, body, frame, isLoginStart⟩
  | transfer =>
    rw [arrived] at form
    simp only [LoginForm] at form
    split at form
    · simp at form
    · next same =>
      obtain ⟨allowed, body, frame, isLoginStart, _⟩ := form
      exact ⟨Decidable.not_not.mp same, Or.inr ⟨rfl, by simpa using allowed⟩, body, frame,
        isLoginStart⟩

/-- The two reads of a login succeed exactly on the streams that begin with one. What the first
leaves of the stream is what the second begins with. -/
theorem reads_login_iff (responder : MinecraftResponder) (socket : Socket) :
    (∃ connection later intent last,
      outcome ConnectionEnvelope.read socket = (.ok connection, later) ∧
        outcome (readSleepingRequest responder connection) later =
          (.ok (some (.login intent)), last)) ↔
      IsLogin responder.minecraftVersion socket.stream := by
  constructor
  · rintro ⟨connection, later, intent, last, readEnvelope, readRequest⟩
    obtain ⟨field, stream, lengthField, body, handshake, rfl, isLength, within, accepted, rfl⟩ :=
      (envelope_reads.iff socket connection later.stream).mp ⟨later, readEnvelope, rfl⟩
    obtain ⟨loginFrame, follows, form⟩ := ((readSleepingRequest_reads responder _).iff later
      (some (.login intent)) last.stream).mp ⟨last, readRequest, rfl⟩
    obtain ⟨sameProtocol, intended, loginBody, frame, isLoginStart⟩ := requestForm_login form
    obtain ⟨address, isHandshake⟩ := (parseHandshake_iff body handshake).mp accepted
    exact ⟨lengthField ++ body, body, loginFrame, loginBody, last.stream, address, handshake,
      by simp only [stream, follows, List.append_assoc], ⟨lengthField, rfl, isLength, within⟩, isHandshake,
      sameProtocol, intended, frame.within (Nat.le_trans isLoginStart.length_le (by decide)),
      isLoginStart⟩
  · rintro ⟨handshakeFrame, body, loginFrame, loginBody, rest, address, handshake, stream,
      ⟨lengthField, rfl, isLength, within⟩, isHandshake, sameProtocol, intended, frame,
      isLoginStart⟩
    have accepted := (parseHandshake_iff body handshake).mpr ⟨address, isHandshake⟩
    obtain ⟨later, readEnvelope, left⟩ := (envelope_reads.iff socket
      (envelopeOf (lengthField ++ body) lengthField.length handshake) (loginFrame ++ rest)).mpr
        ⟨lengthField ++ body, by rw [stream, List.append_assoc], lengthField, body, handshake, rfl,
          isLength, within, accepted, rfl⟩
    obtain ⟨intent, form⟩ : ∃ intent, RequestForm responder
        (envelopeOf (lengthField ++ body) lengthField.length handshake) loginFrame
          (some (.login intent)) := by
      have fits := frame.within isLoginStart.length_le
      rcases intended with login | ⟨transfer, supported⟩
      · refine ⟨.login, ?_⟩
        simp only [RequestForm, envelopeOf, login, LoginForm, sameProtocol, ne_eq, not_true_eq_false,
          if_false]
        exact ⟨Or.inl (by decide), loginBody, fits, isLoginStart, trivial⟩
      · refine ⟨.transfer, ?_⟩
        simp only [RequestForm, envelopeOf, transfer, LoginForm, sameProtocol, ne_eq,
          not_true_eq_false, if_false]
        exact ⟨Or.inr supported, loginBody, fits, isLoginStart, trivial⟩
    obtain ⟨last, readRequest, _⟩ := ((readSleepingRequest_reads responder _).iff later
      (some (.login intent)) rest).mpr ⟨loginFrame, left, form⟩
    exact ⟨_, later, intent, last, readEnvelope, readRequest⟩

/-! ## Wake requests of a task -/

/-- The wake requests among some effects. -/
def requests (effects : List ClientEffect) : List WakeRequest :=
  effects.filterMap fun effect =>
    match effect with
    | .trySend request => some request
    | _ => none

/-- The requests among effects one after the other are those of both. -/
theorem requests_append (earlier later : List ClientEffect) :
    requests (earlier ++ later) = requests earlier ++ requests later := by
  simp [requests]

/-- A step that sends no request leaves the requests as they are. -/
theorem Only.requests_eq {α : Type} {permitted : ClientEffect → Prop} {step : Handling α}
    (only : Only permitted step) (none : ∀ request, ¬ permitted (.trySend request))
    (client : Client) : requests (outcome step client).2.effects = requests client.effects := by
  obtain ⟨added, effects, allowed⟩ := only client
  have nothing : requests added = [] := by
    rw [requests, List.filterMap_eq_nil_iff]
    intro effect among
    cases effect with
    | trySend request => exact absurd (allowed _ among) (none request)
    | connect | toBackend _ | toClient _ _ | shutdownClient => rfl
  rw [effects, requests_append, nothing, List.append_nil]

/-- The answer to a login stays with the client. -/
theorem disconnectLogin_local (responder : MinecraftResponder) (surroundings : Surroundings)
    (observed : LifecycleState) : Only Local (disconnectLogin responder surroundings observed) := by
  unfold disconnectLogin
  split
  · exact sendDisconnect_local _ _ _
  · exact sendDisconnect_local _ _ _

/-- A login in a waking phase sends one request, whatever becomes of it, and in every other phase
none. Answering the client sends no request. -/
theorem serveLogin_requests (responder : MinecraftResponder) (surroundings : Surroundings)
    (observed : LifecycleState) (client : Client) :
    requests (outcome (serveLogin responder surroundings observed) client).2.effects =
      requests client.effects ++ if World.wakes observed.phase then [⟨observed⟩] else [] := by
  have disconnect := (disconnectLogin_local responder surroundings observed).requests_eq
    (fun _ => id)
  unfold serveLogin requestWake
  by_cases waking : World.wakes observed.phase
  · simp only [if_pos waking]
    have sent : requests (client.effects ++ [.trySend ⟨observed⟩]) =
        requests client.effects ++ [⟨observed⟩] := requests_append _ _
    unfold trySendWake
    rw [outcome_bind]
    cases surroundings.trySend with
    | closed => exact sent
    | sent | full => exact (disconnect _).trans sent
  · simp only [if_neg waking, pure_bind, List.append_nil]
    exact disconnect client

/-- A sleeping server's client sends a request for a login in a waking phase only. The two cases
of the conclusion exclude each other, so callers need not look again. -/
theorem serveSleeping_requests (responder : MinecraftResponder) (surroundings : Surroundings)
    (observed : LifecycleState) (connection : ConnectionEnvelope) (client : Client) :
    (requests (outcome (serveSleeping responder surroundings observed connection) client).2.effects =
        requests client.effects ++ [⟨observed⟩] ∧ World.wakes observed.phase ∧
        ∃ intent last, outcome (readSleepingRequest responder connection) client.socket =
          (.ok (some (.login intent)), last)) ∨
      (requests (outcome (serveSleeping responder surroundings observed connection) client).2.effects =
        requests client.effects ∧ ¬ (World.wakes observed.phase ∧
        ∃ intent last, outcome (readSleepingRequest responder connection) client.socket =
          (.ok (some (.login intent)), last))) := by
  unfold serveSleeping
  rw [outcome_bind, outcome_onSocket]
  cases read : outcome (readSleepingRequest responder connection) client.socket with
  | mk result last =>
    cases result with
    | error interruption => exact Or.inr ⟨rfl, by simp⟩
    | ok request =>
      cases request with
      | none => exact Or.inr ⟨rfl, by simp⟩
      | some request =>
        cases request with
        | status => exact Or.inr ⟨(serveStatus_local _ _).requests_eq (fun _ => id) _, by simp⟩
        | unsupportedProtocol _ =>
          exact Or.inr ⟨(sendDisconnect_local _ _ _).requests_eq (fun _ => id) _, by simp⟩
        | login intent =>
          have sent := serveLogin_requests responder surroundings observed
            ⟨last, client.effects⟩
          by_cases waking : World.wakes observed.phase
          · rw [if_pos waking] at sent
            exact Or.inl ⟨sent, waking, intent, last, rfl⟩
          · rw [if_neg waking, List.append_nil] at sent
            exact Or.inr ⟨sent, fun both => waking both.1⟩

/-- The phases that wake are none of the proxied ones. -/
theorem wakes_iff (phase : ServerPhase) :
    World.wakes phase = true ↔ phase = .reconciling ∨ phase = .stopped ∨ phase = .stopping ∨
      phase = .cooldown ∨ phase = .conflict := by
  cases phase <;> decide

/-- What a task has requested and done once its stream was read, by phase. The reads of the
envelope and of the request are put together as one condition on the stream. -/
theorem handleClient_requests (responder : MinecraftResponder) (surroundings : Surroundings)
    (observed : LifecycleState) (socket : Socket)
    (nodelay : surroundings.clientNodelay = true) :
    (requests (outcome (handleClient responder surroundings observed) ⟨socket, []⟩).2.effects =
        [⟨observed⟩] ∧ World.wakes observed.phase ∧
        IsLogin responder.minecraftVersion socket.stream) ∨
      (requests (outcome (handleClient responder surroundings observed) ⟨socket, []⟩).2.effects =
        [] ∧ ¬ (World.wakes observed.phase ∧
        IsLogin responder.minecraftVersion socket.stream)) := by
  rw [← reads_login_iff]
  unfold handleClient
  simp only [outcome_bind, outcome_ensure, if_pos nodelay, outcome_onSocket]
  cases read : outcome ConnectionEnvelope.read socket with
  | mk result later =>
    cases result with
    | error interruption => exact Or.inr ⟨rfl, by simp⟩
    | ok connection =>
      dsimp only
      unfold handleSampledConnection
      by_cases running : observed.phase = .running
      · have asleep : World.wakes observed.phase = false := by rw [running]; rfl
        rw [if_pos running]
        refine Or.inr ⟨?_, by simp [asleep]⟩
        cases observed.ownedRunningCycle with
        | none => rfl
        | some cycle =>
          exact (proxyOwnedConnection_proxied _ _ _).requests_eq (fun _ => id) _
      · rw [if_neg running]
        by_cases external : observed.phase = .external
        · have asleep : World.wakes observed.phase = false := by rw [external]; rfl
          rw [if_pos external]
          exact Or.inr ⟨(proxyExternalConnection_proxied _ _).requests_eq (fun _ => id) _,
            by simp [asleep]⟩
        · rw [if_neg external]
          rcases serveSleeping_requests responder surroundings observed connection ⟨later, []⟩ with
            ⟨sent, waking, intent, last, login⟩ | ⟨sent, not⟩
          · exact Or.inl ⟨sent, waking, connection, later, intent, last, rfl, login⟩
          · refine Or.inr ⟨sent, ?_⟩
            rintro ⟨waking, found, left, intent, last, same, login⟩
            simp only [Prod.mk.injEq, Except.ok.injEq] at same
            obtain ⟨rfl, rfl⟩ := same
            exact not ⟨waking, intent, last, login⟩

/-- Nothing that a sleeping backend's client is served goes to the backend: what it is served are
packets to itself, and a request to the supervisor. -/
theorem serveSleeping_local (responder : MinecraftResponder) (surroundings : Surroundings)
    (observed : LifecycleState) (connection : ConnectionEnvelope) :
    Only (fun effect => ¬ Proxied effect)
      (serveSleeping responder surroundings observed connection) := by
  have apart : ∀ effect, Local effect → ¬ Proxied effect := by
    intro effect onClient onBackend
    cases effect <;> first | exact onClient | exact onBackend
  refine (Only.onSocket _).bind fun request => ?_
  cases request with
  | none => exact Only.pure _
  | some request =>
    cases request with
    | status => exact (serveStatus_local _ _).weaken apart
    | unsupportedProtocol _ => exact (sendDisconnect_local _ _ _).weaken apart
    | login intent =>
      refine Only.bind ?_ fun _ => (disconnectLogin_local _ _ _).weaken apart
      unfold requestWake trySendWake
      split
      · refine (Only.emit (fun proxied => proxied)).bind fun _ => ?_
        split
        · exact Only.pure _
        · exact Only.pure _
        · exact Only.throw _
      · exact Only.pure _

/-- A client task sends a wake request exactly when the sampled phase is one that
wakes and its stream begins with a login that the configured release accepts; the
request carries the sampled state and is the only one. Outside the proxied phases no
stream makes it open a connection to the backend. A socket that refuses its option
ends the task before it reads anything. -/
theorem wakes_exactly_for_logins (responder : MinecraftResponder) (surroundings : Surroundings)
    (observed : LifecycleState) (socket : Socket) :
    (surroundings.clientNodelay = true →
      (requests (outcome (handleClient responder surroundings observed) ⟨socket, []⟩).2.effects =
          [⟨observed⟩] ↔
        (observed.phase = .reconciling ∨ observed.phase = .stopped ∨ observed.phase = .stopping ∨
          observed.phase = .cooldown ∨ observed.phase = .conflict) ∧
          IsLogin responder.minecraftVersion socket.stream)) ∧
    (requests (outcome (handleClient responder surroundings observed) ⟨socket, []⟩).2.effects ≠ [] →
      requests (outcome (handleClient responder surroundings observed) ⟨socket, []⟩).2.effects =
          [⟨observed⟩] ∧
        (observed.phase = .reconciling ∨ observed.phase = .stopped ∨ observed.phase = .stopping ∨
          observed.phase = .cooldown ∨ observed.phase = .conflict) ∧
          IsLogin responder.minecraftVersion socket.stream) ∧
    (observed.phase ≠ .running → observed.phase ≠ .external →
      ∀ effect ∈ (outcome (handleClient responder surroundings observed) ⟨socket, []⟩).2.effects,
        effect ≠ .connect ∧ ∀ bytes, effect ≠ .toBackend bytes) := by
  rw [← wakes_iff]
  refine ⟨fun nodelay => ?_, fun some => ?_, fun running external effect among => ?_⟩
  · rcases handleClient_requests responder surroundings observed socket nodelay with
      ⟨sent, waking, login⟩ | ⟨sent, not⟩
    · exact ⟨fun _ => ⟨waking, login⟩, fun _ => sent⟩
    · rw [sent]
      exact ⟨fun impossible => absurd impossible (by simp), fun both => absurd both not⟩
  · by_cases nodelay : surroundings.clientNodelay = true
    · rcases handleClient_requests responder surroundings observed socket nodelay with
        sent | ⟨none, _⟩
      · exact sent
      · exact absurd none some
    · have refused : outcome (handleClient responder surroundings observed) ⟨socket, []⟩ =
          (.error (.failed .clientNodelay), ⟨socket, []⟩) := by
        rw [handleClient, outcome_bind, outcome_ensure, if_neg nodelay]
      rw [refused] at some
      exact absurd rfl some
  · have kept : Only (fun effect => ¬ Proxied effect)
        (handleClient responder surroundings observed) :=
      (Only.ensure _ _).bind fun _ => (Only.onSocket _).bind fun connection => by
        unfold handleSampledConnection
        rw [if_neg running, if_neg external]
        exact serveSleeping_local responder surroundings observed connection
    obtain ⟨added, effects, allowed⟩ := kept ⟨socket, []⟩
    rw [effects, List.nil_append] at among
    have apart := allowed effect among
    constructor
    · rintro rfl
      exact apart trivial
    · rintro bytes rfl
      exact apart trivial

/-- Surroundings in which everything succeeds, with the given state on the channel. -/
def obliging (lifecycle : LifecycleState) : Surroundings where
  clientNodelay := true
  trySend := .sent
  lifecycle := fun _ => some lifecycle
  attempts := [true]
  backendNodelay := true
  replayed := none
  establishes := true
  copyBidirectional := fun unread => ⟨unread, false⟩
  sends := fun _ => .done
  shutdown := .done
  atPing := id

/-- The responder of the release 1.8, with packets of one byte. -/
def plainResponder : MinecraftResponder where
  minecraftVersion := ⟨⟨"1.8", 47, .noUuid⟩, by decide +kernel⟩
  statusResponse := [1]
  loginDisconnect := [2]
  conflictDisconnect := [3]
  incompatibleDisconnect := [4]

/-- A login for protocol 47 in three segments wakes a server that is still
reconciling. -/
theorem fragmented_login_wakes :
    requests (outcome (handleClient plainResponder (obliging (.reconciling 0)) (.reconciling 0))
      ⟨⟨[[7, 0, 47], [1, 97, 0x63, 0xdd, 2, 3], [0, 1, 97]], .silent []⟩, []⟩).2.effects =
        [⟨.reconciling 0⟩] :=
  ((wakes_exactly_for_logins plainResponder (obliging (.reconciling 0)) (.reconciling 0)
    ⟨[[7, 0, 47], [1, 97, 0x63, 0xdd, 2, 3], [0, 1, 97]], .silent []⟩).1 rfl).mpr
    ⟨Or.inl rfl, [7, 0, 47, 1, 97, 0x63, 0xdd, 2], [0, 47, 1, 97, 0x63, 0xdd, 2], [3, 0, 1, 97],
      [0, 1, 97], [], ['a'], ⟨47, (3, 4), 25565, .login⟩, rfl,
      ⟨[7], rfl, ⟨(terminated_singleton 7).mpr (by decide), by decide, rfl⟩, by decide⟩,
      ⟨[0], [47], [1], [0x63, 0xdd], [2], 1, 2, 0x63, 0xdd, by decide, .of_decoded rfl,
        .of_decoded rfl, .of_decoded rfl, by decide, rfl, by decide, rfl, by decide,
        .of_decoded rfl, rfl⟩, rfl, Or.inl rfl,
      ⟨[3], rfl, ⟨(terminated_singleton 3).mpr (by decide), by decide, rfl⟩, by decide⟩,
      ⟨[0], [1], [], 1, ['a'], by decide, .of_decoded rfl, .of_decoded rfl, by decide, by decide,
        by decide, rfl⟩⟩

end McServerNap
