import McServerNap.Connection
import McServerNap.Framing
import McServerNap.Interaction.Solo
import McServerNap.Wakes

/-!
# A client task by itself

The two accounts of a client task agree. Alone with its surroundings, the program of the task ends
as `handle_client` does with the bytes of its client, and has done the same to the outside.
-/

namespace McServerNap

open Encoding Interaction

/-- What the surroundings reply to a task that nobody cancels. The dropped session is still counted
in its own record, or else that record is one of a later cycle. -/
def solitary (responder : MinecraftResponder) (surroundings : Surroundings)
    (observed : LifecycleState) (counted : Option CurrentCycleActivity) :
    (op : ConnectionOp) → Client → ConnectionReply op × Client
  | .setNodelay, client => (surroundings.clientNodelay, client)
  | .readEnvelope, client => (outcome (onSocket ConnectionEnvelope.read) client).map some id
  | .borrow, client => (observed, client)
  | .readRequest connection, client =>
    (outcome (onSocket (readSleepingRequest responder connection)) client).map some id
  | .trySend request, client =>
    (surroundings.trySend, (outcome (emit (.trySend request)) client).2)
  | .answer .status _, client => (outcome (serveStatus responder surroundings) client).map some id
  | .answer (.unsupportedProtocol _) _, client =>
    (outcome (sendDisconnect surroundings .incompatibleDisconnect
      responder.incompatibleDisconnect) client).map some id
  | .answer (.login _) observed, client =>
    (outcome (disconnectLogin responder surroundings observed) client).map some id
  | .acquireShared, client => (true, client)
  | .hasChanged checkpoint, client => ((surroundings.lifecycle checkpoint).isSome, client)
  | .borrowCurrent checkpoint, client =>
    ((surroundings.lifecycle checkpoint).getD observed, client)
  | .connectBackend, client => (outcome (connectBackend surroundings) client).map some id
  | .replayHandshake framedHandshake, client =>
    (outcome (replayHandshake surroundings framedHandshake) client).map some id
  | .establishSession _, client => (surroundings.establishes, client)
  | .notifyOne, client => ((), client)
  | .proxyStreams, client => (outcome (proxyStreams surroundings) client).map some id
  | .dropSession _, client =>
    (match counted with
      | some remaining => .counted remaining
      | none => .otherCycle, client)
  | .dropLease, client => ((), client)

section Alone

variable {responder : MinecraftResponder} {surroundings : Surroundings} {observed : LifecycleState}
  {counted : Option CurrentCycleActivity}

/-- The program returns the result of the step and leaves the client as the step does, whatever
the client has sent and seen so far. -/
def Mirrors {α β : Type} (handler : (op : ConnectionOp) → Client → ConnectionReply op × Client)
    (program : Connecting β) (step : Handling α) (result : Except Interruption α → β) : Prop :=
  ∀ client, Solo handler program client (result (outcome step client).1) (outcome step client).2

/-- Dropping something is not seen outside. -/
def Unseen (handler : (op : ConnectionOp) → Client → ConnectionReply op × Client)
    (cleanup : Connecting Unit) : Prop :=
  ∀ client, Solo handler cleanup client () client

variable {handler : (op : ConnectionOp) → Client → ConnectionReply op × Client}

/-- Past an `await`, errors end the program as they end the step. The cleanup that the program
runs then is not seen from outside, so both end in the same state. -/
theorem Mirrors.awaited {α β : Type} {program : Connecting β} {step : Handling α}
    {result : Except Interruption α → β} {cleanup : Connecting Unit} (reply : β → Awaited α)
    {next : α → Connecting (Awaited Unit)} {following : α → Handling Unit}
    (first : Mirrors handler program step result) (replied : ∀ ended, reply (result ended) = some ended)
    (unseen : Unseen handler cleanup)
    (rest : ∀ value, Mirrors handler (next value) (following value) some) :
    Mirrors handler (program >>= fun value => Connection.awaited (reply value) cleanup next)
      (step >>= following) some := by
  intro client
  refine (first client).bind ?_
  rw [replied, outcome_bind]
  cases run : outcome step client with
  | mk ended later =>
    cases ended with
    | ok value => exact rest value later
    | error interruption => exact (unseen later).bind (.done _ _)

/-- Dropping nothing is not seen. -/
theorem unseen_nothing : Unseen handler Connection.nothing := fun client => .done () client

/-- A check of the lifecycle: the program asks the channel and then borrows its value, and the
function over the stream reads both from its surroundings. -/
theorem mirrors_ensureCurrentOwnedCycle (checkpoint : Checkpoint) (cycle : BackendCycle) :
    Mirrors (solitary responder surroundings observed counted)
      (Connection.ensureCurrentOwnedCycle checkpoint cycle)
      (ensureCurrentOwnedCycle surroundings checkpoint cycle) id := by
  intro client
  unfold ensureCurrentOwnedCycle
  cases shown : surroundings.lifecycle checkpoint with
  | none =>
    have gone : solitary responder surroundings observed counted (.hasChanged checkpoint) client =
        (false, client) := by simp [solitary, shown]
    exact (Solo.request gone).bind (.done _ _)
  | some lifecycle =>
    have alive : solitary responder surroundings observed counted (.hasChanged checkpoint) client =
        (true, client) := by simp [solitary, shown]
    have current : solitary responder surroundings observed counted (.borrowCurrent checkpoint)
        client = (lifecycle, client) := by simp [solitary, shown]
    refine (Solo.request alive).bind ((Solo.request current).bind ?_)
    dsimp only
    rw [outcome_ensure]
    by_cases owned : lifecycle.ownedRunningCycle = some cycle
    · simp only [owned, ↓reduceIte]
      exact .done _ _
    · simp only [owned, ↓reduceIte]
      exact .done _ _

/-- Nor is dropping a lease, as far as the client's streams go. -/
theorem unseen_dropLease :
    Unseen (solitary responder surroundings observed counted) Connection.dropLease :=
  fun _ => Solo.request rfl

/-- An operation that is one stretch of the exchange. -/
theorem mirrors_access {α : Type} {op : ConnectionOp} {step : Handling α}
    {result : Except Interruption α → ConnectionReply op}
    (same : ∀ client, handler op client =
      (result (outcome step client).1, (outcome step client).2)) :
    Mirrors handler (Connection.access op) step result :=
  fun client => Solo.request (same client)

/-- An accepted login: what the program does with each answer of the channel is what the function
does, which records the effect and takes the answer from the surroundings. -/
theorem mirrors_serveLogin (intent : LoginIntent) (seen : LifecycleState) :
    Mirrors (solitary responder surroundings observed counted)
      (if World.wakes seen.phase then do
        match ← Connection.access (.trySend ⟨seen⟩) with
        | .sent | .full => Connection.access (.answer (.login intent) seen)
        | .closed => return some (.error (.failed .wakeChannelClosed))
      else Connection.access (.answer (.login intent) seen))
      (serveLogin responder surroundings seen) some := by
  have answered : Mirrors (solitary responder surroundings observed counted)
      (Connection.access (.answer (.login intent) seen))
      (disconnectLogin responder surroundings seen) some := mirrors_access fun client => rfl
  intro client
  unfold serveLogin requestWake
  by_cases waking : World.wakes seen.phase
  · simp only [waking, ↓reduceIte]
    have asked : outcome (emit (.trySend ⟨seen⟩)) client =
        (.ok (), { client with effects := client.effects ++ [.trySend ⟨seen⟩] }) := rfl
    have tried : solitary responder surroundings observed counted (.trySend ⟨seen⟩) client =
        (surroundings.trySend, { client with effects := client.effects ++ [.trySend ⟨seen⟩] }) := rfl
    refine (Solo.request tried).bind ?_
    unfold trySendWake
    rw [bind_assoc, outcome_bind_ok _ _ asked]
    cases surroundings.trySend with
    | sent => exact answered _
    | full => exact answered _
    | closed => exact .done _ _
  · simp only [waking, Bool.false_eq_true, ↓reduceIte, pure_bind]
    exact answered client

/-- Serving a sleeping backend reads the request and answers it as the step does, and an error
ends both alike. -/
theorem mirrors_serveSleeping (seen : LifecycleState) (connection : ConnectionEnvelope) :
    Mirrors (solitary responder surroundings observed counted)
      (Connection.serveSleeping seen connection)
      (serveSleeping responder surroundings seen connection) some := by
  refine Mirrors.awaited id (mirrors_access fun client => rfl) (fun _ => rfl)
    unseen_nothing fun request => ?_
  cases request with
  | none => exact fun client => .done _ _
  | some request =>
    cases request with
    | status => exact mirrors_access fun client => rfl
    | unsupportedProtocol protocol => exact mirrors_access fun client => rfl
    | login intent => exact mirrors_serveLogin intent seen

/-- A session that ends keeps what its streams ended with. Dropping it changes the count of its
cycle, if that is still the one on record, and no effect on the streams. -/
theorem solo_dropSession (cycle : BackendCycle) (ended : Awaited Unit) (client : Client) :
    Solo (solitary responder surroundings observed counted) (Connection.dropSession cycle ended) client
      ended client := by
  cases counted with
  | none =>
    have dropped : solitary responder surroundings observed none (.dropSession cycle) client =
        (.otherCycle, client) := rfl
    exact (Solo.request dropped).bind ((unseen_dropLease client).bind (.done _ _))
  | some remaining =>
    have dropped : solitary responder surroundings observed (some remaining) (.dropSession cycle)
        client = (.counted remaining, client) := rfl
    have noted : solitary responder surroundings observed (some remaining) .notifyOne client =
        ((), client) := rfl
    exact (Solo.request dropped).bind ((Solo.request noted).bind
      ((unseen_dropLease client).bind (.done _ _)))

/-- The streams are proxied once the session is established. Only logins and transfers establish
one; every other intent goes to the proxy directly. -/
theorem mirrors_proxyEstablished (cycle : BackendCycle) (intent : HandshakeIntent) :
    Mirrors (solitary responder surroundings observed counted)
      (Connection.proxyEstablished cycle intent)
      ((match intent with
        | .login | .transfer => ensure (surroundings.establishes = true) .activityCycleChanged
        | .status | .unknown _ => return ()) >>= fun _ => proxyStreams surroundings) some := by
  have counts : Mirrors (solitary responder surroundings observed counted) (do
      if ← Connection.access (.establishSession cycle) then
        Connection.access .notifyOne
        let ended ← Connection.access .proxyStreams
        Connection.dropSession cycle ended
      else
        Connection.dropLease
        return some (.error (.failed .activityCycleChanged)))
      (ensure (surroundings.establishes = true) .activityCycleChanged >>= fun _ =>
        proxyStreams surroundings) some := by
    intro client
    have established : solitary responder surroundings observed counted (.establishSession cycle)
        client = (surroundings.establishes, client) := rfl
    refine (Solo.request established).bind ?_
    rw [outcome_bind, outcome_ensure]
    cases surroundings.establishes with
    | false => exact (unseen_dropLease client).bind (.done _ _)
    | true =>
      have noted : solitary responder surroundings observed counted .notifyOne client = ((), client) :=
        rfl
      exact (Solo.request noted).bind ((Solo.request rfl).bind (solo_dropSession cycle _ _))
  have uncounted : Mirrors (solitary responder surroundings observed counted)
      (do
        Connection.dropLease
        Connection.access .proxyStreams)
      ((return ()) >>= fun _ => proxyStreams surroundings) some :=
    fun client => (unseen_dropLease client).bind (Solo.request rfl)
  cases intent with
  | login | transfer => exact counts
  | status | unknown _ => exact uncounted

/-- The proxied task mirrors its step through every check, connection, replay and copy, and drops
its lease and session unseen. -/
theorem mirrors_proxyOwnedConnection (connection : ConnectionEnvelope) (cycle : BackendCycle) :
    Mirrors (solitary responder surroundings observed counted)
      (Connection.proxyOwnedConnection connection cycle)
      (proxyOwnedConnection surroundings connection cycle) some := by
  have checked (checkpoint : Checkpoint) {next : Unit → Connecting (Awaited Unit)}
      {following : Unit → Handling Unit}
      (rest : ∀ value, Mirrors (solitary responder surroundings observed counted) (next value)
        (following value) some) :=
    Mirrors.awaited _ (mirrors_ensureCurrentOwnedCycle checkpoint cycle) (fun _ => rfl)
      unseen_dropLease rest
  intro client
  have acquired : solitary responder surroundings observed counted .acquireShared client =
      (true, client) := rfl
  refine (Solo.request acquired).bind ?_
  unfold proxyOwnedConnection establishOwnedProxyActivity
  simp only [bind_assoc]
  refine checked .leased (fun _ => ?_) client
  refine Mirrors.awaited id (mirrors_access fun client => rfl) (fun _ => rfl)
    unseen_dropLease fun _ => checked .connected fun _ => ?_
  refine Mirrors.awaited id (mirrors_access fun client => rfl) (fun _ => rfl)
    unseen_dropLease fun _ => checked .replayed fun _ => ?_
  exact mirrors_proxyEstablished cycle connection.intent

/-- So does the task that forwards to an external server. -/
theorem mirrors_proxyExternalConnection (connection : ConnectionEnvelope) :
    Mirrors (solitary responder surroundings observed counted)
      (Connection.proxyExternalConnection connection)
      (proxyExternalConnection surroundings connection) some := by
  refine Mirrors.awaited id (mirrors_access fun client => rfl) (fun _ => rfl)
    unseen_nothing fun _ => ?_
  refine Mirrors.awaited id (mirrors_access fun client => rfl) (fun _ => rfl)
    unseen_nothing fun _ => ?_
  exact mirrors_access fun client => rfl

/-- After its sample the task takes the way the step takes, since both branch on the same
lifecycle. -/
theorem mirrors_handleSampledConnection (seen : LifecycleState)
    (connection : ConnectionEnvelope) :
    Mirrors (solitary responder surroundings observed counted)
      (Connection.handleSampledConnection seen connection)
      (handleSampledConnection responder surroundings seen connection) some := by
  unfold Connection.handleSampledConnection handleSampledConnection
  by_cases running : seen.phase = .running
  · simp only [running, ↓reduceIte]
    cases seen.ownedRunningCycle with
    | none => exact fun client => .done _ _
    | some cycle => exact mirrors_proxyOwnedConnection connection cycle
  · by_cases external : seen.phase = .external
    · simp only [external, ↓reduceIte, reduceCtorEq]
      exact mirrors_proxyExternalConnection connection
    · simp only [running, external, ↓reduceIte]
      exact mirrors_serveSleeping seen connection

end Alone

/-- The two accounts of a client task are one: alone with its surroundings, the program returns
what `handle_client` does with the bytes of its client, it has sent and read the same, and it does
not end in any other way. -/
theorem programs_handle_clients (responder : MinecraftResponder) (surroundings : Surroundings)
    (observed : LifecycleState) (counted : Option CurrentCycleActivity) (client later : Client)
    (ended : Awaited Unit) :
    Solo (solitary responder surroundings observed counted) Connection.handleClient client ended later ↔
      ended = some (outcome (handleClient responder surroundings observed) client).1 ∧
        later = (outcome (handleClient responder surroundings observed) client).2 := by
  have mirrors : Mirrors (solitary responder surroundings observed counted) Connection.handleClient
      (handleClient responder surroundings observed) some := by
    intro client
    have enabled : solitary responder surroundings observed counted .setNodelay client =
        (surroundings.clientNodelay, client) := rfl
    have borrowed (client : Client) :
        solitary responder surroundings observed counted .borrow client = (observed, client) := rfl
    refine (Solo.request enabled).bind ?_
    unfold handleClient
    rw [outcome_bind, outcome_ensure]
    cases surroundings.clientNodelay with
    | false => exact .done _ _
    | true =>
      refine Mirrors.awaited id (mirrors_access fun client => rfl) (fun _ => rfl)
        unseen_nothing (fun connection client => ?_) client
      exact (Solo.request (borrowed client)).bind
        (mirrors_handleSampledConnection observed connection client)
  constructor
  · intro run
    exact run.unique (mirrors client)
  · rintro ⟨rfl, rfl⟩
    exact mirrors client

end McServerNap
