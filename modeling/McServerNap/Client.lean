import McServerNap.Encoding.Reading
import McServerNap.Minecraft
import McServerNap.Platform

/-!
# One client connection

`handle_client` from the accepted socket to the end of its task. The interleaving
of client tasks with the supervisor is a matter of the platform; here one task runs
alone, and everything that others decide meanwhile, such as the states the watch
channel shows it or the way its writes end, is part of its surroundings.

What the task does to the outside is recorded in order. The forwarding of an
established proxy is code outside the repository and stays a parameter.
-/

namespace McServerNap

open Encoding

/-- What a client task does that others can see. -/
inductive ClientEffect where
  | trySend (request : WakeRequest)
  | connect
  | toBackend (bytes : Bytes)
  | toClient (what : Sending) (bytes : Bytes)
  | shutdownClient
  deriving DecidableEq, Repr

/-- The client's socket and what its task has done. -/
structure Client where
  socket : Socket
  effects : List ClientEffect
  deriving DecidableEq, Repr

/-- What handles a connection may stop early with an `Interruption`, and reads from and writes to
the client as it goes. -/
abbrev Handling (α : Type) := ExceptT Interruption (StateM Client) α

/-- How `try_send` on the wake channel ends. -/
inductive TrySend where
  | sent
  | full
  | closed
  deriving DecidableEq, Repr

/-- How a write, or a shutdown, under the operation timeout ends. -/
inductive WriteEnd where
  | done
  | broken (kind : ErrorKind)
  | timedOut
  deriving DecidableEq, Repr

/-- Where `ensure_current_owned_cycle` is called: with the lease, with the backend
connection, and after the replay. -/
inductive Checkpoint where
  | leased
  | connected
  | replayed
  deriving DecidableEq, Repr

/-- The end of `copy_bidirectional`: what it has passed on of the client's bytes, and
whether it failed. -/
structure Copied where
  forwarded : Bytes
  failed : Bool
  deriving DecidableEq, Repr

/-- Everything a client task does not decide itself. -/
structure Surroundings where
  /-- `set_nodelay` on the client socket succeeds. -/
  clientNodelay : Bool
  trySend : TrySend
  /-- What the watch channel shows, nothing once its sender is gone. -/
  lifecycle : Checkpoint → Option LifecycleState
  /-- The connection attempts that fit before the connect deadline, and their success. -/
  attempts : List Bool
  /-- `set_nodelay` on the backend socket succeeds. -/
  backendNodelay : Bool
  /-- How many bytes of the handshake reach the backend before its write fails; all
  of them when there is no number. -/
  replayed : Option Nat
  /-- The lease is still of the cycle that is counted. -/
  establishes : Bool
  copyBidirectional : Bytes → Copied
  sends : Sending → WriteEnd
  shutdown : WriteEnd
  /-- The client's socket as the deadline of the status ping sees it. -/
  atPing : Socket → Socket

/-! ## Operations -/

/-- A reader of the socket, as a step of the task. -/
def onSocket {α : Type} (reader : Receiving α) : Handling α := do
  let client ← get
  let (result, socket) := outcome reader client.socket
  set { client with socket := socket }
  match result with
  | .ok value => return value
  | .error interruption => throw interruption

/-- Something others can see. -/
def emit (effect : ClientEffect) : Handling Unit := do
  let client ← get
  set { client with effects := client.effects ++ [effect] }

/-- `write_all_with_timeout` to the client, under its context. -/
def sendToClient (surroundings : Surroundings) (what : Sending) (bytes : Bytes) :
    Handling Unit := do
  emit (.toClient what bytes)
  match surroundings.sends what with
  | .done => return ()
  | .broken kind => throw (.failed (.notSent what (some kind)))
  | .timedOut => throw (.failed (.notSent what none))

/-- `is_normal_disconnect`. -/
def isNormalDisconnect : ErrorKind → Bool
  | .brokenPipe | .connectionAborted | .connectionReset => true
  | _ => false

/-- `shutdown_with_timeout`. -/
def shutdownClient (surroundings : Surroundings) : Handling Unit := do
  emit .shutdownClient
  match surroundings.shutdown with
  | .done => return ()
  | .broken kind =>
    if isNormalDisconnect kind then return () else throw (.failed (.shutdownFailed kind))
  | .timedOut => throw (.failed .shutdownTimedOut)

/-- The kind below an input error, which `is_normal_client_close` looks for. -/
def ClientError.kind : ClientError → Option ErrorKind
  | .packetLengthUnread kind | .partialPacket kind | .partialPacketLength kind => some kind
  | _ => none

/-- `is_normal_client_close`. -/
def isNormalClientClose (error : ClientError) : Bool :=
  match error.kind with
  | some .unexpectedEof | some .brokenPipe | some .connectionAborted | some .connectionReset => true
  | _ => false

/-! ## Sleeping servers -/

/-- `to_be_bytes` of a 64-bit integer. -/
def toBeBytes (value : Int64) : Bytes :=
  (List.range 8).map fun place => UInt8.ofNat (value.toUInt64.toNat / 256 ^ (7 - place))

/-- The fields of a status ping. -/
def readStatusPingFields : Reading Int64 := do
  ensure ((← PacketCursor.readVarint) = 1) .expectedStatusPing
  let timestamp ← PacketCursor.readI64
  PacketCursor.ensureFinished
  return timestamp

/-- The ping that may follow a status response: silence and an ordinary close are
no ping, and no error either. -/
def readStatusPing : Receiving (Option Bytes) :=
  tryCatch (do return some (← readPacket maxStatusPacketLength)) fun interruption =>
    match interruption with
    | .pending => return none
    | .failed error =>
      if isNormalClientClose error then return none else throw (.failed (.statusPingUnread error))
    | .panicked => throw .panicked

/-- The pong to a ping that came. -/
def answerPing (surroundings : Surroundings) : Option Bytes → Handling Unit
  | none => return ()
  | some packet =>
    match readPacketFields readStatusPingFields packet with
    | .error interruption => throw interruption
    | .ok timestamp =>
      match encodePacket 1 (toBeBytes timestamp) with
      | .error error => throw (.failed error)
      | .ok pong => sendToClient surroundings .statusPong pong

/-- `MinecraftResponder::serve_status`. -/
def serveStatus (responder : MinecraftResponder) (surroundings : Surroundings) :
    Handling Unit := do
  sendToClient surroundings .statusResponse responder.statusResponse
  modify fun client => { client with socket := surroundings.atPing client.socket }
  let ping ← onSocket readStatusPing
  answerPing surroundings ping
  shutdownClient surroundings

/-- The `send_*_disconnect` functions of the responder. -/
def sendDisconnect (surroundings : Surroundings) (what : Sending) (bytes : Bytes) :
    Handling Unit := do
  sendToClient surroundings what bytes
  shutdownClient surroundings

/-- `try_send` of a wake request. A full channel already holds one. -/
def trySendWake (surroundings : Surroundings) (observed : LifecycleState) : Handling Unit := do
  emit (.trySend ⟨observed⟩)
  match surroundings.trySend with
  | .sent | .full => return ()
  | .closed => throw (.failed .wakeChannelClosed)

/-- The wake request of a login, in the phases that have one. -/
def requestWake (surroundings : Surroundings) (observed : LifecycleState) : Handling Unit :=
  if World.wakes observed.phase then trySendWake surroundings observed else pure ()

/-- The message that ends a login to a sleeping server. -/
def disconnectLogin (responder : MinecraftResponder) (surroundings : Surroundings)
    (observed : LifecycleState) : Handling Unit :=
  if observed.phase = .conflict then
    sendDisconnect surroundings .conflictDisconnect responder.conflictDisconnect
  else sendDisconnect surroundings .loginDisconnect responder.loginDisconnect

/-- The login arm of `handle_sampled_connection`. -/
def serveLogin (responder : MinecraftResponder) (surroundings : Surroundings)
    (observed : LifecycleState) : Handling Unit := do
  requestWake surroundings observed
  disconnectLogin responder surroundings observed

/-- The sleeping part of `handle_sampled_connection`. -/
def serveSleeping (responder : MinecraftResponder) (surroundings : Surroundings)
    (observed : LifecycleState) (connection : ConnectionEnvelope) : Handling Unit := do
  match (← onSocket (readSleepingRequest responder connection)) with
  | none => return ()
  | some .status => serveStatus responder surroundings
  | some (.unsupportedProtocol _) =>
    sendDisconnect surroundings .incompatibleDisconnect responder.incompatibleDisconnect
  | some (.login _) => serveLogin responder surroundings observed

/-! ## Proxied servers -/

/-- `ensure_current_owned_cycle`. -/
def ensureCurrentOwnedCycle (surroundings : Surroundings) (checkpoint : Checkpoint)
    (cycle : BackendCycle) : Handling Unit :=
  match surroundings.lifecycle checkpoint with
  | none => throw (.failed .lifecycleAuthorityStopped)
  | some lifecycle => ensure (lifecycle.ownedRunningCycle = some cycle) .ownedCycleChanged

/-- The attempts of `connect_backend`. -/
def connectBackendFrom : List Bool → Handling Unit
  | [] => throw (.failed .backendUnreachable)
  | connected :: later => do
    emit .connect
    if connected then return () else connectBackendFrom later

/-- `connect_backend`, and `set_nodelay` on the connection. -/
def connectBackend (surroundings : Surroundings) : Handling Unit := do
  connectBackendFrom surroundings.attempts
  ensure (surroundings.backendNodelay = true) .backendNodelay

/-- `write_all` of the framed handshake to the backend. -/
def replayHandshake (surroundings : Surroundings) (framedHandshake : Bytes) : Handling Unit :=
  match surroundings.replayed with
  | none => emit (.toBackend framedHandshake)
  | some count => do
    emit (.toBackend (framedHandshake.take count))
    throw (.failed .handshakeNotReplayed)

/-- `proxy_streams`: the copy takes over the rest of the client's stream. -/
def proxyStreams (surroundings : Surroundings) : Handling Unit := do
  let client ← get
  let copied := surroundings.copyBidirectional client.socket.unread
  emit (.toBackend copied.forwarded)
  if copied.failed then throw (.failed .proxyFailed)

/-- `establish_owned_proxy_activity`. -/
def establishOwnedProxyActivity (surroundings : Surroundings) (cycle : BackendCycle)
    (intent : HandshakeIntent) : Handling Unit := do
  ensureCurrentOwnedCycle surroundings .replayed cycle
  match intent with
  | .login | .transfer => ensure (surroundings.establishes = true) .activityCycleChanged
  | .status | .unknown _ => return ()

/-- `proxy_owned_connection` and `proxy_connected_owned`. -/
def proxyOwnedConnection (surroundings : Surroundings) (connection : ConnectionEnvelope)
    (cycle : BackendCycle) : Handling Unit := do
  ensureCurrentOwnedCycle surroundings .leased cycle
  connectBackend surroundings
  ensureCurrentOwnedCycle surroundings .connected cycle
  replayHandshake surroundings connection.framedHandshake
  establishOwnedProxyActivity surroundings cycle connection.intent
  proxyStreams surroundings

/-- `proxy_external_connection`. -/
def proxyExternalConnection (surroundings : Surroundings) (connection : ConnectionEnvelope) :
    Handling Unit := do
  connectBackend surroundings
  replayHandshake surroundings connection.framedHandshake
  proxyStreams surroundings

/-! ## The task -/

/-- `handle_sampled_connection`. -/
def handleSampledConnection (responder : MinecraftResponder) (surroundings : Surroundings)
    (observed : LifecycleState) (connection : ConnectionEnvelope) : Handling Unit :=
  if observed.phase = .running then
    match observed.ownedRunningCycle with
    | none => throw .panicked
    | some cycle => proxyOwnedConnection surroundings connection cycle
  else if observed.phase = .external then proxyExternalConnection surroundings connection
  else serveSleeping responder surroundings observed connection

/-- `handle_client`. -/
def handleClient (responder : MinecraftResponder) (surroundings : Surroundings)
    (observed : LifecycleState) : Handling Unit := do
  ensure (surroundings.clientNodelay = true) .clientNodelay
  let connection ← onSocket ConnectionEnvelope.read
  handleSampledConnection responder surroundings observed connection

end McServerNap
