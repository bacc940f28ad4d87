import McServerNap.Lifecycle

/-!
# Classifying what already answers at a backend

A reconciliation probe connects to the Minecraft port and, where RCON is
configured, authenticates at the RCON port. The outcomes of the individual
network calls are supplied by the platform; the classifications below are the
source's. Error details are only logged there and are left out.
-/

namespace McServerNap

/-- How one TCP connection attempt under a timeout ended. -/
inductive ConnectOutcome where
  | connected
  | refused
  | failed
  | timedOut
  deriving DecidableEq, Repr

/-- How an RCON probe's authentication on an accepted connection ended. -/
inductive AuthenticationOutcome where
  | authenticated
  | failed
  | timedOut
  deriving DecidableEq, Repr

/-- `BackendProbeClassification`. -/
inductive BackendProbeClassification where
  | connected
  | refused
  | inconclusive
  deriving DecidableEq, Repr

/-- `RconProbeClassification`. -/
inductive RconProbeClassification where
  | authenticated
  | refused
  | acceptedFailure
  | inconclusive
  deriving DecidableEq, Repr

/-- `ReconciliationClassification`. -/
inductive ReconciliationClassification where
  | clean
  | fullyReady
  | positive
  | inconclusive
  deriving DecidableEq, Repr

/-- What the network did during one probe. The RCON part is read only where RCON
is configured; `passwordValid` is the probe's own check of the password's body. -/
structure ProbeObservation where
  backend : ConnectOutcome
  passwordValid : Bool
  rconConnection : ConnectOutcome
  rconAuthentication : AuthenticationOutcome
  deriving DecidableEq, Repr

/-- `probe_backend`. -/
def probeBackend : ConnectOutcome → BackendProbeClassification
  | .connected => .connected
  | .refused => .refused
  | .failed => .inconclusive
  | .timedOut => .inconclusive

/-- `rcon::probe`. Anything that accepts the connection and does not complete the
authentication in time counts as an accepted failure. -/
def rconProbe (observation : ProbeObservation) : RconProbeClassification :=
  if !observation.passwordValid then .inconclusive else
    match observation.rconConnection with
    | .refused => .refused
    | .failed => .inconclusive
    | .timedOut => .inconclusive
    | .connected =>
      match observation.rconAuthentication with
      | .authenticated => .authenticated
      | .failed => .acceptedFailure
      | .timedOut => .acceptedFailure

/-- `ReconciliationResult`. -/
inductive ReconciliationResult where
  | configuredRcon (rcon : RconProbeClassification) (backend : BackendProbeClassification)
  | backendOnly (backend : BackendProbeClassification)
  deriving DecidableEq, Repr

/-- `reconciliation_probe`: both probes run concurrently where RCON is configured. -/
def reconciliationProbe (rconConfigured : Bool) (observation : ProbeObservation) :
    ReconciliationResult :=
  if rconConfigured then
    .configuredRcon (rconProbe observation) (probeBackend observation.backend)
  else
    .backendOnly (probeBackend observation.backend)

/-- `ReconciliationResult::classification`. -/
def ReconciliationResult.classification : ReconciliationResult → ReconciliationClassification
  | .configuredRcon .authenticated .connected => .fullyReady
  | .configuredRcon .authenticated _ => .positive
  | .configuredRcon .acceptedFailure _ => .positive
  | .configuredRcon _ .connected => .positive
  | .configuredRcon .refused .refused => .clean
  | .configuredRcon .refused .inconclusive => .inconclusive
  | .configuredRcon .inconclusive .refused => .inconclusive
  | .configuredRcon .inconclusive .inconclusive => .inconclusive
  | .backendOnly .connected => .fullyReady
  | .backendOnly .refused => .clean
  | .backendOnly .inconclusive => .inconclusive

/-- A probe is clean exactly when every endpoint it tried refused the connection. -/
theorem classification_clean_iff (rconConfigured : Bool) (observation : ProbeObservation) :
    (reconciliationProbe rconConfigured observation).classification = .clean ↔
      observation.backend = .refused ∧
        (rconConfigured = true →
          observation.passwordValid = true ∧ observation.rconConnection = .refused) := by
  obtain ⟨backend, passwordValid, connection, authentication⟩ := observation
  cases rconConfigured <;> cases backend <;> cases passwordValid <;> cases connection <;>
    cases authentication <;>
    simp [reconciliationProbe, rconProbe, probeBackend, ReconciliationResult.classification]

end McServerNap
