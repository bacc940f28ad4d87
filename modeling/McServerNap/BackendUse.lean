import McServerNap.Lifecycle

/-!
# Use of an owned backend by client tasks

`BackendUseCoordinator` pairs a shared/exclusive gate with an activity record of
the current cycle. A client task holds a shared lease from before its first look
at the lifecycle until its session is over; the supervisor needs the exclusive
side before an idle stop. The record counts the login and transfer sessions of
one cycle and remembers when the last of them ended.

The counter is a natural number. The source panics when the count would exceed a
machine word, which no number of open sockets reaches; dropping a session that
was never counted is kept visible below.
-/

namespace McServerNap

/-- The activity record, and equally the snapshot of it. -/
structure CurrentCycleActivity where
  cycle : BackendCycle
  activeLoginTransferSessions : Nat
  runningSince : Instant
  lastFinalSessionDisconnect : Option Instant
  deriving DecidableEq, Repr

namespace CurrentCycleActivity

/-- The record `begin_cycle` installs. -/
def beginCycle (cycle : BackendCycle) (runningSince : Instant) : CurrentCycleActivity where
  cycle := cycle
  activeLoginTransferSessions := 0
  runningSince := runningSince
  lastFinalSessionDisconnect := none

/-- Since when no session of the cycle has been open; unknown while one is. -/
def proxyIdleAnchor (activity : CurrentCycleActivity) : Option Instant :=
  if activity.activeLoginTransferSessions = 0 then
    some (activity.lastFinalSessionDisconnect.getD activity.runningSince)
  else none

end CurrentCycleActivity

/-- `establish_login_transfer_session`: the counted record, or nothing when the
lease belongs to another cycle and is handed back. -/
def establishLoginTransferSession (activity : Option CurrentCycleActivity)
    (cycle : BackendCycle) : Option CurrentCycleActivity :=
  activity.bind fun activity =>
    if activity.cycle = cycle then
      some { activity with
        activeLoginTransferSessions := activity.activeLoginTransferSessions + 1 }
    else none

/-- What `LoginTransferProxySession::drop` does to the record. -/
inductive SessionDrop where
  | counted (activity : CurrentCycleActivity)
  | otherCycle
  | underflow
  deriving DecidableEq, Repr

/-- `LoginTransferProxySession::drop`: a session of the current cycle is uncounted by a checked
subtraction, and the drop that leaves none open records its instant. A session of another cycle
changes nothing. -/
def dropLoginTransferSession (activity : Option CurrentCycleActivity) (cycle : BackendCycle)
    (now : Instant) : SessionDrop :=
  match activity with
  | none => .otherCycle
  | some activity =>
    if activity.cycle = cycle then
      match activity.activeLoginTransferSessions with
      | 0 => .underflow
      | remaining + 1 =>
        .counted { activity with
          activeLoginTransferSessions := remaining
          lastFinalSessionDisconnect :=
            if remaining = 0 then some now else activity.lastFinalSessionDisconnect }
    else .otherCycle

/-- What a proxying task does once `ensure_current_owned_cycle` has passed. -/
inductive Errand where
  | connect
  | replay
  | establish
  deriving DecidableEq, Repr

/-- A client task, by the point it has reached. `handle_client` samples the
lifecycle after `reading`. A sample in phase Running takes the path of
`proxy_owned_connection`, which looks at the lifecycle before each errand: first
whether the supervisor still publishes, then whether the cycle is still current.

A task in `announcing` or `announcingEnd` has changed the session count and has
not yet notified the supervisor of it. -/
inductive ClientTask where
  | reading
  | sleeping (observed : LifecycleState)
  | waking (observed : LifecycleState)
  | queued (cycle : BackendCycle)
  | checking (errand : Errand) (cycle : BackendCycle)
  | comparing (errand : Errand) (cycle : BackendCycle)
  | working (errand : Errand) (cycle : BackendCycle)
  | announcing (cycle : BackendCycle)
  | proxying (cycle : BackendCycle)
  | announcingEnd (cycle : BackendCycle)
  | releasing (cycle : BackendCycle)
  | forwarding
  | finished
  deriving DecidableEq, Repr

namespace ClientTask

/-- The cycle whose `BackendUseLease` the task holds, on its own or in a session. -/
def lease : ClientTask → Option BackendCycle
  | checking _ cycle | comparing _ cycle | working _ cycle | announcing cycle
  | proxying cycle | announcingEnd cycle | releasing cycle => some cycle
  | reading | sleeping _ | waking _ | queued _ | forwarding | finished => none

/-- The cycle the task's `LoginTransferProxySession` is counted in. -/
def session : ClientTask → Option BackendCycle
  | announcing cycle | proxying cycle => some cycle
  | _ => none

/-- The task has passed its first look at the lifecycle and has neither
established its session nor released its lease. -/
def halfOpened : ClientTask → Bool
  | working _ _ | checking .replay _ | checking .establish _ | comparing .replay _
  | comparing .establish _ => true
  | _ => false

/-- Opening a connection and keeping it both need the lease. -/
theorem leased_of_engaged (task : ClientTask)
    (engaged : task.session.isSome ∨ task.halfOpened = true) : task.lease.isSome := by
  cases task <;> simp_all [session, halfOpened, lease]

end ClientTask

/-- The steps of client tasks. Network results and the content of a client's
request are the environment's choice. -/
inductive ClientStep where
  | sample
  | requestLogin
  | trySend
  | acquireShared
  | checkAuthority
  | compareCycle
  | connected
  | writeHandshake
  | replayed
  | establishSession
  | dropLease
  | announce
  | disconnect
  | release
  | abandon
  deriving DecidableEq, Repr

end McServerNap
