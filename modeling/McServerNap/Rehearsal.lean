import McServerNap.Interaction.Rehearsal
import McServerNap.Supervisor

/-!
# Rehearsals of the supervisor

Most operations have the reply that the world dictates. What the environment may
choose, such as the event of a `select!` or the outcome of a launch, is left to cues.
-/

namespace McServerNap

open Interaction

instance : DecidableEq (Except SupervisorError Unit)
  | .ok _, .ok _ => isTrue rfl
  | .error first, .error second =>
    decidable_of_iff (first = second) ⟨congrArg _, Except.error.inj⟩
  | .ok _, .error _ | .error _, .ok _ => isFalse nofun

deriving instance DecidableEq for Op

instance : (op : Op) → DecidableEq (Reply op)
  | .now => inferInstanceAs (DecidableEq Instant)
  | .currentLifecycle => inferInstanceAs (DecidableEq LifecycleState)
  | .panic => inferInstanceAs (DecidableEq Empty)
  | .wakesClosed | .launch => inferInstanceAs (DecidableEq Bool)
  | .tryRecvShutdown => inferInstanceAs (DecidableEq TryRecvShutdown)
  | .tryRecvWake => inferInstanceAs (DecidableEq TryRecvWake)
  | .tryWait => inferInstanceAs (DecidableEq TryWaitResult)
  | .activitySnapshot => inferInstanceAs (DecidableEq (Option CurrentCycleActivity))
  | .select _ => inferInstanceAs (DecidableEq Event)
  | .publish _ _ | .answer _ _ | .beginCycle _ _ | .releaseExclusive | .exit _ =>
    inferInstanceAs (DecidableEq Unit)

instance : DecidableEq platform.Move := inferInstanceAs (DecidableEq Move)

/-- The reply that the world alone determines. -/
def World.dictated (world : World) : (op : Op) → Option (Reply op)
  | .now => some world.clock
  | .currentLifecycle => some world.lifecycle
  | .publish _ _ => some ()
  | .wakesClosed => some !world.sendersOpen
  | .tryRecvShutdown =>
    match world.shutdown with
    | .empty => some .empty
    | .sent => some .received
    | .dropped | .taken => some .closed
  | .tryRecvWake =>
    match world.slot with
    | some request => some (.received request)
    | none => some (if world.sendersOpen then .empty else .disconnected)
  | .answer _ _ => some ()
  | .beginCycle _ _ => some ()
  | .activitySnapshot => some world.activity
  | .releaseExclusive => some ()
  | .exit _ => some ()
  | .panic | .launch | .tryWait | .select _ => none

namespace Cue

/-- A `select!` completes with the event. -/
def event (event : Event) : Cue platform :=
  .reply fun
    | _, .select _ => some event
    | _, _ => none

/-- A `select!` receives the request in the slot. -/
def wake : Cue platform :=
  .reply fun
    | (world : World), .select _ => some (.wake world.slot)
    | _, _ => none

/-- The launch succeeds or fails. -/
def launch (success : Bool) : Cue platform :=
  .reply fun
    | _, .launch => some success
    | _, _ => none

/-- The query of the child finds this. -/
def tryWait (result : TryWaitResult) : Cue platform :=
  .reply fun
    | _, .tryWait => some result
    | _, _ => none

/-- A client takes its next step. -/
def client (index : Nat) (step : ClientStep) : Cue platform := .move (.client index step)

/-- A new client samples the published state and asks for a login. -/
def login (index : Nat) : List (Cue platform) :=
  [.move .accept, client index .sample, client index .requestLogin]

/-- Time passes until a timer has elapsed. -/
def elapse (timer : Timer) (elapsed : Duration) : List (Cue platform) :=
  [.move (.tick elapsed), event (.elapsed timer)]

end Cue

/-- A run of the supervisor in a fresh runtime, as far as the cues lead. -/
def rehearsal (config : SupervisorConfig) (cues : List (Cue platform)) :
    Configuration platform Unit :=
  (Configuration.fresh platform (run config) (World.initial 0)).rehearse World.dictated 64 cues

/-- Whatever the cues, a rehearsal is a run of the supervisor: a cue that is not possible is
skipped. -/
theorem rehearsal_reached (config : SupervisorConfig) (cues : List (Cue platform)) :
    (rehearsal config cues).Continues (run config) (World.initial 0) :=
  Configuration.rehearse_reached _ _ _ _ _

/-- The timings of the example configuration, with or without RCON. -/
def exampleConfig (rcon : Bool) : SupervisorConfig where
  rcon := rcon
  pollInterval := seconds 60
  idleTimeout := seconds 600
  startupTimeout := seconds 600
  retryInterval := seconds 2
  commandTimeout := seconds 10
  shutdownTimeout := seconds 30
  connectTimeout := seconds 10

namespace ProbeObservation

/-- Both connections are refused. -/
def refused : ProbeObservation := ⟨.refused, true, .refused, .failed⟩

/-- Both connections time out. -/
def silent : ProbeObservation := ⟨.timedOut, true, .timedOut, .timedOut⟩

/-- Both connections are accepted and the password is right. -/
def ready : ProbeObservation := ⟨.connected, true, .connected, .authenticated⟩

end ProbeObservation

/-- A stopped backend is launched for the first client, and it gets ready. -/
def untilReady : List (Cue platform) :=
  [Cue.event (.probe .refused)] ++ Cue.login 0 ++ [Cue.client 0 .trySend, Cue.wake,
    Cue.event (.probe .refused), Cue.launch true, Cue.event (.connect true)]

/-- The reply to `list` on an empty server. -/
def nobodyOnline : List Char := "There are 0 of a max of 20 players online:".toList

/-- The ready server stays empty for the idle timeout, and every check before the idle
stop confirms it. -/
def untilIdle : List (Cue platform) :=
  [Cue.event (.elapsed .playerPoll), Cue.event (.rconConnect true),
    Cue.event (.elapsed .playerPoll), Cue.event (.rconList (some nobodyOnline)),
    .move (.tick (seconds 600)), Cue.event (.elapsed .playerPoll),
    Cue.event (.rconList (some nobodyOnline)), Cue.event .exclusive, Cue.tryWait .running,
    Cue.event (.rconList (some nobodyOnline))]

end McServerNap
