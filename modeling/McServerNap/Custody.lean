import McServerNap.Coordinator
import McServerNap.Interaction.Monitor

/-!
# The coordinator leaves nothing unaccounted

What the coordinator has seen of its watcher and of its runtimes says which failures it
must record itself: a monitoring task that panicked, a watcher that panicked, one that
stopped without reporting why, and one that returned without requesting the shutdown. It
records a failure only for one of these, and it finishes only when each is settled and all
runtimes were joined.
-/

namespace McServerNap.Coordinator

open Interaction CoordinatorState

/-- What the coordinator has seen and done. `received` is about infrastructure messages,
`panicked` about the monitoring tasks it joined, `failed` about its own failures,
`requested` is its first reading of the pending shutdown after the watcher's end, and
`taken` what it finishes with. -/
structure Custody where
  watcher : Option WatcherResult
  aborted : Bool
  received : Bool
  requested : Option Bool
  panicked : Bool
  failed : Bool
  emptied : Bool
  taken : Option FatalErrors

namespace Custody

/-- The coordinator before its first operation. -/
def initial : Custody where
  watcher := none
  aborted := false
  received := false
  requested := none
  panicked := false
  failed := false
  emptied := false
  taken := none

/-- The watcher's handle has yielded its result. -/
def see (custody : Custody) (result : WatcherResult) : Custody :=
  { custody with watcher := some result, requested := none }

/-- A monitoring task was joined. -/
def join (custody : Custody) (completed : Completed) : Custody :=
  { custody with panicked := custody.panicked || !completed.result.isOk }

/-- What the coordinator knows after an operation and its reply. -/
def after (custody : Custody) : (op : Op) → Reply op → Custody
  | .tryRecvFailure, .received => { custody with received := true }
  | .awaitWatcher, result => custody.see result
  | .abortWatcher, _ => { custody with aborted := true }
  | .tryJoinNext, some completed => custody.join completed
  | .runtimesEmpty, true => { custody with emptied := true }
  | .isPending, pending =>
    if custody.watcher.isSome && custody.requested.isNone then
      { custody with requested := some pending }
    else custody
  | .select _ _, .infrastructure (some ()) => { custody with received := true }
  | .select _ _, .watcher result => custody.see result
  | .select _ _, .runtime (some completed) => custody.join completed
  | .select _ _, .runtime none => { custody with emptied := true }
  | .fail _, _ => { custody with failed := true }
  | .takeFailures, failures => { custody with taken := some failures }
  | _, _ => custody

/-- A result of the watcher that is no failure, or one that the watcher has reported. -/
def Harmless (custody : Custody) : WatcherResult → Prop
  | .ok .shutdownRequested => custody.requested = some true
  | .ok .failureReported => custody.received = true
  | .error error => custody.aborted = true ∧ error.isCancelled = true

/-- The watcher's result needs no failure, or one was recorded. -/
def Settled (custody : Custody) : Prop :=
  ∃ result, custody.watcher = some result ∧ (custody.failed = true ∨ custody.Harmless result)

/-- A monitoring task's panic was recorded. -/
def Recorded (custody : Custody) : Prop := custody.panicked = true → custody.failed = true

/-- There is something that the coordinator must record itself. -/
def Justified (custody : Custody) : Prop :=
  custody.panicked = true ∨
    match custody.watcher with
    | none => False
    | some (.ok .shutdownRequested) => custody.requested = some false
    | some (.ok .failureReported) => True
    | some (.error error) => custody.aborted = false ∨ error.isCancelled = false

/-- When the coordinator may do something. It fails only for a reason, and takes the failures
once, after everything is settled. -/
def permits (custody : Custody) : Op → Prop
  | .fail _ => custody.Justified ∧ custody.taken = none
  | .spawnRuntime _ => custody.emptied = false
  | .awaitWatcher => custody.watcher = none
  | .abortWatcher => custody.watcher = none
  | .select _ watching => watching = true → custody.watcher = none
  | .takeFailures => custody.emptied = true ∧ custody.Recorded ∧ custody.Settled ∧
      custody.taken = none
  | _ => True

end Custody

/-- The monitor of what the coordinator has in custody. It assumes nothing of the replies. -/
abbrev custodial : Monitor Op Reply where
  State := Custody
  permits := Custody.permits
  answers _ _ _ := True
  after := Custody.after

/-- The coordinator's variables agree with what it has seen, and nothing is unaccounted. -/
structure Orderly (state : CoordinatorState) (custody : Custody) : Prop where
  known : state.watcherFailureReceived = true → custody.received = true
  observed : state.watcherObserved = custody.watcher.isSome
  settled : custody.watcher.isSome = true → custody.Settled
  recorded : custody.Recorded
  unaborted : custody.aborted = false
  untaken : custody.taken = none

section Conformance

variable {state : CoordinatorState} {contexts : Contexts} {custody : Custody} {α : Type}

/-- An operation leads on from its place. -/
theorem safe_then {op : Op} {next : Reply op → Coordinating α} {post : α → Custody → Prop}
    (permitted : custody.permits op)
    (replied : ∀ reply, Safe custodial (next reply) post (custody.after op reply)) :
    Safe custodial (access op >>= next) post custody :=
  ⟨permitted, fun reply _ => replied reply⟩

/-- An infrastructure message changes nothing else. -/
theorem Orderly.drained (orderly : Orderly state custody) {later : CoordinatorState}
    {received : Bool} (observed : later.watcherObserved = state.watcherObserved)
    (known : later.watcherFailureReceived = true → received = true)
    (kept : custody.received = true → received = true) :
    Orderly later { custody with received := received } where
  known := known
  observed := observed.trans orderly.observed
  settled seen := by
    obtain ⟨result, present, failed | harmless⟩ := orderly.settled seen
    · exact ⟨result, present, .inl failed⟩
    · refine ⟨result, present, .inr ?_⟩
      match result with
      | .ok .failureReported => exact kept harmless
      | .ok .shutdownRequested | .error _ => exact harmless
  recorded := orderly.recorded
  unaborted := orderly.unaborted
  untaken := orderly.untaken

/-- Another reading of the shutdown settles nothing and unsettles nothing. -/
theorem Orderly.read (orderly : Orderly state custody) (pending : Bool) :
    Orderly state (custody.after .isPending pending) := by
  simp only [Custody.after]
  split
  · rename_i unread
    simp only [Bool.and_eq_true, Option.isNone_iff_eq_none] at unread
    refine ⟨orderly.known, orderly.observed, fun seen => ?_, orderly.recorded, orderly.unaborted,
      orderly.untaken⟩
    obtain ⟨result, present, failed | harmless⟩ := orderly.settled seen
    · exact ⟨result, present, .inl failed⟩
    · refine ⟨result, present, .inr ?_⟩
      match result with
      | .ok .shutdownRequested => exact nomatch unread.2.symm.trans harmless
      | .ok .failureReported | .error _ => exact harmless
  · exact orderly

end Conformance

end McServerNap.Coordinator
