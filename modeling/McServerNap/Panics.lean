import McServerNap.Rehearsal
import McServerNap.Record

/-!
# The supervisor does not panic

Every `assert!`, `expect` and `unreachable!` of the supervisor is an operation that the
conduct never permits. A oneshot receiver panics as well when it is polled after it has
completed or was emptied. A supervisor that took the signal knows that it is to end, and
one that knows does not listen any more.
-/

namespace McServerNap

open Interaction

/-- A channel that was emptied belongs to a supervisor that is to end. -/
def Spent (stance : Stance) (world : World) : Prop :=
  world.shutdown = .taken → stance.ending = true

/-- Once a channel was emptied the supervisor is to end, whatever it does until then. -/
theorem Spent.issued {stance : Stance} {world after : World} {op : Op} {reply : Reply op}
    (spent : Spent stance world) (rcon : Bool)
    (performed : world.perform op reply = some after) :
    Spent (stance.after rcon op reply) after := by
  intro taken
  rw [Stance.after_ending]
  apply Bool.or_eq_true_iff.mpr
  rcases World.shutdown_performed performed with same | observed
  · exact .inr (spent (same ▸ taken))
  · exact .inl observed

/-- The runtime sends or drops the signal; it does not take it. A signal that was taken stays so,
whatever the clients do. -/
theorem Spent.moved {stance : Stance} {world after : World} {move : Move}
    (spent : Spent stance world) (moved : world.move move = some after) :
    Spent stance after := by
  cases move with
  | client index step =>
    obtain ⟨task, later, stepped, -, step, rfl⟩ := World.move_client moved
    obtain ⟨slot, activity, changed, rfl⟩ := World.clientStep_frame step
    exact spent
  | sendShutdown | dropShutdown =>
    simp only [World.move] at moved
    split at moved <;> cases moved
    intro same
    cases same
  | tick | closeWakes | accept =>
    cases moved
    exact spent

/-- In no run does an assertion of the supervisor fail, and the shutdown channel is never
polled again once it has completed or was emptied. -/
theorem run_never_panics {config : SupervisorConfig} {start : Instant}
    {history : History platform} {program : Supervised Unit} {world : World}
    (reached : Reaches platform (run config) (World.initial start) history program world) :
    program.pending ≠ some .panic ∧
      ∀ sources, program.pending = some (.select sources) → .shutdown ∈ sources →
        world.shutdown ≠ .taken := by
  obtain ⟨stance, watched, remaining⟩ := run_follows reached
  have spent : Spent stance world :=
    watched.always (coupled config.rcon) (initial_coupled config.rcon start)
      (fun _ => Spent) nofun
      (fun spent _ _ performed => spent.issued config.rcon performed)
      (fun spent _ _ disturbed => spent.moved disturbed)
  constructor
  · intro panics
    exact remaining.pending_permitted _ panics
  · intro sources waits listed taken
    have permitted := remaining.pending_permitted _ waits
    have allowed := permitted.2.2.2.1 _ listed
    simp [Stance.allows, spent taken] at allowed

/-- The signal was taken by the monitor of a running server, which is being stopped. -/
def signalledRun : Configuration platform Unit :=
  rehearsal (exampleConfig true) (untilReady ++
    [Cue.event (.elapsed .playerPoll), Cue.event (.rconConnect true), .move .sendShutdown,
      Cue.event .shutdown])

/-- The signalled run is one that the supervisor can really take. -/
theorem signalledRun_reached :
    signalledRun.Continues (run (exampleConfig true)) (World.initial 0) :=
  rehearsal_reached _ _

/-- After its signal was taken the run goes on with a stop, which does not look for the signal
again. -/
theorem stop_does_not_poll_taken_signal :
    signalledRun.world.shutdown = .taken ∧ signalledRun.program.pending ≠ some .panic ∧
      ∀ sources, signalledRun.program.pending = some (.select sources) → .shutdown ∉ sources := by
  have taken : signalledRun.world.shutdown = .taken := by decide +kernel
  obtain ⟨unpanicked, unpolled⟩ := run_never_panics signalledRun_reached
  exact ⟨taken, unpanicked, fun sources waits listed => unpolled sources waits listed taken⟩

end McServerNap
