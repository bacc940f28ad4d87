import McServerNap.Record
import McServerNap.Pace

/-!
# How an owned child is treated

A child is stopped in an order of steps: a stop command over RCON or its console, the
wait for a child that took the command, the end of its process tree, and the end of the
process alone where the tree could not be ended. The treatment of a child follows these
steps, whether it has been found ready, and whether the operating system has failed to
wait for it or to end it. It refers to nothing but the supervisor's own operations.
-/

namespace McServerNap

open Interaction

/-- How far the stop of a child has come. `refused` follows an RCON server that did not
take the command, `unsent` a command that nobody took. A child that took it is given a
deadline, and `expired` says that its wait is over. -/
inductive StopProgress where
  | idle
  | begun
  | commanding
  | refused
  | unsent
  | sent
  | waiting (deadline : Instant)
  | expired
  | forcing
  | spared
  deriving DecidableEq, Repr

/-- What was done with the child that was launched last, and what became of it. `failed`
is for the whole run: the operating system did not wait for a child, or did not end it. -/
structure Treatment where
  child : ChildState
  ready : Bool
  progress : StopProgress
  failed : Bool
  deriving DecidableEq, Repr

/-- The event of a `select!` shows that a child could not be waited for or ended. -/
def Event.failsChild : Event → Bool
  | .child .failed | .killTree .unavailable | .killTree .failed | .elapsed .reap => true
  | _ => false

/-- A child could not be queried, waited for or ended. -/
def Happening.failsChild : Happening → Bool
  | .issued .tryWait .failed => true
  | .issued (.select _) event => event.failsChild
  | _ => false

namespace StopProgress

/-- The progress after an event of a `select!`. A child that cannot be waited for is not
waited for any longer. -/
def observed (progress : StopProgress) : Event → StopProgress
  | .rconStop true | .consoleStop true => sent
  | .rconStop false => refused
  | .consoleStop false => unsent
  | .elapsed .command =>
    match progress with
    | commanding | refused => unsent
    | progress => progress
  | .elapsed .graceful => expired
  | .child .failed =>
    match progress with
    | waiting _ => expired
    | progress => progress
  | .killTree .failed => spared
  | .killTree _ => forcing
  | _ => progress

end StopProgress

namespace Treatment

/-- Before the first launch. -/
def initial : Treatment where
  child := .absent
  ready := false
  progress := .idle
  failed := false

/-- The child is alive, no stop has begun, and nothing has failed. -/
structure Tended (treatment : Treatment) : Prop where
  live : treatment.child = .live
  idle : treatment.progress = .idle
  sane : treatment.failed = false

/-- When a branch may be waited on. Commands and signals are for a child that is alive,
each in its place. -/
def admits (treatment : Treatment) : Source → Prop
  | .rconStop => treatment.child = .live ∧ treatment.progress = .commanding
  | .consoleStop =>
    treatment.child = .live ∧ (treatment.progress = .commanding ∨ treatment.progress = .refused)
  | .killTree =>
    treatment.child = .live ∧ (treatment.progress = .unsent ∨ treatment.progress = .expired)
  | .kill => treatment.child = .live ∧ treatment.progress = .spared
  | .sleepUntil .graceful deadline => treatment.progress = .waiting deadline
  | _ => True

/-- A server is published as running once it was found ready, and a run succeeds exactly
when no child has failed it. -/
def permits (treatment : Treatment) : Op → Prop
  | .select sources => ∀ source ∈ sources, treatment.admits source
  | .publish transition _ =>
    (transition = .publishRunning → treatment.ready = true ∧ treatment.child = .live) ∧
      (transition.stops = true → treatment.child = .live)
  | .launch => treatment.failed = false
  | .exit result => result = .ok () ↔ treatment.failed = false
  | _ => True

/-- What the operations and their replies make of a treatment. A readiness lasts until
the next wait. -/
def after (config : SupervisorConfig) (treatment : Treatment) : (op : Op) → Reply op → Treatment
  | .publish transition _, _ =>
    { treatment with ready := false, progress := if transition.stops then .begun else .idle }
  | .launch, success =>
    { treatment with
      child := if success then .live else treatment.child
      ready := false }
  | .now, reading =>
    { treatment with
      progress :=
        match treatment.progress with
        | .begun => .commanding
        | .sent => .waiting (reading + config.shutdownTimeout)
        | progress => progress }
  | .tryWait, outcome =>
    { treatment with
      child := if outcome = TryWaitResult.exited then .reaped else treatment.child
      failed := treatment.failed || outcome = TryWaitResult.failed }
  | .select _, event =>
    { child := if event = .child .exited ∨ event = .kill true then .reaped else treatment.child
      ready := event = .connect true
      progress := treatment.progress.observed event
      failed := treatment.failed || event.failsChild }
  | _, _ => treatment

/-- A `select!` returns what one of its branches offers. -/
def answers (_ : Treatment) : (op : Op) → Reply op → Prop
  | .select sources, event => ∃ source ∈ sources, source.offers event = true
  | _, _ => True

/-- Failures are kept, and nothing else counts as one. -/
theorem after_failed (config : SupervisorConfig) (treatment : Treatment) (op : Op)
    (reply : Reply op) :
    (treatment.after config op reply).failed =
      (treatment.failed || Happening.failsChild (.issued op reply)) := by
  cases op with
  | tryWait => cases reply <;> simp [Treatment.after, Happening.failsChild]
  | select sources => rfl
  | _ => simp [Treatment.after, Happening.failsChild]

end Treatment

/-- The monitor of a child's treatment. -/
abbrev treating (config : SupervisorConfig) : Monitor Op Reply where
  State := Treatment
  permits := Treatment.permits
  answers := Treatment.answers
  after := Treatment.after config

end McServerNap
