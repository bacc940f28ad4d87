import McServerNap.Coupling

/-!
# Time during supervision

On the timed platform synchronous code takes no time. Time passes only while the
supervisor waits and nothing it polls is ready, never beyond a deadline it polls, and
not while a process is terminated. The pace of a supervisor says which of its deadlines
is next. With it, the time that a stop still needs is bounded at every point.
-/

namespace McServerNap

open Interaction

/-- `process::terminate` waits for these. -/
def Source.kills : Source → Bool
  | .killTree | .kill => true
  | _ => false

/-- Polling the source lets time pass until an instant. -/
def Source.lasts (source : Source) (instant : Instant) : Bool :=
  match source with
  | .sleepUntil _ deadline => instant ≤ deadline
  | source => !source.kills

/-- Time may pass until an instant while the supervisor waits as it does. -/
def World.idles (world : World) (instant : Instant) : Option Op → Bool
  | some (.select sources) =>
    sources.all fun source => !world.ready source && source.lasts instant
  | _ => false

/-- The moves of a world in which nothing but waiting takes time. -/
def World.timedMove (world : World) (waiting : Option Op) (move : Move) : Option World :=
  match move with
  | .tick elapsed =>
    if world.idles (world.clock + elapsed) waiting then world.move (.tick elapsed) else none
  | move => world.move move

/-- The platform on which nothing but waiting takes time. `process::terminate` is awaited without
a deadline, so the tree kill and the kill of a process are taken to be over in the instant in
which they are asked for: a time of their own would not be bounded by the code. -/
def timed : Platform Op Reply where
  World := World
  Move := Move
  perform := World.perform
  disturb := World.timedMove

/-- The time between a process's termination and the end of waiting for it. -/
def reapingTimeout : Duration := seconds 5

/-- What lies between a supervisor and its next deadline. While it is free it polls the
shutdown channel in every wait, except for one poll of the players each time that has
become due. A stop first sends its command, then waits for the child, and then
terminates and reaps it. -/
inductive Pace where
  | free
  | pollDue
  | polling (deadline : Instant)
  | stopping
  | commanding (deadline : Instant)
  | graceful (deadline : Instant)
  | terminating
  | reaping (deadline : Instant)
  deriving DecidableEq, Repr

/-- The publications that begin a stop. -/
def Transition.stops : Transition → Bool
  | .setPhase phase => phase = .stopping
  | .beginFailureCleanup _ | .beginIdleStop _ => true
  | _ => false

/-- The branch for the next player poll. -/
def Source.polls : Source → Bool
  | .sleepUntil .playerPoll _ => true
  | _ => false

namespace Pace

/-- Which waits keep the pace. -/
def permits (pace : Pace) : Op → Prop
  | .select sources =>
    match pace with
    | free => sources.head? = some .shutdown
    | polling deadline | commanding deadline =>
      .sleepUntil .command deadline ∈ sources ∧ sources.any Source.polls = false
    | graceful deadline =>
      .sleepUntil .graceful deadline ∈ sources ∧ sources.any Source.polls = false
    | reaping deadline => .sleepUntil .reap deadline ∈ sources ∧ sources.any Source.polls = false
    | terminating => sources.any Source.kills = true ∧ sources.any Source.polls = false
    | pollDue | stopping => False
  | .publish _ _ =>
    match pace with
    | pollDue | polling _ => False
    | _ => True
  | _ => True

/-- Deadlines are counted from the readings of the clock. -/
def after (config : SupervisorConfig) (pace : Pace) : (op : Op) → Reply op → Pace
  | .now, reading =>
    match pace with
    | pollDue => polling (reading + config.commandTimeout)
    | stopping => commanding (reading + config.commandTimeout)
    | commanding _ => graceful (reading + config.shutdownTimeout)
    | terminating => reaping (reading + reapingTimeout)
    | pace => pace
  | .tryWait, _ =>
    match pace with
    | commanding _ | graceful _ => terminating
    | pace => pace
  | .select sources, event =>
    match pace with
    | free => if sources.any Source.polls && event = .elapsed .playerPoll then pollDue else free
    | polling _ => free
    | pace => pace
  | .publish transition _, _ => if transition.stops then stopping else free
  | _, _ => pace

/-- A player poll is due or in progress. -/
def polls : Pace → Bool
  | pollDue | polling _ => true
  | _ => false

/-- A stop is under way. -/
def stops : Pace → Bool
  | stopping | commanding _ | graceful _ | terminating | reaping _ => true
  | free | pollDue | polling _ => false

end Pace

/-- The monitor of a supervisor's pace. -/
abbrev tempo (config : SupervisorConfig) : Monitor Op Reply where
  State := Pace
  permits := Pace.permits
  answers := fun _ _ _ => True
  after := Pace.after config

namespace Stage

/-- The child is being stopped. -/
def stops : Stage → Bool
  | stopping _ _ => true
  | _ => false

/-- Nothing is left to be done. -/
def closed : Stage → Bool
  | closing => true
  | _ => false

/-- The supervisor returns when this is over. -/
def last : Stage → Bool
  | stopping .quit _ | closing => true
  | _ => false

/-- A closed stage leads nowhere but to the end. -/
theorem last_of_closed {stage : Stage} (closed : stage.closed = true) : stage.last = true := by
  cases stage <;> first | rfl | cases closed

/-- A stage that stops a server is not closed. -/
theorem unclosed_of_stops {stage : Stage} (stops : stage.stops = true) : stage.closed = false := by
  cases stage <;> first | rfl | cases stops

end Stage

/-- The time a whole stop can take. -/
def stopLimit (config : SupervisorConfig) : Duration :=
  config.commandTimeout + config.shutdownTimeout + reapingTimeout

namespace Stance

/-- The supervisor will not serve another demand. -/
def final (stance : Stance) : Bool := stance.ending || stance.stage.last

end Stance

/-- By when a supervisor has returned that finds a shutdown at its next chance, as seen
from an instant. A stop in progress goes on; another one may have to follow otherwise. -/
def Pace.due (config : SupervisorConfig) (pace : Pace) (final closed : Bool)
    (instant : Instant) : Instant :=
  match pace with
  | pollDue => instant + config.commandTimeout + stopLimit config
  | polling deadline => deadline + stopLimit config
  | pace =>
    if final then
      match pace with
      | commanding deadline => deadline + config.shutdownTimeout + reapingTimeout
      | graceful deadline => deadline + reapingTimeout
      | reaping deadline => deadline
      | terminating => instant + reapingTimeout
      | _ => if closed then instant else instant + stopLimit config
    else instant + stopLimit config

/-- The deadlines lie ahead, and no further than their durations. -/
def Pace.ahead (config : SupervisorConfig) (pace : Pace) (instant : Instant) : Prop :=
  match pace with
  | free | pollDue | stopping | terminating => True
  | polling deadline | commanding deadline =>
    instant ≤ deadline ∧ deadline ≤ instant + config.commandTimeout
  | graceful deadline => instant ≤ deadline ∧ deadline ≤ instant + config.shutdownTimeout
  | reaping deadline => instant ≤ deadline ∧ deadline ≤ instant + reapingTimeout

namespace Pace

variable {config : SupervisorConfig} {pace : Pace} {instant : Instant}

/-- Nothing is due before the present. -/
theorem ahead.le_due (ahead : pace.ahead config instant) (final closed : Bool) :
    instant ≤ pace.due config final closed instant := by
  cases pace <;> cases final <;> cases closed <;> grind [Pace.ahead, Pace.due]

/-- At any instant the time still needed is within the limit. -/
theorem ahead.due_le (ahead : pace.ahead config instant) (final closed : Bool) :
    pace.due config final closed instant ≤
      instant + (if pace.polls then config.commandTimeout else 0) + stopLimit config := by
  cases pace <;> cases final <;> cases closed <;>
    grind [Pace.ahead, Pace.due, Pace.polls, stopLimit]

/-- Knowing of a shutdown delays nothing. -/
theorem ahead.due_final (ahead : pace.ahead config instant) (closed : Bool) :
    pace.due config true closed instant ≤ pace.due config false closed instant := by
  cases pace <;> cases closed <;> grind [Pace.ahead, Pace.due, stopLimit]

/-- Only publications begin or end a stop. -/
theorem after_stops (config : SupervisorConfig) (pace : Pace) {op : Op} (reply : Reply op)
    (unpublished : ∀ transition next, op ≠ .publish transition next) :
    (pace.after config op reply).stops = pace.stops := by
  cases op with
  | publish transition next => exact absurd rfl (unpublished transition next)
  | select sources =>
    cases pace with
    | free =>
      simp only [Pace.after]
      split <;> rfl
    | _ => rfl
  | now | tryWait => cases pace <;> rfl
  | _ => rfl

/-- A new deadline lies one duration ahead: it is computed from a reading of the clock, and no
operation moves the clock while it is performed. -/
theorem ahead.issued {world after : World} {op : Op} {reply : Reply op}
    (ahead : pace.ahead config world.clock) (permitted : pace.permits op)
    (performed : world.perform op reply = some after) :
    (pace.after config op reply).ahead config after.clock := by
  rw [(World.framed performed).clock]
  cases op with
  | now =>
    obtain rfl : reply = world.clock := by
      simp only [World.perform] at performed
      split at performed
      · assumption
      · cases performed
    cases pace <;> grind [Pace.ahead, Pace.after]
  | tryWait => cases pace <;> first | exact ahead | trivial
  | select sources =>
    cases pace with
    | free =>
      simp only [Pace.after]
      split <;> trivial
    | polling => trivial
    | _ => exact ahead
  | publish transition next =>
    simp only [Pace.after]
    split <;> trivial
  | _ => exact ahead

/-- Deadlines are polled, so time stops at them. A wait that the pace permits has the branch of
its deadline, and time does not pass it by as long as the wait idles. -/
theorem ahead.ticked {world : World} {waiting : Option Op} {elapsed : Duration}
    (ahead : pace.ahead config world.clock)
    (permitted : ∀ op, waiting = some op → pace.permits op)
    (idles : world.idles (world.clock + elapsed) waiting = true) :
    pace.ahead config (world.clock + elapsed) := by
  cases waiting with
  | none => cases idles
  | some op =>
    cases op with
    | select sources =>
      have lasts := List.all_eq_true.mp idles
      have keeps := permitted _ rfl
      cases pace with
      | polling deadline | commanding deadline | graceful deadline | reaping deadline =>
        have reached := lasts _ keeps.1
        simp only [Source.lasts, Bool.and_eq_true, decide_eq_true_eq] at reached
        grind [Pace.ahead]
      | pollDue => exact ahead
      | _ => trivial
    | _ => cases idles

end Pace

namespace Stance

/-- Publications and stages agree on what begins a stop: the same transitions lead into a stopping
stage and begin a stop in the pace. -/
theorem published_stops {stance : Stance} {transition : Transition}
    (legal : stance.legal transition = true) (next : LifecycleState) :
    (stance.published next transition).stops = transition.stops := by
  obtain ⟨stage, lifecycle, child, held, offer, ending⟩ := stance
  cases transition with
  | publishStoppedAfterCleanReconciliation =>
    simp only [published]
    split <;> rfl
  | setPhase phase =>
    cases stage with
    | owned => simp_all [Stance.legal, published, Stage.stops, Transition.stops]
    | stopping cause latched =>
      cases cause <;> cases ending <;> cases latched <;>
        simp_all [Stance.legal, published, Stage.stops, Transition.stops]
    | cooling latched =>
      cases ending <;> simp_all [Stance.legal, published, Stage.stops, Transition.stops]
    | parked => simp_all [Stance.legal, published, Stage.stops, Transition.stops]
    | _ => cases legal
  | _ => rfl

/-- A stop begins where a child is owned: the stages of a supervisor without one call for no
transition that stops. -/
theorem owned_of_stops {stance : Stance} {transition : Transition}
    (legal : stance.legal transition = true) (begins : transition.stops = true) :
    stance.stage = .owned := by
  obtain ⟨stage, lifecycle, child, held, offer, ending⟩ := stance
  cases transition with
  | setPhase phase =>
    cases stage with
    | owned => rfl
    | stopping cause latched => cases cause <;> simp_all [Stance.legal, Transition.stops]
    | _ => simp_all [Stance.legal, Transition.stops]
  | beginFailureCleanup | beginIdleStop => simp_all [Stance.legal]
  | _ => cases begins

/-- A final stop ends the supervision: what is published after it closes the stage, in each of the
causes that a stop can have. -/
theorem closing_of_final {stance : Stance} {transition : Transition}
    (legal : stance.legal transition = true) (final : stance.final = true)
    (stops : stance.stage.stops = true) (next : LifecycleState) :
    (stance.published next transition).closed = true := by
  obtain ⟨stage, lifecycle, child, held, offer, ending⟩ := stance
  cases stage with
  | stopping cause latched =>
    cases transition with
    | setPhase phase =>
      cases cause <;> simp_all [Stance.legal, published, Stance.final, Stage.last, Stage.closed]
    | finishFailureCleanup retryDelay =>
      cases cause <;> simp_all [Stance.legal, Stance.final, Stage.last]
    | _ => simp [Stance.legal] at legal
  | _ => cases stops

/-- Nothing is published once nothing is left to be done. -/
theorem unclosed_of_legal {stance : Stance} {transition : Transition}
    (legal : stance.legal transition = true) : stance.stage.closed = false := by
  obtain ⟨stage, lifecycle, child, held, offer, ending⟩ := stance
  cases stage with
  | closing => cases transition <;> simp [Stance.legal] at legal
  | _ => rfl

/-- Only publications change whether a stop is under way or was the last one. What is latched,
opened or probed in between is no part of that. -/
theorem after_stops (rcon : Bool) {stance : Stance} {op : Op} (reply : Reply op)
    (permitted : stance.permits op)
    (unpublished : ∀ transition next, op ≠ .publish transition next) :
    (stance.after rcon op reply).stage.stops = stance.stage.stops ∧
      (stance.after rcon op reply).stage.last = stance.stage.last ∧
      (stance.after rcon op reply).stage.closed = stance.stage.closed := by
  rcases after_stage rcon stance op reply unpublished with
    same | latched | opened | cleared | ⟨classification, probed⟩ | ⟨rfl, success, attempted⟩
  · simp [same]
  · rw [latched]
    cases stance.stage with
    | stopping cause latched => cases cause <;> simp [Stage.latch, Stage.stops, Stage.last, Stage.closed]
    | _ => simp [Stage.latch, Stage.stops, Stage.last, Stage.closed]
  · rw [opened]
    cases stance.stage <;> simp [Stage.opened, Stage.stops, Stage.last, Stage.closed]
  · rw [cleared]
    cases stance.stage <;> simp [Stage.cleared, Stage.stops, Stage.last, Stage.closed]
  · rw [probed]
    cases stance.stage <;> simp [Stage.probed, Stage.stops, Stage.last, Stage.closed]
  · rw [attempted, permitted.2.1]
    cases success <;> simp [Stage.attempted, Stage.stops, Stage.last, Stage.closed]

end Stance

/-- The pace fits the stance and the clock. -/
structure Paced (config : SupervisorConfig) (stance : Stance) (pace : Pace) (world : World) :
    Prop where
  ahead : pace.ahead config world.clock
  stops : stance.stage.stops = pace.stops

/-- Every operation keeps the pace fitting: a deadline that is computed lies ahead of the clock,
and no time passes between two waits. -/
theorem Paced.issued {config : SupervisorConfig} {stance : Stance} {pace : Pace}
    {world after : World} {op : Op} {reply : Reply op} (paced : Paced config stance pace world)
    (permitted : stance.permits op) (keeps : pace.permits op)
    (performed : world.perform op reply = some after) :
    Paced config (stance.after config.rcon op reply) (pace.after config op reply) after := by
  refine ⟨paced.ahead.issued keeps performed, ?_⟩
  by_cases publishes : ∃ transition next, op = .publish transition next
  · obtain ⟨transition, next, rfl⟩ := publishes
    have begins := Stance.published_stops permitted.2.1 next
    simp only [Stance.after, begins, Pace.after]
    cases transition.stops <;> rfl
  · have unpublished : ∀ transition next, op ≠ .publish transition next :=
      fun transition next same => publishes ⟨transition, next, same⟩
    rw [(Stance.after_stops config.rcon reply permitted unpublished).1,
      Pace.after_stops config pace reply unpublished]
    exact paced.stops

/-- Moves of the timed platform are moves of the untimed one. -/
theorem World.timedMove_move {world after : World} {waiting : Option Op} {move : Move}
    (moved : world.timedMove waiting move = some after) : world.move move = some after := by
  cases move with
  | tick elapsed =>
    simp only [World.timedMove] at moved
    split at moved
    · exact moved
    · cases moved
  | _ => exact moved

/-- Only ticks move the clock, and the timed platform checks them: none goes past an instant at
which the wait of the supervisor would have been ready. -/
theorem World.clock_timedMove {world after : World} {waiting : Option Op} {move : Move}
    (moved : world.timedMove waiting move = some after) :
    (∃ elapsed, move = .tick elapsed ∧ world.idles (world.clock + elapsed) waiting = true ∧
      after = { world with clock := world.clock + elapsed }) ∨ after.clock = world.clock := by
  cases move with
  | tick elapsed =>
    simp only [World.timedMove] at moved
    split at moved
    · rename_i idles
      exact .inl ⟨elapsed, rfl, idles, (Option.some.inj moved).symm⟩
    · cases moved
  | client index step =>
    obtain ⟨task, later, stepped, -, step, rfl⟩ := World.move_client moved
    obtain ⟨slot, activity, changed, rfl⟩ := World.clientStep_frame step
    exact .inr rfl
  | sendShutdown | dropShutdown =>
    simp only [World.timedMove, World.move] at moved
    split at moved <;> cases moved
    exact .inr rfl
  | closeWakes | accept =>
    cases moved
    exact .inr rfl

/-- Time passes only while every branch waited for lasts, so no deadline of the pace is passed. -/
theorem Paced.moved {config : SupervisorConfig} {stance : Stance} {pace : Pace}
    {world after : World} {waiting : Option Op} {move : Move}
    (paced : Paced config stance pace world)
    (keeps : ∀ op, waiting = some op → pace.permits op)
    (moved : world.timedMove waiting move = some after) : Paced config stance pace after := by
  refine ⟨?_, paced.stops⟩
  rcases World.clock_timedMove moved with ⟨elapsed, -, idles, rfl⟩ | same
  · exact paced.ahead.ticked keeps idles
  · exact same ▸ paced.ahead

/-- Conduct and pace together agree with the world. -/
def clocked (config : SupervisorConfig) :
    Coupling timed ((conduct config.rcon).both (tempo config)) where
  relates := fun states (world : World) =>
    (coupled config.rcon).relates states.1 world ∧ Paced config states.1 states.2 world
  answered := fun related permitted performed =>
    ⟨(coupled config.rcon).answered related.1 permitted.1 performed, trivial⟩
  issued := fun related permitted performed =>
    ⟨(coupled config.rcon).issued related.1 permitted.1 performed,
      related.2.issued permitted.1 permitted.2 performed⟩
  moved := fun related permitted disturbed =>
    ⟨(coupled config.rcon).moved related.1 (fun op waits => (permitted op waits).1)
        (World.timedMove_move disturbed),
      related.2.moved (fun op waits => (permitted op waits).2) disturbed⟩

end McServerNap
