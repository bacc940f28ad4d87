import McServerNap.Conformance.Schedule
import McServerNap.Interaction.Attention
import McServerNap.Watchdog

/-!
# No limited phase outlasts its limit

A child that does not get ready is stopped at the end of the startup timeout, a stop is
over when all of its deadlines have passed, and a cooldown ends at its retry instant. The
published phase therefore says by when the next one is published, as long as synchronous
code takes no time.
-/

namespace McServerNap

open Interaction

variable {config : SupervisorConfig} {stance : Stance} {pace : Pace} {schedule : Schedule}
  {world after : World} {mark : Option Op}

/-- What a stop still needs. -/
abbrev Pace.ending (config : SupervisorConfig) (pace : Pace) (instant : Instant) : Instant :=
  pace.due config true false instant

/-- The schedule and the pace fit the published phase and the clock, as long as the
supervisor does not sleep. -/
structure Scheduled (config : SupervisorConfig) (pace : Pace) (schedule : Schedule)
    (world : World) (mark : Option Op) : Prop where
  still : (∀ sources, mark ≠ some (.select sources)) →
    ∀ reading, schedule.reading = some reading → world.clock = reading
  limit : schedule.limit = phaseLimit config world.lifecycle
  within : ∀ limit, schedule.limit = some limit → world.clock ≤ limit
  stops : world.lifecycle.phase = .stopping → pace.stops = true ∧
    pace.ending config world.clock ≤ world.lifecycle.phaseStartedAt + stopLimit config

/-- Only the publications that begin a stop publish phase Stopping. -/
theorem Stance.permits.stopping {transition : Transition} {next : LifecycleState}
    (permitted : stance.permits (.publish transition next)) (stopping : next.phase = .stopping) :
    transition.stops = true := by
  obtain ⟨-, -, admits, now, rfl⟩ := permitted
  cases transition with
  | setPhase phase => exact decide_eq_true stopping
  | resetFailureStreak => simp_all [Transition.admits, Transition.target]
  | _ => first | rfl | cases stopping

/-- The other publications lead to no limited phase: starting, stopping and cooldown are each
published by a transition that hurries. -/
theorem Stance.permits.unlimited {transition : Transition} {next : LifecycleState}
    (permitted : stance.permits (.publish transition next)) (slow : transition.hurries = false) :
    phaseLimit config next = none := by
  obtain ⟨-, legal, admits, now, rfl⟩ := permitted
  cases transition with
  | setPhase phase =>
    have stopped : phase = .stopped := by
      have other : phase ≠ .stopping := by simpa [Transition.hurries, Transition.stops] using slow
      obtain ⟨stage, lifecycle, child, held, offer, ending⟩ := stance
      cases stage with
      | owned => simp_all [Stance.legal]
      | stopping cause latched => cases cause <;> simp_all [Stance.legal]
      | cooling latched => simp_all [Stance.legal]
      | parked => simp_all [Stance.legal]
      | _ => cases legal
    subst stopped
    rfl
  | resetFailureStreak =>
    simp only [Transition.admits, Bool.and_eq_true, decide_eq_true_eq] at admits
    simp only [phaseLimit, Transition.target, admits.1]
  | recordLaunchSuccess | recordLaunchFailure | recordReapedFailure | finishFailureCleanup =>
    cases slow
  | _ => rfl

/-- A limit lies ahead of the instant its phase begins at, because it is that instant and a
duration. -/
theorem Stance.permits.ahead {transition : Transition} {next : LifecycleState} {limit : Instant}
    (permitted : stance.permits (.publish transition next)) (hurries : transition.hurries = true)
    (limited : phaseLimit config next = some limit) : next.phaseStartedAt ≤ limit := by
  obtain ⟨-, -, -, now, rfl⟩ := permitted
  cases transition with
  | setPhase phase =>
    obtain rfl : phase = .stopping := by simpa [Transition.hurries, Transition.stops] using hurries
    cases limited
  | beginFailureCleanup | beginIdleStop => cases limited
  | recordLaunchSuccess | recordLaunchFailure | recordReapedFailure | finishFailureCleanup =>
    obtain rfl := Option.some.inj limited
    exact Nat.le_add_right _ _
  | _ => cases hurries

/-- What the attentive platform answers was not put off by a sleep, unless it is a wait. -/
theorem Scheduled.reads {op : Op} {reading : Instant}
    (scheduled : Scheduled config pace schedule world mark)
    (expected : mark = none ∨ mark = some op) (wakeful : ∀ sources, op ≠ .select sources)
    (same : schedule.reading = some reading) : world.clock = reading := by
  refine scheduled.still (fun sources asleep => ?_) reading same
  rcases expected with rfl | rfl
  · cases asleep
  · exact wakeful sources (Option.some.inj asleep)

/-- A publication starts the schedule of the phase it publishes: what hurries was read just before,
so its deadline lies ahead, and what does not hurry is published without one. -/
theorem Scheduled.published {transition : Transition} {next : LifecycleState}
    (scheduled : Scheduled config pace schedule world mark)
    (permitted : stance.permits (.publish transition next))
    (keeps : schedule.permits (.publish transition next))
    (expected : mark = none ∨ mark = some (.publish transition next))
    (performed : world.perform (.publish transition next) () = some after) :
    Scheduled config (pace.after config (.publish transition next) ())
      (schedule.after config (.publish transition next) ()) after none := by
  cases performed
  have begun (hurries : transition.hurries = true) : world.clock = next.phaseStartedAt :=
    scheduled.reads expected (by simp) (keeps hurries)
  refine ⟨fun _ reading same => scheduled.reads expected (by simp) same, ?_, ?_, ?_⟩
  · simp only [Schedule.after]
    split
    · rfl
    · rename_i slow
      exact (permitted.unlimited (by simpa using slow)).symm
  · intro limit limited
    simp only [Schedule.after] at limited
    split at limited
    · rename_i hurries
      rw [begun hurries]
      exact permitted.ahead hurries limited
    · cases limited
  · intro stopping
    have stops : transition.stops = true := permitted.stopping stopping
    have hurries : transition.hurries = true := by
      cases transition <;> first | exact stops | rfl
    simp only [Pace.after, stops, if_true]
    exact ⟨rfl, Nat.le_of_eq (congrArg (· + stopLimit config) (begun hurries))⟩

/-- Between publications the published phase keeps its limit, and the deadlines of a stop only
come closer. -/
theorem Scheduled.unpublished {op : Op} {reply : Reply op}
    (scheduled : Scheduled config pace schedule world mark) (paced : Paced config stance pace world)
    (expected : mark = none ∨ mark = some op) (performed : world.perform op reply = some after)
    (unpublished : ∀ transition next, op ≠ .publish transition next) :
    Scheduled config (pace.after config op reply) (schedule.after config op reply) after none := by
  have clock := (World.framed performed).clock
  have lifecycle : after.lifecycle = world.lifecycle :=
    World.lifecycle_performed performed unpublished
  have limit : (schedule.after config op reply).limit = schedule.limit := by
    cases op with
    | publish transition next => exact absurd rfl (unpublished transition next)
    | _ => rfl
  refine ⟨?_, ?_, ?_, ?_⟩
  · intro _ reading same
    rw [clock]
    cases op with
    | publish transition next => exact absurd rfl (unpublished transition next)
    | select sources => cases same
    | now =>
      obtain rfl : reply = reading := Option.some.inj same
      simp only [World.perform] at performed
      split at performed
      · rename_i reads
        exact reads.symm
      · cases performed
    | _ => exact scheduled.reads expected (by simp) same
  · rw [limit, lifecycle]
    exact scheduled.limit
  · intro instant limited
    rw [clock]
    exact scheduled.within instant (limit.symm.trans limited)
  · intro stopping
    rw [lifecycle] at stopping
    obtain ⟨stops, ends⟩ := scheduled.stops stopping
    rw [clock, lifecycle]
    refine ⟨(Pace.after_stops config pace reply unpublished).trans stops, ?_⟩
    refine Nat.le_trans (paced.ahead.due_after true performed unpublished (by simp) ?_) ends
    rintro rfl
    cases stops

/-- Whatever the supervisor does keeps the schedule. -/
theorem Scheduled.issued {op : Op} {reply : Reply op}
    (scheduled : Scheduled config pace schedule world mark)
    (paced : Paced config stance pace world) (permitted : stance.permits op)
    (keeps : schedule.permits op) (expected : mark = none ∨ mark = some op)
    (performed : world.perform op reply = some after) :
    Scheduled config (pace.after config op reply) (schedule.after config op reply) after none := by
  by_cases publishes : ∃ transition next, op = .publish transition next
  · obtain ⟨transition, next, rfl⟩ := publishes
    exact scheduled.published permitted keeps expected performed
  · exact scheduled.unpublished paced expected performed fun transition next same =>
      publishes ⟨transition, next, same⟩

/-- Time passes towards the deadlines of a stop: while a wait idles the end that is still to be
expected does not move, because a pending deadline is already part of it. -/
theorem Pace.ending_idles {waiting : Option Op} {instant : Instant} (stops : pace.stops = true)
    (keeps : ∀ op, waiting = some op → pace.permits op)
    (idles : world.idles instant waiting = true) :
    pace.ending config instant = pace.ending config world.clock := by
  cases waiting with
  | none => cases idles
  | some op =>
    cases op with
    | select sources =>
      have waits := keeps _ rfl
      cases pace with
      | free | pollDue | polling => cases stops
      | stopping => cases waits
      | terminating =>
        obtain ⟨source, listed, kills⟩ := List.any_eq_true.mp waits.1
        have lasts := List.all_eq_true.mp idles source listed
        cases source <;> simp_all [Source.kills, Source.lasts]
      | _ => simp only [Pace.ending, Pace.due, if_true]
    | _ => cases idles

/-- Time passes only in a wait, and only up to the limit of the phase. A tick is bounded by the
branch with the earliest deadline; every other move leaves the clock alone. -/
theorem Scheduled.moved {waiting : Option Op} {move : Move}
    (scheduled : Scheduled config pace schedule world mark)
    (waits : ∀ op, waiting = some op → pace.permits op ∧ schedule.permits op)
    (expected : mark = none ∨ mark = waiting)
    (moved : world.timedMove waiting move = some after) :
    Scheduled config pace schedule after waiting := by
  have seen := world.stance_agrees.moved (World.timedMove_move moved)
  have lifecycle : after.lifecycle = world.lifecycle := seen.1.symm
  rcases World.clock_timedMove moved with ⟨elapsed, -, idles, rfl⟩ | same
  · refine ⟨fun awake => ?_, scheduled.limit, ?_, ?_⟩
    · cases waiting with
      | none => cases idles
      | some op =>
        cases op with
        | select sources => exact absurd rfl (awake sources)
        | _ => cases idles
    · intro limit limited
      cases waiting with
      | none => cases idles
      | some op =>
        cases op with
        | select sources =>
          obtain ⟨timer, deadline, listed, within⟩ := (waits _ rfl).2 limit limited
          have lasts := List.all_eq_true.mp idles _ listed
          simp only [Source.lasts, Bool.and_eq_true, decide_eq_true_eq] at lasts
          exact Nat.le_trans lasts.2 within
        | _ => cases idles
    · intro stopping
      obtain ⟨stops, ends⟩ := scheduled.stops stopping
      rw [show pace.ending config _ = _ from
        Pace.ending_idles stops (fun op same => (waits op same).1) idles]
      exact ⟨stops, ends⟩
  · refine ⟨fun awake reading read => ?_, ?_, ?_, ?_⟩
    · rw [same]
      refine scheduled.still (fun sources asleep => ?_) reading read
      rcases expected with rfl | rfl
      · cases asleep
      · exact awake sources asleep
    · rw [lifecycle]
      exact scheduled.limit
    · rw [same]
      exact scheduled.within
    · rw [same, lifecycle]
      exact scheduled.stops

/-- Conduct, pace and schedule together agree with the world. -/
def timetable (config : SupervisorConfig) :
    Coupling timed.attentive (((conduct config.rcon).both (tempo config)).both
      (scheduling config)) where
  relates := fun states (marked : World × Option Op) =>
    (clocked config).relates states.1 marked.1 ∧
      Scheduled config states.1.2 states.2 marked.1 marked.2
  answered := by
    rintro ⟨states, schedule⟩ ⟨world, mark⟩ op reply marked ⟨related, scheduled⟩ permitted performed
    obtain ⟨expected, after, performed, -⟩ := Platform.attentive_performed performed
    refine ⟨(clocked config).answered related permitted.1 performed, ?_⟩
    cases op with
    | now =>
      intro reading same
      have read := scheduled.reads expected (by simp) same
      simp only [timed, World.perform] at performed
      split at performed
      · rename_i current
        exact current.trans read
      · cases performed
    | currentLifecycle =>
      simp only [timed, World.perform] at performed
      split at performed
      · rename_i current
        rw [current]
        exact scheduled.limit
      · cases performed
    | _ => trivial
  issued := by
    rintro ⟨states, schedule⟩ ⟨world, mark⟩ op reply marked ⟨related, scheduled⟩ permitted performed
    obtain ⟨expected, after, answered, rfl⟩ := Platform.attentive_performed performed
    exact ⟨(clocked config).issued related permitted.1 answered,
      scheduled.issued related.2 permitted.1.1 permitted.2 expected answered⟩
  moved := by
    rintro ⟨states, schedule⟩ ⟨world, mark⟩ waiting move marked ⟨related, scheduled⟩ waits disturbed
    obtain ⟨expected, after, moved, rfl⟩ := Platform.attentive_disturbed disturbed
    refine ⟨(clocked config).moved related (fun op same => (waits op same).1) moved, ?_⟩
    refine scheduled.moved (fun op same => ?_) expected moved
    exact ⟨(waits op same).1.2, (waits op same).2⟩

variable {start : Instant} {history : History timed} {program : Supervised Unit}

/-- A fresh runtime has no deadline to meet. -/
theorem initial_timetable (config : SupervisorConfig) (start : Instant) :
    (timetable config).relates ((Stance.initial (.reconciling start), Pace.free), Schedule.initial)
      (World.initial start, none) :=
  ⟨⟨initial_coupled config.rcon start, trivial, rfl⟩, nofun, rfl, nofun, nofun⟩

/-- While a supervisor runs, no child starts for longer than the startup timeout, no stop
takes longer than its command, its grace and the reaping, and no cooldown lasts longer than
the backoff of its failures. The platform lets only waits take time; ending the process tree
and killing the process, the two parts of `process::terminate`, take none on it. -/
theorem limited_phases_end_in_time {config : SupervisorConfig} {start : Instant} {history : History timed}
    {program : Supervised Unit} {world : World}
    (reached : Reaches timed (run config) (World.initial start) history program world) :
    (world.lifecycle.phase = .starting →
      world.clock ≤ world.lifecycle.phaseStartedAt + config.startupTimeout) ∧
    (world.lifecycle.phase = .stopping →
      world.clock ≤ world.lifecycle.phaseStartedAt +
        (config.commandTimeout + config.shutdownTimeout + seconds 5)) ∧
    (world.lifecycle.phase = .cooldown →
      world.clock ≤ world.lifecycle.phaseStartedAt +
        failureBackoff world.lifecycle.failureStreak) := by
  obtain ⟨mark, attentive, -⟩ := reached.attentive
  have scheduled : Safe (scheduling config) (run config) (fun _ _ => True) .initial := scheduled_run
  have safe := ((safe_run (initial_sound start)).both paced_run).both scheduled
  obtain ⟨⟨⟨stance, pace⟩, schedule⟩, watched, -⟩ :=
    attentive.watched (timetable config) (initial_timetable config start) safe
  obtain ⟨⟨⟨sound, lifecycle, -, -⟩, paced⟩, scheduled⟩ :=
    watched.related (timetable config) (initial_timetable config start)
  refine ⟨fun starting => ?_, fun stopping => ?_, fun cooling => ?_⟩
  · refine scheduled.within _ ?_
    rw [scheduled.limit, phaseLimit, starting]
  · obtain ⟨-, ends⟩ := scheduled.stops stopping
    exact Nat.le_trans (paced.ahead.le_due true false) ends
  · refine scheduled.within _ ?_
    rw [scheduled.limit, phaseLimit, cooling]
    have lasts := sound.wellFormed.cooldown
    rw [show stance.lifecycle = world.lifecycle from lifecycle] at lasts
    exact (lasts cooling).2

/-- The slowest stop takes all of its time: 45 seconds after its phase began it is still stopping,
which is the last instant that the limit allows. -/
theorem slow_stop_is_over_in_time :
    slowStopRun.world.lifecycle.phase = .stopping ∧
      slowStopRun.world.clock = slowStopRun.world.lifecycle.phaseStartedAt + seconds 45 ∧
      slowStopRun.world.clock ≤ slowStopRun.world.lifecycle.phaseStartedAt +
        ((exampleConfig true).commandTimeout + (exampleConfig true).shutdownTimeout +
          seconds 5) := by
  have stopping : slowStopRun.world.lifecycle.phase = .stopping := by decide +kernel
  have passed : slowStopRun.world.clock =
      slowStopRun.world.lifecycle.phaseStartedAt + seconds 45 := by decide +kernel
  exact ⟨stopping, passed, (limited_phases_end_in_time slowStopRun_reached).2.1 stopping⟩

end McServerNap
