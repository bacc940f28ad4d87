import McServerNap.Pace

/-!
# By when a phase is over

A child is given the startup timeout to get ready, a failure is waited out until its
retry instant, and a stop has its own deadlines. The schedule of a supervisor says by when
it leaves its present phase, and what it has read of the clock since its last wait. On the
timed platform no time has passed since that reading.
-/

namespace McServerNap

open Interaction

/-- The publications whose phase has a limit. -/
def Transition.hurries : Transition → Bool
  | .recordLaunchSuccess | .recordLaunchFailure | .recordReapedFailure _
  | .finishFailureCleanup _ => true
  | transition => transition.stops

/-- By when the supervisor begins to stop a child that does not get ready, or ends a
cooldown. -/
def phaseLimit (config : SupervisorConfig) (lifecycle : LifecycleState) : Option Instant :=
  match lifecycle.phase with
  | .starting => some (lifecycle.phaseStartedAt + config.startupTimeout)
  | .cooldown => lifecycle.retryAt
  | _ => none

/-- The last reading of the clock since the last wait, and the limit of the phase. -/
structure Schedule where
  reading : Option Instant
  limit : Option Instant
  deriving DecidableEq, Repr

namespace Schedule

/-- A limited phase is waited in only towards a deadline within its limit, and it begins
at the instant that was read for it. -/
def permits (schedule : Schedule) : Op → Prop
  | .select sources => ∀ limit, schedule.limit = some limit →
      ∃ timer deadline, .sleepUntil timer deadline ∈ sources ∧ deadline ≤ limit
  | .publish transition next =>
      transition.hurries = true → schedule.reading = some next.phaseStartedAt
  | _ => True

/-- A reading is kept until the next wait, and a publication sets the limit of its phase. -/
def after (config : SupervisorConfig) (schedule : Schedule) : (op : Op) → Reply op → Schedule
  | .now, reading => { schedule with reading := some reading }
  | .publish transition next, _ =>
    { schedule with limit := if transition.hurries then phaseLimit config next else none }
  | .select _, _ => { schedule with reading := none }
  | _, _ => schedule

/-- The clock stands still between two waits, and the published state has the limit. -/
def answers (config : SupervisorConfig) (schedule : Schedule) : (op : Op) → Reply op → Prop
  | .now, reply => ∀ reading, schedule.reading = some reading → reply = reading
  | .currentLifecycle, current => schedule.limit = phaseLimit config current
  | _, _ => True

/-- Nothing has been read, and nothing is to be over. -/
def initial : Schedule := ⟨none, none⟩

end Schedule

/-- The monitor of a supervisor's schedule. -/
abbrev scheduling (config : SupervisorConfig) : Monitor Op Reply where
  State := Schedule
  permits := Schedule.permits
  answers := Schedule.answers config
  after := Schedule.after config

end McServerNap
