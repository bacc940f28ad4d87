import McServerNap.Launches
import McServerNap.Sessions

/-!
# Failures and their delays

A launch cycle can fail in four ways, and the supervisor learns of each by an event: a
launch that fails, a child that is still alive at the end of the startup timeout, and a
child that exits before or after it became ready. The history alone says which cycles
have failed and what the streak of failures must be.

The ledger is an account of the supervisor beside its conduct: the failure it has learned
of and not yet counted, the deadline of the last cooldown, and what it knows of the clock
and of the child that is running.
-/

namespace McServerNap

open Interaction

/-! ## What a history says -/

/-- The state published last. -/
def published (origin : LifecycleState) : List Happening → LifecycleState
  | [] => origin
  | .issued (.publish _ next) _ :: _ => next
  | _ :: earlier => published origin earlier

/-- The failure that the supervisor learns of in a phase. While a child starts it is only
queried at the end of the startup timeout. Once a stop has begun its exit is no failure. -/
def Happening.failure (phase : ServerPhase) : Happening → Option FailureCategory
  | .issued .launch false => some .launchFailed
  | .issued .tryWait .running => if phase = .starting then some .startupTimedOut else none
  | .issued .tryWait .exited | .issued (.select _) (.child .exited) =>
    match phase with
    | .starting => some .exitedBeforeReady
    | .running => some .exitedUnexpectedly
    | _ => none
  | _ => none

/-- The event shows that the child has been reaped, or that a launch left none. -/
def Happening.reaps : Happening → Bool
  | .issued .launch false | .issued .tryWait .exited
  | .issued (.select _) (.child .exited) => true
  | _ => false

/-- The event is a launch, whether it succeeded or not. -/
def Happening.launches : Happening → Bool
  | .issued .launch _ => true
  | _ => false

/-- The failure that a publication counts. -/
def Transition.counts : Transition → Option FailureCategory
  | .recordLaunchFailure => some .launchFailed
  | .recordReapedFailure failure | .beginFailureCleanup failure => some failure
  | _ => none

/-- The publications of a committed idle stop and of the end of the stability window. -/
def Transition.forgets : Transition → Bool
  | .beginIdleStop _ | .resetFailureStreak => true
  | _ => false

/-- The event is one of these publications. -/
def Happening.forgets : Happening → Bool
  | .issued (.publish transition _) _ => transition.forgets
  | _ => false

/-- The failures since the last forgetting, as a saturating count. -/
def tally (origin : LifecycleState) : List Happening → Nat
  | [] => origin.failureStreak
  | happening :: earlier =>
    if happening.forgets then 0
    else if (happening.failure (published origin earlier).phase).isSome then
      saturatingSucc (tally origin earlier)
    else tally origin earlier

/-- The failure learned of since the last publication. -/
def uncounted (origin : LifecycleState) : List Happening → Option FailureCategory
  | [] => none
  | .issued (.publish _ _) _ :: _ => none
  | happening :: earlier =>
    (happening.failure (published origin earlier).phase).or (uncounted origin earlier)

/-- The last launch cycle has failed. -/
def cycleFailed (origin : LifecycleState) : List Happening → Bool
  | [] => false
  | happening :: earlier =>
    (happening.failure (published origin earlier).phase).isSome ||
      !happening.launches && cycleFailed origin earlier

/-- The streak that was published for the failure of the last launch cycle. -/
def failedStreak : List Happening → Option Nat
  | [] => none
  | .issued .launch _ :: _ => none
  | .issued (.publish transition next) _ :: earlier =>
    if transition.counts.isSome then some next.failureStreak else failedStreak earlier
  | _ :: earlier => failedStreak earlier

/-- Since the last launch a child was reaped no later than the limit. -/
def ReapedBy (origin : World) (limit : Instant) (history : List Happening) : Prop :=
  ∀ between reaping earlier passed, history = between ++ reaping :: earlier →
    Happening.reaps reaping = true →
    (∀ happening ∈ between, Happening.launches happening = false) →
    platform.replay origin earlier = some passed → passed.clock ≤ limit

/-- The child was found alive once it had been running for the stability window. It is the
child that was published as running: nothing was published and nothing launched since.
After it was found alive no wait was completed. -/
def FoundStable (origin : World) (history : List Happening) : Prop :=
  ∃ checked cycle running earlier passed,
    history = checked ++ .issued .tryWait .running ::
      (cycle ++ .issued (.publish .publishRunning running) () :: earlier) ∧
    (∀ happening ∈ checked, Happening.awaits happening = false ∧
      Happening.advances happening = false) ∧
    (∀ happening ∈ cycle, Happening.advances happening = false) ∧
    platform.replay origin (cycle ++ .issued (.publish .publishRunning running) () :: earlier) =
      some passed ∧
    running.phaseStartedAt + stabilityWindow ≤ passed.clock

/-! ## The ledger -/

/-- The phases in which there is a child to be reaped. -/
def ServerPhase.owns : ServerPhase → Bool
  | .starting | .running | .stopping => true
  | _ => false

/-- `since` is the begin of the phase, as long as nothing else was published in it and
nothing launched. `latest` is a lower bound of the clock, and `read` the last reading of
it that nothing can have been reaped after. `alive` says that the child has just been
found alive after its stability window, and `due` when the last cooldown ends. -/
structure Ledger where
  phase : ServerPhase
  since : Option Instant
  latest : Instant
  read : Option Instant
  owed : Option FailureCategory
  alive : Bool
  due : Option Instant
  deriving DecidableEq, Repr

/-- The deadline of a timer, as far as the branch has one. -/
def Source.deadline (timer : Timer) : Source → Option Instant
  | .sleepUntil other deadline => if other = timer then some deadline else none
  | _ => none

/-- A deadline that has passed when the event completes a wait. -/
def elapsedAt (sources : List Source) : Event → Instant
  | .elapsed timer => (sources.filterMap (Source.deadline timer)).min?.getD 0
  | _ => 0

namespace Ledger

/-- The account of a run that starts from this state. -/
def initial (lifecycle : LifecycleState) : Ledger where
  phase := lifecycle.phase
  since := none
  latest := 0
  read := none
  owed := none
  alive := false
  due := none

/-- The child has been running for the stability window, as far as the clock is known. -/
def stable (ledger : Ledger) : Bool :=
  ledger.phase = .running && ledger.since.any fun since => since + stabilityWindow ≤ ledger.latest

/-- What the ledger knows after an operation and its reply. A publication counts and dates, a
launch begins a new child, and a query or a wait may show that it failed. -/
def after (ledger : Ledger) : (op : Op) → Reply op → Ledger
  | .now, reading => { ledger with latest := max ledger.latest reading, read := some reading }
  | .publish transition next, _ => { ledger with
      phase := next.phase
      since := if transition = .resetFailureStreak then none else some next.phaseStartedAt
      owed := none
      alive := false
      due := if next.phase = .cooldown then next.retryAt else ledger.due }
  | .launch, success => { ledger with
      since := none
      read := none
      owed := Happening.failure ledger.phase (.issued .launch success)
      alive := false }
  | .tryWait, result => { ledger with
      read := none
      owed := Happening.failure ledger.phase (.issued .tryWait result)
      alive := result = TryWaitResult.running && ledger.stable }
  | .select sources, event => { ledger with
      latest := max ledger.latest (elapsedAt sources event)
      read := none
      owed := Happening.failure ledger.phase (.issued (.select sources) event)
      alive := false }
  | _, _ => ledger

/-- Every cooldown has been waited out. -/
def Ripe (ledger : Ledger) : Prop := ∀ deadline, ledger.due = some deadline → deadline ≤ ledger.latest

/-- A failure is counted by the next publication, before the supervisor does anything but
look. A streak is only forgotten for a child found alive, a cooldown begins at a reading
after which nothing was reaped, and a launch waits for the last cooldown to end. -/
def permits (ledger : Ledger) : Op → Prop
  | .publish transition next =>
    transition.counts = ledger.owed ∧
      (transition = .resetFailureStreak → ledger.alive = true) ∧
      (next.phase = .cooldown → ledger.read = some next.phaseStartedAt)
  | .launch => ledger.owed = none ∧ ledger.Ripe
  | .tryWait => ledger.owed = none ∧ ledger.phase.owns = true
  | .select sources => ledger.owed = none ∧ (.child ∈ sources → ledger.phase.owns = true)
  | .exit _ => ledger.owed = none
  | _ => True

/-- A published state is read as it is, and a wait ends with one of its branches. -/
def answers (ledger : Ledger) : (op : Op) → Reply op → Prop
  | .currentLifecycle, current => current.phase = ledger.phase ∧
      ∀ since, ledger.since = some since → current.phaseStartedAt = since
  | .select sources, event => ∃ source ∈ sources, source.offers event = true
  | _, _ => True

end Ledger

/-- The monitor of a supervisor's ledger. -/
abbrev bookkeeping : Monitor Op Reply where
  State := Ledger
  permits := Ledger.permits
  answers := Ledger.answers
  after := Ledger.after

/-- The ledger agrees with the published state and with the clock. -/
structure Ledger.Agrees (ledger : Ledger) (world : World) : Prop where
  phase : world.lifecycle.phase = ledger.phase
  since : ∀ since, ledger.since = some since → world.lifecycle.phaseStartedAt = since
  latest : ledger.latest ≤ world.clock

/-- A deadline that a completed wait names has passed: the branch that completed is one of its
sources, and its timer is not ahead of the clock. -/
theorem World.elapsedAt_le {world : World} {sources : List Source} {event : Event}
    (selected : world.selects sources event = true) : elapsedAt sources event ≤ world.clock := by
  obtain ⟨source, listed, completes⟩ := World.selects_completes selected
  cases event with
  | elapsed timer =>
    cases source with
    | sleepUntil other deadline =>
      simp only [World.completes, Bool.and_eq_true, decide_eq_true_eq] at completes
      obtain ⟨rfl, passed⟩ := completes
      have among : deadline ∈ sources.filterMap (Source.deadline other) :=
        List.mem_filterMap.mpr ⟨_, listed, if_pos rfl⟩
      simp only [elapsedAt]
      cases least : (sources.filterMap (Source.deadline other)).min? with
      | none => exact Nat.zero_le _
      | some earliest =>
        exact Nat.le_trans ((List.min?_eq_some_iff.mp least).2 deadline among) passed
    | _ => cases completes
  | _ => exact Nat.zero_le _

/-- Only a publication changes the published state. -/
theorem World.lifecycle_performed {world after : World} {op : Op} {reply : Reply op}
    (performed : world.perform op reply = some after)
    (unpublished : ∀ transition next, op ≠ .publish transition next) :
    after.lifecycle = world.lifecycle := by
  have seen : Stance.agrees ⟨.closing, world.lifecycle, world.child, world.writer, none, false⟩
      world := ⟨rfl, rfl, rfl⟩
  rw [← (seen.performed false performed).1, Stance.after_lifecycle]
  cases op with
  | publish transition next => exact absurd rfl (unpublished transition next)
  | _ => rfl

namespace Ledger

variable {ledger : Ledger} {world after : World}

/-- The world's replies are such as the ledger expects: a reading is the world's own clock or
published state, and these the ledger knows. -/
theorem Agrees.answered {op : Op} {reply : Reply op} (agrees : ledger.Agrees world)
    (performed : world.perform op reply = some after) : ledger.answers op reply := by
  cases op with
  | currentLifecycle =>
    simp only [World.perform] at performed
    split at performed
    · rename_i same
      subst same
      exact ⟨agrees.phase, agrees.since⟩
    · cases performed
  | select sources =>
    simp only [World.perform] at performed
    split at performed
    · exact World.selects_offers (by assumption)
    · cases performed
  | _ => trivial

/-- The ledger goes on agreeing with the world, whose clock and published state it knows. Only a
publication and a reading of the clock tell it anything new. -/
theorem Agrees.performed {op : Op} {reply : Reply op} (agrees : ledger.Agrees world)
    (performed : world.perform op reply = some after) : (ledger.after op reply).Agrees after := by
  have clock := (World.framed performed).clock
  have bound : ledger.latest ≤ after.clock := by
    rw [clock]
    exact agrees.latest
  by_cases publishes : ∃ transition next, op = .publish transition next
  · obtain ⟨transition, next, rfl⟩ := publishes
    cases performed
    refine ⟨rfl, fun since begun => ?_, bound⟩
    simp only [Ledger.after] at begun
    split at begun
    · cases begun
    · exact Option.some.inj begun
  · have same : after.lifecycle = world.lifecycle :=
      World.lifecycle_performed performed fun transition next same =>
        publishes ⟨transition, next, same⟩
    have phase : after.lifecycle.phase = ledger.phase := by
      rw [same]
      exact agrees.phase
    have since : ∀ since, ledger.since = some since → after.lifecycle.phaseStartedAt = since := by
      rw [same]
      exact agrees.since
    cases op with
    | publish transition next => exact absurd ⟨transition, next, rfl⟩ publishes
    | now =>
      have current : reply = world.clock := by
        by_contra other
        simp [World.perform, other] at performed
      exact ⟨phase, since, max_le bound (Nat.le_of_eq (current.trans clock.symm))⟩
    | select sources =>
      refine ⟨phase, since, max_le bound ?_⟩
      rw [clock]
      simp only [World.perform] at performed
      split at performed
      · exact World.elapsedAt_le (by assumption)
      · cases performed
    | launch => exact ⟨phase, nofun, bound⟩
    | _ => exact ⟨phase, since, bound⟩

/-- The moves of the others publish nothing, and the clock does not go back. -/
theorem Agrees.moved {move : Move} (agrees : ledger.Agrees world)
    (moved : world.move move = some after) : ledger.Agrees after := by
  have seen : Stance.agrees ⟨.closing, world.lifecycle, world.child, world.writer, none, false⟩
      world := ⟨rfl, rfl, rfl⟩
  have same : world.lifecycle = after.lifecycle := (seen.moved moved).1
  exact ⟨same ▸ agrees.phase, same ▸ agrees.since,
    Nat.le_trans agrees.latest (World.clock_moved moved)⟩

end Ledger

/-- The ledger agrees with the world, whoever else acts. -/
def kept : Coupling platform bookkeeping where
  relates := fun (ledger : Ledger) (world : World) => ledger.Agrees world
  answered := fun agrees _ performed => agrees.answered performed
  issued := fun agrees _ performed => agrees.performed performed
  moved := fun agrees _ disturbed => agrees.moved disturbed

end McServerNap
