import McServerNap.Conformance.Kinds
import McServerNap.Ledger

/-!
# The supervisor keeps its ledger

Each function that learns of a failure hands it on in its outcome, and each outcome leads
to the publication that counts it. A cooldown's deadline is a program variable from the
failure to the end of the wait; in between, the ledger knows the same instant as due.
-/

namespace McServerNap

open Interaction SupervisorControl

section Readings

variable {ledger : Ledger} {α : Type}

/-- The ledger has to permit the operation, and what follows has to hold for each of its
replies. -/
theorem booked_access {op : Op} {post : Reply op → Ledger → Prop}
    (permitted : ledger.permits op)
    (handled : ∀ reply, ledger.answers op reply → post reply (ledger.after op reply)) :
    Safe bookkeeping (access op) post ledger :=
  ⟨permitted, handled⟩

/-- After an assertion its condition is known: when it fails the program panics and nothing
follows. -/
theorem booked_assert {condition : Bool} {post : Unit → Ledger → Prop}
    (holds : condition = true → post () ledger) :
    Safe bookkeeping (assert condition) post ledger := by
  cases condition with
  | true => exact holds rfl
  | false => exact ⟨trivial, nofun⟩

/-- The later ledger knows at least as much of the clock and is the same otherwise, but
for the last reading and what a query of the child has told. -/
structure Ledger.Persists (ledger later : Ledger) : Prop where
  phase : later.phase = ledger.phase
  since : later.since = ledger.since
  latest : ledger.latest ≤ later.latest
  owed : later.owed = ledger.owed
  due : later.due = ledger.due

/-- Without an operation everything stays. -/
theorem Ledger.Persists.refl (ledger : Ledger) : ledger.Persists ledger :=
  ⟨rfl, rfl, Nat.le_refl _, rfl, rfl⟩

/-- What persists twice persists, as the clock is only known better each time. -/
theorem Ledger.Persists.trans {later last : Ledger} (first : ledger.Persists later)
    (second : later.Persists last) : ledger.Persists last where
  phase := second.phase.trans first.phase
  since := second.since.trans first.since
  latest := Nat.le_trans first.latest second.latest
  owed := second.owed.trans first.owed
  due := second.due.trans first.due

/-- A cooldown that was waited out stays waited out, since the clock does not go back. -/
theorem Ledger.Persists.ripe {later : Ledger} (persists : ledger.Persists later)
    (ripe : ledger.Ripe) : later.Ripe := fun deadline due =>
  Nat.le_trans (ripe deadline (persists.due ▸ due)) persists.latest

/-- The operations that change nothing but what is known of the clock. -/
def Op.glances : Op → Prop
  | .publish _ _ | .launch | .tryWait | .exit _ => False
  | .select sources => .child ∉ sources
  | _ => True

/-- Plain operations neither wait for the child nor publish, so they only glance. -/
theorem glances_of_plain (op : Op) (plain : op.plain) : op.glances := by
  cases op <;> trivial

/-- Only the branch for the child shows that it exited. -/
theorem offered_child {sources : List Source} {result : WaitResult}
    (offered : ∃ source ∈ sources, source.offers (.child result) = true) : .child ∈ sources := by
  obtain ⟨source, listed, offers⟩ := offered
  cases source <;> first | exact listed | cases offers

/-- Any other event of a wait is no failure. -/
theorem failure_select {phase : ServerPhase} {sources : List Source} {event : Event}
    (other : event ≠ .child .exited) :
    Happening.failure phase (.issued (.select sources) event) = none := by
  cases event with
  | child result =>
    cases result with
    | exited => exact absurd rfl other
    | failed => rfl
  | _ => rfl

/-- A wait that does not reap the child leaves nothing owed and only learns of the clock. -/
theorem Ledger.persists_select {sources : List Source} {event : Event}
    (owed : ledger.owed = none) (other : event ≠ .child .exited) :
    ledger.Persists (ledger.after (.select sources) event) :=
  ⟨rfl, rfl, Nat.le_max_left _ _, (failure_select other).trans owed.symm, rfl⟩

/-- A program that only glances can be run at any point where nothing is owed, and the ledger
persists. The induction is the one on programs that issue operations of one kind. -/
theorem booked_glances {program : Supervised α} (glances : Issues Op.glances program)
    (owed : ledger.owed = none) :
    Safe bookkeeping program (fun _ later => ledger.Persists later) ledger := by
  refine Issues.safe (fun later op persists admitted => ?_) glances (Ledger.Persists.refl ledger)
  have free : later.owed = none := persists.owed.trans owed
  cases op with
  | publish | launch | tryWait | exit => cases admitted
  | select sources =>
    refine ⟨⟨free, fun listed => absurd listed admitted⟩, fun event offered => ?_⟩
    refine persists.trans (Ledger.persists_select free ?_)
    rintro rfl
    exact admitted (offered_child offered)
  | now =>
    exact ⟨trivial, fun reading _ =>
      persists.trans ⟨rfl, rfl, Nat.le_max_left _ _, rfl, rfl⟩⟩
  | _ => exact ⟨trivial, fun _ _ => persists⟩

/-- Looking for a shutdown is a glance. -/
theorem booked_shutdownPending {post : Bool → Ledger → Prop} (owed : ledger.owed = none)
    (reached : ∀ pending later, ledger.Persists later → post pending later) :
    Safe bookkeeping shutdownPending post ledger :=
  (booked_glances (issues_shutdownPending glances_of_plain) owed).mono reached

/-- A publishing function reads the clock, and publishes what it builds from the present
state and the reading. -/
theorem booked_advance {transition : Transition} {post : LifecycleState × Instant → Ledger → Prop}
    (counts : transition.counts = ledger.owed)
    (forgets : transition = .resetFailureStreak → ledger.alive = true ∧ ledger.phase = .running)
    (published : ∀ current now, ledger.answers .currentLifecycle current →
      post (transition.target current now, now) ((ledger.after .now now).after
        (.publish transition (transition.target current now)) ())) :
    Safe bookkeeping (advance transition) post ledger := by
  simp only [advance, publish, Program.bind_eq, safe_bind]
  refine booked_access trivial fun current read => booked_assert fun _ => ?_
  refine booked_access trivial fun now _ => booked_assert fun _ => ?_
  refine booked_access ⟨counts, fun reset => (forgets reset).1, fun cooldown => ?_⟩
    fun _ _ => published current now read
  cases transition with
  | resetFailureStreak =>
    have running : current.phase = .running := read.1.trans (forgets rfl).2
    exact absurd (cooldown.symm.trans running) (by simp)
  | _ => rfl

end Readings

/-! ## Between two failures -/

namespace Ledger

/-- Nothing is owed in a phase, and every cooldown has been waited out. -/
structure Clear (phase : ServerPhase) (ledger : Ledger) : Prop where
  owed : ledger.owed = none
  phase : ledger.phase = phase
  ripe : ledger.Ripe

/-- The same without a child. -/
structure Parked (ledger : Ledger) : Prop where
  owed : ledger.owed = none
  phase : ledger.phase.owns = false
  ripe : ledger.Ripe

/-- A cooldown lasts until the deadline. -/
structure Cooling (deadline : Instant) (ledger : Ledger) : Prop where
  owed : ledger.owed = none
  phase : ledger.phase = .cooldown
  due : ledger.due = some deadline

variable {ledger later : Ledger} {phase : ServerPhase} {deadline : Instant}

/-- A clear ledger stays clear while nothing but the clock becomes known. -/
theorem Clear.persists (clear : ledger.Clear phase) (persists : ledger.Persists later) :
    later.Clear phase where
  owed := persists.owed.trans clear.owed
  phase := persists.phase.trans clear.phase
  ripe := persists.ripe clear.ripe

/-- A cooldown keeps its deadline while nothing but the clock becomes known. -/
theorem Cooling.persists (cooling : ledger.Cooling deadline) (persists : ledger.Persists later) :
    later.Cooling deadline where
  owed := persists.owed.trans cooling.owed
  phase := persists.phase.trans cooling.phase
  due := persists.due.trans cooling.due

/-- A publication starts no cooldown unless it says so. -/
theorem Ripe.published {transition : Transition} {next : LifecycleState} (ripe : ledger.Ripe)
    (warm : next.phase ≠ .cooldown) : (ledger.after (.publish transition next) ()).Ripe := by
  intro deadline due
  simp only [Ledger.after, if_neg warm] at due
  exact ripe deadline due

/-- Reading the clock undoes no cooldown that was waited out. -/
theorem Ripe.read (ripe : ledger.Ripe) (now : Instant) : (ledger.after .now now).Ripe :=
  fun deadline due => Nat.le_trans (ripe deadline due) (Nat.le_max_left _ _)

/-- The transitions of a supervisor without a child publish phases without one, count no failure
and start no cooldown. The cases are those transitions. -/
theorem parks_target {transition : Transition} (parks : transition.parks = true)
    (current : LifecycleState) (now : Instant) :
    (transition.target current now).phase.owns = false ∧
      (transition.target current now).phase ≠ .cooldown ∧ transition.counts = none ∧
      transition ≠ .resetFailureStreak := by
  cases transition with
  | setPhase phase =>
    obtain rfl : phase = .stopped := by simpa [Transition.parks] using parks
    exact ⟨rfl, nofun, rfl, nofun⟩
  | publishStoppedAfterCleanReconciliation | publishExternal | publishConflict
  | beginReconciliation => exact ⟨rfl, nofun, rfl, nofun⟩
  | _ => cases parks

end Ledger

section Parked

variable {ledger : Ledger} {α : Type}

/-- A supervisor that owns no child learns of no failure: its operations neither launch nor wait
for a child, and what it publishes neither counts a failure nor starts a cooldown. -/
theorem booked_parks {program : Supervised α} (parks : Issues Op.parks program)
    (parked : ledger.Parked) :
    Safe bookkeeping program (fun _ later => later.Parked) ledger := by
  refine Issues.safe (fun later op parked admitted => ?_) parks parked
  obtain ⟨owed, unowned, ripe⟩ := parked
  cases op with
  | publish transition next =>
    obtain ⟨parks, current, now, rfl⟩ := admitted
    obtain ⟨settled, warm, uncounted, other⟩ := Ledger.parks_target parks current now
    exact ⟨⟨uncounted.trans owed.symm, fun reset => absurd reset other,
      fun cooldown => absurd cooldown warm⟩, fun _ _ => ⟨rfl, settled, ripe.published warm⟩⟩
  | select sources =>
    have childless : .child ∉ sources := by
      obtain rfl | rfl | ⟨deadline, rfl⟩ := admitted <;> simp
    refine ⟨⟨owed, fun listed => absurd listed childless⟩, fun event offered => ?_⟩
    have persists : later.Persists (later.after (.select sources) event) := by
      apply Ledger.persists_select owed
      rintro rfl
      exact childless (offered_child offered)
    exact ⟨persists.owed.trans owed, unowned, persists.ripe ripe⟩
  | now => exact ⟨trivial, fun reading _ => ⟨owed, unowned, ripe.read reading⟩⟩
  | launch | tryWait | beginCycle | activitySnapshot | releaseExclusive | exit => cases admitted
  | _ => exact ⟨trivial, fun _ _ => ⟨owed, unowned, ripe⟩⟩

/-- Setting a phase that is no cooldown owes nothing, and begins no new wait. -/
theorem booked_setPhase (phase : ServerPhase) (owed : ledger.owed = none)
    (warm : phase ≠ .cooldown) :
    Safe bookkeeping (setPhase phase) (fun _ later => later.owed = none ∧ later.phase = phase ∧
      (ledger.Ripe → later.Ripe)) ledger := by
  simp only [setPhase, Program.bind_eq, safe_bind]
  refine booked_advance owed.symm nofun fun current now _ => ?_
  exact ⟨rfl, rfl, fun ripe => (ripe.read now).published warm⟩

/-- A cooldown that is not cut short by a shutdown is waited out. The loop is left only after the
clock was read at or past the retry instant, or when the shutdown was seen. -/
theorem booked_waitForCooldown {retryAt : Instant} {retryPending : Bool}
    (cooling : ledger.Cooling retryAt) :
    Safe bookkeeping (waitForCooldown retryAt retryPending) (fun outcome later =>
      later.owed = none ∧ (outcome ≠ .shutdown → later.Parked)) ledger := by
  refine safe_loop (fun _ ledger => ledger.Cooling retryAt) cooling ?_
  intro retryPending ledger cooling
  have quits : ∀ ledger : Ledger, ledger.owed = none →
      Safe bookkeeping (setPhase .stopped) (fun _ later => later.owed = none) ledger :=
    fun ledger owed => (booked_setPhase .stopped owed nofun).mono fun _ _ published => published.1
  simp only [Program.bind_eq, safe_bind]
  refine booked_shutdownPending cooling.owed fun pending ledger persists => ?_
  have cooling := cooling.persists persists
  split
  · simp only [safe_bind]
    exact (quits _ cooling.owed).mono fun _ later owed => ⟨owed, fun other => absurd rfl other⟩
  · simp only [safe_bind]
    refine booked_access trivial fun now _ => ?_
    have read : (ledger.after .now now).Cooling retryAt :=
      ⟨cooling.owed, cooling.phase, cooling.due⟩
    split
    · rename_i elapsed
      have ripe : (ledger.after .now now).Ripe := by
        intro deadline due
        obtain rfl : retryAt = deadline := Option.some.inj (cooling.due.symm.trans due)
        exact Nat.le_trans elapsed (Nat.le_max_right _ _)
      split
      · have unowned : ledger.phase.owns = false := by
          rw [cooling.phase]
          rfl
        exact ⟨read.owed, fun _ => ⟨read.owed, unowned, ripe⟩⟩
      · simp only [safe_bind]
        refine (booked_setPhase .stopped read.owed nofun).mono ?_
        rintro _ later ⟨owed, stopped, ripens⟩
        exact ⟨owed, fun _ => ⟨owed, by rw [stopped]; rfl, ripens ripe⟩⟩
    · simp only [safe_bind]
      refine booked_access ⟨read.owed, by simp⟩ fun event offered => ?_
      have unexited : event ≠ .child .exited := by
        rintro rfl
        simpa using offered_child offered
      have cooling : ((ledger.after .now now).after (.select
          [.shutdown, .wake, .sleepUntil .cooldown retryAt]) event).Cooling retryAt :=
        read.persists (Ledger.persists_select read.owed unexited)
      split
      · simp only [safe_bind]
        exact booked_access trivial fun current _ => booked_access trivial fun _ _ => cooling
      · exact cooling
      · simp only [safe_bind]
        exact (quits _ cooling.owed).mono fun _ later owed => ⟨owed, fun other => absurd rfl other⟩

end Parked

/-- What the supervisor does while it stops a child. -/
def Op.stopping : Op → Prop
  | .publish _ _ | .launch | .exit _ => False
  | _ => True

/-- Plain operations are among those of a stop. -/
theorem stopping_of_plain (op : Op) (plain : op.plain) : op.stopping := by
  cases op <;> trivial

namespace Ledger

/-- A failure is owed, and every earlier cooldown has been waited out. -/
structure Owes (failure : FailureCategory) (ledger : Ledger) : Prop where
  owed : ledger.owed = some failure
  ripe : ledger.Ripe

/-- What the result of a launch cycle says about the ledger. -/
def Cycled : CycleResult → Ledger → Prop
  | .ok .stopped, ledger | .ok .restart, ledger => ledger.Clear .stopping
  | .ok (.failed retryAt _), ledger => ledger.Cooling retryAt
  | .ok .shutdown, ledger | .error _, ledger => ledger.owed = none

end Ledger

section Cleanup

variable {config : SupervisorConfig} {ledger : Ledger} {α : Type} {phase : ServerPhase}
  {failure : FailureCategory}

/-- While a child is stopped its exit is no failure: whatever is learned about it in that phase
leaves nothing owed, so that the cleanup needs no publication of its own. -/
theorem booked_stopping {program : Supervised α} (stopping : Issues Op.stopping program)
    (clear : ledger.Clear .stopping) :
    Safe bookkeeping program (fun _ later => later.Clear .stopping) ledger := by
  refine Issues.safe (fun later op clear admitted => ?_) stopping clear
  have owns : later.phase.owns = true := by
    rw [clear.phase]
    rfl
  obtain ⟨owed, phase, ripe⟩ := clear
  cases op with
  | publish | launch | exit => cases admitted
  | tryWait =>
    refine ⟨⟨owed, owns⟩, fun result _ => ⟨?_, phase, ripe⟩⟩
    simp only [Ledger.after, phase]
    cases result <;> rfl
  | select sources =>
    refine ⟨⟨owed, fun _ => owns⟩, fun event _ => ⟨?_, phase, ?_⟩⟩
    · simp only [Ledger.after, phase]
      cases event with
      | child result => cases result <;> rfl
      | _ => rfl
    · exact fun deadline due => Nat.le_trans (ripe deadline due) (Nat.le_max_left _ _)
  | now => exact ⟨trivial, fun reading _ => ⟨owed, phase, ripe.read reading⟩⟩
  | _ => exact ⟨trivial, fun _ _ => ⟨owed, phase, ripe⟩⟩

/-- The stop of a child for good. -/
theorem booked_quit (clear : ledger.Clear phase) :
    Safe bookkeeping (setPhase .stopping) (fun _ later => Safe bookkeeping
      (stopAndReap config alone ()) (fun _ last => last.owed = none) later) ledger := by
  refine (booked_setPhase .stopping clear.owed nofun).mono ?_
  rintro _ later ⟨owed, stopping, ripens⟩
  exact (booked_stopping (issues_stopAndReap trivial trivial (issues_alone fun _ => trivial) ())
    ⟨owed, stopping, ripens clear.ripe⟩).mono fun _ _ clear => clear.owed

/-- A stop for a shutdown ends its cycle with nothing owed, since no publication of a failure can
follow. -/
theorem booked_stopForShutdown (clear : ledger.Clear phase) :
    Safe bookkeeping (stopForShutdown config) Ledger.Cycled ledger := by
  simp only [stopForShutdown, Program.bind_eq, safe_bind]
  refine (booked_quit clear).mono fun _ later stopped => stopped.mono ?_
  rintro ⟨held, cleanup⟩ later owed
  cases cleanup <;> exact owed

/-- Reaping after a failed wait owes no count: the cycle ends with an error, and the run with
it. -/
theorem booked_reapAfterWaitError (clear : ledger.Clear phase) :
    Safe bookkeeping (reapAfterWaitError config) Ledger.Cycled ledger := by
  simp only [reapAfterWaitError, Program.bind_eq, safe_bind]
  refine (booked_quit clear).mono fun _ later stopped => stopped.mono ?_
  rintro ⟨held, cleanup⟩ later owed
  cases cleanup with
  | error => exact owed
  | ok =>
    simp only [safe_bind]
    exact (booked_setPhase .stopped owed nofun).mono fun _ _ published => published.1

/-- An exit that is owed is counted, and its cooldown begins. -/
theorem booked_reapedFailure {post : CycleOutcome → Ledger → Prop}
    (owed : ledger.owed = some failure)
    (recorded : ∀ retryAt later, later.Cooling retryAt → post (.failed retryAt false) later) :
    Safe bookkeeping (reapedFailure failure) post ledger := by
  simp only [reapedFailure, recordReapedFailure, Program.bind_eq, safe_bind]
  exact booked_advance owed.symm (by simp) fun current now _ => recorded _ _ ⟨rfl, rfl, rfl⟩

/-- The end of a cleanup begins the cooldown that its failure has earned, at the deadline it
returns. -/
theorem booked_finishFailedCleanup {retryDelay : Duration} (clear : ledger.Clear .stopping) :
    Safe bookkeeping (finishFailedCleanup config retryDelay) Ledger.Cycled ledger := by
  have stops : Issues Op.stopping (stopAndReap config (beside WakeRequest.requestsRetry)
      ⟨false, false⟩) := issues_stopAndReap trivial trivial
    (issues_beside stopping_of_plain (fun _ => trivial) WakeRequest.requestsRetry) ⟨false, false⟩
  simp only [finishFailedCleanup, Program.bind_eq, safe_bind]
  refine (booked_stopping stops clear).mono ?_
  rintro ⟨latch, cleanup⟩ ledger clear
  cases cleanup with
  | error => exact clear.owed
  | ok =>
    dsimp only
    split
    · exact clear.owed
    · simp only [safe_bind]
      refine booked_shutdownPending clear.owed fun pending ledger persists => ?_
      have clear := clear.persists persists
      split
      · exact clear.owed
      · simp only [finishFailureCleanup, Program.bind_eq, safe_bind]
        exact booked_advance clear.owed.symm (by simp) fun current now _ => ⟨rfl, rfl, rfl⟩

/-- A startup that has failed is counted before its child is stopped. -/
theorem booked_stopFailedServer (owes : ledger.Owes failure) :
    Safe bookkeeping (stopFailedServer config failure) Ledger.Cycled ledger := by
  simp only [stopFailedServer, beginFailureCleanup, Program.bind_eq, safe_bind]
  refine booked_advance owes.owed.symm (by simp) fun current now _ => ?_
  exact booked_finishFailedCleanup ⟨rfl, rfl, (owes.ripe.read now).published (by rintro ⟨⟩)⟩

/-- Draining the wakes of an idle stop fails nothing, so the cycle ends clear. -/
theorem booked_drainRestarts {restart : Bool} (clear : ledger.Clear .stopping) :
    Safe bookkeeping (drainRestarts restart) (fun outcome => Ledger.Cycled (.ok outcome))
      ledger := by
  refine safe_loop (fun _ ledger => ledger.Clear .stopping) clear fun restart ledger clear => ?_
  simp only [Program.bind_eq, safe_bind]
  refine booked_access trivial fun outcome _ => ?_
  cases outcome with
  | empty => cases restart <;> exact clear
  | disconnected => exact clear.owed
  | received request =>
    simp only [safe_bind]
    exact booked_access trivial fun _ _ => booked_access trivial fun _ _ => clear

/-- An idle stop fails nothing either, unless it ends in an error: what its cleanup learns is read
in the stopping phase, where an exit counts for nothing. -/
theorem booked_stopCommittedIdleServer (clear : ledger.Clear .stopping) :
    Safe bookkeeping (stopCommittedIdleServer config) Ledger.Cycled ledger := by
  have stops : Issues Op.stopping (stopAndReap config (beside WakeRequest.requestsRestart)
      ⟨false, false⟩) := issues_stopAndReap trivial trivial
    (issues_beside stopping_of_plain (fun _ => trivial) WakeRequest.requestsRestart) ⟨false, false⟩
  simp only [stopCommittedIdleServer, Program.bind_eq, safe_bind]
  refine booked_access trivial fun stopping _ => booked_assert fun _ => ?_
  refine (booked_stopping stops clear).mono ?_
  rintro ⟨latch, cleanup⟩ ledger clear
  cases cleanup with
  | error => exact clear.owed
  | ok =>
    dsimp only
    split
    · exact clear.owed
    · simp only [safe_bind]
      refine booked_shutdownPending clear.owed fun pending ledger persists => ?_
      have clear := clear.persists persists
      split
      · exact clear.owed
      · simp only [safe_bind]
        exact booked_drainRestarts clear

end Cleanup

section Starting

variable {config : SupervisorConfig} {ledger : Ledger} {phase : ServerPhase}

/-- Beside the child a wait ends with its exit, or leaves nothing owed. What an exit owes depends
on the phase in which it was observed. -/
theorem booked_select {sources : List Source} {post : Event → Ledger → Prop}
    (clear : ledger.Clear phase) (owns : phase.owns = true)
    (exited : ∀ later : Ledger, later.Ripe →
      later.owed = Happening.failure phase (.issued (.select sources) (.child .exited)) →
      post (.child .exited) later)
    (other : ∀ event, event ≠ .child .exited → (∃ source ∈ sources, source.offers event = true) →
      ledger.Persists (ledger.after (.select sources) event) →
      post event (ledger.after (.select sources) event)) :
    Safe bookkeeping (select sources) post ledger := by
  refine booked_access ⟨clear.owed, fun _ => clear.phase ▸ owns⟩ fun event offered => ?_
  by_cases exits : event = .child .exited
  · subst exits
    refine exited _ ?_ ?_
    · exact fun deadline due => Nat.le_trans (clear.ripe deadline due) (Nat.le_max_left _ _)
    · rw [← clear.phase]
      rfl
  · exact other event exits offered (Ledger.persists_select clear.owed exits)

/-- The failures of a startup are owed, and its other outcomes leave nothing owed. -/
def Ledger.Started : ReadinessOutcome → Ledger → Prop
  | .startupTimedOut, ledger => ledger.Owes .startupTimedOut
  | .exited, ledger => ledger.Owes .exitedBeforeReady
  | _, ledger => ledger.Clear .starting

/-- Between two connection attempts either the retry is due and startup goes on, or the child has
ended and its failure is owed. -/
theorem booked_awaitReadinessRetry {retryAt : Instant} (clear : ledger.Clear .starting) :
    Safe bookkeeping (awaitReadinessRetry retryAt) (fun decision later => decision.elim
      (fun _ => later.Clear .starting) (fun outcome => later.Started outcome)) ledger := by
  simp only [awaitReadinessRetry, Program.bind_eq, safe_bind]
  refine booked_select clear rfl (fun later ripe owed => ⟨owed, ripe⟩) ?_
  intro event other offered persists
  have clear := clear.persists persists
  split
  · simp only [safe_bind]
    exact booked_access trivial fun _ _ => clear
  · exact absurd rfl other
  · exact clear
  · exact clear
  · exact clear

/-- While a child starts it is queried at the end of the startup timeout only. Its exit before
readiness is owed to the streak; readiness leaves the account clear. -/
theorem booked_waitForReadiness (clear : ledger.Clear .starting) :
    Safe bookkeeping (waitForReadiness config) (fun outcome later => later.Started outcome)
      ledger := by
  simp only [waitForReadiness, Program.bind_eq, safe_bind]
  refine booked_access trivial fun begun _ => ?_
  have read : ∀ {ledger : Ledger} now, ledger.Clear .starting →
      (ledger.after .now now).Clear .starting :=
    fun now clear => ⟨clear.owed, clear.phase, clear.ripe.read now⟩
  refine safe_loop (fun _ ledger => ledger.Clear .starting) (read begun clear) ?_
  intro _ ledger clear
  simp only [safe_bind]
  refine booked_access trivial fun reading _ => ?_
  have clear := read reading clear
  split
  · simp only [safe_bind]
    refine booked_access ⟨clear.owed, clear.phase ▸ rfl⟩ fun result _ => ?_
    have starting : ledger.phase = .starting := clear.phase
    have learned : ((ledger.after .now reading).after .tryWait result).owed =
        Happening.failure .starting (.issued .tryWait result) := by
      rw [← starting]
      rfl
    cases result with
    | exited => exact ⟨learned, clear.ripe⟩
    | running => exact ⟨learned, clear.ripe⟩
    | failed => exact ⟨learned, starting, clear.ripe⟩
  · simp only [safe_bind]
    refine booked_access trivial fun remaining _ => booked_access trivial fun attempt _ => ?_
    have clear := read attempt (read remaining clear)
    refine booked_select clear rfl (fun later ripe owed => ⟨owed, ripe⟩) ?_
    intro event other offered persists
    have clear := clear.persists persists
    split
    · simp only [safe_bind]
      exact booked_access trivial fun _ _ => clear
    · exact absurd rfl other
    · exact clear
    · exact clear
    · simp only [safe_bind]
      exact booked_access trivial fun now _ => booked_awaitReadinessRetry (read now clear)
    · simp only [safe_bind]
      exact booked_access trivial fun now _ => booked_awaitReadinessRetry (read now clear)
    · exact clear

end Starting

section Running

namespace Ledger

/-- The monitor's stability window is the one of the child that was published as running,
as long as it is pending. -/
structure Watches (state : RunningMonitorState) (ledger : Ledger) : Prop where
  clear : ledger.Clear .running
  window : state.stabilityPending = true →
    ∃ since, ledger.since = some since ∧ state.stableAt = since + stabilityWindow

/-- What a finished wait for the child leaves owed. -/
def Left : WaitResult → Ledger → Prop
  | .exited, ledger => ledger.Owes .exitedUnexpectedly
  | .failed, ledger => ledger.Clear .running

variable {ledger later : Ledger} {state : RunningMonitorState}

/-- The stability window stays that of the published child. -/
theorem Watches.persists (watches : ledger.Watches state) (persists : ledger.Persists later) :
    later.Watches state :=
  ⟨watches.clear.persists persists, fun pending => persists.since ▸ watches.window pending⟩

/-- Reading the clock moves no window. -/
theorem Watches.read (watches : ledger.Watches state) (now : Instant) :
    (ledger.after .now now).Watches state :=
  watches.persists ⟨rfl, rfl, Nat.le_max_left _ _, rfl, rfl⟩

/-- A child that has been running for a whole window, as far as the clock is known, is stable for
the ledger. -/
theorem stable_running {since : Instant} (running : ledger.phase = .running)
    (begun : ledger.since = some since) (elapsed : since + stabilityWindow ≤ ledger.latest) :
    ledger.stable = true := by
  unfold Ledger.stable
  rw [running, begun, Option.any_some, Bool.and_eq_true]
  exact ⟨decide_eq_true rfl, decide_eq_true elapsed⟩

end Ledger

variable {config : SupervisorConfig} {ledger : Ledger} {state : RunningMonitorState} {α : Type}

/-- What an end of the stability window says: the child has gone, or it was found alive
and nothing is pending any more. -/
theorem booked_completeStabilityWindow {post : Option WaitResult → Ledger → Prop}
    (watches : ledger.Watches state) (pending : state.stabilityPending = true)
    (elapsed : state.stableAt ≤ ledger.latest)
    (left : ∀ status later, later.Left status → post (some status) later)
    (settled : ∀ later : Ledger, later.Clear .running → post none later) :
    Safe bookkeeping completeStabilityWindow post ledger := by
  obtain ⟨⟨owed, phase, ripe⟩, window⟩ := watches
  obtain ⟨since, begun, ends⟩ := window pending
  rw [ends] at elapsed
  have stable := Ledger.stable_running phase begun elapsed
  simp only [completeStabilityWindow, Program.bind_eq, safe_bind]
  refine booked_access ⟨owed, by rw [phase]; rfl⟩ fun result _ => ?_
  have learned : (ledger.after .tryWait result).owed =
      Happening.failure .running (.issued .tryWait result) := by
    rw [← phase]
    rfl
  cases result with
  | exited => exact left _ _ ⟨learned, ripe⟩
  | failed => exact left _ _ ⟨learned, phase, ripe⟩
  | running =>
    have alive : (ledger.after .tryWait .running).alive = true := by
      simp only [Ledger.after, decide_true, Bool.true_and]
      exact stable
    simp only [resetFailureStreak, Program.bind_eq, safe_bind]
    refine booked_advance learned.symm (fun _ => ⟨alive, phase⟩) fun current now read => ?_
    have running : current.phase = .running := read.1.trans phase
    have warm : (Transition.resetFailureStreak.target current now).phase ≠ .cooldown := by
      rw [Transition.target, running]
      simp
    exact settled _ ⟨rfl, running, (Ledger.Ripe.read ripe now).published warm⟩

/-- A branch that no stability window is about. -/
def Source.unstable (source : Source) : Prop := source.deadline .stability = none

/-- Only a timer's own branch tells that it has elapsed. -/
theorem offered_elapsed {source : Source} {timer : Timer}
    (offers : source.offers (.elapsed timer) = true) :
    ∃ deadline, source = .sleepUntil timer deadline := by
  cases source with
  | sleepUntil other deadline =>
    obtain rfl : other = timer := by simpa [Source.offers] using offers
    exact ⟨deadline, rfl⟩
  | _ => cases offers

/-- A wait that the stability window ends was for the monitor's window, and its deadline
has passed. -/
theorem stability_elapsed {sources front back : List Source}
    (branches : sources = front ++ state.stability ++ back)
    (foreign : ∀ source ∈ front ++ back, source.unstable)
    (offered : ∃ source ∈ sources, source.offers (.elapsed .stability) = true) :
    state.stabilityPending = true ∧
      elapsedAt sources (.elapsed .stability) = state.stableAt := by
  subst branches
  obtain ⟨source, listed, offers⟩ := offered
  obtain ⟨deadline, rfl⟩ := offered_elapsed offers
  have pending : state.stabilityPending = true := by
    by_contra settled
    have none : state.stability = [] := by simp [RunningMonitorState.stability, settled]
    rw [none, List.append_nil] at listed
    have unstable := foreign _ listed
    simp [Source.unstable, Source.deadline] at unstable
  have first : front.filterMap (Source.deadline .stability) = [] :=
    List.filterMap_eq_nil_iff.mpr fun source among => foreign source (List.mem_append_left _ among)
  have last : back.filterMap (Source.deadline .stability) = [] :=
    List.filterMap_eq_nil_iff.mpr fun source among => foreign source (List.mem_append_right _ among)
  refine ⟨pending, ?_⟩
  simp [elapsedAt, List.filterMap_append, first, last, RunningMonitorState.stability, pending,
    Source.deadline]

/-- A turn of a monitor's wait that the stability window has ended. The deadline of that window
has passed then, and the child is queried before anything is forgotten. -/
theorem booked_stability {sources front back : List Source}
    {post : Option WaitResult → Ledger → Prop} (watches : ledger.Watches state)
    (branches : sources = front ++ state.stability ++ back)
    (foreign : ∀ source ∈ front ++ back, source.unstable)
    (offered : ∃ source ∈ sources, source.offers (.elapsed .stability) = true)
    (left : ∀ status later, later.Left status → post (some status) later)
    (settled : ∀ later : Ledger, later.Clear .running → post none later) :
    Safe bookkeeping completeStabilityWindow post
      (ledger.after (.select sources) (.elapsed .stability)) := by
  obtain ⟨pending, deadline⟩ := stability_elapsed branches foreign offered
  refine booked_completeStabilityWindow (watches.persists ?_) pending ?_ left settled
  · exact Ledger.persists_select watches.clear.owed nofun
  · simp only [Ledger.after, deadline]
    exact Nat.le_max_right _ _

/-- The outcomes of the functions that watch a running child: a continued watch, a
shutdown, or the end of a wait for the child. -/
def Ledger.Exclusive (decided : RunningMonitorState × IdleExclusiveOutcome) (ledger : Ledger) :
    Prop :=
  match decided.2 with
  | .acquired | .activityChanged => ledger.Watches decided.1
  | .shutdown => ledger.Clear .running
  | .childWait status => ledger.Left status

/-- What the final check over RCON leaves: it was passed or vetoed and the watch goes on, or the
watch has ended. -/
def Ledger.FinallyChecked (decided : RunningMonitorState × FinalRconCheck) (ledger : Ledger) :
    Prop :=
  match decided.2 with
  | .zero | .veto _ => ledger.Watches decided.1
  | .shutdown => ledger.Clear .running
  | .childWait status => ledger.Left status

/-- The same of the whole confirmation that no player is on. -/
def Ledger.PlayersChecked (decided : RunningMonitorState × IdlePlayerCheck) (ledger : Ledger) :
    Prop :=
  match decided.2 with
  | .confirmed | .veto => ledger.Watches decided.1
  | .shutdown => ledger.Clear .running
  | .childWait status => ledger.Left status

/-- The same of a turn of the monitor, which may also have committed an idle stop. -/
def Ledger.Monitored (decided : RunningMonitorState × RunningMonitorOutcome) (ledger : Ledger) :
    Prop :=
  match decided.2 with
  | .continued => ledger.Watches decided.1
  | .committed => ledger.Clear .stopping
  | .shutdown => ledger.Clear .running
  | .childWait status => ledger.Left status

/-- A wait of the running monitor's that its child ends. -/
theorem left_select {sources : List Source} {later : Ledger} (ripe : later.Ripe)
    (owed : later.owed = Happening.failure .running (.issued (.select sources) (.child .exited))) :
    later.Left .exited := ⟨owed, ripe⟩

/-- Waiting for the gate watches the child all along, so its end is known as soon as a branch
tells it. -/
theorem booked_acquireIdleExclusive {expectedAnchor : Instant} (watches : ledger.Watches state) :
    Safe bookkeeping (acquireIdleExclusive config expectedAnchor state) Ledger.Exclusive
      ledger := by
  refine safe_loop (fun state ledger => ledger.Watches state) watches ?_
  intro state ledger watches
  simp only [Program.bind_eq, safe_bind]
  refine booked_access trivial fun closed _ => ?_
  split
  · exact watches.clear
  · simp only [safe_bind]
    refine booked_access trivial fun activity _ => ?_
    split
    · exact watches
    · simp only [safe_bind]
      refine booked_select watches.clear rfl (fun later ripe owed => left_select ripe owed) ?_
      intro event other offered persists
      have later := watches.persists persists
      cases event with
      | wake request =>
        cases request with
        | none => exact later.clear
        | some request =>
          simp only [safe_bind]
          exact booked_access trivial fun _ _ => later
      | child status =>
        cases status with
        | exited => exact absurd rfl other
        | failed => exact later.clear
      | elapsed timer =>
        obtain rfl : timer = .stability := by
          obtain ⟨source, listed, offers⟩ := offered
          obtain ⟨deadline, rfl⟩ := offered_elapsed offers
          rcases mem_branches listed with named | ⟨deadline, same⟩
          · simp at named
          · cases same
            rfl
        simp only [safe_bind]
        refine booked_stability watches rfl (by simp [Source.unstable, Source.deadline]) offered
          (fun status later left => left) fun later clear => ?_
        exact ⟨clear, by simp⟩
      | activity =>
        simp only [safe_bind]
        refine booked_access trivial fun activity _ => ?_
        split
        · exact later
        · simp only [safe_bind]
          refine booked_access trivial fun now _ => ?_
          split <;> exact later.read now
      | exclusive => exact later
      | _ => exact later.clear

/-- Each wait of the final check may complete the stability window or find the child ended, and
goes on watching otherwise. -/
theorem booked_finalRconPlayerCheck (watches : ledger.Watches state) :
    Safe bookkeeping (finalRconPlayerCheck config state) Ledger.FinallyChecked ledger := by
  simp only [finalRconPlayerCheck, Program.bind_eq, safe_bind]
  refine booked_access trivial fun now _ => ?_
  refine safe_loop (fun state ledger => ledger.Watches state) (watches.read now) ?_
  intro state ledger watches
  simp only [safe_bind]
  refine booked_access trivial fun closed _ => ?_
  split
  · exact watches.clear
  · simp only [safe_bind]
    refine booked_select watches.clear rfl (fun later ripe owed => left_select ripe owed) ?_
    intro event other offered persists
    have later := watches.persists persists
    cases event with
    | wake request =>
      cases request with
      | none => exact later.clear
      | some request =>
        simp only [safe_bind]
        exact booked_access trivial fun _ _ => later
    | child status =>
      cases status with
      | exited => exact absurd rfl other
      | failed => exact later.clear
    | elapsed timer =>
      cases timer with
      | stability =>
        simp only [safe_bind]
        refine booked_stability watches rfl (by simp [Source.unstable, Source.deadline]) offered
          (fun status later left => left) fun later clear => ?_
        exact ⟨clear, nofun⟩
      | _ => exact later
    | rconList response =>
      cases response with
      | none => exact later
      | some response =>
        by_cases empty : observedPlayerCount response = some 0
        · simp only [empty, if_true]
          exact later
        · simp only [empty, if_false]
          exact later
    | _ => exact later.clear

/-- Confirming adds to the final check only a postponed poll, which the ledger does not look
at. -/
theorem booked_confirmIdlePlayerState (watches : ledger.Watches state) :
    Safe bookkeeping (confirmIdlePlayerState config state) Ledger.PlayersChecked ledger := by
  unfold confirmIdlePlayerState
  split
  · exact watches
  · simp only [Program.bind_eq, safe_bind]
    exact booked_access trivial fun now _ => ⟨(watches.read now).clear, watches.window⟩
  · rename_i nextPoll zeroAnchor inspection
    have taken : ledger.Watches
        { state with playerInspection := .configuredRcon false nextPoll zeroAnchor } :=
      ⟨watches.clear, watches.window⟩
    simp only [Program.bind_eq, safe_bind]
    refine (booked_finalRconPlayerCheck taken).mono ?_
    rintro ⟨state, check⟩ ledger checked
    cases check with
    | zero => exact checked
    | veto client =>
      have watches : ledger.Watches state := checked
      dsimp only
      split
      · exact ⟨trivial, by simp⟩
      · simp only [safe_bind]
        exact booked_access trivial fun now _ => ⟨(watches.read now).clear, watches.window⟩
    | shutdown => exact checked
    | childWait status => exact checked

/-- A query of a running child ends the watch, or finds it alive. In the first two cases the
failure is owed, and the cleanup that follows will count it. -/
theorem booked_query {post : TryWaitResult → Ledger → Prop} (watches : ledger.Watches state)
    (exited : ∀ later : Ledger, later.Left .exited → post .exited later)
    (failed : ∀ later : Ledger, later.Left .failed → post .failed later)
    (running : ∀ later : Ledger, later.Watches state → post .running later) :
    Safe bookkeeping (access .tryWait) post ledger := by
  obtain ⟨⟨owed, phase, ripe⟩, window⟩ := watches
  refine booked_access ⟨owed, by rw [phase]; rfl⟩ fun result _ => ?_
  have learned : (ledger.after .tryWait result).owed =
      Happening.failure .running (.issued .tryWait result) := by
    rw [← phase]
    rfl
  cases result with
  | exited => exact exited _ ⟨learned, ripe⟩
  | failed => exact failed _ ⟨learned, phase, ripe⟩
  | running => exact running _ ⟨⟨learned, phase, ripe⟩, window⟩

/-- Committing publishes the stopping phase, or gives up on a shutdown or a child that has
ended. -/
theorem booked_commitIdleStop (watches : ledger.Watches state) :
    Safe bookkeeping (commitIdleStop state)
      (fun outcome later => later.Monitored (state, outcome)) ledger := by
  simp only [commitIdleStop, Program.bind_eq, safe_bind]
  refine booked_access trivial fun lifecycle _ => ?_
  split
  · exact watches
  · simp only [safe_bind]
    refine booked_shutdownPending watches.clear.owed fun pending ledger persists => ?_
    have watches := watches.persists persists
    split
    · exact watches.clear
    · simp only [safe_bind]
      refine booked_query watches (fun _ left => left) (fun _ left => left) fun later watches => ?_
      simp only [beginIdleStop, Program.bind_eq, safe_bind]
      refine booked_access trivial fun reading _ => ?_
      have watches := watches.read reading
      refine booked_advance watches.clear.owed.symm (by simp) fun current now _ => ?_
      exact ⟨rfl, rfl, (watches.clear.ripe.read now).published (by rintro ⟨⟩)⟩

/-- Under the exclusive gate an attempt ends in a commitment, a postponement or the end of the
watch. -/
theorem booked_attemptUnderExclusive {anchor : Instant} (watches : ledger.Watches state) :
    Safe bookkeeping (attemptUnderExclusive config anchor state) Ledger.Monitored ledger := by
  simp only [attemptUnderExclusive, Program.bind_eq, safe_bind]
  refine booked_access trivial fun activity _ => ?_
  split
  · exact watches
  · simp only [safe_bind]
    refine booked_access trivial fun now _ => ?_
    have watches := watches.read now
    split
    · exact watches
    · simp only [safe_bind]
      refine booked_access trivial fun lifecycle _ => ?_
      split
      · exact watches
      · simp only [safe_bind]
        refine booked_shutdownPending watches.clear.owed fun pending ledger persists => ?_
        have watches := watches.persists persists
        split
        · exact watches.clear
        · simp only [safe_bind]
          refine booked_query watches (fun _ left => left) (fun _ left => left) ?_
          intro ledger watches
          simp only [safe_bind]
          refine (booked_confirmIdlePlayerState watches).mono ?_
          rintro ⟨state, check⟩ ledger checked
          cases check with
          | confirmed =>
            simp only [safe_bind]
            exact booked_commitIdleStop checked
          | _ => exact checked

/-- An attempt takes the gate, decides under it and gives it back, without owing anything on any
way through. -/
theorem booked_attemptExpiredIdleStop {anchor : Instant} (watches : ledger.Watches state) :
    Safe bookkeeping (attemptExpiredIdleStop config state anchor) Ledger.Monitored ledger := by
  simp only [attemptExpiredIdleStop, Program.bind_eq, safe_bind]
  refine (booked_acquireIdleExclusive watches).mono ?_
  rintro ⟨state, exclusive⟩ ledger decided
  cases exclusive with
  | acquired =>
    simp only [safe_bind]
    exact (booked_attemptUnderExclusive decided).mono fun _ _ monitored =>
      booked_access trivial fun _ _ => monitored
  | _ => exact decided

/-- A poll of the players looks at nothing else. -/
theorem glances_pollPlayerPresence (inspection : PlayerInspection) :
    Issues Op.glances (pollPlayerPresence config inspection) := by
  refine issues_pollPlayerPresence config glances_of_plain trivial ?_ inspection
  rintro source deadline (rfl | rfl) listed <;>
    simp only [List.mem_cons, List.not_mem_nil, or_false, reduceCtorEq] at listed

/-- The branches of the running monitor's wait around that of the stability window. No other
branch of it can be mistaken for the window's own timer, so only that one resets the streak. -/
theorem awaited_branches (state : RunningMonitorState) (anchor : Option Instant) :
    ∃ back, [Source.shutdown, .wake, .child] ++ state.stability ++ [.activity] ++
        state.playerPoll ++ (match anchor with
          | some anchor => [Source.sleepUntil .idleDeadline (anchor + config.idleTimeout)]
          | none => []) = [Source.shutdown, .wake, .child] ++ state.stability ++ back ∧
      ∀ source ∈ [Source.shutdown, .wake, .child] ++ back, source.unstable := by
  refine ⟨[.activity] ++ state.playerPoll ++ (match anchor with
    | some anchor => [.sleepUntil .idleDeadline (anchor + config.idleTimeout)]
    | none => []), by simp only [List.append_assoc], ?_⟩
  have polled : ∀ source ∈ state.playerPoll, source.unstable := by
    intro source listed
    obtain ⟨deadline, rfl⟩ := playerPoll_watches listed
    rfl
  simp only [List.forall_mem_append]
  refine ⟨by simp [Source.unstable, Source.deadline],
    ⟨by simp [Source.unstable, Source.deadline], polled⟩, ?_⟩
  cases anchor with
  | none => exact List.forall_mem_nil _
  | some anchor => exact List.forall_mem_singleton.mpr rfl

/-- The monitor's own wait handles one event; only the child's end leaves something owed. The end
of the stability window is the one event that forgets earlier failures. -/
theorem booked_awaitRunningMonitor {anchor : Option Instant} (watches : ledger.Watches state) :
    Safe bookkeeping (awaitRunningMonitor config state anchor) Ledger.Monitored ledger := by
  simp only [awaitRunningMonitor, Program.bind_eq, safe_bind]
  refine booked_select watches.clear rfl (fun later ripe owed => left_select ripe owed) ?_
  intro event other offered persists
  have later := watches.persists persists
  cases event with
  | wake request =>
    cases request with
    | none => exact later.clear
    | some request =>
      simp only [safe_bind]
      exact booked_access trivial fun _ _ => later
  | child status =>
    cases status with
    | exited => exact absurd rfl other
    | failed => exact later.clear
  | elapsed timer =>
    cases timer with
    | stability =>
      simp only [safe_bind]
      obtain ⟨back, branches, foreign⟩ := awaited_branches state anchor
      refine booked_stability watches branches foreign offered (fun status later left => left)
        fun later clear => ?_
      exact ⟨clear, by simp⟩
    | playerPoll =>
      simp only [safe_bind]
      exact (booked_glances (glances_pollPlayerPresence _) later.clear.owed).mono
        fun inspection last persists => ⟨later.clear.persists persists,
          fun pending => (later.persists persists).window pending⟩
    | _ => exact later
  | activity => exact later
  | _ => exact later.clear

/-- One turn of the monitor is an attempt to stop or a wait, as the idle deadline says. -/
theorem booked_advanceRunningMonitor (watches : ledger.Watches state) :
    Safe bookkeeping (advanceRunningMonitor config state) Ledger.Monitored ledger := by
  simp only [advanceRunningMonitor, Program.bind_eq, safe_bind]
  refine booked_access trivial fun activity _ => ?_
  split
  · simp only [safe_bind]
    refine booked_access trivial fun now _ => ?_
    split
    · exact booked_attemptExpiredIdleStop (watches.read now)
    · exact booked_awaitRunningMonitor (watches.read now)
  · exact booked_awaitRunningMonitor watches

/-- The exit of a running child is counted, and an error of the wait is none. -/
theorem booked_processWaitOutcome {status : WaitResult} (left : ledger.Left status) :
    Safe bookkeeping (processWaitOutcome config status .exitedUnexpectedly) Ledger.Cycled
      ledger := by
  cases status with
  | exited =>
    simp only [processWaitOutcome, Program.bind_eq, safe_bind]
    exact booked_reapedFailure left.owed fun retryAt later cooling => cooling
  | failed => exact booked_reapAfterWaitError left

/-- The stability window of a monitor begins where its child was published as running. The loop
keeps that its deadline lies a whole window after that instant. -/
theorem booked_monitorRunningServer {inspection : PlayerInspection} {cycle : BackendCycle}
    {since : Instant} (clear : ledger.Clear .running) (begun : ledger.since = some since) :
    Safe bookkeeping (monitorRunningServer config inspection cycle) Ledger.Cycled ledger := by
  simp only [monitorRunningServer, RunningMonitorState.new, Program.bind_eq, safe_bind]
  refine booked_access trivial fun lifecycle read => booked_assert fun _ => ?_
  refine safe_loop (fun state ledger => ledger.Watches state)
    ⟨clear, fun _ => ⟨since, begun, ?_⟩⟩ fun state ledger watches => ?_
  · rw [read.2 since begun]
  · simp only [safe_bind]
    refine (booked_advanceRunningMonitor watches).mono ?_
    rintro ⟨state, outcome⟩ ledger monitored
    cases outcome with
    | continued => exact monitored
    | committed =>
      simp only [safe_bind]
      exact booked_stopCommittedIdleServer monitored
    | shutdown =>
      simp only [safe_bind]
      exact booked_stopForShutdown monitored
    | childWait status =>
      simp only [safe_bind]
      exact booked_processWaitOutcome monitored

end Running

section Run

variable {config : SupervisorConfig} {ledger : Ledger}

/-- Publishing the running phase records since when, which is what the stability window is counted
from. -/
theorem booked_publishRunning {post : BackendCycle → Ledger → Prop}
    (clear : ledger.Clear .starting)
    (running : ∀ cycle since later, Ledger.Clear .running later → later.since = some since →
      post cycle later) :
    Safe bookkeeping publishRunning post ledger := by
  simp only [publishRunning, publish, Program.bind_eq, safe_bind]
  refine booked_access trivial fun current _ => booked_assert fun _ => ?_
  refine booked_access trivial fun runningSince _ => booked_access trivial fun _ _ =>
    booked_assert fun _ => ?_
  refine booked_access ⟨clear.owed.symm, by simp, by rintro ⟨⟩⟩ fun _ _ => ?_
  exact running _ runningSince _
    ⟨rfl, rfl, (clear.ripe.read runningSince).published (by rintro ⟨⟩)⟩ rfl

/-- A whole cycle owes at most one failure at a time and hands it to the publication that counts
it, whichever way the cycle ends. -/
theorem booked_runServerCycle (clear : ledger.Clear .starting) :
    Safe bookkeeping (runServerCycle config) Ledger.Cycled ledger := by
  simp only [runServerCycle, Program.bind_eq, safe_bind]
  refine (booked_waitForReadiness clear).mono fun outcome ledger started => ?_
  cases outcome with
  | startupTimedOut => exact booked_stopFailedServer started
  | exited =>
    simp only [safe_bind]
    exact booked_reapedFailure started.owed fun retryAt later cooling => cooling
  | processWaitFailed => exact booked_reapAfterWaitError started
  | shutdown => exact booked_stopForShutdown started
  | ready =>
    have clear : ledger.Clear .starting := started
    simp only [safe_bind]
    refine booked_shutdownPending clear.owed fun pending ledger persists => ?_
    have clear := clear.persists persists
    split
    · exact booked_stopForShutdown clear
    · simp only [safe_bind]
      refine booked_publishRunning clear fun cycle since ledger clear begun => ?_
      unfold PlayerInspection.fromConfig
      split
      · simp only [Program.bind_eq, safe_bind]
        refine booked_access trivial fun now _ => booked_monitorRunningServer ?_ begun
        exact ⟨clear.owed, clear.phase, clear.ripe.read now⟩
      · exact booked_monitorRunningServer clear begun

/-- Between two turns of its loop the supervisor owns no child and has waited out every
cooldown, and after the last nothing is owed. -/
def Ledger.Turned : Turn Bool (Except SupervisorError Unit) → Ledger → Prop
  | .again _, ledger => ledger.Parked
  | .leave _, ledger => ledger.owed = none

/-- After the cooldown's wait its deadline has passed, so the next turn finds the ledger parked
and ripe. -/
theorem booked_afterCooldown {retryAt : Instant} {retryPending : Bool}
    (cooling : ledger.Cooling retryAt) :
    Safe bookkeeping (afterCooldown retryAt retryPending) Ledger.Turned ledger := by
  have looks : Issues Op.glances logCurrentFailureCooldown :=
    .bind (.request trivial) fun _ => .bind (issues_assert glances_of_plain _) fun _ =>
      issues_assert glances_of_plain _
  simp only [afterCooldown, Program.bind_eq, safe_bind]
  refine (booked_glances looks cooling.owed).mono fun _ ledger persists => ?_
  refine (booked_waitForCooldown (cooling.persists persists)).mono ?_
  rintro outcome ledger ⟨owed, parked⟩
  cases outcome with
  | launch => exact parked nofun
  | stopped => exact parked nofun
  | shutdown => exact owed

/-- A launch that fails is counted at once, and one that succeeds leads through its cycle. -/
theorem booked_launchServer (parked : ledger.Parked) :
    Safe bookkeeping (launchServer config) Ledger.Turned ledger := by
  simp only [launchServer, Program.bind_eq, safe_bind]
  refine booked_access ⟨parked.owed, parked.ripe⟩ fun launched _ => ?_
  cases launched with
  | false =>
    simp only [Bool.false_eq_true, if_false, recordLaunchFailure, Program.bind_eq, safe_bind]
    exact booked_advance rfl (by simp) fun current now _ => booked_afterCooldown ⟨rfl, rfl, rfl⟩
  | true =>
    simp only [if_true, recordLaunchSuccess, Program.bind_eq, safe_bind]
    refine booked_advance rfl (by simp) fun current now _ => ?_
    have ripe : (ledger.after .launch true).Ripe := parked.ripe
    have warm : (Transition.recordLaunchSuccess.target current now).phase ≠ .cooldown := by
      rintro ⟨⟩
    refine (booked_runServerCycle ⟨rfl, rfl, (ripe.read now).published warm⟩).mono ?_
    intro result ledger cycled
    cases result with
    | error => exact cycled
    | ok outcome =>
      cases outcome with
      | failed retryAt retryPending => exact booked_afterCooldown cycled
      | stopped | restart =>
        have clear : ledger.Clear .stopping := cycled
        simp only [safe_bind]
        refine (booked_setPhase .stopped clear.owed (by simp)).mono ?_
        rintro _ later ⟨owed, stopped, ripens⟩
        exact ⟨owed, by rw [stopped]; rfl, ripens clear.ripe⟩
      | shutdown =>
        simp only [safe_bind]
        exact (booked_setPhase .stopped cycled (by simp)).mono fun _ _ published => published.1

/-- A turn that is to launch does so only after the last gate, and any other turn waits for what
comes. -/
theorem booked_serveNext {launchPending : Bool} (parked : ledger.Parked) :
    Safe bookkeeping (serveNext config launchPending) Ledger.Turned ledger := by
  have served : ∀ ledger : Ledger, ledger.Parked →
      Safe bookkeeping (serveDemand config) Ledger.Turned ledger := by
    intro ledger parked
    simp only [serveDemand, Program.bind_eq, safe_bind]
    refine (booked_parks parks_shutdownPending parked).mono fun pending ledger parked => ?_
    split
    · exact parked.owed
    · simp only [safe_bind]
      refine (booked_parks (parks_reconcileFinalGate config) parked).mono fun gate ledger parked => ?_
      cases gate with
      | launch => exact booked_launchServer parked
      | blocked => exact parked
      | shutdown => exact parked.owed
  unfold serveNext
  split
  · exact served _ parked
  · simp only [Program.bind_eq, safe_bind]
    refine (booked_parks parks_waitForReconciliationDemand parked).mono fun demanded ledger parked => ?_
    split
    · exact served _ parked
    · simp only [safe_bind]
      refine booked_access trivial fun lifecycle _ => ?_
      split
      · simp only [safe_bind]
        exact (booked_parks parks_setPhase_stopped parked).mono fun _ _ parked => parked.owed
      · exact parked.owed

/-- Each turn of the loop ends parked with every cooldown waited out, or leaves with nothing
owed. -/
theorem booked_superviseTurn {launchPending : Bool} (parked : ledger.Parked) :
    Safe bookkeeping (superviseTurn config launchPending) Ledger.Turned ledger := by
  simp only [superviseTurn, Program.bind_eq, safe_bind]
  refine booked_access trivial fun lifecycle _ => ?_
  split
  · simp only [safe_bind]
    refine (booked_parks (parks_monitorExternalServer config) parked).mono fun outcome ledger parked => ?_
    cases outcome with
    | conflict => exact booked_serveNext parked
    | shutdown => exact parked.owed
  · exact booked_serveNext parked

/-- A run keeps its ledger from the start: the loop keeps that nothing is owed between two turns,
and so does each result that leaves it. -/
theorem booked_run (start : Instant) :
    Safe bookkeeping (run config) (fun _ _ => True) (Ledger.initial (.reconciling start)) := by
  have exits : ∀ {result : Except SupervisorError Unit} {ledger : Ledger}, ledger.owed = none →
      Safe bookkeeping (access (.exit result)) (fun _ _ => True) ledger :=
    fun owed => booked_access owed fun _ _ => trivial
  have looped : ∀ launchPending (ledger : Ledger), ledger.Parked → Safe bookkeeping
      (Program.loop (superviseTurn config) launchPending)
      (fun result later => Safe bookkeeping (access (.exit result)) (fun _ _ => True) later)
      ledger := fun launchPending ledger parked =>
    safe_loop (fun _ ledger => ledger.Parked) parked fun launchPending ledger parked => by
      refine (booked_superviseTurn parked).mono fun decision ledger turned => ?_
      cases decision with
      | again => exact turned
      | leave => exact exits turned
  have parked : (Ledger.initial (.reconciling start)).Parked := ⟨rfl, rfl, nofun⟩
  simp only [run, supervise, Program.bind_eq, safe_bind]
  refine booked_access trivial fun _ _ => booked_assert fun _ => ?_
  refine booked_access trivial fun _ _ => booked_assert fun _ => ?_
  refine (booked_parks (parks_reconcileStartup config) parked).mono fun outcome ledger parked => ?_
  cases outcome with
  | launch => exact looped true _ parked
  | idle => exact looped false _ parked
  | shutdown => exact exits parked.owed

end Run

end McServerNap
