import McServerNap.Interaction.Monitor
import McServerNap.Runtime

/-!
# The wait for the supervisor

A runtime that shuts down reads the clock once and then waits for its supervisor until the
reading plus its wait limit. What became of the wait is read off the runtime's own events:
the clock is the time that has passed in them, the wait begins where the clock is read, and
the supervisor's task ends at the clock of that event.

A `timeout` polls the task before its deadline. A task that ends before the deadline is
therefore always found. One that ends later is found only by a runtime that is polled so late
that the task has ended before the runtime looks at the deadline again.
-/

namespace McServerNap.ServerRuntime

open Interaction

/-! ## What a history says of time -/

/-- One event of a runtime's execution. -/
abbrev Happening := Label Op Reply Move

/-- The clock after a history. Only its ticks let time pass, and a runtime's clock starts at
zero when the runtime is activated. -/
def clockAfter : List Happening → Instant
  | [] => 0
  | .moved _ (.tick elapsed) :: earlier => clockAfter earlier + elapsed
  | _ :: earlier => clockAfter earlier

/-- The instant at which the supervisor's task ended, so that it could be joined. -/
def endedAt : List Happening → Option Instant
  | [] => none
  | .moved _ .supervisorEnds :: earlier => some (clockAfter earlier)
  | _ :: earlier => endedAt earlier

/-- The instant at which the runtime began to wait for its supervisor: the clock that it read
for the deadline of the wait. -/
def waitBegun : List Happening → Option Instant
  | [] => none
  | .issued .now reading :: _ => some reading
  | _ :: earlier => waitBegun earlier

/-- The wait for the supervisor is answered: its outcome is taken, or the wait is given up. -/
def Happening.answersWait : Happening → Bool
  | .issued (.timeoutSupervisor _) _ => true
  | _ => false

/-- The supervisor's task ended within the wait limit: before the deadline that the limit sets
from the beginning of the wait. A task that ended later is in time only where a runtime that
was polled late found it ended before it looked at that same deadline. -/
def InTime (waitLimit : Duration) (history : List Happening) : Prop :=
  ∃ begun ended, waitBegun history = some begun ∧ endedAt history = some ended ∧
    (ended < begun + waitLimit ∨
      ∃ outcome, .issued (.timeoutSupervisor (begun + waitLimit)) (some outcome) ∈ history)

/-- The runtime gave the wait for its supervisor up only after the whole wait limit had passed
since the wait began, and only for a task that had not ended before. -/
def Patient (waitLimit : Duration) (history : List Happening) : Prop :=
  ∀ later earlier deadline, history = later ++ .issued (.timeoutSupervisor deadline) none :: earlier →
    ∃ begun, waitBegun earlier = some begun ∧ begun + waitLimit ≤ clockAfter earlier ∧
      ∀ ended, endedAt earlier = some ended → begun + waitLimit ≤ ended

/-! ## The deadline of the wait -/

/-- The monitor of the wait. The clock is read once, and the deadline of the wait is that
reading plus the limit. The state is the reading, once there is one. -/
abbrev waiting (waitLimit : Duration) : Monitor Op Reply where
  State := Option Instant
  permits begun op :=
    match op with
    | .now => begun = none
    | .timeoutSupervisor deadline => ∃ instant, begun = some instant ∧ deadline = instant + waitLimit
    | _ => True
  answers _ _ _ := True
  after begun op reply := (waitBegun [.issued op reply]).or begun

/-- The operation has nothing to do with the wait for the supervisor: it neither reads the
clock nor waits for a deadline. -/
def Op.untimed : Op → Prop
  | .now | .timeoutSupervisor _ => False
  | _ => True

/-- A program whose operations are all untimed leaves the wait alone, so that it has not begun
when the program finishes. -/
theorem safe_untimed {α : Type} {program : Running α} (waitLimit : Duration)
    (issues : Issues Op.untimed program) :
    Safe (waiting waitLimit) program (fun _ begun => begun = none) none := by
  have kept (begun : Option Instant) (op : Op) (unbegun : begun = none) (untimed : op.untimed) :
      (waiting waitLimit).permits begun op ∧ ∀ reply, (waiting waitLimit).answers begun op reply →
        (waiting waitLimit).after begun op reply = none := by
    subst unbegun
    cases op with
    | now | timeoutSupervisor deadline => exact untimed.elim
    | _ => exact ⟨trivial, fun _ _ => rfl⟩
  exact Issues.safe kept issues rfl

/-- The loop that serves clients issues operations of any kind that covers the seven it knows,
whatever the world replies to them. -/
theorem issues_serve {kind : Op → Prop} (asks : kind .connectionsEmpty)
    (selects : ∀ joining, kind (.select joining)) (sleeps : kind (.sleep 100000000))
    (acquires : kind .tryAcquire) (spawns : kind .spawnClient) : Issues kind serve := by
  apply Issues.loop
  intro _
  constructor
  · exact asks
  intro empty
  constructor
  · exact selects _
  intro event
  cases event with
  | supervisor outcome | shutdown result => trivial
  | joined completed => obtain _ | error | value := completed <;> trivial
  | accepted ok =>
    cases ok with
    | false => exact ⟨sleeps, fun _ => trivial⟩
    | true =>
      constructor
      · exact acquires
      intro permit
      cases permit with
      | acquired => exact ⟨spawns, fun _ => trivial⟩
      | noPermits | closed => trivial

/-- Joining the clients issues nothing but `join_next`. -/
theorem issues_joinClients {kind : Op → Prop} (joins : kind .joinNext) :
    Issues kind joinClients := by
  apply Issues.loop
  intro panic
  constructor
  · exact joins
  intro completed
  obtain _ | error | value := completed
  · trivial
  · cases error <;> cases panic <;> trivial
  · trivial

/-- An operation whose place the monitor permits leads on to what is safe after each of its
replies. -/
theorem safe_access {monitor : Monitor Op Reply} {α : Type} {op : Op}
    {next : Reply op → Running α} {post : α → monitor.State → Prop} {state : monitor.State}
    (permitted : monitor.permits state op)
    (replied : ∀ reply, monitor.answers state op reply →
      Safe monitor (next reply) post (monitor.after state op reply)) :
    Safe monitor (access op >>= next) post state :=
  ⟨permitted, replied⟩

/-- The wait reads the clock first and adds its limit to that reading. What comes after it sets no
other deadline. -/
theorem safe_awaitSupervisorShutdown_waiting (waitLimit : Duration) :
    Safe (waiting waitLimit) (awaitSupervisorShutdown waitLimit) (fun _ _ => True) none := by
  apply safe_access
  · rfl
  intro begun _
  apply safe_access
  · exact ⟨begun, rfl, rfl⟩
  intro answer _
  obtain _ | error | result := answer
  · exact ⟨trivial, fun _ _ => ⟨trivial, fun _ _ => trivial⟩⟩
  · trivial
  · trivial

/-- A shutdown asks the supervisor, which does not begin the wait, and then waits for it. How
the two results are combined issues nothing more. -/
theorem safe_finishShutdown_waiting (waitLimit : Duration) (shutdownResult : Except Error Unit) :
    Safe (waiting waitLimit) (finishShutdown waitLimit shutdownResult) (fun _ _ => True) none := by
  apply safe_access
  · trivial
  intro sent _
  apply (safe_bind _ _ _ _).mpr
  apply (safe_awaitSupervisorShutdown_waiting waitLimit).mono
  intro awaited _ _
  cases sent <;> cases awaited <;> cases shutdownResult <;> trivial

/-- Serving and joining the clients come before the wait, so that every wait of `run_until`
has the deadline that its one reading of the clock and its limit set. -/
theorem safe_runUntil_waiting (waitLimit : Duration) :
    Safe (waiting waitLimit) (runUntil waitLimit) (fun _ _ => True) none := by
  apply (safe_bind _ _ _ _).mpr
  have serving : Issues Op.untimed serve :=
    issues_serve trivial (fun _ => trivial) trivial trivial trivial
  apply (safe_untimed waitLimit serving).mono
  rintro exit _ rfl
  apply safe_access
  · trivial
  intro _ _
  apply (safe_bind _ _ _ _).mpr
  have joining : Issues Op.untimed joinClients := issues_joinClients trivial
  apply (safe_untimed waitLimit joining).mono
  rintro panic _ rfl
  cases exit with
  | supervisor outcome => trivial
  | shutdown result => exact safe_finishShutdown_waiting _ _
  | clientTaskPanic error => exact safe_finishShutdown_waiting _ _

/-! ## The wait and the world -/

/-- The instant at which the supervisor's task ended, as the world has it. -/
def World.supervisorEndedAt (world : World) : Option Instant :=
  match world.supervisor with
  | .ended _ endedAt => some endedAt
  | _ => none

/-- What the events say of time agrees with the world, every wait has the deadline of its limit,
and its answer tells whether the supervisor's task ended before that. -/
structure Timed (waitLimit : Duration) (history : List Happening) (world : World) : Prop where
  clock : world.clock = clockAfter history
  ended : endedAt history = world.supervisorEndedAt
  /-- A wait that was answered with an outcome has found the task ended. -/
  found : ∀ deadline outcome, .issued (.timeoutSupervisor deadline) (some outcome) ∈ history →
    ∃ begun ended, waitBegun history = some begun ∧ deadline = begun + waitLimit ∧
      endedAt history = some ended
  /-- A wait that was given up had passed its deadline, and the task ends no earlier. -/
  late : ∀ deadline, .issued (.timeoutSupervisor deadline) none ∈ history →
    ∃ begun, waitBegun history = some begun ∧ deadline = begun + waitLimit ∧
      deadline ≤ clockAfter history ∧
      ∀ ended, endedAt history = some ended → deadline ≤ ended
  patient : Patient waitLimit history

/-- A supervisor whose outcome can be taken has ended at some instant. -/
theorem World.supervisorEndedAt_of_yields {world : World} {outcome : SupervisorOutcome}
    (yields : world.supervisorYields outcome = true) :
    ∃ ended, world.supervisorEndedAt = some ended := by
  unfold World.supervisorYields at yields
  unfold World.supervisorEndedAt
  cases state : world.supervisor with
  | running | closing outcome =>
    rw [state] at yields
    cases yields
  | ended outcome endedAt => exact ⟨endedAt, rfl⟩

/-- A `timeout` elapses at its deadline or later, and only for a task that had not ended before
the deadline. -/
theorem World.late_of_supervisorLate {world : World} {deadline : Instant}
    (late : world.supervisorLate deadline = true) :
    deadline ≤ world.clock ∧
      ∀ ended, world.supervisorEndedAt = some ended → deadline ≤ ended := by
  unfold World.supervisorLate at late
  unfold World.supervisorEndedAt
  obtain ⟨passed, unended⟩ := Bool.and_eq_true_iff.mp late
  refine ⟨of_decide_eq_true passed, fun ended present => ?_⟩
  cases state : world.supervisor with
  | running | closing outcome =>
    rw [state] at present
    cases present
  | ended outcome endedAt =>
    rw [state] at present unended
    obtain rfl := Option.some.inj present
    exact of_decide_eq_true unended

/-- Operations let no time pass and end no task: both are moves of the world, so an account of
instants changes with moves only. -/
theorem World.perform_timeless {world after : World} {op : Op} {reply : Reply op}
    (performed : world.perform op reply = some after) :
    after.clock = world.clock ∧ after.supervisor = world.supervisor := by
  have joined {completed : Option (Except JoinError Unit)}
      (joins : world.joinNext completed = some after) :
      after.clock = world.clock ∧ after.supervisor = world.supervisor := by
    cases completed <;> simp only [World.joinNext] at joins <;> split at joins <;> cases joins <;>
      exact ⟨rfl, rfl⟩
  cases op with
  | sleep | spawnClient | abortAll | abortSupervisor =>
    cases performed
    exact ⟨rfl, rfl⟩
  | joinNext => exact joined performed
  | select joining =>
    cases reply with
    | accepted ok =>
      cases performed
      exact ⟨rfl, rfl⟩
    | joined completed =>
      simp only [World.perform] at performed
      split at performed
      · exact joined performed
      · cases performed
    | supervisor outcome | shutdown result =>
      simp only [World.perform] at performed
      split at performed <;> cases performed
      exact ⟨rfl, rfl⟩
  | timeoutSupervisor deadline =>
    cases reply <;>
    · simp only [World.perform] at performed
      split at performed <;> cases performed
      exact ⟨rfl, rfl⟩
  | connectionsEmpty | tryAcquire | sendShutdown | now | awaitSupervisor =>
    simp only [World.perform] at performed
    split at performed <;> cases performed
    exact ⟨rfl, rfl⟩

/-- The monitor's state follows the history: it changes exactly where the clock is read. -/
theorem waitBegun_issued (op : Op) (reply : Reply op) (history : List Happening) :
    waitBegun (.issued op reply :: history) =
      (waitBegun [.issued op reply]).or (waitBegun history) := by
  cases op <;> rfl

namespace Patient

variable {waitLimit : Duration} {history : List Happening}

/-- A history that did not just give the wait up is as patient as what came before. -/
theorem cons (patient : Patient waitLimit history) (happening : Happening)
    (unyielding : ∀ deadline, happening ≠ .issued (.timeoutSupervisor deadline) none) :
    Patient waitLimit (happening :: history) := by
  intro later earlier deadline split
  cases later with
  | nil => exact absurd (List.cons.inj split).1 (unyielding deadline)
  | cons last rest => exact patient rest earlier deadline (List.cons.inj split).2

end Patient

namespace Timed

/-- A runtime that was just activated has neither waited nor seen time pass. -/
theorem initial (waitLimit : Duration) : Timed waitLimit [] World.initial where
  clock := rfl
  ended := rfl
  found _ _ listed := nomatch listed
  late _ listed := nomatch listed
  patient later _ _ split := by cases later <;> cases split

/-- An event that lets no time pass, ends no task and neither begins nor answers a wait leaves
everything as it was. -/
theorem cons {waitLimit : Duration} {history : List Happening} {world after : World}
    (timed : Timed waitLimit history world) (happening : Happening)
    (timeless : clockAfter (happening :: history) = clockAfter history)
    (unending : endedAt (happening :: history) = endedAt history)
    (unbegun : waitBegun (happening :: history) = waitBegun history)
    (quiet : happening.answersWait = false) (same : after.clock = world.clock)
    (unended : after.supervisorEndedAt = world.supervisorEndedAt) :
    Timed waitLimit (happening :: history) after := by
  have unanswering (deadline : Instant) (answer : Option SupervisorOutcome) :
      happening ≠ .issued (.timeoutSupervisor deadline) answer := by
    rintro rfl
    cases quiet
  exact {
    clock := by rw [same, timeless, timed.clock]
    ended := by rw [unending, unended, timed.ended]
    found := fun deadline outcome listed => by
      have before := (List.mem_cons.mp listed).resolve_left fun last =>
        unanswering deadline (some outcome) last.symm
      rw [unbegun, unending]
      exact timed.found deadline outcome before
    late := fun deadline listed => by
      have before := (List.mem_cons.mp listed).resolve_left fun last =>
        unanswering deadline none last.symm
      rw [unbegun, unending, timeless]
      exact timed.late deadline before
    patient := timed.patient.cons happening fun deadline => unanswering deadline none }

/-- Before the clock is read no wait has been answered, so that reading it begins the first
wait. -/
theorem reads {waitLimit : Duration} {history : List Happening} {world after : World}
    {reading : Instant} (timed : Timed waitLimit history world) (unbegun : waitBegun history = none)
    (same : after.clock = world.clock) (unended : after.supervisorEndedAt = world.supervisorEndedAt) :
    Timed waitLimit (.issued .now reading :: history) after where
  clock := same.trans timed.clock
  ended := timed.ended.trans unended.symm
  found deadline outcome listed := by
    have before := (List.mem_cons.mp listed).resolve_left fun last => nomatch last
    obtain ⟨begun, ended, begins, -⟩ := timed.found deadline outcome before
    rw [unbegun] at begins
    cases begins
  late deadline listed := by
    have before := (List.mem_cons.mp listed).resolve_left fun last => nomatch last
    obtain ⟨begun, begins, -⟩ := timed.late deadline before
    rw [unbegun] at begins
    cases begins
  patient := timed.patient.cons _ fun _ => nofun

/-- A wait that is answered with an outcome has found a task that had ended. Its deadline is the
reading of the clock at its beginning and the limit, which is all that the account asks of it. -/
theorem finds {waitLimit : Duration} {history : List Happening} {world after : World}
    {begun : Instant} {outcome : SupervisorOutcome} (timed : Timed waitLimit history world)
    (begins : waitBegun history = some begun) (yields : world.supervisorYields outcome = true)
    (same : after.clock = world.clock) (unended : after.supervisorEndedAt = world.supervisorEndedAt) :
    Timed waitLimit (.issued (.timeoutSupervisor (begun + waitLimit)) (some outcome) :: history)
      after where
  clock := same.trans timed.clock
  ended := timed.ended.trans unended.symm
  found deadline other listed := by
    rcases List.mem_cons.mp listed with last | before
    · obtain ⟨ended, present⟩ := World.supervisorEndedAt_of_yields yields
      obtain rfl : deadline = begun + waitLimit := by
        cases last
        rfl
      exact ⟨begun, ended, begins, rfl, timed.ended.trans present⟩
    · exact timed.found deadline other before
  late deadline listed := by
    have before := (List.mem_cons.mp listed).resolve_left fun last => nomatch last
    exact timed.late deadline before
  patient := timed.patient.cons _ fun _ => nofun

/-- A wait is given up at its deadline or later, for a task that had not ended before. -/
theorem elapses {waitLimit : Duration} {history : List Happening} {world after : World}
    {begun : Instant} (timed : Timed waitLimit history world)
    (begins : waitBegun history = some begun)
    (late : world.supervisorLate (begun + waitLimit) = true)
    (same : after.clock = world.clock) (unended : after.supervisorEndedAt = world.supervisorEndedAt) :
    Timed waitLimit (.issued (.timeoutSupervisor (begun + waitLimit)) none :: history) after := by
  obtain ⟨passed, unfinished⟩ := World.late_of_supervisorLate late
  rw [timed.clock] at passed
  rw [← timed.ended] at unfinished
  exact {
    clock := same.trans timed.clock
    ended := timed.ended.trans unended.symm
    found := fun deadline outcome listed => by
      have before := (List.mem_cons.mp listed).resolve_left fun last => nomatch last
      exact timed.found deadline outcome before
    late := fun deadline listed => by
      rcases List.mem_cons.mp listed with last | before
      · obtain rfl : deadline = begun + waitLimit := by
          cases last
          rfl
        exact ⟨begun, begins, rfl, passed, unfinished⟩
      · exact timed.late deadline before
    patient := fun later earlier deadline split => by
      cases later with
      | nil =>
        obtain ⟨-, rfl⟩ := List.cons.inj split
        exact ⟨begun, begins, passed, unfinished⟩
      | cons last rest => exact timed.patient rest earlier deadline (List.cons.inj split).2 }

/-- Each operation of a runtime keeps its account of time. Only reading the clock and the wait
itself say something new. -/
theorem issued {waitLimit : Duration} {history : List Happening} {world after : World} {op : Op}
    {reply : Reply op} (timed : Timed waitLimit history world)
    (permitted : (waiting waitLimit).permits (waitBegun history) op)
    (performed : world.perform op reply = some after) :
    Timed waitLimit (.issued op reply :: history) after := by
  obtain ⟨same, untouched⟩ := World.perform_timeless performed
  have unended : after.supervisorEndedAt = world.supervisorEndedAt := by
    unfold World.supervisorEndedAt
    rw [untouched]
  cases op with
  | now => exact timed.reads permitted same unended
  | timeoutSupervisor deadline =>
    obtain ⟨begun, begins, rfl⟩ := permitted
    cases reply with
    | none =>
      simp only [World.perform] at performed
      split at performed
      · rename_i late
        exact timed.elapses begins late same unended
      · cases performed
    | some outcome =>
      simp only [World.perform] at performed
      split at performed
      · rename_i yields
        exact timed.finds begins yields same unended
      · cases performed
  | _ => exact timed.cons _ rfl rfl rfl rfl same unended

/-- Time passes: what was late stays late, and what had ended before has the same instant. -/
theorem ticks {waitLimit : Duration} {history : List Happening} {world : World}
    (timed : Timed waitLimit history world) (waits : Option Op) (elapsed : Duration) :
    Timed waitLimit (.moved waits (.tick elapsed) :: history)
      { world with clock := world.clock + elapsed } where
  clock := congrArg (· + elapsed) timed.clock
  ended := timed.ended
  found deadline outcome listed := by
    have before := (List.mem_cons.mp listed).resolve_left fun last => nomatch last
    exact timed.found deadline outcome before
  late deadline listed := by
    have before := (List.mem_cons.mp listed).resolve_left fun last => nomatch last
    obtain ⟨begun, begins, same, passed, unended⟩ := timed.late deadline before
    exact ⟨begun, begins, same, Nat.le_add_right_of_le passed, unended⟩
  patient := timed.patient.cons _ fun _ => nofun

/-- The supervisor's task ends at the present clock, which is past the deadline of a wait that
was given up before. -/
theorem ends {waitLimit : Duration} {history : List Happening} {world : World}
    {outcome : SupervisorOutcome} (timed : Timed waitLimit history world) (waits : Option Op)
    (closing : world.supervisor = .closing outcome) :
    Timed waitLimit (.moved waits .supervisorEnds :: history)
      { world with supervisor := .ended outcome world.clock } where
  clock := timed.clock
  ended := congrArg some timed.clock.symm
  found deadline other listed := by
    have before := (List.mem_cons.mp listed).resolve_left fun last => nomatch last
    obtain ⟨begun, ended, -, -, present⟩ := timed.found deadline other before
    rw [timed.ended, World.supervisorEndedAt, closing] at present
    cases present
  late deadline listed := by
    have before := (List.mem_cons.mp listed).resolve_left fun last => nomatch last
    obtain ⟨begun, begins, same, passed, -⟩ := timed.late deadline before
    refine ⟨begun, begins, same, passed, fun ended now => ?_⟩
    rw [← Option.some.inj now]
    exact passed
  patient := timed.patient.cons _ fun _ => nofun

/-- Each move of the world keeps the account of time: a tick only adds to the clock, and a task
that ends does so at the instant that the clock shows. -/
theorem moved {waitLimit : Duration} {history : List Happening} {world after : World}
    {waits : Option Op} {move : Move} (timed : Timed waitLimit history world)
    (disturbed : world.move move = some after) :
    Timed waitLimit (.moved waits move :: history) after := by
  cases move with
  | tick elapsed =>
    obtain rfl := Option.some.inj disturbed
    exact timed.ticks waits elapsed
  | supervisorEnds =>
    simp only [World.move] at disturbed
    split at disturbed
    · rename_i outcome closing
      obtain rfl := Option.some.inj disturbed
      exact timed.ends waits closing
    · cases disturbed
  | request | closeLimiter =>
    obtain rfl := Option.some.inj disturbed
    exact timed.cons _ rfl rfl rfl rfl rfl rfl
  | clientEnds client result =>
    simp only [World.move] at disturbed
    split at disturbed <;> cases disturbed
    exact timed.cons _ rfl rfl rfl rfl rfl rfl
  | supervisorReturns outcome =>
    simp only [World.move] at disturbed
    split at disturbed
    · rename_i possible
      obtain rfl := Option.some.inj disturbed
      have unended : world.supervisorEndedAt = none := by
        unfold World.supervisorEndedAt
        rw [possible.1]
      exact timed.cons _ rfl rfl rfl rfl rfl unended.symm
    · cases disturbed

end Timed

/-- The monitor of the wait needs no assumption about the world. -/
def unassumingWait (waitLimit : Duration) : Coupling platform (waiting waitLimit) where
  relates _ _ := True
  answered _ _ _ := trivial
  issued _ _ _ := trivial
  moved _ _ _ := trivial

/-- In every run of `run_until` the account of time holds. In particular a wait is only given
up after the whole limit, for a task that had not ended within it. -/
theorem runUntil_timed {waitLimit : Duration} {history : List Happening}
    {program : Running (Except Error Unit)} {world : World}
    (reached : Reaches platform (runUntil waitLimit) World.initial history program world) :
    Timed waitLimit history world := by
  obtain ⟨begun, watched, -⟩ :=
    reached.watched (unassumingWait waitLimit) trivial (safe_runUntil_waiting waitLimit)
  have account := watched.always (unassumingWait waitLimit) trivial
    (fun history (begun : Option Instant) world =>
      waitBegun history = begun ∧ Timed waitLimit history world)
    ⟨rfl, .initial waitLimit⟩
    (fun before _ permitted performed => by
      obtain ⟨rfl, timed⟩ := before
      exact ⟨waitBegun_issued _ _ _, timed.issued permitted performed⟩)
    (fun before _ _ disturbed => ⟨before.1, before.2.moved disturbed⟩)
  exact account.2

/-- The supervisor's task was in time exactly when a wait for it was answered with its
outcome. A wait that was given up shows that it was not. -/
theorem Timed.inTime_iff {waitLimit : Duration} {history : List Happening} {world : World}
    (timed : Timed waitLimit history world) {deadline : Instant}
    {answer : Option SupervisorOutcome}
    (answered : .issued (.timeoutSupervisor deadline) answer ∈ history)
    (once : ∀ deadline other, .issued (.timeoutSupervisor deadline) other ∈ history →
      other = answer) :
    InTime waitLimit history ↔ answer.isSome = true := by
  constructor
  · rintro ⟨begun, ended, begins, ends, early | ⟨outcome, found⟩⟩
    · cases answer with
      | some outcome => rfl
      | none =>
        obtain ⟨instant, again, rfl, -, unended⟩ := timed.late deadline answered
        rw [begins] at again
        obtain rfl := Option.some.inj again
        exact absurd early (Nat.not_lt.mpr (unended ended ends))
    · rw [← once _ _ found]
      rfl
  · intro finds
    obtain ⟨outcome, rfl⟩ := Option.isSome_iff_exists.mp finds
    obtain ⟨begun, ended, begins, rfl, ends⟩ := timed.found deadline outcome answered
    exact ⟨begun, ended, begins, ends, .inr ⟨outcome, answered⟩⟩

end McServerNap.ServerRuntime
