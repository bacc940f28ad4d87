import McServerNap.Custody
import McServerNap.RuntimeOutcome

/-!
# What the daemon returns

The failures that the tasks of the daemon report are the events of its history that record
an error. The coordinator returns the first of them as the primary one and the others after
it. It has then joined every runtime, and there is no failure exactly when every runtime
did what it should and the signal watcher was cancelled while it waited or returned with
the shutdown pending.
-/

namespace McServerNap.Coordinator

open Interaction

/-! ## What a history says -/

/-- One event of the daemon's execution. -/
abbrev Happening := Label Op Reply Move

/-- The error that is passed to `Shutdown::fail`. -/
def Happening.failure : Happening → Option Error
  | .issued (.fail error) _ => some error
  | .moved _ (.watcher (.report error)) => some error
  | .moved _ (.runtime _ (.fails error)) => some error
  | _ => none

/-- The errors that were passed to `Shutdown::fail`, in this order. -/
def reported (history : List Happening) : List Error :=
  (history.filterMap Happening.failure).reverse

/-- The runtime that the coordinator has activated by this event. -/
def Happening.activates : Happening → Option TaskId
  | .issued (.spawnRuntime _) task => some task
  | _ => none

/-- The monitoring task that the coordinator joins. -/
def Happening.joins : Happening → Option TaskId
  | .issued .tryJoinNext (some completed) => some completed.task
  | .issued (.select _ _) (.runtime (some completed)) => some completed.task
  | _ => none

/-- The event closes the connection limiter, which only tests of the source do. -/
def Happening.closesLimiter : Happening → Bool
  | .moved _ .closeLimiter => true
  | _ => false

/-- The watcher requests the shutdown. -/
def Happening.requests : Happening → Bool
  | .moved _ (.watcher .request) => true
  | _ => false

/-- A shutdown is pending after a request and after a failure. -/
def shutdownPending (history : List Happening) : Bool :=
  history.any fun happening => happening.requests || happening.failure.isSome

/-- The watcher returns with `ShutdownRequested`. -/
def Happening.exits : Happening → Bool
  | .moved _ (.watcher .request) | .moved _ (.watcher (.quits .shutdownRequested)) => true
  | _ => false

/-- The watcher has returned with `ShutdownRequested`, and the shutdown was pending then. -/
def exitedPending : List Happening → Bool
  | [] => false
  | happening :: earlier =>
    if happening.exits then shutdownPending (happening :: earlier) else exitedPending earlier

/-- An event adds its own failure behind those reported before, so the first failure of a history
is the first of this list. -/
theorem reported_cons (happening : Happening) (history : List Happening) :
    reported (happening :: history) = reported history ++ happening.failure.toList := by
  cases failure : happening.failure <;> simp [reported, failure]

/-- An event without a failure reports nothing. -/
theorem reported_quiet {happening : Happening} {history : List Happening}
    (quiet : happening.failure = none) : reported (happening :: history) = reported history := by
  rw [reported_cons, quiet]
  exact List.append_nil _

/-- What was reported stays reported. -/
theorem reported_nonempty {happening : Happening} {history : List Happening}
    (before : reported history ≠ []) : reported (happening :: history) ≠ [] := by
  rw [reported_cons]
  exact List.append_ne_nil_of_left_ne_nil before _

/-- A failure is reported by its own event. -/
theorem reported_failure {happening : Happening} {history : List Happening} {error : Error}
    (fails : happening.failure = some error) : reported (happening :: history) ≠ [] := by
  rw [reported_cons, fails]
  exact List.append_ne_nil_of_right_ne_nil _ (List.cons_ne_nil _ _)

/-- A shutdown is pending since a request or a failure, whichever came first. -/
theorem shutdownPending_cons (happening : Happening) (history : List Happening) :
    shutdownPending (happening :: history) = true ↔
      happening.requests = true ∨ happening.failure.isSome = true ∨
        shutdownPending history = true := by
  simp [shutdownPending, or_assoc]

/-- The shutdown is pending since the watcher has returned with it pending. -/
theorem pending_of_exited {history : List Happening} (exited : exitedPending history = true) :
    shutdownPending history = true := by
  induction history with
  | nil => cases exited
  | cons happening earlier inductionHypothesis =>
    simp only [exitedPending] at exited
    split at exited
    · exact exited
    · exact (shutdownPending_cons _ _).mpr (.inr (.inr (inductionHypothesis exited)))

/-- The event neither reports, activates nor joins anything. -/
structure Happening.Quiet (happening : Happening) : Prop where
  unfailing : happening.failure = none
  inactive : happening.activates = none
  apart : happening.joins = none

/-- What an operation of the coordinator can do to its custody and to the world. -/
inductive Conducted (custody : Custody) (world : World) : Happening → Custody → World → Prop
  | idle {op : Op} {reply : Reply op} (quiet : Happening.Quiet (.issued op reply)) :
      Conducted custody world (.issued op reply) custody world
  | received {op : Op} {reply : Reply op} (quiet : Happening.Quiet (.issued op reply))
      (present : 0 < world.messages) :
      Conducted custody world (.issued op reply) { custody with received := true }
        { world with messages := world.messages - 1 }
  | seen {op : Op} {reply : Reply op} (quiet : Happening.Quiet (.issued op reply))
      (result : WatcherResult) (unseen : custody.watcher = none)
      (ended : world.watcher = .ended result) :
      Conducted custody world (.issued op reply) (custody.see result) world
  | aborted : Conducted custody world (.issued .abortWatcher ())
      { custody with aborted := true } { world with aborted := true }
  | joined {op : Op} {reply : Reply op} (completed : Completed) (task : RuntimeTask)
      (unfailing : Happening.failure (.issued op reply) = none)
      (inactive : Happening.activates (.issued op reply) = none)
      (joins : Happening.joins (.issued op reply) = some completed.task)
      (present : world.runtimes[completed.task]? = some task) (unjoined : task.joined = false)
      (ended : task.monitor = .ended completed.result) :
      Conducted custody world (.issued op reply) (custody.join completed)
        { world with runtimes := world.runtimes.set completed.task { task with joined := true } }
  | emptied {op : Op} {reply : Reply op} (quiet : Happening.Quiet (.issued op reply))
      (empty : world.runtimesEmpty = true) :
      Conducted custody world (.issued op reply) { custody with emptied := true } world
  | read : Conducted custody world (.issued .isPending world.pending)
      (custody.after .isPending world.pending) world
  | spawned (server : BoundServer) (unemptied : custody.emptied = false) :
      Conducted custody world (.issued (.spawnRuntime server) world.runtimes.length) custody
        { world with runtimes := world.runtimes ++ [.spawn server] }
  | failed (error : Error) (justified : custody.Justified) (untaken : custody.taken = none) :
      Conducted custody world (.issued (.fail error) ()) { custody with failed := true }
        (world.fail error)
  | took (emptied : custody.emptied = true) (recorded : custody.Recorded)
      (settled : custody.Settled) (untaken : custody.taken = none) :
      Conducted custody world (.issued .takeFailures world.failures)
        { custody with taken := some world.failures } { world with failures := .empty }

/-- A task that is joined was in the set, with its result. -/
theorem World.joins_some {world after : World} {completed : Completed}
    (joins : world.joins (some completed) = some after) :
    ∃ task, world.runtimes[completed.task]? = some task ∧ task.joined = false ∧
      task.monitor = .ended completed.result ∧
      after = { world with
        runtimes := world.runtimes.set completed.task { task with joined := true } } := by
  simp only [World.joins] at joins
  split at joins
  · cases joins
  · rename_i task present
    split at joins
    · rename_i yields
      simp only [RuntimeTask.yields, Bool.and_eq_true, Bool.not_eq_true', decide_eq_true_eq]
        at yields
      exact ⟨task, present, yields.1, yields.2, (Option.some.inj joins).symm⟩
    · cases joins

/-- Joining a task conducts the custody of its result, by whichever operation it is joined: both
`join_next` and the `select!` of the drain end here. -/
theorem Conducted.of_joins {custody : Custody} {world after : World} {op : Op} {reply : Reply op}
    {completed : Completed} (unfailing : Happening.failure (.issued op reply) = none)
    (inactive : Happening.activates (.issued op reply) = none)
    (joined : Happening.joins (.issued op reply) = some completed.task)
    (joins : world.joins (some completed) = some after) :
    Conducted custody world (.issued op reply) (custody.join completed) after := by
  obtain ⟨task, present, unjoined, ended, rfl⟩ := World.joins_some joins
  exact .joined completed task unfailing inactive joined present unjoined ended

/-- Waiting for the watcher and the runtimes together does what the branch that completes does:
a message is received, the watcher is seen, a runtime is joined, or the set is found empty. -/
theorem conducted_select {custody : Custody} {world after : World} {receiving watching : Bool}
    {selected : Reply (.select receiving watching)}
    (permitted : custody.permits (.select receiving watching))
    (performed : world.perform (.select receiving watching) selected = some after) :
    Conducted custody world (.issued (.select receiving watching) selected)
      (custody.after (.select receiving watching) selected) after := by
  cases selected with
  | infrastructure message =>
    cases message with
    | some received =>
      simp only [World.perform] at performed
      split at performed
      · rename_i waiting
        cases performed
        exact .received ⟨rfl, rfl, rfl⟩ waiting.2
      · cases performed
    | none =>
      simp only [World.perform] at performed
      split at performed <;> cases performed
      exact .idle ⟨rfl, rfl, rfl⟩
  | watcher result =>
    simp only [World.perform] at performed
    split at performed
    · rename_i ended
      cases performed
      exact .seen ⟨rfl, rfl, rfl⟩ result (permitted ended.1) ended.2
    · cases performed
  | runtime joined =>
    cases joined with
    | some completed => exact .of_joins rfl rfl rfl performed
    | none =>
      simp only [World.perform] at performed
      split at performed <;> cases performed
      exact .emptied ⟨rfl, rfl, rfl⟩ (by assumption)

/-- The daemon's tasks are watched through `Conducted`: an operation that the custody permits and
the world performs is one of its cases. -/
theorem conducted {custody : Custody} {world after : World} {op : Op} {reply : Reply op}
    (permitted : custody.permits op) (performed : world.perform op reply = some after) :
    Conducted custody world (.issued op reply) (custody.after op reply) after := by
  cases op with
  | yieldNow =>
    obtain rfl := Option.some.inj performed
    exact .idle ⟨rfl, rfl, rfl⟩
  | tryRecvFailure =>
    cases reply <;> simp only [World.perform] at performed <;> split at performed <;>
      cases performed
    · exact .received ⟨rfl, rfl, rfl⟩ (by assumption)
    · exact .idle ⟨rfl, rfl, rfl⟩
    · exact .idle ⟨rfl, rfl, rfl⟩
  | watcherFinished =>
    simp only [World.perform] at performed
    split at performed <;> cases performed
    exact .idle ⟨rfl, rfl, rfl⟩
  | awaitWatcher =>
    simp only [World.perform] at performed
    split at performed <;> cases performed
    exact .seen ⟨rfl, rfl, rfl⟩ reply permitted (by assumption)
  | abortWatcher =>
    obtain rfl := Option.some.inj performed
    exact .aborted
  | tryJoinNext =>
    cases reply with
    | none =>
      obtain rfl := Option.some.inj performed
      exact .idle ⟨rfl, rfl, rfl⟩
    | some completed => exact .of_joins rfl rfl rfl performed
  | runtimesEmpty =>
    simp only [World.perform] at performed
    split at performed
    · rename_i same
      cases performed
      cases reply with
      | true => exact .emptied ⟨rfl, rfl, rfl⟩ same.symm
      | false => exact .idle ⟨rfl, rfl, rfl⟩
    · cases performed
  | isPending =>
    simp only [World.perform] at performed
    split at performed
    · rename_i same
      cases performed
      rw [same]
      exact .read
    · cases performed
  | spawnRuntime server =>
    simp only [World.perform] at performed
    split at performed
    · rename_i same
      cases performed
      rw [same]
      exact .spawned server permitted
    · cases performed
  | select receiving watching => exact conducted_select permitted performed
  | fail error =>
    obtain rfl := Option.some.inj performed
    exact .failed error permitted.1 permitted.2
  | takeFailures =>
    simp only [World.perform] at performed
    split at performed
    · rename_i same
      cases performed
      rw [same]
      exact .took permitted.1 permitted.2.1 permitted.2.2.1 permitted.2.2.2
    · cases performed

/-- Whoever moves, an error is recorded exactly when one is reported: by the watcher, or by the
monitoring task of a runtime that failed. Both make the shutdown pending as well. -/
theorem World.move_failures {world after : World} {move : Move}
    (moved : world.move move = some after) (waiting : Option Op) :
    (∃ error, Happening.failure (.moved waiting move) = some error ∧
      after.failures = world.failures.record error ∧ after.pending = true) ∨
    (Happening.failure (.moved waiting move) = none ∧ after.failures = world.failures ∧
      after.pending = (world.pending || Happening.requests (.moved waiting move))) := by
  cases move with
  | closeLimiter =>
    obtain rfl := Option.some.inj moved
    exact .inr ⟨rfl, rfl, (Bool.or_false _).symm⟩
  | runtime task step =>
    obtain ⟨present, found, advanced⟩ := Option.bind_eq_some_iff.mp moved
    obtain ⟨later, stepped, same⟩ := Option.map_eq_some_iff.mp advanced
    cases step with
    | fails error =>
      subst same
      exact .inl ⟨error, rfl, rfl, rfl⟩
    | advances | crashes | joins | monitorPanics =>
      subst same
      exact .inr ⟨rfl, rfl, (Bool.or_false _).symm⟩
  | watcher step =>
    cases step with
    | report error =>
      simp only [World.move, World.watch] at moved
      split at moved <;> cases moved
      exact .inl ⟨error, rfl, rfl, rfl⟩
    | request =>
      simp only [World.move, World.watch] at moved
      split at moved <;> cases moved
      exact .inr ⟨rfl, rfl, (Bool.or_true _).symm⟩
    | signal | listenerFails | send | quits | cancels =>
      simp only [World.move, World.watch] at moved
      split at moved <;> cases moved
      exact .inr ⟨rfl, rfl, (Bool.or_false _).symm⟩
    | panics | drops | ends =>
      simp only [World.move, World.watch] at moved
      split at moved <;> cases moved <;> exact .inr ⟨rfl, rfl, (Bool.or_false _).symm⟩

/-! ## The tasks of a runtime -/

namespace RuntimeTask

/-- What holds of the tasks of a runtime at any time. The monitoring task only fails for a
runtime that has ended with anything but `Ok`. -/
structure Sound (task : RuntimeTask) : Prop where
  continues : task.runtime.Continues (ServerRuntime.runUntil task.server.waitLimit)
    ServerRuntime.World.initial
  unlimited : ∀ happening ∈ task.runtime.history,
    ServerRuntime.Happening.closesLimiter happening = false
  failing : ∀ error, task.monitor = .failing error →
    ∃ result, task.outcome = some result ∧ result ≠ .ok (.ok ())
  joined : task.joined = true → ∃ result, task.monitor = .ended result

/-- The runtime has ended with anything but `Ok`, or its monitoring task has panicked. -/
def Faulty (task : RuntimeTask) : Prop :=
  (∃ result, task.outcome = some result ∧ result ≠ .ok (.ok ())) ∨
    ∃ error, task.monitor = .ended (.error error)

/-- An activated runtime has done nothing yet. -/
theorem sound_spawn (server : BoundServer) : (spawn server).Sound where
  continues := .start
  unlimited _ listed := nomatch listed
  failing := nofun
  joined := nofun

variable {world : World} {task after : RuntimeTask} {step : RuntimeStep}

/-- An ended runtime keeps its outcome, because a runtime that has ended takes no step of its own,
and what its monitoring task does leaves the outcome alone. -/
theorem outcome_advanced (advanced : world.advanceTask task step = some after)
    {result : Except JoinError (Except Error Unit)} (ended : task.outcome = some result) :
    after.outcome = some result := by
  cases step with
  | advances step =>
    simp only [World.advanceTask] at advanced
    split at advanced
    · rename_i possible
      obtain ⟨runtime, moved, rfl⟩ := Option.map_eq_some_iff.mp advanced
      have running := Option.isNone_iff_eq_none.mp possible.1
      simp only [outcome, running] at ended ⊢
      obtain ⟨value, finished, same⟩ := Option.map_eq_some_iff.mp ended
      rw [Configuration.advance_value finished moved, finished]
      exact congrArg some same
    · cases advanced
  | crashes display =>
    simp only [World.advanceTask, ended] at advanced
    cases advanced
  | joins =>
    simp only [World.advanceTask] at advanced
    split at advanced <;> cases advanced
    exact ended
  | fails error =>
    simp only [World.advanceTask] at advanced
    split at advanced <;> cases advanced
    exact ended
  | monitorPanics display =>
    simp only [World.advanceTask] at advanced
    split at advanced <;> cases advanced
    exact ended

/-- An ended monitoring task keeps its result. -/
theorem monitor_advanced (advanced : world.advanceTask task step = some after)
    {result : Except JoinError Unit} (ended : task.monitor = .ended result) :
    after.monitor = .ended result := by
  cases step with
  | advances step =>
    simp only [World.advanceTask] at advanced
    split at advanced
    · obtain ⟨runtime, moved, rfl⟩ := Option.map_eq_some_iff.mp advanced
      exact ended
    · cases advanced
  | crashes display =>
    simp only [World.advanceTask] at advanced
    split at advanced <;> cases advanced
    exact ended
  | joins | fails | monitorPanics =>
    simp only [World.advanceTask, ended] at advanced
    cases advanced

/-- Only the coordinator joins a task; no step of the task itself or of its monitor does. -/
theorem joined_advanced (advanced : world.advanceTask task step = some after) :
    after.joined = task.joined := by
  cases step with
  | advances step =>
    simp only [World.advanceTask] at advanced
    split at advanced
    · obtain ⟨runtime, moved, rfl⟩ := Option.map_eq_some_iff.mp advanced
      rfl
    · cases advanced
  | crashes | joins | fails | monitorPanics =>
    simp only [World.advanceTask] at advanced
    split at advanced <;> cases advanced
    rfl

/-- A runtime that went wrong stays wrong, as outcomes and results are kept. -/
theorem Faulty.advanced (faulty : task.Faulty)
    (advanced : world.advanceTask task step = some after) : after.Faulty := by
  rcases faulty with ⟨result, ended, bad⟩ | ⟨error, panicked⟩
  · exact .inl ⟨result, outcome_advanced advanced ended, bad⟩
  · exact .inr ⟨error, monitor_advanced advanced panicked⟩

end RuntimeTask

/-! ## The account of a run -/

/-- The world has recorded what was reported. -/
structure Recording (history : List Happening) (custody : Custody) (world : World) : Prop where
  pending : world.pending = shutdownPending history
  failures : custody.taken = none → world.failures = .ofList (reported history)
  taken : ∀ failures, custody.taken = some failures → failures = .ofList (reported history)
  failed : custody.failed = true → reported history ≠ []

/-- An event that neither requests nor fails leaves the shutdown as it was. -/
theorem shutdownPending_quiet {happening : Happening} {history : List Happening}
    (unrequested : happening.requests = false) (unfailing : happening.failure = none) :
    shutdownPending (happening :: history) = shutdownPending history := by
  simp [shutdownPending, unrequested, unfailing]

namespace Recording

variable {history : List Happening} {custody later : Custody} {world after : World}

/-- An event that reports nothing leaves the record as it is. Most events are of this kind, and
need only to show that they neither fail nor request. -/
theorem quiet (recording : Recording history custody world) (happening : Happening)
    (unrequested : happening.requests = false) (unfailing : happening.failure = none) :
    Recording (happening :: history) custody world where
  pending := by
    rw [shutdownPending_quiet unrequested unfailing]
    exact recording.pending
  failures := by
    rw [reported_quiet unfailing]
    exact recording.failures
  taken := by
    rw [reported_quiet unfailing]
    exact recording.taken
  failed := by
    rw [reported_quiet unfailing]
    exact recording.failed

/-- A failure is recorded behind those that came before, as long as the coordinator has not taken
them; it makes the shutdown pending as well. -/
theorem records (recording : Recording history custody world) (happening : Happening)
    {error : Error} (untaken : custody.taken = none)
    (fails : happening.failure = some error) :
    Recording (happening :: history) custody
      { world with failures := world.failures.record error, pending := true } where
  pending := ((shutdownPending_cons _ _).mpr (.inr (.inl (by rw [fails]; rfl)))).symm
  failures _ := by
    rw [reported_cons, fails]
    simp only [recording.failures untaken, FatalErrors.record_ofList]
    rfl
  taken := by
    rw [untaken]
    exact nofun
  failed _ := reported_failure fails

/-- The operations of the coordinator keep the record: a failure enters it as it is reported, and
taking the failures takes exactly those. -/
theorem issued {happening : Happening} (recording : Recording history custody world)
    (conducted : Conducted custody world happening later after) :
    Recording (happening :: history) later after := by
  cases conducted with
  | idle quiet => exact recording.quiet _ rfl quiet.unfailing
  | received quiet =>
    have same := recording.quiet _ rfl quiet.unfailing
    exact { same with failed := same.failed }
  | seen quiet =>
    have same := recording.quiet _ rfl quiet.unfailing
    exact { same with failed := same.failed }
  | aborted =>
    have same := recording.quiet (.issued .abortWatcher ()) rfl rfl
    exact { same with failed := same.failed }
  | joined completed task unfailing =>
    have same := recording.quiet _ rfl unfailing
    exact { same with failed := same.failed }
  | emptied quiet =>
    have same := recording.quiet _ rfl quiet.unfailing
    exact { same with failed := same.failed }
  | read =>
    have same := recording.quiet (.issued .isPending world.pending) rfl rfl
    simp only [Custody.after]
    split
    · exact { same with failed := same.failed }
    · exact same
  | spawned server =>
    have same := recording.quiet
      (.issued (.spawnRuntime server) world.runtimes.length) rfl rfl
    exact { same with failed := same.failed }
  | failed error justified untaken =>
    have recorded := recording.records (.issued (.fail error) ()) untaken rfl
    exact { recorded with failed := fun _ => reported_failure rfl }
  | took emptied recorded settled untaken =>
    have same := recording.quiet (.issued .takeFailures world.failures) rfl rfl
    exact { same with
      failures := by simp
      taken := fun failures taken => by
        obtain rfl := Option.some.inj taken
        exact same.failures untaken }

/-- So do the others' moves, as long as none of them fails after the failures were taken. -/
theorem moved {waiting : Option Op} {move : Move} (recording : Recording history custody world)
    (disturbed : world.move move = some after)
    (untaken : (Happening.failure (.moved waiting move)).isSome = true → custody.taken = none) :
    Recording (.moved waiting move :: history) custody after := by
  rcases World.move_failures disturbed waiting with
    ⟨error, fails, failures, pending⟩ | ⟨unfailing, failures, pending⟩
  · have recorded := recording.records _ (untaken (by rw [fails]; rfl)) fails
    exact { recorded with
      pending := pending.trans recorded.pending
      failures := fun untaken => failures.trans (recorded.failures untaken) }
  · refine ⟨?_, ?_, ?_, ?_⟩
    · rw [pending, recording.pending]
      simp [shutdownPending, unfailing, Bool.or_comm]
    · rw [reported_quiet unfailing, failures]
      exact recording.failures
    · rw [reported_quiet unfailing]
      exact recording.taken
    · rw [reported_quiet unfailing]
      exact recording.failed

end Recording

end McServerNap.Coordinator
