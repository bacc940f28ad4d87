import McServerNap.DaemonAccount

/-!
# When the daemon returns `Ok`

A failure is only reported where a runtime or the watcher gives cause, and whoever gives cause
is reported before the coordinator has joined all runtimes and settled the watcher's end. So
the run returns `Ok` exactly when every runtime did what it should and the watcher did not
fail.
-/

namespace McServerNap.Coordinator

open Interaction

/-! ## Causes of failures -/

/-- A runtime or the watcher has given cause for a failure. A watcher that returned with
`ShutdownRequested` did so when no shutdown was pending. -/
def Caused (history : List Happening) (custody : Custody) (world : World) : Prop :=
  (∃ task ∈ world.runtimes, task.Faulty) ∨ world.watcher.Faulty ∨
    custody.watcher = some (.ok .shutdownRequested) ∧ exitedPending history = false

section Causes

variable {history : List Happening} {custody later : Custody} {world after : World}

/-- The coordinator fails only for a cause. A panic that it recorded is that of a runtime in its
list, and a result of the watcher that it saw is one that the watcher returned. -/
theorem Custody.Justified.caused (justified : custody.Justified)
    (watching : Watching history custody world) (tended : Tended history custody world) :
    Caused history custody world := by
  rcases justified with panicked | seen
  · obtain ⟨task, listed, failed⟩ := tended.panicked panicked
    exact .inl ⟨task, listed, .inr failed⟩
  · match observed : custody.watcher with
    | none =>
      rw [observed] at seen
      exact seen.elim
    | some (.ok .shutdownRequested) =>
      rw [observed] at seen
      exact .inr (.inr ⟨observed, watching.unrequested seen⟩)
    | some (.ok .failureReported) =>
      have ended := watching.seen _ observed
      exact .inr (.inl (.inr (.inl (by rw [ended]; rfl))))
    | some (.error (.panicked display)) =>
      have ended := watching.seen _ observed
      exact .inr (.inl (.inr (.inr ⟨display, by rw [ended]; rfl⟩)))
    | some (.error (.cancelled display)) =>
      rw [observed] at seen
      have ended := watching.seen _ observed
      have aborted := watching.cancelled display (by rw [ended]; rfl)
      rcases seen with unaborted | uncancelled
      · rw [watching.aborted, unaborted] at aborted
        cases aborted
      · cases uncancelled

/-- A cause remains when the coordinator acts: joining a runtime keeps its outcome, and what the
coordinator sees of the watcher was there before it looked. -/
theorem Caused.issued {happening : Happening} (caused : Caused history custody world)
    (conducted : Conducted custody world happening later after) :
    Caused (happening :: history) later after := by
  cases conducted with
  | idle | received | aborted | emptied | failed | took => exact caused
  | seen quiet result unseen ended =>
    rcases caused with faulty | faulty | ⟨observed, -⟩
    · exact .inl faulty
    · exact .inr (.inl faulty)
    · rw [unseen] at observed
      cases observed
  | joined completed task unfailing inactive joins present =>
    rcases caused with faulty | others
    · exact .inl (exists_mem_set present id faulty)
    · exact .inr others
  | read =>
    rcases custody.after_isPending world.pending with unchanged | ⟨-, first⟩
    · rw [unchanged]
      exact caused
    · rw [first]
      exact caused
  | spawned server =>
    rcases caused with ⟨task, listed, faulty⟩ | others
    · exact .inl ⟨task, List.mem_append_left _ listed, faulty⟩
    · exact .inr others

/-- A faulty watcher remains faulty, since its report is never taken back and a watcher that has
returned takes no further step. -/
theorem WatcherTask.Faulty.watched {step : WatcherStep} (faulty : world.watcher.Faulty)
    (stepped : world.watch step = some after) : after.watcher.Faulty := by
  cases step with
  | signal | request | listenerFails | report | quits =>
    simp only [World.watch] at stepped
    split at stepped <;> cases stepped
    rename_i present
    rw [present] at faulty
    rcases faulty with reports | returned | ⟨display, returned⟩
    · cases reports
    · cases returned
    · cases returned
  | cancels display =>
    simp only [World.watch] at stepped
    split at stepped <;> cases stepped
    rename_i present
    rw [present.1] at faulty
    rcases faulty with reports | returned | ⟨display, returned⟩
    · cases reports
    · cases returned
    · cases returned
  | send =>
    simp only [World.watch] at stepped
    split at stepped <;> cases stepped
    exact .inr (.inl rfl)
  | panics display =>
    simp only [World.watch] at stepped
    split at stepped <;> cases stepped <;> exact .inr (.inr ⟨display, rfl⟩)
  | drops | ends =>
    simp only [World.watch] at stepped
    split at stepped <;> cases stepped
    rename_i present
    rw [present] at faulty
    rcases faulty with reports | returned
    · cases reports
    · exact .inr returned

/-- A cause remains when the watcher acts. -/
theorem Caused.watched {waiting : Option Op} {step : WatcherStep}
    (caused : Caused history custody world) (watching : Watching history custody world)
    (stepped : world.watch step = some after) :
    Caused (.moved waiting (.watcher step) :: history) custody after := by
  have frame := World.watch_stepped stepped
  rcases caused with faulty | faulty | ⟨observed, -⟩
  · rw [← frame.runtimes] at faulty
    exact .inl faulty
  · exact .inr (.inl (faulty.watched stepped))
  · rw [watching.unseen frame] at observed
    cases observed

/-- A cause remains when a runtime's task acts: a faulty runtime stays faulty, and the watcher is
not touched. -/
theorem Caused.runtime {waiting : Option Op} {task : TaskId} {step : RuntimeStep}
    (caused : Caused history custody world)
    (stepped : World.RuntimeStepped world after task step) :
    Caused (.moved waiting (.runtime task step) :: history) custody after := by
  rcases caused with faulty | faulty | observed
  · left
    rw [stepped.runtimes]
    exact exists_mem_set stepped.found (fun faulty => faulty.advanced stepped.stepped) faulty
  · right
    left
    rw [stepped.watcher]
    exact faulty
  · exact .inr (.inr observed)

end Causes

/-! ## The whole account -/

/-- The coordinator never closes the limiter itself. -/
theorem Conducted.limiter {custody later : Custody} {world after : World} {happening : Happening}
    (conducted : Conducted custody world happening later after) :
    after.limiterClosed = world.limiterClosed := by
  cases conducted <;> rfl

/-- Everything that agrees while the connection limiter is open. -/
structure Account (history : List Happening) (custody : Custody) (world : World) : Prop where
  recording : Recording history custody world
  watching : Watching history custody world
  tended : Tended history custody world
  activation : Activation history world
  caused : reported history ≠ [] → Caused history custody world
  unlimited : world.limiterClosed = false

namespace Account

variable {history : List Happening} {custody : Custody} {world after : World}

/-- At the start all accounts are empty, and they agree. -/
theorem initial (signalled : Bool) : Account [] .initial (World.initial signalled) where
  recording := {
    pending := rfl
    failures := fun _ => rfl
    taken := nofun
    failed := nofun }
  watching := .initial signalled
  tended := .initial signalled
  activation := .initial signalled
  caused reports := absurd rfl reports
  unlimited := rfl

/-- The coordinator's operations keep every part of the account, each by its own lemma. -/
theorem issued {op : Op} {reply : Reply op} (account : Account history custody world)
    (permitted : custody.permits op) (performed : world.perform op reply = some after) :
    Account (.issued op reply :: history) (custody.after op reply) after := by
  have conduct := conducted permitted performed
  refine ⟨account.recording.issued conduct, account.watching.issued account.recording conduct,
    account.tended.issued conduct, account.activation.issued conduct, ?_, ?_⟩
  · intro reports
    have before : Caused history custody world := by
      cases op with
      | fail error => exact permitted.1.caused account.watching account.tended
      | _ =>
        rw [reported_quiet rfl] at reports
        exact account.caused reports
    exact before.issued conduct
  · exact conduct.limiter.trans account.unlimited

/-- So do the steps of the watcher. The failures were not yet taken when the watcher steps,
because the coordinator takes them after it has observed the watcher's end. -/
theorem watched {waiting : Option Op} {step : WatcherStep} (account : Account history custody world)
    (stepped : world.watch step = some after) :
    Account (.moved waiting (.watcher step) :: history) custody after := by
  have frame := World.watch_stepped stepped
  have untaken : custody.taken = none := by
    cases taken : custody.taken with
    | none => rfl
    | some failures =>
      have observed := (account.tended.taken (by rw [taken]; rfl)).2
      rw [account.watching.unseen frame] at observed
      cases observed
  refine ⟨account.recording.moved stepped fun _ => untaken, account.watching.watched stepped,
    account.tended.watched frame, ?_, ?_, frame.limiter.trans account.unlimited⟩
  · have same := account.activation.cons (.moved waiting (.watcher step)) rfl
    refine ⟨?_, ?_⟩
    · rw [frame.runtimes]
      exact same.activated
    · rw [frame.runtimes]
      exact same.joined
  · intro reports
    cases step with
    | report error =>
      simp only [World.watch] at stepped
      split at stepped <;> cases stepped
      exact .inr (.inl (.inl rfl))
    | _ =>
      rw [reported_quiet rfl] at reports
      exact (account.caused reports).watched account.watching stepped

/-- So do the steps of the runtimes' tasks. A failing monitoring task is the cause of what it
reports. -/
theorem runtime {waiting : Option Op} {task : TaskId} {step : RuntimeStep}
    (account : Account history custody world)
    (disturbed : world.move (.runtime task step) = some after) :
    Account (.moved waiting (.runtime task step) :: history) custody after := by
  obtain ⟨stepped⟩ := World.runtime_stepped disturbed
  have mem := List.mem_of_getElem? stepped.found
  have failing (error : Error) (fails : step = .fails error) :
      stepped.present.monitor = .failing error := by
    have advanced := stepped.stepped
    subst fails
    simp only [World.advanceTask] at advanced
    split at advanced
    · assumption
    · cases advanced
  refine ⟨account.recording.moved disturbed ?_, account.watching.runtime stepped,
    account.tended.runtime account.unlimited stepped, account.activation.runtime stepped, ?_,
    stepped.limiter.trans account.unlimited⟩
  · intro fails
    cases step with
    | fails error =>
      cases taken : custody.taken with
      | none => rfl
      | some failures =>
        have emptied := (account.tended.taken (by rw [taken]; rfl)).1
        obtain ⟨result, ended⟩ := (account.tended.sound _ mem).joined
          (account.tended.emptied emptied _ mem)
        rw [failing error rfl] at ended
        cases ended
    | advances | crashes | joins | monitorPanics => cases fails
  · intro reports
    cases step with
    | fails error =>
      have faulty := (account.tended.sound _ mem).failing error (failing error rfl)
      have caused : Caused history custody world := .inl ⟨_, mem, .inl faulty⟩
      exact caused.runtime stepped
    | advances | crashes | joins | monitorPanics =>
      rw [reported_quiet rfl] at reports
      exact (account.caused reports).runtime stepped

/-- So does every move of the others but the closing of the limiter. -/
theorem moved {waiting : Option Op} {move : Move} (account : Account history custody world)
    (unlimiting : Happening.closesLimiter (.moved waiting move) = false)
    (disturbed : world.move move = some after) :
    Account (.moved waiting move :: history) custody after := by
  cases move with
  | watcher step => exact account.watched disturbed
  | runtime task step => exact account.runtime disturbed
  | closeLimiter => cases unlimiting

end Account

/-! ## The result -/

/-- The custody of the coordinator needs no assumption about the world. -/
def unassuming : Coupling platform custodial where
  relates _ _ := True
  answered _ _ _ := trivial
  issued _ _ _ := trivial
  moved _ _ _ := trivial

/-- A runtime did what it should: no client task of it panicked, its supervisor kept running
until it was asked and then returned `Ok` within the wait limit of the server, and neither the
runtime's task nor its monitoring task panicked. -/
structure RuntimeTask.Proper (task : RuntimeTask) : Prop where
  calm : ∀ happening ∈ task.runtime.history, ServerRuntime.Happening.clientPanics happening = false
  obeyed : ServerRuntime.Obeyed task.server.waitLimit task.runtime.history
  whole : task.crashed = none
  monitored : task.monitor = .ended (.ok ())

section Result

variable {servers : List BoundServer} {signalled : Bool} {history : List Happening}
  {program : Coordinating (Except Error Unit)} {world : World} {result : Except Error Unit}

/-- Without a failure every runtime did what it should: each one was joined, a panic would have
been recorded, and an error of its supervisor would have been reported. -/
theorem Account.proper {custody : Custody} (account : Account history custody world)
    (emptied : custody.emptied = true) (recorded : custody.Recorded)
    (unreported : reported history = []) : ∀ task ∈ world.runtimes, task.Proper := by
  intro task mem
  have sound := account.tended.sound task mem
  have joined := account.tended.emptied emptied task mem
  obtain ⟨ending, ended⟩ := sound.joined joined
  cases ending with
  | error error =>
    have panicked := account.tended.noticed task mem joined error ended
    exact absurd unreported (account.recording.failed (recorded panicked))
  | ok value =>
    have outcome : task.outcome = some (.ok (.ok ())) := by
      rcases account.tended.concluded task mem ended with clean | ⟨-, reports⟩
      · exact clean
      · exact absurd unreported reports
    obtain ⟨whole, returned⟩ := RuntimeTask.outcome_ok outcome
    obtain ⟨calm, obeyed⟩ :=
      (ServerRuntime.runUntil_ok sound.continues returned sound.unlimited).1.mp rfl
    exact ⟨calm, obeyed, whole, ended⟩

end Result

/-! ## A run -/

/-- The replies that the world settles. What the coordinator waits for is up to the cues. -/
def World.dictated (world : World) : (op : Op) → Option (Reply op)
  | .yieldNow | .abortWatcher | .fail _ => some ()
  | .tryRecvFailure =>
    some (if 0 < world.messages then .received
      else if world.watcher.sends then .empty else .disconnected)
  | .watcherFinished => some world.watcher.isFinished
  | .awaitWatcher =>
    match world.watcher with
    | .ended result => some result
    | _ => none
  | .tryJoinNext => some none
  | .runtimesEmpty => some world.runtimesEmpty
  | .isPending => some world.pending
  | .spawnRuntime _ => some world.runtimes.length
  | .takeFailures => some world.failures
  | .select _ _ => none

/-- The coordinator's `select!` takes this branch. -/
def selected (event : Event) : Cue platform :=
  .reply fun
    | _, .select _ _ => some event
    | _, _ => none

/-- The first runtime's own program takes a step. -/
def runtimeStep (step : Advance ServerRuntime.Op ServerRuntime.Reply ServerRuntime.Move) :
    Cue platform := .move (.runtime 0 (.advances step))

/-- A signal arrives while one runtime is active. Its supervisor obeys: it returns 30 after the
runtime began to wait for it, within the limit of 50. -/
def signalledRun : Configuration platform (Except Error Unit) :=
  (Configuration.fresh platform (activateAndRun [⟨"survival", 50⟩]) (World.initial false)).rehearse
    World.dictated 32
    [.move (.watcher .signal), .move (.watcher .request), .move (.watcher .drops),
      .move (.watcher .ends), selected (.watcher (.ok .shutdownRequested)),
      runtimeStep .turn, runtimeStep (.issue .connectionsEmpty true), runtimeStep (.move .request),
      runtimeStep (.move (.tick 10)),
      runtimeStep (.issue (.select false) (.shutdown (.ok ()))), runtimeStep (.issue .abortAll ()),
      runtimeStep .turn, runtimeStep (.issue .joinNext none),
      runtimeStep (.issue .sendShutdown true), runtimeStep (.issue .now 10),
      runtimeStep (.move (.supervisorReturns (.ok (.ok ())))), runtimeStep (.move (.tick 30)),
      runtimeStep (.move .supervisorEnds),
      runtimeStep (.issue (.timeoutSupervisor 60) (some (.ok (.ok ())))),
      .move (.runtime 0 .joins), selected (.runtime (some ⟨0, .ok ()⟩))]

/-- The signalled run is one that the daemon can really take. -/
theorem signalledRun_reached :
    signalledRun.Continues (activateAndRun [⟨"survival", 50⟩]) (World.initial false) :=
  Configuration.rehearse_reached _ _ _ _ _

end McServerNap.Coordinator
