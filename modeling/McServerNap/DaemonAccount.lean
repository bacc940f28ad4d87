import McServerNap.Daemon

/-!
# The account of the watcher and of the runtimes

What the coordinator has in custody, what its world contains and what its history says agree.
The watcher's end is known with the messages it has sent, a runtime's end is reported unless
it is `Ok` after the shutdown, and the runtimes are those that were activated.
-/

namespace McServerNap.Coordinator

open Interaction

universe u

/-! ## The watcher's task -/

namespace WatcherTask

/-- What the task has returned. -/
def result : WatcherTask → Option WatcherResult
  | .returned result | .dropped result | .ended result => some result
  | _ => none

/-- The watcher has reported a failure, panicked, or said that it had reported one. -/
def Faulty (watcher : WatcherTask) : Prop :=
  watcher = .reporting ∨ watcher.result = some (.ok .failureReported) ∨
    ∃ display, watcher.result = some (.error (.panicked display))

end WatcherTask

namespace World

variable {world after : World}

/-- What a step of the watcher leaves as it is. It never acts once it has ended. -/
structure WatcherStepped (world after : World) : Prop where
  runtimes : after.runtimes = world.runtimes
  limiter : after.limiterClosed = world.limiterClosed
  aborted : after.aborted = world.aborted
  unended : ∀ result, world.watcher ≠ .ended result

/-- Every step of the watcher is framed, by cases on the step: it leaves the runtimes, the limiter
and the abort alone, and only a watcher that has not ended takes one. -/
theorem watch_stepped {step : WatcherStep} (watched : world.watch step = some after) :
    WatcherStepped world after := by
  cases step with
  | signal | request | listenerFails | report | send | quits =>
    simp only [watch] at watched
    split at watched
    · rename_i present
      obtain rfl := Option.some.inj watched
      exact ⟨rfl, rfl, rfl, fun result => by rw [present]; simp⟩
    · cases watched
  | cancels display =>
    simp only [watch] at watched
    split at watched
    · rename_i present
      obtain rfl := Option.some.inj watched
      exact ⟨rfl, rfl, rfl, fun result => by rw [present.1]; simp⟩
    · cases watched
  | panics | drops | ends =>
    simp only [watch] at watched
    split at watched <;> cases watched
    all_goals
      rename_i present
      exact ⟨rfl, rfl, rfl, fun result => by rw [present]; simp⟩

/-- What a step of a runtime's tasks changes: one task, and what is recorded. -/
structure RuntimeStepped (world after : World) (task : TaskId) (step : RuntimeStep) where
  present : RuntimeTask
  advanced : RuntimeTask
  found : world.runtimes[task]? = some present
  stepped : world.advanceTask present step = some advanced
  runtimes : after.runtimes = world.runtimes.set task advanced
  watcher : after.watcher = world.watcher
  messages : after.messages = world.messages
  aborted : after.aborted = world.aborted
  limiter : after.limiterClosed = world.limiterClosed

/-- Every step of a runtime's tasks changes that runtime only. A failing monitoring task adds its
error to the record. -/
theorem runtime_stepped {task : TaskId} {step : RuntimeStep}
    (moved : world.move (.runtime task step) = some after) :
    Nonempty (RuntimeStepped world after task step) := by
  obtain ⟨present, found, advanced⟩ := Option.bind_eq_some_iff.mp moved
  obtain ⟨later, stepped, same⟩ := Option.map_eq_some_iff.mp advanced
  cases step with
  | fails error =>
    subst same
    exact ⟨⟨present, later, found, stepped, rfl, rfl, rfl, rfl, rfl⟩⟩
  | advances | crashes | joins | monitorPanics =>
    subst same
    exact ⟨⟨present, later, found, stepped, rfl, rfl, rfl, rfl, rfl⟩⟩

end World

/-! ## The watcher's account -/

/-- What the coordinator and the world know of the watcher. -/
structure Watching (history : List Happening) (custody : Custody) (world : World) : Prop where
  seen : ∀ result, custody.watcher = some result → world.watcher = .ended result
  received : custody.received = true → reported history ≠ []
  messages : 0 < world.messages → reported history ≠ []
  reporting : world.watcher = .reporting → reported history ≠ []
  aborted : world.aborted = custody.aborted
  cancelled : ∀ display, world.watcher.result = some (.error (.cancelled display)) →
    world.aborted = true
  read : custody.requested.isSome = true → custody.watcher.isSome = true
  requested : custody.requested = some true → shutdownPending history = true
  unrequested : custody.requested = some false → exitedPending history = false

/-- A reading of the pending shutdown is kept when it is the first one after the watcher's
end. -/
theorem Custody.after_isPending (custody : Custody) (pending : Bool) :
    custody.after .isPending pending = custody ∨
      custody.watcher.isSome = true ∧
        custody.after .isPending pending = { custody with requested := some pending } := by
  simp only [Custody.after]
  split
  · rename_i unread
    rw [Bool.and_eq_true] at unread
    exact .inr ⟨unread.1, rfl⟩
  · exact .inl rfl

namespace Watching

variable {history : List Happening} {custody later : Custody} {world after : World}

/-- Before its first operation the coordinator has seen nothing of the watcher. -/
theorem initial (signalled : Bool) : Watching [] .initial (World.initial signalled) where
  seen := nofun
  received := nofun
  messages := nofun
  reporting waits := by cases signalled <;> cases waits
  aborted := rfl
  cancelled display cancelled := by cases signalled <;> cases cancelled
  read := nofun
  requested := nofun
  unrequested := nofun

/-- An event by which the watcher does not return keeps the account. -/
theorem cons (watching : Watching history custody world) (happening : Happening)
    (staying : happening.exits = false) : Watching (happening :: history) custody world where
  seen := watching.seen
  received received := reported_nonempty (watching.received received)
  messages sent := reported_nonempty (watching.messages sent)
  reporting reports := reported_nonempty (watching.reporting reports)
  aborted := watching.aborted
  cancelled := watching.cancelled
  read := watching.read
  requested pending := (shutdownPending_cons _ _).mpr (.inr (.inr (watching.requested pending)))
  unrequested pending := by
    simp only [exitedPending, staying, Bool.false_eq_true, if_false]
    exact watching.unrequested pending

/-- The coordinator's operations keep the account of the watcher: what is seen, read or aborted is
entered in the same step. -/
theorem issued {happening : Happening} (watching : Watching history custody world)
    (recording : Recording history custody world)
    (conducted : Conducted custody world happening later after) :
    Watching (happening :: history) later after := by
  cases conducted with
  | @idle op reply quiet => exact watching.cons (.issued op reply) rfl
  | @received op reply quiet present =>
    have same := watching.cons (.issued op reply) rfl
    exact { same with
      received := fun _ => same.messages present
      messages := fun more => same.messages present }
  | @seen op reply quiet result unseen ended =>
    have same := watching.cons (.issued op reply) rfl
    exact { same with
      seen := fun other now => by
        obtain rfl := Option.some.inj now
        exact ended
      read := nofun
      requested := nofun
      unrequested := nofun }
  | aborted =>
    have same := watching.cons (.issued .abortWatcher ()) rfl
    exact { same with
      aborted := rfl
      cancelled := fun _ _ => rfl }
  | @joined op reply completed task =>
    have same := watching.cons (.issued op reply) rfl
    exact { same with read := same.read }
  | @emptied op reply quiet =>
    have same := watching.cons (.issued op reply) rfl
    exact { same with read := same.read }
  | read =>
    have same := watching.cons (.issued .isPending world.pending) rfl
    rcases custody.after_isPending world.pending with unchanged | ⟨watched, first⟩
    · rw [unchanged]
      exact same
    · rw [first]
      exact { same with
        read := fun _ => watched
        requested := fun pending => by
          rw [shutdownPending_quiet rfl rfl, ← recording.pending]
          exact Option.some.inj pending
        unrequested := fun unpending => by
          apply Bool.eq_false_iff.mpr
          intro exited
          have pending : shutdownPending history = true := pending_of_exited exited
          rw [← recording.pending, Option.some.inj unpending] at pending
          cases pending }
  | spawned server =>
    have same := watching.cons (.issued (.spawnRuntime server) world.runtimes.length) rfl
    exact { same with read := same.read }
  | failed error =>
    have same := watching.cons (.issued (.fail error) ()) rfl
    exact { same with read := same.read }
  | took =>
    have same := watching.cons (.issued .takeFailures world.failures) rfl
    exact { same with read := same.read }

/-- The watcher only acts before the coordinator has seen its end. -/
theorem unseen (watching : Watching history custody world)
    (stepped : World.WatcherStepped world after) : custody.watcher = none := by
  cases observed : custody.watcher with
  | none => rfl
  | some result => exact absurd (watching.seen result observed) (stepped.unended result)

/-- A step of the watcher keeps the account of what it has told. The cases are those of the step;
the watcher had not ended before it, so nothing that it returned had been seen. -/
theorem watched {waiting : Option Op} {step : WatcherStep}
    (watching : Watching history custody world) (stepped : world.watch step = some after) :
    Watching (.moved waiting (.watcher step) :: history) custody after := by
  have frame := World.watch_stepped stepped
  have unseen := watching.unseen frame
  have unread : custody.requested = none := by
    cases requested : custody.requested with
    | none => rfl
    | some pending =>
      have observed := watching.read (by rw [requested]; rfl)
      rw [unseen] at observed
      cases observed
  have account (messages : 0 < after.messages →
        reported (.moved waiting (.watcher step) :: history) ≠ [])
      (reporting : after.watcher = .reporting →
        reported (.moved waiting (.watcher step) :: history) ≠ [])
      (cancelled : ∀ display, after.watcher.result = some (.error (.cancelled display)) →
        world.aborted = true) :
      Watching (.moved waiting (.watcher step) :: history) custody after := {
    seen := by
      rw [unseen]
      simp
    received := fun received => reported_nonempty (watching.received received)
    messages := messages
    reporting := reporting
    aborted := frame.aborted.trans watching.aborted
    cancelled := fun display returned => frame.aborted.trans (cancelled display returned)
    read := by
      rw [unread]
      simp
    requested := by
      rw [unread]
      simp
    unrequested := by
      rw [unread]
      simp }
  have sent (before : 0 < world.messages) :
      reported (.moved waiting (.watcher step) :: history) ≠ [] :=
    reported_nonempty (watching.messages before)
  cases step with
  | signal | request | listenerFails | quits =>
    simp only [World.watch] at stepped
    split at stepped <;> cases stepped
    exact account sent (by simp) (by rintro _ ⟨⟩)
  | report error =>
    simp only [World.watch] at stepped
    split at stepped <;> cases stepped
    exact account sent (fun _ => reported_failure rfl) (by rintro _ ⟨⟩)
  | send =>
    simp only [World.watch] at stepped
    split at stepped <;> cases stepped
    rename_i reports
    exact account (fun _ => reported_nonempty (watching.reporting reports)) (by simp)
      (by rintro _ ⟨⟩)
  | cancels display =>
    simp only [World.watch] at stepped
    split at stepped <;> cases stepped
    rename_i present
    exact account sent (by simp) fun _ _ => present.2
  | panics display =>
    simp only [World.watch] at stepped
    split at stepped <;> cases stepped <;> exact account sent (by simp) (by rintro _ ⟨⟩)
  | drops | ends =>
    simp only [World.watch] at stepped
    split at stepped <;> cases stepped
    rename_i present
    apply account sent (by simp)
    intro display returned
    apply watching.cancelled display
    rw [present]
    exact returned

/-- A step of a runtime's tasks leaves the watcher and its messages alone, so the account of the
watcher needs nothing but the frame of that step. -/
theorem runtime {waiting : Option Op} {task : TaskId} {step : RuntimeStep}
    (watching : Watching history custody world)
    (stepped : World.RuntimeStepped world after task step) :
    Watching (.moved waiting (.runtime task step) :: history) custody after := by
  have same := watching.cons (.moved waiting (.runtime task step)) rfl
  exact { same with
    seen := by
      rw [stepped.watcher]
      exact same.seen
    messages := by
      rw [stepped.messages]
      exact same.messages
    reporting := by
      rw [stepped.watcher]
      exact same.reporting
    aborted := stepped.aborted.trans same.aborted
    cancelled := by
      rw [stepped.watcher, stepped.aborted]
      exact same.cancelled }

end Watching

/-! ## The account of the runtimes -/

/-- A runtime has no failure to report when it returned `Ok` after the shutdown was
delivered to it. -/
theorem runtimeFailure_eq_none {context : String}
    {result : Except JoinError (Except Error Unit)} {delivered : Bool} :
    runtimeFailure context result delivered = none ↔ result = .ok (.ok ()) ∧ delivered = true := by
  unfold runtimeFailure
  split <;> simp

namespace RuntimeTask

variable {world : World} {task after : RuntimeTask} {step : RuntimeStep}

/-- A task that has not crashed has returned what its program has, so facts about its program
become facts about its result. -/
theorem outcome_ok {result : Except Error Unit} (ended : task.outcome = some (.ok result)) :
    task.crashed = none ∧ task.runtime.program.value = some result := by
  unfold outcome at ended
  cases crashed : task.crashed with
  | some display =>
    rw [crashed] at ended
    cases ended
  | none =>
    rw [crashed] at ended
    obtain ⟨value, finished, same⟩ := Option.map_eq_some_iff.mp ended
    rw [finished, Except.ok.inj same]
    exact ⟨rfl, rfl⟩

/-- A runtime that returned `Ok` did so after the shutdown was delivered to it. -/
theorem Sound.delivered (sound : task.Sound) (ended : task.outcome = some (.ok (.ok ()))) :
    task.runtime.world.delivered = true :=
  (ServerRuntime.runUntil_ok sound.continues (outcome_ok ended).2 sound.unlimited).2 rfl

/-- The monitoring task is undisturbed by the runtime's own steps: it moves only when it joins,
reports or ends. -/
theorem monitor_of_runtime (advanced : world.advanceTask task step = some after)
    (own : (∃ inner, step = .advances inner) ∨ ∃ display, step = .crashes display) :
    after.monitor = task.monitor := by
  rcases own with ⟨inner, rfl⟩ | ⟨display, rfl⟩
  · simp only [World.advanceTask] at advanced
    split at advanced
    · obtain ⟨runtime, moved, rfl⟩ := Option.map_eq_some_iff.mp advanced
      rfl
    · cases advanced
  · simp only [World.advanceTask] at advanced
    split at advanced <;> cases advanced
    rfl

/-- A runtime's tasks stay sound. The monitoring task fails only for an outcome other than `Ok`,
and the limiter stays open. -/
theorem Sound.advanced (sound : task.Sound) (unlimited : world.limiterClosed = false)
    (advanced : world.advanceTask task step = some after) : after.Sound := by
  have joined : after.joined = true → ∃ result, after.monitor = .ended result := by
    rw [joined_advanced advanced]
    intro joined
    obtain ⟨result, ended⟩ := sound.joined joined
    exact ⟨result, monitor_advanced advanced ended⟩
  cases step with
  | advances inner =>
    have monitor := monitor_of_runtime advanced (.inl ⟨inner, rfl⟩)
    have outcome (result : Except JoinError (Except Error Unit)) (ended : task.outcome = some result) :
        after.outcome = some result := outcome_advanced advanced ended
    simp only [World.advanceTask] at advanced
    split at advanced
    · rename_i possible
      obtain ⟨runtime, moved, rfl⟩ := Option.map_eq_some_iff.mp advanced
      refine ⟨sound.continues.advance moved, ?_, ?_, joined⟩
      · rw [Configuration.advance_history moved]
        intro happening listed
        rcases List.mem_append.mp listed with new | old
        · cases inner with
          | issue op reply =>
            rw [List.mem_singleton.mp new]
            rfl
          | move move =>
            rw [List.mem_singleton.mp new]
            cases move with
            | closeLimiter =>
              have limited : world.limiterClosed = true := possible.2
              rw [unlimited] at limited
              cases limited
            | _ => rfl
          | turn => cases new
        · exact sound.unlimited happening old
      · intro error failing
        rw [monitor] at failing
        obtain ⟨result, ended, bad⟩ := sound.failing error failing
        exact ⟨result, outcome result ended, bad⟩
    · cases advanced
  | crashes display =>
    have monitor := monitor_of_runtime advanced (.inr ⟨display, rfl⟩)
    simp only [World.advanceTask] at advanced
    split at advanced <;> cases advanced
    rename_i running
    refine ⟨sound.continues, sound.unlimited, ?_, joined⟩
    intro error failing
    obtain ⟨result, ended, -⟩ := sound.failing error failing
    rw [ended] at running
    cases running
  | joins =>
    simp only [World.advanceTask] at advanced
    split at advanced <;> cases advanced
    rename_i result waits ended
    refine ⟨sound.continues, sound.unlimited, ?_, joined⟩
    intro error failing
    refine ⟨result, ended, ?_⟩
    rintro rfl
    have clean : runtimeFailure task.server.context (.ok (.ok ())) task.runtime.world.delivered =
        none := runtimeFailure_eq_none.mpr ⟨rfl, sound.delivered ended⟩
    simp only [clean] at failing
    cases failing
  | fails error =>
    simp only [World.advanceTask] at advanced
    split at advanced <;> cases advanced
    exact ⟨sound.continues, sound.unlimited, by simp, joined⟩
  | monitorPanics display =>
    simp only [World.advanceTask] at advanced
    split at advanced <;> cases advanced
    exact ⟨sound.continues, sound.unlimited, by simp, joined⟩

/-- A monitoring task that ends by itself has found `Ok`, or it has just reported. The steps of
the runtime itself do not end it, and one that ended before is the third case. -/
theorem Sound.concluded (sound : task.Sound)
    (advanced : world.advanceTask task step = some after)
    (ended : after.monitor = .ended (.ok ())) :
    after.outcome = some (.ok (.ok ())) ∨
      (after.outcome.isSome = true ∧ ∃ error, step = .fails error) ∨
      task.monitor = .ended (.ok ()) := by
  cases step with
  | advances inner =>
    rw [monitor_of_runtime advanced (.inl ⟨inner, rfl⟩)] at ended
    exact .inr (.inr ended)
  | crashes display =>
    rw [monitor_of_runtime advanced (.inr ⟨display, rfl⟩)] at ended
    exact .inr (.inr ended)
  | joins =>
    simp only [World.advanceTask] at advanced
    split at advanced <;> cases advanced
    rename_i result waits returned
    dsimp only at ended
    split at ended
    · rename_i clean
      obtain ⟨rfl, -⟩ := runtimeFailure_eq_none.mp clean
      exact .inl returned
    · cases ended
  | fails error =>
    simp only [World.advanceTask] at advanced
    split at advanced <;> cases advanced
    rename_i failing
    obtain ⟨result, returned, -⟩ := sound.failing error failing
    exact .inr (.inl ⟨Option.isSome_iff_exists.mpr ⟨result, returned⟩, error, rfl⟩)
  | monitorPanics display =>
    simp only [World.advanceTask] at advanced
    split at advanced <;> cases advanced
    cases ended

end RuntimeTask

/-- Something that holds of a listed element holds of one after an element was replaced by
another of which it holds as well. -/
theorem exists_mem_set {α : Type u} {holds : α → Prop} {elements : List α} {index : Nat}
    {present replaced : α} (found : elements[index]? = some present)
    (kept : holds present → holds replaced) (listed : ∃ element ∈ elements, holds element) :
    ∃ element ∈ elements.set index replaced, holds element := by
  obtain ⟨element, mem, holding⟩ := listed
  obtain ⟨place, bound, rfl⟩ := List.getElem_of_mem mem
  obtain ⟨within, same⟩ := List.getElem?_eq_some_iff.mp found
  by_cases here : index = place
  · subst here
    rw [same] at holding
    exact ⟨replaced, List.mem_set within _, kept holding⟩
  · refine ⟨elements[place], ?_, holding⟩
    rw [List.mem_iff_getElem]
    refine ⟨place, by rwa [List.length_set], ?_⟩
    rw [List.getElem_set_ne here]

/-- A list keeps a property of all its elements when one is replaced by another that has it. -/
theorem forall_mem_set {α : Type u} {holds : α → Prop} {elements : List α} {index : Nat}
    {replaced : α} (all : ∀ element ∈ elements, holds element) (new : holds replaced) :
    ∀ element ∈ elements.set index replaced, holds element := by
  intro element mem
  rcases List.mem_or_eq_of_mem_set mem with before | rfl
  · exact all element before
  · exact new

/-- What the coordinator and the world know of the runtimes. -/
structure Tended (history : List Happening) (custody : Custody) (world : World) : Prop where
  sound : ∀ task ∈ world.runtimes, task.Sound
  concluded : ∀ task ∈ world.runtimes, task.monitor = .ended (.ok ()) →
    task.outcome = some (.ok (.ok ())) ∨ task.outcome.isSome = true ∧ reported history ≠ []
  noticed : ∀ task ∈ world.runtimes, task.joined = true →
    ∀ error, task.monitor = .ended (.error error) → custody.panicked = true
  panicked : custody.panicked = true →
    ∃ task ∈ world.runtimes, ∃ error, task.monitor = .ended (.error error)
  emptied : custody.emptied = true → ∀ task ∈ world.runtimes, task.joined = true
  taken : custody.taken.isSome = true → custody.emptied = true ∧ custody.watcher.isSome = true

namespace Tended

variable {history : List Happening} {custody later : Custody} {world after : World}

/-- Nothing is known before the first activation. -/
theorem initial (signalled : Bool) : Tended [] .initial (World.initial signalled) where
  sound _ listed := nomatch listed
  concluded _ listed := nomatch listed
  noticed _ listed := nomatch listed
  panicked := nofun
  emptied := nofun
  taken := nofun

/-- An event that changes neither the runtimes nor the custody keeps the account, for reports only
grow. -/
theorem cons (tended : Tended history custody world) (happening : Happening) :
    Tended (happening :: history) custody world where
  sound := tended.sound
  concluded task listed ended := (tended.concluded task listed ended).imp id fun reports =>
    ⟨reports.1, reported_nonempty reports.2⟩
  noticed := tended.noticed
  panicked := tended.panicked
  emptied := tended.emptied
  taken := tended.taken

/-- The coordinator's operations keep the account of the runtimes: a joined task was in the set
with its result, and an activated one is sound. -/
theorem issued {happening : Happening} (tended : Tended history custody world)
    (conducted : Conducted custody world happening later after) :
    Tended (happening :: history) later after := by
  have same := tended.cons happening
  cases conducted with
  | idle => exact same
  | received => exact { same with sound := same.sound }
  | seen result unseen ended =>
    exact { same with taken := fun taken => ⟨(same.taken taken).1, rfl⟩ }
  | aborted => exact { same with sound := same.sound }
  | joined completed task unfailing inactive joins present unjoined ended =>
    have mem := List.mem_of_getElem? present
    exact {
      sound := forall_mem_set same.sound
        { same.sound task mem with joined := fun _ => ⟨completed.result, ended⟩ }
      concluded := forall_mem_set same.concluded (same.concluded task mem)
      noticed := by
        apply forall_mem_set
        · intro other listed joined error failed
          simp only [Custody.join, same.noticed other listed joined error failed, Bool.true_or]
        · intro _ error failed
          have result : completed.result = .error error := MonitorTask.ended.inj (ended.symm.trans failed)
          simp [Custody.join, result, Except.isOk, Except.toBool]
      panicked := fun panicked => by
        apply exists_mem_set present
        · exact id
        · simp only [Custody.join, Bool.or_eq_true] at panicked
          rcases panicked with before | failed
          · exact same.panicked before
          · refine ⟨task, mem, ?_⟩
            cases result : completed.result with
            | ok value => simp [result, Except.isOk, Except.toBool] at failed
            | error error => exact ⟨error, by rw [ended, result]⟩
      emptied := fun emptied => forall_mem_set (same.emptied emptied) rfl
      taken := same.taken }
  | emptied quiet empty =>
    exact { same with
      emptied := fun _ => List.all_eq_true.mp empty
      taken := fun taken => ⟨rfl, (same.taken taken).2⟩ }
  | read =>
    rcases custody.after_isPending world.pending with unchanged | ⟨watched, first⟩
    · rw [unchanged]
      exact same
    · rw [first]
      exact { same with sound := same.sound }
  | spawned server unemptied =>
    have appended {holds : RuntimeTask → Prop} (all : ∀ task ∈ world.runtimes, holds task)
        (new : holds (.spawn server)) : ∀ task ∈ world.runtimes ++ [.spawn server], holds task := by
      intro task listed
      rcases List.mem_append.mp listed with before | last
      · exact all task before
      · rw [List.mem_singleton.mp last]
        exact new
    exact { same with
      sound := appended same.sound (RuntimeTask.sound_spawn server)
      concluded := appended same.concluded (by rintro ⟨⟩)
      noticed := appended same.noticed (by rintro ⟨⟩)
      panicked := fun panicked => by
        obtain ⟨task, listed, failed⟩ := same.panicked panicked
        exact ⟨task, List.mem_append_left _ listed, failed⟩
      emptied := by
        rw [unemptied]
        simp }
  | failed error justified untaken => exact { same with sound := same.sound }
  | took emptied recorded settled untaken =>
    obtain ⟨result, present, -⟩ := settled
    exact { same with
      taken := fun _ => ⟨emptied, Option.isSome_iff_exists.mpr ⟨result, present⟩⟩ }

/-- A step of the watcher says nothing about the runtimes: its frame leaves all of them as they
were, and with them what was noticed of each. -/
theorem watched {waiting : Option Op} {step : WatcherStep} (tended : Tended history custody world)
    (frame : World.WatcherStepped world after) :
    Tended (.moved waiting (.watcher step) :: history) custody after := by
  have same := tended.cons (.moved waiting (.watcher step))
  exact { same with
    sound := by rw [frame.runtimes]; exact same.sound
    concluded := by rw [frame.runtimes]; exact same.concluded
    noticed := by rw [frame.runtimes]; exact same.noticed
    panicked := by rw [frame.runtimes]; exact same.panicked
    emptied := by rw [frame.runtimes]; exact same.emptied }

/-- A step of a runtime's tasks keeps the account of all of them. The one that moves is still
unjoined, so what was noticed stands. -/
theorem runtime {waiting : Option Op} {task : TaskId} {step : RuntimeStep}
    (tended : Tended history custody world) (unlimited : world.limiterClosed = false)
    (stepped : World.RuntimeStepped world after task step) :
    Tended (.moved waiting (.runtime task step) :: history) custody after := by
  have same := tended.cons (.moved waiting (.runtime task step))
  obtain ⟨present, advanced, found, stepped, runtimes, -, -, -, -⟩ := stepped
  have mem := List.mem_of_getElem? found
  have sound := same.sound present mem
  exact { same with
    sound := by
      rw [runtimes]
      exact forall_mem_set same.sound (sound.advanced unlimited stepped)
    concluded := by
      rw [runtimes]
      apply forall_mem_set same.concluded
      intro ended
      rcases sound.concluded stepped ended with clean | ⟨returned, error, rfl⟩ | before
      · exact .inl clean
      · exact .inr ⟨returned, reported_failure rfl⟩
      · rcases same.concluded present mem before with clean | ⟨returned, reports⟩
        · exact .inl (RuntimeTask.outcome_advanced stepped clean)
        · obtain ⟨result, returned⟩ := Option.isSome_iff_exists.mp returned
          have kept := RuntimeTask.outcome_advanced stepped returned
          exact .inr ⟨Option.isSome_iff_exists.mpr ⟨result, kept⟩, reports⟩
    noticed := by
      rw [runtimes]
      apply forall_mem_set same.noticed
      intro joined error failed
      rw [RuntimeTask.joined_advanced stepped] at joined
      obtain ⟨result, ended⟩ := sound.joined joined
      have kept := RuntimeTask.monitor_advanced stepped ended
      obtain rfl : result = .error error := MonitorTask.ended.inj (kept.symm.trans failed)
      exact same.noticed present mem joined error ended
    panicked := fun panicked => by
      rw [runtimes]
      apply exists_mem_set found
      · rintro ⟨error, failed⟩
        exact ⟨error, RuntimeTask.monitor_advanced stepped failed⟩
      · exact same.panicked panicked
    emptied := fun emptied => by
      rw [runtimes]
      apply forall_mem_set (same.emptied emptied)
      rw [RuntimeTask.joined_advanced stepped]
      exact same.emptied emptied present mem }

end Tended

/-! ## Activations and joins -/

/-- The runtimes are those that were activated, and the joined ones among them were joined by
the coordinator. -/
structure Activation (history : List Happening) (world : World) : Prop where
  activated : ∀ happening ∈ history, ∀ task, happening.activates = some task →
    task < world.runtimes.length
  joined : ∀ task present, world.runtimes[task]? = some present → present.joined = true →
    ∃ happening ∈ history, happening.joins = some task

namespace Activation

variable {history : List Happening} {custody later : Custody} {world after : World}

/-- Nothing is activated at first. -/
theorem initial (signalled : Bool) : Activation [] (World.initial signalled) where
  activated _ listed := nomatch listed
  joined _ _ found := nomatch found

/-- An event that activates nothing keeps the activations. -/
theorem cons (activation : Activation history world) (happening : Happening)
    (inactive : happening.activates = none) : Activation (happening :: history) world where
  activated := by
    apply List.forall_mem_cons.mpr ⟨?_, activation.activated⟩
    rw [inactive]
    exact nofun
  joined task present found joined := by
    obtain ⟨other, listed, joins⟩ := activation.joined task present found joined
    exact ⟨other, List.mem_cons_of_mem _ listed, joins⟩

/-- An activation takes the next place in the list, and a join is entered as it happens. -/
theorem issued {happening : Happening} (activation : Activation history world)
    (conducted : Conducted custody world happening later after) :
    Activation (happening :: history) after := by
  cases conducted with
  | idle quiet => exact activation.cons _ quiet.inactive
  | received quiet =>
    have same := activation.cons _ quiet.inactive
    exact { same with activated := same.activated }
  | seen quiet => exact activation.cons _ quiet.inactive
  | aborted =>
    have same := activation.cons (.issued .abortWatcher ()) rfl
    exact { same with activated := same.activated }
  | @joined op reply completed task unfailing inactive joins present unjoined ended =>
    have same := activation.cons _ inactive
    refine ⟨?_, ?_⟩
    · intro other listed activated activates
      rw [List.length_set]
      exact same.activated other listed activated activates
    · intro other found listed joined
      by_cases here : completed.task = other
      · subst here
        exact ⟨_, List.mem_cons_self, joins⟩
      · rw [List.getElem?_set_ne here] at listed
        exact same.joined other found listed joined
  | emptied quiet => exact activation.cons _ quiet.inactive
  | read => exact activation.cons (.issued .isPending world.pending) rfl
  | spawned server =>
    refine ⟨?_, ?_⟩
    · intro other listed task activates
      rw [List.length_append, List.length_singleton]
      rcases List.mem_cons.mp listed with rfl | before
      · obtain rfl : world.runtimes.length = task := Option.some.inj activates
        exact Nat.lt_succ_self _
      · exact Nat.lt_succ_of_lt (activation.activated other before task activates)
    · intro task present found joined
      rcases Nat.lt_or_ge task world.runtimes.length with before | behind
      · rw [List.getElem?_append_left before] at found
        obtain ⟨other, listed, joins⟩ := activation.joined task present found joined
        exact ⟨other, List.mem_cons_of_mem _ listed, joins⟩
      · rw [List.getElem?_append_right behind] at found
        have new := List.mem_singleton.mp (List.mem_of_getElem? found)
        rw [new] at joined
        cases joined
  | failed error =>
    have same := activation.cons (.issued (.fail error) ()) rfl
    exact { same with activated := same.activated }
  | took =>
    have same := activation.cons (.issued .takeFailures world.failures) rfl
    exact { same with activated := same.activated }

/-- A runtime that moves keeps its place and stays unjoined: the list is as long as before, and
only the coordinator marks an entry of it as joined. -/
theorem runtime {waiting : Option Op} {task : TaskId} {step : RuntimeStep}
    (activation : Activation history world)
    (stepped : World.RuntimeStepped world after task step) :
    Activation (.moved waiting (.runtime task step) :: history) after := by
  have same := activation.cons (.moved waiting (.runtime task step)) rfl
  obtain ⟨present, advanced, found, stepped, runtimes, -, -, -, -⟩ := stepped
  refine ⟨?_, ?_⟩
  · rw [runtimes, List.length_set]
    exact same.activated
  · rw [runtimes]
    intro other current listed joined
    by_cases here : task = other
    · subst here
      obtain ⟨bound, -⟩ := List.getElem?_eq_some_iff.mp found
      rw [List.getElem?_set_self bound] at listed
      obtain rfl := Option.some.inj listed
      rw [RuntimeTask.joined_advanced stepped] at joined
      exact same.joined task present found joined
    · rw [List.getElem?_set_ne here] at listed
      exact same.joined other current listed joined

end Activation

end McServerNap.Coordinator
