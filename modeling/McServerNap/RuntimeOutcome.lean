import McServerNap.SupervisorWait

/-!
# What a runtime returns

The result of `run_until` is read off the runtime's own events: whether a client task
panicked, when the supervisor returned and with what, and whether its task ended within the
wait limit. A runtime returns `Ok` exactly when no client task panicked and the supervisor
obeyed: it kept running until its shutdown was requested and then returned `Ok` in time.
-/

namespace McServerNap.ServerRuntime

open Interaction

/-! ## What a history says -/

/-- A client task panics, while serving or during the cleanup. -/
def Happening.clientPanics : Happening → Bool
  | .moved _ (.clientEnds _ result) => hasPanicked result
  | _ => false

/-- The supervisor's shutdown is requested. -/
def Happening.asks : Happening → Bool
  | .issued .sendShutdown _ => true
  | _ => false

/-- The event closes the connection limiter. -/
def Happening.closesLimiter : Happening → Bool
  | .moved _ .closeLimiter => true
  | _ => false

/-- What the supervisor returned with, and whether its shutdown had been requested. -/
def departure : List Happening → Option (SupervisorOutcome × Bool)
  | [] => none
  | .moved _ (.supervisorReturns outcome) :: earlier => some (outcome, earlier.any Happening.asks)
  | _ :: earlier => departure earlier

/-- The supervisor kept running until its shutdown was requested, and it then returned `Ok`
within the wait limit. -/
structure Obeyed (waitLimit : Duration) (history : List Happening) : Prop where
  departed : departure history = some (.ok (.ok ()), true)
  inTime : InTime waitLimit history

/-! ## The progress of `run_until` -/

/-- How far `run_until` has come: why it stopped serving, whether it has aborted its
clients, whether one of them was then joined as panicked, whether all were joined, the
result of asking the supervisor, and that of waiting for it. -/
structure Progress where
  exit : Option RunExit
  aborted : Bool
  panicked : Bool
  drained : Bool
  sent : Option Bool
  answer : Option (Option SupervisorOutcome)

namespace Progress

/-- A runtime that serves has done none of this. -/
def serving : Progress := ⟨none, false, false, false, none, none⟩

/-- How far the runtime has come after an operation and its reply. -/
def after (progress : Progress) : (op : Op) → Reply op → Progress
  | .select _, .supervisor outcome => { progress with exit := some (.supervisor outcome) }
  | .select _, .shutdown result => { progress with exit := some (.shutdown result) }
  | .select _, .joined (some (.error error)) =>
    { progress with exit := some (.clientTaskPanic error) }
  | .tryAcquire, .closed => { progress with
      exit := some (.shutdown (.error (.msg "connection limiter unexpectedly closed"))) }
  | .abortAll, _ => { progress with aborted := true }
  | .joinNext, none => { progress with drained := true }
  | .joinNext, some result => { progress with panicked := progress.panicked || hasPanicked result }
  | .sendShutdown, ok => { progress with sent := some ok }
  | .timeoutSupervisor _, answer => { progress with answer := some answer }
  | _, _ => progress

/-- Each operation has its place. -/
def permits (progress : Progress) : Op → Prop
  | .connectionsEmpty | .select _ | .sleep _ | .tryAcquire | .spawnClient =>
    progress = serving
  | .abortAll => progress.exit.isSome = true ∧ progress.aborted = false ∧
      progress.drained = false ∧ progress.sent = none
  | .joinNext => progress.exit.isSome = true ∧ progress.aborted = true ∧
      progress.drained = false ∧ progress.sent = none
  | .sendShutdown => progress.drained = true ∧ progress.sent = none ∧
      ∀ outcome, progress.exit ≠ some (.supervisor outcome)
  | .now => True
  | .timeoutSupervisor _ => progress.sent.isSome = true ∧ progress.answer = none
  | .abortSupervisor | .awaitSupervisor => progress.answer = some none

/-- The runtime has nothing to report. -/
def Clean (progress : Progress) : Prop :=
  progress.exit = some (.shutdown (.ok ())) ∧ progress.panicked = false ∧
    progress.sent = some true ∧ progress.answer = some (some (.ok (.ok ())))

/-- All clients were joined, and unless the supervisor has ended before, it was asked and
waited for. -/
def Complete (progress : Progress) : Prop :=
  progress.exit.isSome = true ∧ progress.drained = true ∧
    ((∃ outcome, progress.exit = some (.supervisor outcome)) ∨
      progress.sent.isSome = true ∧ progress.answer.isSome = true)

end Progress

/-- The monitor of a runtime's progress. It assumes nothing of the replies. -/
abbrev progression : Monitor Op Reply where
  State := Progress
  permits := Progress.permits
  answers _ _ _ := True
  after := Progress.after

section Conformance

variable {waitLimit : Duration}

/-- An operation leads on from its place. -/
theorem safe_then {α : Type} {op : Op} {next : Reply op → Running α} {progress : Progress}
    {post : α → Progress → Prop} (permitted : progress.permits op)
    (replied : ∀ reply, Safe progression (next reply) post (progress.after op reply)) :
    Safe progression (access op >>= next) post progress :=
  safe_access permitted fun reply _ => replied reply

/-- Serving ends with the reason for it, and nothing else is done on the way. The loop's invariant
is the progress of a serving runtime. -/
theorem safe_serve {post : RunExit → Progress → Prop}
    (left : ∀ exit, post exit { Progress.serving with exit := some exit }) :
    Safe progression serve post Progress.serving := by
  apply safe_loop fun _ (progress : Progress) => progress = Progress.serving
  · rfl
  rintro - _ rfl
  apply safe_then
  · rfl
  intro empty
  apply safe_then
  · rfl
  intro event
  match event with
  | .supervisor outcome => exact left (.supervisor outcome)
  | .shutdown result => exact left (.shutdown result)
  | .joined none | .joined (some (.ok ())) => rfl
  | .joined (some (.error error)) => exact left (.clientTaskPanic error)
  | .accepted false => exact safe_then rfl fun _ => rfl
  | .accepted true =>
    apply safe_then
    · rfl
    intro permit
    cases permit with
    | acquired => exact safe_then rfl fun _ => rfl
    | noPermits => rfl
    | closed => exact left (.shutdown _)

/-- While clients are joined, the panic that is kept says whether there was one. -/
theorem safe_joinClients {exit : RunExit} {post : Option Error → Progress → Prop}
    (joined : ∀ panic : Option Error,
      post panic ⟨some exit, true, panic.isSome, true, none, none⟩) :
    Safe progression joinClients post ⟨some exit, true, false, false, none, none⟩ := by
  apply safe_loop fun (panic : Option Error) (progress : Progress) =>
    progress = ⟨some exit, true, panic.isSome, false, none, none⟩
  · rfl
  rintro panic _ rfl
  apply safe_then
  · exact ⟨rfl, rfl, rfl, rfl⟩
  intro completed
  match completed with
  | none => exact joined panic
  | some (.ok ()) => cases panic <;> rfl
  | some (.error error) => cases error <;> cases panic <;> rfl

/-- The wait for the supervisor ends with `Ok` for a task that returned it in time. -/
theorem safe_awaitSupervisorShutdown {exit : RunExit} {panicked sent : Bool}
    {post : Except Error Unit → Progress → Prop}
    (awaited : ∀ result answer, (result = .ok () ↔ answer = some (.ok (.ok ()))) →
      post result ⟨some exit, true, panicked, true, some sent, some answer⟩) :
    Safe progression (awaitSupervisorShutdown waitLimit) post
      ⟨some exit, true, panicked, true, some sent, none⟩ := by
  apply safe_then
  · trivial
  intro begun
  apply safe_then
  · exact ⟨rfl, rfl⟩
  intro answer
  match answer with
  | some (.ok result) =>
    apply awaited result (some (.ok result))
    constructor
    · rintro rfl
      rfl
    · intro same
      exact Except.ok.inj (Option.some.inj same)
  | some (.error error) => exact awaited _ (some (.error error)) ⟨nofun, nofun⟩
  | none => exact safe_then rfl fun _ => safe_then rfl fun _ => awaited _ none ⟨nofun, nofun⟩

/-- A shutdown ends `Ok` exactly when everything before it did, the supervisor could be asked, and
it returned `Ok` within the limit. -/
theorem safe_finishShutdown {exit : RunExit} {panicked : Bool} {shutdownResult : Except Error Unit}
    {post : Except Error Unit → Progress → Prop}
    (unended : ∀ outcome, exit ≠ .supervisor outcome)
    (finished : ∀ result sent answer,
      (result = .ok () ↔ shutdownResult = .ok () ∧ sent = true ∧ answer = some (.ok (.ok ()))) →
      post result ⟨some exit, true, panicked, true, some sent, some answer⟩) :
    Safe progression (finishShutdown waitLimit shutdownResult) post
      ⟨some exit, true, panicked, true, none, none⟩ := by
  apply safe_then
  · exact ⟨rfl, rfl, fun outcome same => unended outcome (Option.some.inj same)⟩
  intro sent
  apply (safe_bind _ _ _ _).mpr
  apply safe_awaitSupervisorShutdown
  intro awaited answer judged
  cases sent with
  | true =>
    cases awaited with
    | ok value =>
      have answered := judged.mp rfl
      cases shutdownResult with
      | ok value => exact finished _ true answer ⟨fun _ => ⟨rfl, rfl, answered⟩, fun _ => rfl⟩
      | error error => exact finished _ true answer ⟨nofun, nofun⟩
    | error error =>
      have unanswered : answer ≠ some (.ok (.ok ())) := fun same => nomatch judged.mpr same
      cases shutdownResult with
      | ok value =>
        exact finished _ true answer ⟨nofun, fun clean => absurd clean.2.2 unanswered⟩
      | error cause => exact finished _ true answer ⟨nofun, nofun⟩
  | false =>
    cases awaited <;> cases shutdownResult <;>
      exact finished _ false answer ⟨nofun, nofun⟩

/-- The result of `run_until` follows its progress: it is complete when the result is there, and
the result is `Ok` exactly when nothing on the way was recorded against it. -/
theorem safe_runUntil : Safe progression (runUntil waitLimit)
    (fun result (progress : Progress) => progress.Complete ∧ (result = .ok () ↔ progress.Clean))
    Progress.serving := by
  apply (safe_bind _ _ _ _).mpr
  apply safe_serve
  intro exit
  apply safe_then
  · exact ⟨rfl, rfl, rfl, rfl⟩
  intro _
  apply (safe_bind _ _ _ _).mpr
  apply safe_joinClients
  intro panic
  have unpanicked : panic.isSome = false ↔ panic = none := by
    cases panic <;> simp
  cases exit with
  | supervisor outcome =>
    refine ⟨⟨rfl, rfl, .inl ⟨outcome, rfl⟩⟩, fun ended => ?_, nofun⟩
    have unexpected := (combineRuntimeErrors_ok.mp ended).1
    rcases outcome with error | error | value <;> exact nomatch unexpected
  | shutdown shutdownResult =>
    apply safe_finishShutdown
    · exact fun _ => nofun
    intro result sent answer judged
    refine ⟨⟨rfl, rfl, .inr ⟨rfl, rfl⟩⟩, judged.trans ?_⟩
    simp only [combineRuntimeErrors_ok, Progress.Clean, Option.some.injEq, RunExit.shutdown.injEq,
      unpanicked, and_assoc]
  | clientTaskPanic error =>
    apply safe_finishShutdown
    · exact fun _ => nofun
    intro result sent answer judged
    refine ⟨⟨rfl, rfl, .inr ⟨rfl, rfl⟩⟩, fun ended => ?_, nofun⟩
    exact nomatch (combineRuntimeErrors_ok.mp (judged.mp ended).1).1

end Conformance

/-! ## Progress, history and world -/

/-- What the progress of a runtime says of its history and of the world. -/
structure Told (history : List Happening) (progress : Progress) (world : World) : Prop where
  aborting : world.aborting = progress.aborted
  aborted : progress.aborted = true → progress.exit.isSome = true
  drained : progress.drained = true → progress.exit.isSome = true ∧ world.clients = []
  cancelled : ∀ display, .ended (.error (.cancelled display)) ∈ world.clients →
    world.aborting = true
  delivered : ∀ result, progress.exit = some (.shutdown result) →
    result = .ok () ∧ world.delivered = true ∨ world.limiterClosed = true
  unclosed : (∀ happening ∈ history, Happening.closesLimiter happening = false) →
    world.limiterClosed = false
  /-- A panic has been noticed, or its task has not yet been joined. -/
  panics : (∃ happening ∈ history, Happening.clientPanics happening = true) ↔
    (∃ error, progress.exit = some (.clientTaskPanic error)) ∨ progress.panicked = true ∨
      ∃ display, .ended (.error (.panicked display)) ∈ world.clients
  asked : history.any Happening.asks = progress.sent.isSome
  departed : (departure history).map Prod.fst =
    match world.supervisor with
    | .running => none
    | .closing outcome | .ended outcome _ => some outcome
  /-- Once the supervisor was asked, the result tells whether it had departed before. -/
  order : ∀ outcome early, departure history = some (outcome, early) →
    progress.sent.getD false = early
  gone : progress.sent = some false → (departure history).isSome = true
  ended : ∀ outcome, progress.exit = some (.supervisor outcome) → progress.sent = none
  found : ∀ outcome, progress.answer = some (some outcome) →
    ∃ early, departure history = some (outcome, early)
  /-- The wait was answered at most once. -/
  answered : ∀ answer, (∃ deadline, .issued (.timeoutSupervisor deadline) answer ∈ history) ↔
    progress.answer = some answer

namespace Told

variable {history : List Happening} {progress : Progress} {world after : World}

/-- A runtime that was just activated serves, has no clients, and nothing has happened yet. -/
theorem initial : Told [] .serving World.initial where
  aborting := rfl
  aborted := nofun
  drained := nofun
  cancelled _ listed := nomatch listed
  delivered := nofun
  unclosed _ := rfl
  panics := by simp [World.initial, Progress.serving]
  asked := rfl
  departed := rfl
  order := nofun
  gone := nofun
  ended := nofun
  found := nofun
  answered _ := by simp [Progress.serving]

/-! ### What the history says -/

/-- Clients only panic while the runtime does not act. -/
theorem panics_issued (op : Op) (reply : Reply op) (history : List Happening) :
    (∃ happening ∈ .issued op reply :: history, Happening.clientPanics happening = true) ↔
      ∃ happening ∈ history, Happening.clientPanics happening = true := by
  simp [Happening.clientPanics]

/-- An event that does not answer the wait leaves its answers as they were. -/
theorem answers_cons {happening : Happening} (quiet : happening.answersWait = false)
    (answer : Option SupervisorOutcome) :
    (∃ deadline, .issued (.timeoutSupervisor deadline) answer ∈ happening :: history) ↔
      ∃ deadline, .issued (.timeoutSupervisor deadline) answer ∈ history := by
  constructor
  · rintro ⟨deadline, listed⟩
    rcases List.mem_cons.mp listed with rfl | before
    · cases quiet
    · exact ⟨deadline, before⟩
  · rintro ⟨deadline, before⟩
    exact ⟨deadline, List.mem_cons_of_mem _ before⟩

/-- An operation that is neither the request nor the end of a wait says nothing new. -/
theorem cons (told : Told history progress world) (op : Op) (reply : Reply op)
    (unasking : Happening.asks (.issued op reply) = false)
    (quiet : Happening.answersWait (.issued op reply) = false) :
    Told (.issued op reply :: history) progress world where
  aborting := told.aborting
  aborted := told.aborted
  drained := told.drained
  cancelled := told.cancelled
  delivered := told.delivered
  unclosed unlimited := told.unclosed fun happening listed =>
    unlimited happening (List.mem_cons_of_mem _ listed)
  panics := (panics_issued op reply history).trans told.panics
  asked := by
    rw [List.any_cons, unasking, Bool.false_or]
    exact told.asked
  departed := told.departed
  order := told.order
  gone := told.gone
  ended := told.ended
  found := told.found
  answered answer := (answers_cons quiet answer).trans (told.answered answer)

/-! ### Serving and its end -/

/-- A runtime that serves may stop for any reason but a panic. It stops for a shutdown only
when its shutdown future has completed or the limiter is closed. -/
theorem left {exit : RunExit} (told : Told history .serving world)
    (unpanicked : ∀ error, exit ≠ .clientTaskPanic error)
    (delivered : ∀ result, exit = .shutdown result →
      result = .ok () ∧ world.delivered = true ∨ world.limiterClosed = true) :
    Told history { Progress.serving with exit := some exit } world := by
  have unnoticed : ¬ ∃ error, some exit = some (.clientTaskPanic error) := by
    rintro ⟨error, same⟩
    exact unpanicked error (Option.some.inj same)
  exact { told with
    aborted := nofun
    drained := nofun
    delivered := fun result same => delivered result (Option.some.inj same)
    ended := fun _ _ => rfl
    panics := by
      rw [told.panics]
      simp only [unnoticed, false_or, Progress.serving, reduceCtorEq, exists_false] }

/-- The shutdown future sets its flag when it completes. -/
theorem notified (told : Told history .serving world) :
    Told history .serving { world with delivered := true } :=
  { told with delivered := nofun }

/-- A client that is started runs, so that it has neither panicked nor been cancelled. -/
theorem started (told : Told history .serving world) :
    Told history .serving { world with clients := world.clients ++ [.running] } :=
  { told with
    drained := nofun
    cancelled := fun display listed => told.cancelled display (by simpa using listed)
    panics := by
      rw [told.panics]
      simp }

/-! ### The clients -/

/-- A client that has ended is taken out of the set, and with it one of the results that it holds;
the set is reported empty only when no client is left. -/
theorem joined {completed : Option (Except JoinError Unit)}
    (joins : world.joinNext completed = some after) :
    match completed with
    | none => world.clients = [] ∧ after = world
    | some result => .ended result ∈ world.clients ∧
        after = { world with clients := world.clients.erase (.ended result) } := by
  cases completed with
  | none =>
    simp only [World.joinNext] at joins
    split at joins
    · rename_i empty
      exact ⟨List.isEmpty_iff.mp empty, (Option.some.inj joins).symm⟩
    · cases joins
  | some result =>
    simp only [World.joinNext] at joins
    split at joins
    · rename_i listed
      exact ⟨listed, (Option.some.inj joins).symm⟩
    · cases joins

/-- A panic that is taken out of the set is the one that was there. -/
theorem panicked_erase {clients : List ClientTask} {result : Except JoinError Unit}
    (listed : .ended result ∈ clients) :
    (∃ display, .ended (.error (.panicked display)) ∈ clients) ↔
      hasPanicked result = true ∨
        ∃ display, .ended (.error (.panicked display)) ∈ clients.erase (.ended result) := by
  constructor
  · rintro ⟨display, among⟩
    by_cases same : ClientTask.ended (.error (.panicked display)) = .ended result
    · obtain rfl := ClientTask.ended.inj same
      exact .inl rfl
    · exact .inr ⟨display, (List.mem_erase_of_ne same).mpr among⟩
  · rintro (panicked | ⟨display, among⟩)
    · match result with
      | .error (.panicked display) => exact ⟨display, listed⟩
    · exact ⟨display, List.mem_of_mem_erase among⟩

/-- A client that is joined before all are joined leaves the set, and its panic, if it is one,
is noticed. -/
theorem taken {result : Except JoinError Unit} (told : Told history progress world)
    (listed : .ended result ∈ world.clients) (undrained : progress.drained = false) :
    Told history { progress with panicked := progress.panicked || hasPanicked result }
      { world with clients := world.clients.erase (.ended result) } :=
  { told with
    drained := fun drained => by
      rw [show progress.drained = true from drained] at undrained
      cases undrained
    cancelled := fun display among => told.cancelled display (List.mem_of_mem_erase among)
    panics := by
      rw [told.panics, panicked_erase listed]
      simp only [Bool.or_eq_true, or_assoc] }

/-- While the runtime serves, no client is cancelled. A client that is joined with an error has
therefore panicked, and the runtime stops for it. -/
theorem leftForPanic {error : JoinError} (told : Told history .serving world)
    (listed : .ended (.error error) ∈ world.clients) :
    Told history { Progress.serving with exit := some (.clientTaskPanic error) }
      { world with clients := world.clients.erase (.ended (.error error)) } := by
  have panicked : ∃ display, .ended (.error (.panicked display)) ∈ world.clients := by
    cases error with
    | panicked display => exact ⟨display, listed⟩
    | cancelled display =>
      have aborting := told.cancelled display listed
      rw [told.aborting] at aborting
      cases aborting
  exact { told with
    aborted := nofun
    delivered := nofun
    drained := nofun
    ended := nofun
    cancelled := fun display among => told.cancelled display (List.mem_of_mem_erase among)
    panics := iff_of_true (told.panics.mpr (.inr (.inr panicked))) (.inl ⟨error, rfl⟩) }

/-- Once the runtime has stopped serving, it aborts its clients. -/
theorem abort (told : Told history progress world) (exited : progress.exit.isSome = true) :
    Told history { progress with aborted := true } { world with aborting := true } :=
  { told with
    aborting := rfl
    aborted := fun _ => exited
    cancelled := fun _ _ => rfl }

/-- Once the set is found empty after the runtime has stopped serving, no client is left. -/
theorem emptied (told : Told history progress world) (exited : progress.exit.isSome = true)
    (empty : world.clients = []) : Told history { progress with drained := true } world :=
  { told with drained := fun _ => ⟨exited, empty⟩ }

/-! ### The supervisor -/

/-- A supervisor that can be joined has departed with that outcome, early or when it was asked. -/
theorem yielded {outcome : SupervisorOutcome} (told : Told history progress world)
    (yields : world.supervisorYields outcome = true) :
    ∃ early, departure history = some (outcome, early) := by
  have departed := told.departed
  unfold World.supervisorYields at yields
  split at yields
  · rename_i ended endedAt state
    obtain rfl : ended = outcome := of_decide_eq_true yields
    rw [state] at departed
    obtain ⟨⟨departing, early⟩, present, rfl⟩ := Option.map_eq_some_iff.mp departed
    exact ⟨early, present⟩
  · cases yields

/-- A supervisor that is not running has departed. -/
theorem departed_of_gone (told : Told history progress world)
    (gone : world.supervisor ≠ .running) : (departure history).isSome = true := by
  have departed := told.departed
  rw [← Option.isSome_map (f := Prod.fst), departed]
  cases state : world.supervisor with
  | running => exact absurd state gone
  | closing | ended => rfl

/-- A running supervisor has not departed. -/
theorem staying (told : Told history progress world) (running : world.supervisor = .running) :
    departure history = none := by
  have departed := told.departed
  rw [running] at departed
  exact Option.map_eq_none_iff.mp departed

/-- The request for the supervisor's shutdown fails exactly when the supervisor has departed
before, so that its result tells the order of the two. -/
theorem requested {sent : Bool} (told : Told history progress world)
    (unsent : progress.sent = none)
    (unended : ∀ outcome, progress.exit ≠ some (.supervisor outcome))
    (received : sent = decide (world.supervisor = .running)) :
    Told (.issued .sendShutdown sent :: history) { progress with sent := some sent } world where
  aborting := told.aborting
  aborted := told.aborted
  drained := told.drained
  cancelled := told.cancelled
  delivered := told.delivered
  unclosed unlimited := told.unclosed fun happening listed =>
    unlimited happening (List.mem_cons_of_mem _ listed)
  panics := (panics_issued .sendShutdown sent history).trans told.panics
  asked := rfl
  departed := told.departed
  order outcome early departed := by
    have before := told.order outcome early departed
    rw [unsent] at before
    have gone : world.supervisor ≠ .running := fun running => by
      have staying := told.staying running
      rw [show departure history = some (outcome, early) from departed] at staying
      cases staying
    rw [← before]
    exact received.trans (decide_eq_false gone)
  gone same := by
    rw [Option.some.inj same] at received
    exact told.departed_of_gone (of_decide_eq_false received.symm)
  ended outcome same := absurd same (unended outcome)
  found := told.found
  answered answer := (answers_cons rfl answer).trans (told.answered answer)

/-- The wait for the supervisor is answered for the first time. An outcome that it is answered
with is the one that the supervisor departed with. -/
theorem waited {deadline : Instant} {answer : Option SupervisorOutcome}
    (told : Told history progress world) (unanswered : progress.answer = none)
    (departs : ∀ outcome, answer = some outcome →
      ∃ early, departure history = some (outcome, early)) :
    Told (.issued (.timeoutSupervisor deadline) answer :: history)
      { progress with answer := some answer } world where
  aborting := told.aborting
  aborted := told.aborted
  drained := told.drained
  cancelled := told.cancelled
  delivered := told.delivered
  unclosed unlimited := told.unclosed fun happening listed =>
    unlimited happening (List.mem_cons_of_mem _ listed)
  panics := (panics_issued (.timeoutSupervisor deadline) answer history).trans told.panics
  asked := told.asked
  departed := told.departed
  order := told.order
  gone := told.gone
  ended := told.ended
  found outcome same := departs outcome (Option.some.inj same)
  answered other := by
    constructor
    · rintro ⟨instant, listed⟩
      rcases List.mem_cons.mp listed with last | before
      · cases last
        rfl
      · have earlier := (told.answered other).mp ⟨instant, before⟩
        rw [unanswered] at earlier
        cases earlier
    · intro same
      obtain rfl := Option.some.inj same
      exact ⟨deadline, List.mem_cons_self⟩

/-! ### Operations -/

/-- The result of `try_acquire_owned` only matters when the limiter is closed; a permit that was
not there turns one client away and nothing else. -/
theorem triedAcquire {permit : TryAcquire} (told : Told history .serving world)
    (performed : world.perform .tryAcquire permit = some after) :
    Told (.issued .tryAcquire permit :: history) (Progress.serving.after .tryAcquire permit)
      after := by
  simp only [World.perform] at performed
  split at performed
  · rename_i same
    obtain rfl := Option.some.inj performed
    have said := told.cons .tryAcquire permit rfl rfl
    cases permit with
    | acquired | noPermits => exact said
    | closed => exact said.left (by rintro _ ⟨⟩) fun _ _ => .inr same.symm
  · cases performed

/-- Each branch of the `select!` stops the runtime, takes a client out of the set or lets one
in. -/
theorem selected {joining : Bool} {event : Event} (told : Told history .serving world)
    (performed : world.perform (.select joining) event = some after) :
    Told (.issued (.select joining) event :: history)
      (Progress.serving.after (.select joining) event) after := by
  have said := told.cons (.select joining) event rfl rfl
  cases event with
  | accepted ok =>
    obtain rfl := Option.some.inj performed
    exact said
  | supervisor outcome =>
    simp only [World.perform] at performed
    split at performed
    · obtain rfl := Option.some.inj performed
      exact said.left (by rintro _ ⟨⟩) (by rintro _ ⟨⟩)
    · cases performed
  | shutdown result =>
    simp only [World.perform] at performed
    split at performed
    · rename_i requested
      obtain rfl := Option.some.inj performed
      simp only [Bool.and_eq_true, decide_eq_true_eq] at requested
      have unpanicked (error : JoinError) : RunExit.shutdown result ≠ .clientTaskPanic error := by
        rintro ⟨⟩
      apply said.notified.left unpanicked
      intro other same
      obtain rfl := RunExit.shutdown.inj same
      exact .inl ⟨requested.2, rfl⟩
    · cases performed
  | joined completed =>
    simp only [World.perform] at performed
    split at performed
    · have joins := joined performed
      obtain _ | error | value := completed
      · obtain ⟨-, rfl⟩ := joins
        exact said
      · obtain ⟨listed, rfl⟩ := joins
        exact said.leftForPanic listed
      · obtain ⟨listed, rfl⟩ := joins
        exact said.taken listed rfl
    · cases performed

/-- After serving, `join_next` takes a client out of the set or finds it empty. -/
theorem joinedNext {completed : Option (Except JoinError Unit)}
    (told : Told history progress world) (exited : progress.exit.isSome = true)
    (undrained : progress.drained = false)
    (performed : world.perform .joinNext completed = some after) :
    Told (.issued .joinNext completed :: history) (progress.after .joinNext completed) after := by
  have said := told.cons .joinNext completed rfl rfl
  have joins := joined performed
  cases completed with
  | none =>
    obtain ⟨empty, rfl⟩ := joins
    exact said.emptied exited empty
  | some result =>
    obtain ⟨listed, rfl⟩ := joins
    exact said.taken listed undrained

/-- The wait for the supervisor takes its outcome or is given up. An outcome is that of a task
that has ended; giving up says that the deadline had passed. -/
theorem answeredWait {deadline : Instant} {answer : Option SupervisorOutcome}
    (told : Told history progress world) (unanswered : progress.answer = none)
    (performed : world.perform (.timeoutSupervisor deadline) answer = some after) :
    Told (.issued (.timeoutSupervisor deadline) answer :: history)
      (progress.after (.timeoutSupervisor deadline) answer) after := by
  cases answer with
  | some outcome =>
    simp only [World.perform] at performed
    split at performed
    · rename_i yields
      obtain rfl := Option.some.inj performed
      apply told.waited unanswered
      intro other same
      obtain rfl := Option.some.inj same
      exact told.yielded yields
    · cases performed
  | none =>
    simp only [World.perform] at performed
    split at performed
    · obtain rfl := Option.some.inj performed
      exact told.waited unanswered (by rintro _ ⟨⟩)
    · cases performed

/-- What is told stays true when the runtime performs an operation in its place. Each operation
has its own lemma above; here they are put together. -/
theorem issued {op : Op} {reply : Reply op} (told : Told history progress world)
    (permitted : progress.permits op) (performed : world.perform op reply = some after) :
    Told (.issued op reply :: history) (progress.after op reply) after := by
  cases op with
  | connectionsEmpty | now | awaitSupervisor =>
    simp only [World.perform] at performed
    split at performed
    · obtain rfl := Option.some.inj performed
      exact told.cons _ _ rfl rfl
    · cases performed
  | sleep =>
    obtain rfl := Option.some.inj performed
    exact told.cons _ _ rfl rfl
  | abortSupervisor =>
    obtain rfl := Option.some.inj performed
    exact { told.cons .abortSupervisor () rfl rfl with aborting := told.aborting }
  | tryAcquire =>
    obtain rfl : progress = .serving := permitted
    exact told.triedAcquire performed
  | spawnClient =>
    obtain rfl : progress = .serving := permitted
    obtain rfl := Option.some.inj performed
    exact (told.cons .spawnClient reply rfl rfl).started
  | abortAll =>
    obtain rfl := Option.some.inj performed
    exact (told.cons .abortAll reply rfl rfl).abort permitted.1
  | select joining =>
    obtain rfl : progress = .serving := permitted
    exact told.selected performed
  | joinNext =>
    obtain ⟨exited, -, undrained, -⟩ := permitted
    exact told.joinedNext exited undrained performed
  | sendShutdown =>
    obtain ⟨-, unsent, unended⟩ := permitted
    simp only [World.perform] at performed
    split at performed
    · rename_i received
      obtain rfl := Option.some.inj performed
      exact told.requested unsent unended received
    · cases performed
  | timeoutSupervisor deadline => exact told.answeredWait permitted.2 performed

/-! ### Moves -/

/-- Apart from a client's end, a departure and the limiter, a move says nothing new: what was told
of panics, of the departure and of the supervisor is told as before. -/
theorem passed (told : Told history progress world) (waiting : Option Op) (move : Move)
    (unpanicked : Happening.clientPanics (.moved waiting move) = false)
    (unreturned : ∀ outcome, move ≠ .supervisorReturns outcome) (unlimiting : move ≠ .closeLimiter) :
    Told (.moved waiting move :: history) progress world := by
  have departing : departure (.moved waiting move :: history) = departure history := by
    cases move with
    | supervisorReturns outcome => exact absurd rfl (unreturned outcome)
    | _ => rfl
  exact { told with
    unclosed := fun unlimited => told.unclosed fun happening listed =>
      unlimited happening (List.mem_cons_of_mem _ listed)
    panics := by
      rw [← told.panics]
      simp [unpanicked]
    departed := departing ▸ told.departed
    order := departing ▸ told.order
    gone := departing ▸ told.gone
    found := departing ▸ told.found
    answered := fun answer => (answers_cons rfl answer).trans (told.answered answer) }

/-- Closing the limiter is what a runtime that stops for it has told. -/
theorem closed (told : Told history progress world) (waiting : Option Op) :
    Told (.moved waiting .closeLimiter :: history) progress { world with limiterClosed := true } :=
  { told with
    delivered := fun _ _ => .inr rfl
    unclosed := fun unlimited => nomatch unlimited _ List.mem_cons_self
    panics := by
      refine Iff.trans ?_ told.panics
      simp [Happening.clientPanics]
    answered := fun answer => (answers_cons rfl answer).trans (told.answered answer) }

/-- Ending a running client adds its result to the set; the entry that it replaces was running, so
no result of another client is lost by it. -/
theorem mem_set_running {clients : List ClientTask} {client : Nat}
    {result other : Except JoinError Unit} (running : clients[client]? = some .running) :
    .ended other ∈ clients.set client (.ended result) ↔ other = result ∨ .ended other ∈ clients := by
  obtain ⟨bound, present⟩ := List.getElem?_eq_some_iff.mp running
  constructor
  · intro listed
    rcases List.mem_or_eq_of_mem_set listed with before | same
    · exact .inr before
    · exact .inl (ClientTask.ended.inj same)
  · rintro (rfl | listed)
    · exact List.mem_set bound _
    · obtain ⟨index, within, found⟩ := List.getElem_of_mem listed
      have apart : client ≠ index := by
        rintro rfl
        rw [present] at found
        cases found
      apply List.mem_iff_getElem.mpr
      refine ⟨index, by rwa [List.length_set], ?_⟩
      rw [List.getElem_set_ne apart, found]

/-- A panic is in the set after a client's end exactly when that client panicked or one was
there before. -/
theorem panicked_set {clients : List ClientTask} {client : Nat} {result : Except JoinError Unit}
    (running : clients[client]? = some .running) :
    (∃ display, .ended (.error (.panicked display)) ∈ clients.set client (.ended result)) ↔
      hasPanicked result = true ∨ ∃ display, .ended (.error (.panicked display)) ∈ clients := by
  have now : (∃ display, Except.error (JoinError.panicked display) = result) ↔
      hasPanicked result = true := by
    obtain error | value := result
    · cases error <;> simp [hasPanicked, JoinError.isPanic]
    · simp [hasPanicked]
  simp only [mem_set_running running, exists_or, now]

/-- The end of a client is a panic of the history exactly when its result is one. -/
theorem panics_clientEnds (waiting : Option Op) (client : Nat) (result : Except JoinError Unit) :
    (∃ happening ∈ .moved waiting (.clientEnds client result) :: history,
      Happening.clientPanics happening = true) ↔
      hasPanicked result = true ∨
        ∃ happening ∈ history, Happening.clientPanics happening = true := by
  simp only [List.mem_cons, exists_eq_or_imp]
  rfl

/-- A client ends, while the runtime serves or after that. It is cancelled only after it was
aborted, and no client is left to end once all were joined. -/
theorem clientEnded {client : Nat} {result : Except JoinError Unit}
    (told : Told history progress world) (waiting : Option Op)
    (running : world.clients[client]? = some .running)
    (uncancelled : wasCancelled result → world.aborting = true) :
    Told (.moved waiting (.clientEnds client result) :: history) progress
      { world with clients := world.clients.set client (.ended result) } :=
  { told with
    drained := fun drained => by
      rw [(told.drained drained).2] at running
      cases running
    cancelled := fun display listed => by
      rcases (mem_set_running running).mp listed with rfl | before
      · exact uncancelled rfl
      · exact told.cancelled display before
    unclosed := fun unlimited => told.unclosed fun happening listed =>
      unlimited happening (List.mem_cons_of_mem _ listed)
    panics := by
      rw [panics_clientEnds, told.panics, panicked_set running]
      exact ⟨fun panics => by grind, fun panics => by grind⟩
    answered := fun answer => (answers_cons rfl answer).trans (told.answered answer) }

/-- The supervisor returns. Whether it was asked before is what the request tells: a request that
was sent makes the return a proper one, and one that was refused cannot come before it. -/
theorem returned {outcome : SupervisorOutcome} (told : Told history progress world)
    (waiting : Option Op) (running : world.supervisor = .running) :
    Told (.moved waiting (.supervisorReturns outcome) :: history) progress
      { world with supervisor := .closing outcome } := by
  have staying := told.staying running
  have unrefused : progress.sent ≠ some false := fun refused => by
    have gone := told.gone refused
    rw [staying] at gone
    cases gone
  exact { told with
    unclosed := fun unlimited => told.unclosed fun happening listed =>
      unlimited happening (List.mem_cons_of_mem _ listed)
    panics := by
      refine Iff.trans ?_ told.panics
      simp [Happening.clientPanics]
    departed := rfl
    order := fun other early departed => by
      obtain ⟨rfl, rfl⟩ := Prod.mk.inj (Option.some.inj departed)
      rw [told.asked]
      cases sent : progress.sent with
      | none => rfl
      | some ok =>
        cases ok with
        | true => rfl
        | false => exact absurd sent unrefused
    gone := fun _ => rfl
    found := fun other answered => by
      obtain ⟨early, departed⟩ := told.found other answered
      rw [staying] at departed
      cases departed
    answered := fun answer => (answers_cons rfl answer).trans (told.answered answer) }

/-- The task of a supervisor that has returned can be joined from now on, with the outcome that
it departed with. -/
theorem finished {outcome : SupervisorOutcome} (told : Told history progress world)
    (waiting : Option Op) (closing : world.supervisor = .closing outcome) :
    Told (.moved waiting .supervisorEnds :: history) progress
      { world with supervisor := .ended outcome world.clock } := by
  have said := told.passed waiting .supervisorEnds rfl nofun nofun
  have departed := said.departed
  rw [closing] at departed
  exact { said with departed := departed }

/-- What is told stays true when the world moves on its own. Only the end of a client, the return
of the supervisor and the closing of the limiter tell anything. -/
theorem moved {waiting : Option Op} {move : Move} (told : Told history progress world)
    (disturbed : world.move move = some after) :
    Told (.moved waiting move :: history) progress after := by
  cases move with
  | tick elapsed =>
    obtain rfl := Option.some.inj disturbed
    have said := told.passed waiting (.tick elapsed) rfl nofun nofun
    exact { said with aborting := told.aborting }
  | request =>
    obtain rfl := Option.some.inj disturbed
    have said := told.passed waiting .request rfl nofun nofun
    exact { said with aborting := told.aborting }
  | closeLimiter =>
    obtain rfl := Option.some.inj disturbed
    exact told.closed waiting
  | clientEnds client result =>
    simp only [World.move] at disturbed
    split at disturbed
    · rename_i possible
      obtain rfl := Option.some.inj disturbed
      exact told.clientEnded waiting possible.1 possible.2
    · cases disturbed
  | supervisorReturns outcome =>
    simp only [World.move] at disturbed
    split at disturbed
    · rename_i possible
      obtain rfl := Option.some.inj disturbed
      exact told.returned waiting possible.1
    · cases disturbed
  | supervisorEnds =>
    simp only [World.move] at disturbed
    split at disturbed
    · rename_i outcome closing
      obtain rfl := Option.some.inj disturbed
      exact told.finished waiting closing
    · cases disturbed

end Told

/-! ## The result -/

section Result

variable {waitLimit : Duration} {history : List Happening} {program : Running (Except Error Unit)}
  {world : World} {result : Except Error Unit}

/-- The progress of a runtime needs no assumption about the world. -/
def unassuming : Coupling platform progression where
  relates _ _ := True
  answered _ _ _ := trivial
  issued _ _ _ := trivial
  moved _ _ _ := trivial

/-- In every run the progress is what history and world show, and what is left of the program goes
by it. -/
theorem runUntil_told
    (reached : Reaches platform (runUntil waitLimit) World.initial history program world) :
    ∃ progress : Progress, Told history progress world ∧
      Safe progression program
        (fun result (progress : Progress) => progress.Complete ∧ (result = .ok () ↔ progress.Clean))
        progress := by
  obtain ⟨progress, watched, remaining⟩ :=
    reached.watched unassuming trivial (safe_runUntil : Safe _ _ _ Progress.serving)
  refine ⟨progress, ?_, remaining⟩
  apply watched.always unassuming trivial
    (fun history (progress : Progress) world => Told history progress world) Told.initial
  · intro history progress world op reply after told _ permitted performed
    exact told.issued permitted performed
  · intro history progress world waiting move after told _ _ disturbed
    exact told.moved disturbed

namespace Told

variable {progress : Progress}

/-- Once all clients were joined, a clean runtime has seen none of them panic. -/
theorem calm (told : Told history progress world) (clean : progress.Clean)
    (joined : world.clients = []) :
    ∀ happening ∈ history, Happening.clientPanics happening = false := by
  intro happening listed
  obtain ⟨exit, unpanicked, -, -⟩ := clean
  apply Bool.eq_false_iff.mpr
  intro panics
  have noticed := told.panics.mp ⟨happening, listed, panics⟩
  simp [exit, unpanicked, joined] at noticed

/-- Where a wait was answered, the supervisor's task was in time exactly when the answer is its
outcome. -/
theorem inTime_iff (told : Told history progress world) (timed : Timed waitLimit history world)
    {answer : Option SupervisorOutcome} (answered : progress.answer = some answer) :
    InTime waitLimit history ↔ answer.isSome = true := by
  obtain ⟨deadline, listed⟩ := (told.answered answer).mpr answered
  apply timed.inTime_iff listed
  intro instant other again
  have same := (told.answered other).mp ⟨instant, again⟩
  rw [answered] at same
  exact (Option.some.inj same).symm

/-- The supervisor of a clean runtime has obeyed. -/
theorem obeyed (told : Told history progress world) (timed : Timed waitLimit history world)
    (clean : progress.Clean) : Obeyed waitLimit history := by
  obtain ⟨-, -, sent, answer⟩ := clean
  constructor
  · obtain ⟨early, departed⟩ := told.found _ answer
    have order := told.order _ _ departed
    rw [sent] at order
    rw [departed, ← order]
    rfl
  · exact (told.inTime_iff timed answer).mpr rfl

/-- A runtime whose clients are calm and whose supervisor has obeyed is clean when it has done
everything. -/
theorem clean (told : Told history progress world) (timed : Timed waitLimit history world)
    (complete : progress.Complete) (unclosed : world.limiterClosed ≠ true)
    (calm : ∀ happening ∈ history, Happening.clientPanics happening = false)
    (obeyed : Obeyed waitLimit history) : progress.Clean := by
  obtain ⟨exited, drained, waited⟩ := complete
  have unpanicked := mt told.panics.mpr fun ⟨happening, listed, panics⟩ => by
    rw [calm happening listed] at panics
    cases panics
  have sent : progress.sent = some true := by
    have order := told.order _ _ obeyed.departed
    cases sent : progress.sent with
    | none =>
      rw [sent] at order
      cases order
    | some ok =>
      rw [sent] at order
      exact congrArg some order
  have unended : ∀ outcome, progress.exit ≠ some (.supervisor outcome) := fun outcome exit => by
    have unsent := told.ended outcome exit
    rw [sent] at unsent
    cases unsent
  have answer : progress.answer = some (some (.ok (.ok ()))) := by
    obtain ⟨-, answered⟩ := waited.resolve_left fun ⟨outcome, exit⟩ => unended outcome exit
    obtain ⟨answer, given⟩ := Option.isSome_iff_exists.mp answered
    have inTime := (told.inTime_iff timed given).mp obeyed.inTime
    obtain ⟨outcome, rfl⟩ := Option.isSome_iff_exists.mp inTime
    obtain ⟨early, again⟩ := told.found outcome given
    rw [obeyed.departed] at again
    obtain ⟨rfl, -⟩ := Prod.mk.inj (Option.some.inj again)
    exact given
  have exit : progress.exit = some (.shutdown (.ok ())) := by
    obtain ⟨exit, present⟩ := Option.isSome_iff_exists.mp exited
    cases exit with
    | supervisor outcome => exact absurd present (unended outcome)
    | clientTaskPanic error => exact absurd (.inl ⟨error, present⟩) unpanicked
    | shutdown shutdownResult =>
      obtain ⟨rfl, -⟩ := (told.delivered shutdownResult present).resolve_right unclosed
      exact present
  have unnoticed : progress.panicked = false :=
    Bool.eq_false_iff.mpr fun panicked => unpanicked (.inr (.inl panicked))
  exact ⟨exit, unnoticed, sent, answer⟩

end Told

/-- A runtime returns `Ok` exactly when no client task panicked and the supervisor obeyed,
and then only after the daemon's shutdown. -/
theorem runUntil_ok
    (reached : Reaches platform (runUntil waitLimit) World.initial history program world)
    (finished : program.value = some result)
    (unlimited : ∀ happening ∈ history, Happening.closesLimiter happening = false) :
    (result = .ok () ↔
      (∀ happening ∈ history, Happening.clientPanics happening = false) ∧
        Obeyed waitLimit history) ∧
    (result = .ok () → world.delivered = true) := by
  obtain ⟨progress, told, remaining⟩ := runUntil_told reached
  have timed := runUntil_timed reached
  rw [Program.value_eq_some.mp finished] at remaining
  obtain ⟨complete, judged⟩ := remaining
  have unclosed : world.limiterClosed ≠ true := by
    rw [told.unclosed unlimited]
    exact Bool.false_ne_true
  have joined : world.clients = [] := (told.drained complete.2.1).2
  constructor
  · constructor
    · intro ended
      have clean := judged.mp ended
      exact ⟨told.calm clean joined, told.obeyed timed clean⟩
    · rintro ⟨calm, obeyed⟩
      exact judged.mpr (told.clean timed complete unclosed calm obeyed)
  · intro ended
    obtain ⟨exit, -⟩ := judged.mp ended
    exact ((told.delivered _ exit).resolve_right unclosed).2

end Result

end McServerNap.ServerRuntime
