import McServerNap.Conformance.Tending
import McServerNap.Rehearsal
import McServerNap.Sessions

/-!
# Force as the last resort

A stop command or a signal only ever goes to the child that was launched last and is not
yet reaped. A child that has taken its stop command is given the whole shutdown timeout
before its process tree is ended, and whatever the operating system fails to do for a
child ends the run with an error. A server is published as running only when the child
was found ready.
-/

namespace McServerNap

open Interaction

/-! ## The treatment and the world -/

/-- The treatment follows the child as the stance does, operation by operation, so what holds of
the one child holds of the other. -/
theorem Treatment.after_child (config : SupervisorConfig) (rcon : Bool) {treatment : Treatment}
    (stance : Stance) (same : treatment.child = stance.child) (op : Op) (reply : Reply op) :
    (treatment.after config op reply).child = (stance.after rcon op reply).child := by
  cases op with
  | select sources =>
    cases reply with
    | child status => cases status <;> simp [Treatment.after, Stance.after, Stance.observed, same]
    | kill ok => cases ok <;> simp [Treatment.after, Stance.after, Stance.observed, same]
    | wake request => cases request <;> exact same
    | _ => exact same
  | launch => simp only [Treatment.after, Stance.after, same]
  | tryWait => cases reply <;> simp [Treatment.after, Stance.after, same]
  | wakesClosed | tryRecvShutdown =>
    simp only [Treatment.after, Stance.after]
    split <;> exact same
  | tryRecvWake => cases reply <;> exact same
  | _ => exact same

/-- The treatment knows what became of the child. -/
def treated (config : SupervisorConfig) : Coupling platform (treating config) where
  relates := fun (treatment : Treatment) (world : World) => treatment.child = world.child
  answered := by
    rintro treatment world op reply after - - performed
    cases op with
    | select sources =>
      simp only [platform, World.perform] at performed
      split at performed <;> cases performed
      exact World.selects_offers (by assumption)
    | _ => trivial
  issued := by
    rintro treatment world op reply after same - performed
    rw [Treatment.after_child config config.rcon world.stance same]
    exact (world.stance_agrees.performed config.rcon performed).2.1
  moved := by
    rintro treatment world waiting move after same - disturbed
    exact same.trans (world.stance_agrees.moved disturbed).2.1

/-- Before the first launch nothing is known of a child, and there is none. -/
theorem initial_treated (config : SupervisorConfig) (start : Instant) :
    (treated config).relates Treatment.initial (World.initial start) :=
  rfl

variable {config : SupervisorConfig} {start : Instant} {history : History platform}
  {program : Supervised Unit} {world : World}

/-- Every execution of `run` treats its children in order, and so does whatever it still
has to do. -/
theorem run_treats
    (reached : Reaches platform (run config) (World.initial start) history program world) :
    ∃ treatment : Treatment, Watched platform (treating config) .initial (World.initial start)
        history treatment world ∧
      Safe (treating config) program (fun _ _ => True) treatment :=
  reached.watched (treated config) (initial_treated config start) treats_run

/-! ## Commands and signals -/

/-- The branches that command or force a child to stop. -/
def Source.urges : Source → Bool
  | .rconStop | .consoleStop | .killTree | .kill => true
  | _ => false

/-- The supervisor asks nothing but its own child to stop, and signals it only while it is
alive and was not reaped, so that its process group cannot be another's. -/
theorem only_own_child_is_stopped {config : SupervisorConfig} {start : Instant}
    {history : History platform} {program : Supervised Unit} {world : World}
    (reached : Reaches platform (run config) (World.initial start) history program world)
    {sources : List Source} (waits : program.pending = some (.select sources)) {source : Source}
    (listed : source ∈ sources) (urges : source.urges = true) :
    world.child = .live ∧ world.lifecycle.phase = .stopping := by
  obtain ⟨treatment, treats, called⟩ := run_treats reached
  obtain ⟨stance, watched, remaining⟩ := run_follows reached
  obtain ⟨sound, lifecycle, -, -⟩ :=
    watched.related (coupled config.rcon) (initial_coupled config.rcon start)
  have same : treatment.child = world.child := treats.related (treated config) (initial_treated config start)
  have admitted : treatment.admits source := called.pending_permitted _ waits source listed
  have allowed : stance.allows source = true :=
    (remaining.pending_permitted _ waits).2.2.2.1 source listed
  constructor
  · rw [← same]
    cases source <;> first | exact admitted.1 | cases urges
  · rw [← lifecycle]
    obtain ⟨stage, lifecycle, child, held, offer, ending⟩ := stance
    cases source with
    | rconStop | consoleStop | killTree | kill =>
      cases stage with
      | stopping cause latched => exact sound.phase_stopping
      | _ => cases allowed
    | _ => cases urges

/-- A ready child takes the stop command on its console, and does not end in time. -/
def killRun : Configuration platform Unit :=
  rehearsal (exampleConfig false) (untilReady ++ [.move .sendShutdown, Cue.event .shutdown,
    Cue.event (.consoleStop true)] ++ Cue.elapse .graceful (seconds 30) ++ [Cue.tryWait .running])

/-- The run up to the tree kill is one that the supervisor can really take. -/
theorem killRun_reached : killRun.Continues (run (exampleConfig false)) (World.initial 0) :=
  rehearsal_reached _ _

/-- In that run the tree kill is waited for while the child is alive and the stopping phase is
published, so the theorem says something about it. -/
theorem tree_of_own_child_is_ended :
    killRun.program.pending = some (.select [.killTree]) ∧ killRun.world.child = .live ∧
      killRun.world.lifecycle.phase = .stopping :=
  have pending : killRun.program.pending = some (.select [.killTree]) := by decide +kernel
  ⟨pending, only_own_child_is_stopped killRun_reached pending List.mem_cons_self rfl⟩

/-! ## The grace of a child that was asked to stop -/

/-- Somebody took the stop command. -/
def Happening.takesStop : Happening → Bool
  | .issued (.select _) (.rconStop true) | .issued (.select _) (.consoleStop true) => true
  | _ => false

/-- A stop begins. -/
def Happening.beginsStop : Happening → Bool
  | .issued (.publish transition _) _ => transition.stops
  | _ => false

/-- The wait for the child failed. -/
def WaitFailed (history : List Happening) : Prop :=
  ∃ sources, .issued (.select sources) (.child .failed) ∈ history

/-- A failed wait stays one. -/
theorem WaitFailed.cons {happening : Happening} {history : List Happening}
    (failed : WaitFailed history) : WaitFailed (happening :: history) :=
  failed.imp fun _ listed => List.mem_cons_of_mem _ listed

/-- What each progress of a stop says about the instant its command was taken: it is in
the past of the wait for the child, and that wait lasts for the shutdown timeout. The
steps before the command say that none was taken. -/
def StopProgress.Graces (config : SupervisorConfig) (taken now : Instant)
    (later : List Happening) : StopProgress → Prop
  | .begun | .commanding | .refused | .unsent => False
  | .sent => taken ≤ now
  | .waiting deadline => taken + config.shutdownTimeout ≤ deadline
  | .expired => WaitFailed later ∨ taken + config.shutdownTimeout ≤ now
  | .idle | .forcing | .spared => True

/-- Every command that was taken in the present stop is given its grace. -/
def Graced (config : SupervisorConfig) (origin : World) (history : List Happening)
    (progress : StopProgress) (now : Instant) : Prop :=
  ∀ later taken earlier passed, history = later ++ taken :: earlier →
    Happening.takesStop taken = true → later.any Happening.beginsStop = false →
    platform.replay origin earlier = some passed → progress.Graces config passed.clock now later

/-- The passing of time takes no grace away. -/
theorem StopProgress.Graces.later {taken now after : Instant} {later : List Happening}
    {progress : StopProgress} (graces : progress.Graces config taken now later)
    (past : now ≤ after) (happening : Happening) :
    progress.Graces config taken after (happening :: later) := by
  cases progress with
  | sent => exact Nat.le_trans graces past
  | expired => exact graces.imp WaitFailed.cons fun elapsed => Nat.le_trans elapsed past
  | _ => exact graces

/-- An event of a `select!` that the treatment admits keeps the grace of a command that
was taken before. -/
theorem StopProgress.Graces.observed {treatment : Treatment} {taken : Instant}
    {later : List Happening} (graces : treatment.progress.Graces config taken world.clock later)
    {sources : List Source} (admitted : ∀ source ∈ sources, treatment.admits source)
    {event : Event} (selected : world.selects sources event = true) :
    (treatment.progress.observed event).Graces config taken world.clock
      (.issued (.select sources) event :: later) := by
  obtain ⟨source, listed, completes⟩ := World.selects_completes selected
  have admits := admitted source listed
  have offers := World.completes_offers completes
  have kept := graces.later (Nat.le_refl _) (.issued (.select sources) event)
  cases event with
  | rconStop ok =>
    cases source <;> cases offers
    rw [admits.2] at graces
    exact graces.elim
  | consoleStop ok =>
    cases source <;> cases offers
    rcases admits.2 with commanding | refused
    · rw [commanding] at graces
      exact graces.elim
    · rw [refused] at graces
      exact graces.elim
  | elapsed timer =>
    cases timer with
    | command =>
      simp only [StopProgress.observed]
      split
      · simp_all [StopProgress.Graces]
      · simp_all [StopProgress.Graces]
      · exact kept
    | graceful =>
      cases source <;> simp only [World.completes, Bool.false_eq_true, Bool.and_eq_true,
        decide_eq_true_eq] at completes
      obtain ⟨rfl, due⟩ := completes
      rw [show treatment.progress = _ from admits] at graces
      exact .inr (Nat.le_trans graces due)
    | _ => exact kept
  | child status =>
    cases status with
    | exited => exact kept
    | failed =>
      simp only [StopProgress.observed]
      split
      · exact .inl ⟨sources, List.mem_cons_self⟩
      · exact kept
  | killTree outcome => cases outcome <;> trivial
  | _ => exact kept

/-- An operation that is no wait keeps the grace too: the wait for the child is given its
deadline only once the command is taken, and a new stop has taken none. -/
theorem StopProgress.Graces.performed {treatment : Treatment} {taken : Instant}
    {later : List Happening} {after : World} {op : Op} {reply : Reply op}
    (graces : treatment.progress.Graces config taken world.clock later)
    (permitted : treatment.permits op) (performed : world.perform op reply = some after)
    (goes : Happening.beginsStop (.issued op reply) = false) :
    (treatment.after config op reply).progress.Graces config taken after.clock
      (.issued op reply :: later) := by
  rw [(World.framed performed).clock]
  have kept := graces.later (Nat.le_refl _) (.issued op reply)
  cases op with
  | select sources =>
    simp only [World.perform] at performed
    split at performed <;> cases performed
    exact graces.observed permitted (by assumption)
  | publish transition next =>
    have continues : transition.stops = false := goes
    simp only [Treatment.after, continues]
    trivial
  | now =>
    simp only [World.perform] at performed
    split at performed <;> cases performed
    rename_i reads
    simp only [Treatment.after]
    split
    · simp_all [StopProgress.Graces]
    · next sent =>
      rw [sent] at graces
      rw [reads]
      exact Nat.add_le_add_right graces _
    · exact kept
  | _ => exact kept

/-- A taken command has just been taken. -/
theorem progress_of_takesStop {treatment : Treatment} {op : Op} {reply : Reply op}
    (takes : Happening.takesStop (.issued op reply) = true) :
    (treatment.after config op reply).progress = .sent := by
  cases op with
  | select sources =>
    cases reply with
    | rconStop ok | consoleStop ok => cases ok <;> first | rfl | cases takes
    | _ => cases takes
  | _ => cases takes

namespace Graced

variable {origin after : World} {treatment : Treatment}

/-- Every operation keeps the grace of the commands taken: the deadline of a stop is computed
after its command was taken, and the wait for it is over at the deadline or when the wait itself
has failed. -/
theorem issued {op : Op} {reply : Reply op}
    (graced : Graced config origin history treatment.progress world.clock)
    (replayed : platform.replay origin history = some world)
    (permitted : treatment.permits op) (performed : world.perform op reply = some after) :
    Graced config origin (.issued op reply :: history) (treatment.after config op reply).progress
      after.clock := by
  intro later taken earlier passed split takes begun situation
  cases later with
  | nil =>
    obtain ⟨rfl, rfl⟩ := List.cons.inj split
    obtain rfl : world = passed := Option.some.inj (replayed.symm.trans situation)
    rw [progress_of_takesStop takes]
    exact Nat.le_of_eq (World.framed performed).clock.symm
  | cons first rest =>
    obtain ⟨rfl, remaining⟩ := List.cons.inj split
    rw [List.any_cons, Bool.or_eq_false_iff] at begun
    exact (graced rest taken earlier passed remaining takes begun.2 situation).performed
      permitted performed begun.1

/-- Time that passes shortens no grace that was given: the bound on the clock only becomes easier
to meet. -/
theorem moved {waiting : Option Op} {move : Move}
    (graced : Graced config origin history treatment.progress world.clock)
    (disturbed : world.move move = some after) :
    Graced config origin (.moved waiting move :: history) treatment.progress after.clock := by
  intro later taken earlier passed split takes begun situation
  cases later with
  | nil =>
    obtain ⟨rfl, rfl⟩ := List.cons.inj split
    cases takes
  | cons first rest =>
    obtain ⟨rfl, remaining⟩ := List.cons.inj split
    rw [List.any_cons, Bool.or_eq_false_iff] at begun
    exact (graced rest taken earlier passed remaining takes begun.2 situation).later
      (World.clock_moved disturbed) _

end Graced

/-- In every run, whoever took a stop command is given its grace. The account is one of the
history and the clock, and is proved along the run by its two step lemmas. -/
theorem Watched.graced {treatment : Treatment}
    (watched : Watched platform (treating config) .initial (World.initial start) history treatment
      world) :
    Graced config (World.initial start) history treatment.progress world.clock := by
  have followed := watched.always (treated config) (initial_treated config start)
    (fun history treatment world => platform.replay (World.initial start) history = some world ∧
      Graced config (World.initial start) history treatment.progress world.clock)
    ⟨rfl, by
      intro later taken earlier passed split
      cases later <;> cases split⟩
    (by
      rintro history treatment world op reply after ⟨replayed, graced⟩ - permitted performed
      exact ⟨Platform.replay_issued replayed performed,
        graced.issued replayed permitted performed⟩)
    (by
      rintro history treatment world waiting move after ⟨replayed, graced⟩ - - disturbed
      exact ⟨Platform.replay_moved replayed disturbed, graced.moved disturbed⟩)
  exact followed.2

/-- A child that has taken its stop command keeps its process tree until the shutdown
timeout is over, counted from no earlier than the instant it took the command. Only a
failure of the wait for it cuts this short. -/
theorem termination_follows_grace {config : SupervisorConfig} {start : Instant}
    {history : History platform} {program : Supervised Unit} {world : World}
    (reached : Reaches platform (run config) (World.initial start) history program world)
    {sources : List Source} (waits : program.pending = some (.select sources))
    (ends : .killTree ∈ sources) {later earlier : List Happening} {taken : Happening}
    (split : history = later ++ taken :: earlier) (takes : Happening.takesStop taken = true)
    (same : later.any Happening.beginsStop = false) {passed : World}
    (situation : platform.replay (World.initial start) earlier = some passed) :
    WaitFailed later ∨ passed.clock + config.shutdownTimeout ≤ world.clock := by
  obtain ⟨treatment, treats, called⟩ := run_treats reached
  have graces := Watched.graced treats later taken earlier passed split takes same situation
  have admitted : treatment.admits .killTree := called.pending_permitted _ waits _ ends
  rcases admitted.2 with unsent | expired
  · rw [unsent] at graces
    exact graces.elim
  · rwa [expired] at graces

/-- The silent child is killed half a minute after it took its command. The history is cut at the
event that took it, which is found by looking back from the kill. -/
theorem silent_child_has_its_grace :
    ∃ later taken earlier passed, killRun.history = later ++ taken :: earlier ∧
      Happening.takesStop taken = true ∧ platform.replay (World.initial 0) earlier = some passed ∧
      (WaitFailed later ∨ passed.clock + seconds 30 ≤ killRun.world.clock) := by
  have pending : killRun.program.pending = some (.select [.killTree]) := by decide +kernel
  have unbegun : (killRun.history.takeWhile fun happening => !Happening.takesStop happening).any
      Happening.beginsStop = false := by decide +kernel
  have found : (killRun.history.dropWhile fun happening =>
      !Happening.takesStop happening).head?.any Happening.takesStop = true := by decide +kernel
  have joined : (killRun.history.takeWhile fun happening => !Happening.takesStop happening) ++
      (killRun.history.dropWhile fun happening => !Happening.takesStop happening) =
        killRun.history := List.takeWhile_append_dropWhile
  cases rest : killRun.history.dropWhile fun happening => !Happening.takesStop happening with
  | nil =>
    rw [rest] at found
    cases found
  | cons taken earlier =>
    rw [rest] at found joined
    have whole := killRun_reached
    unfold Configuration.Continues at whole
    rw [← joined, List.append_cons] at whole
    obtain ⟨_, passed, reached, -⟩ := whole.split
    have takes : Happening.takesStop taken = true := by simpa using found
    exact ⟨_, taken, earlier, passed, joined.symm, takes, reached.replayed,
      termination_follows_grace killRun_reached pending List.mem_cons_self joined.symm takes
        unbegun reached.replayed⟩

/-! ## Failures and readiness -/

/-- The last wait found the child ready, and nothing was launched or published since. -/
def foundReady : List Happening → Bool
  | [] => false
  | .issued (.select _) event :: _ => event = .connect true
  | .issued .launch _ :: _ | .issued (.publish _ _) _ :: _ => false
  | _ :: earlier => foundReady earlier

/-- Some child could not be queried, waited for or ended. -/
def childFailed (history : List Happening) : Bool := history.any Happening.failsChild

/-- What the treatment remembers is what the history records: whether a child has failed, and
whether one was found ready. -/
theorem Watched.remembers {treatment : Treatment}
    (watched : Watched platform (treating config) .initial (World.initial start) history treatment
      world) :
    treatment.failed = childFailed history ∧ treatment.ready = foundReady history := by
  refine watched.always (treated config) (initial_treated config start)
    (fun history treatment _ => treatment.failed = childFailed history ∧
      treatment.ready = foundReady history) ⟨rfl, rfl⟩ ?_ ?_
  · rintro history treatment world op reply after ⟨failures, readiness⟩ - - -
    constructor
    · have kept := Treatment.after_failed config treatment op reply
      rw [failures, Bool.or_comm] at kept
      exact kept
    · cases op <;> first | rfl | exact readiness
  · rintro history treatment world waiting move after remembered - - -
    exact remembered

/-- A run ends with an error exactly when the operating system has failed to query, wait
for or end a child, and after such a failure nothing is launched any more. -/
theorem run_fails_exactly_when_a_child_did {config : SupervisorConfig} {start : Instant}
    {history : History platform} {program : Supervised Unit} {world : World}
    (reached : Reaches platform (run config) (World.initial start) history program world) :
    (∀ result, program.pending = some (.exit result) →
      (result = .ok () ↔ childFailed history = false)) ∧
    (program.pending = some .launch → childFailed history = false) := by
  obtain ⟨treatment, treats, called⟩ := run_treats reached
  obtain ⟨failures, -⟩ := Watched.remembers treats
  constructor
  · intro result ends
    rw [← failures]
    exact called.pending_permitted _ ends
  · intro launches
    rw [← failures]
    exact called.pending_permitted _ launches

/-- The process tree of the child cannot be ended, and its supervisor ends with an error. -/
def failedRun : Configuration platform Unit :=
  (killRun.rehearse World.dictated 3 [Cue.event (.killTree .unavailable)]).follow
    (Cue.event (.child .exited))

/-- The run with a failed kill is one that the supervisor can really take. -/
theorem failedRun_reached : failedRun.Continues (run (exampleConfig false)) (World.initial 0) :=
  (killRun_reached.rehearse _ _ _).follow _

/-- It is about to return the error of the termination, and its history shows the failed child. -/
theorem failed_child_fails_the_run :
    failedRun.program.pending = some (.exit (.error .termination)) ∧
      childFailed failedRun.history = true := by
  have ends : failedRun.program.pending = some (.exit (.error .termination)) := by decide +kernel
  have failed := ((run_fails_exactly_when_a_child_did failedRun_reached).1 _ ends).mpr.mt nofun
  exact ⟨ends, by simpa using failed⟩

/-- A server is published as running only while it starts, right after its readiness was
found, and while its child is not known to have ended. -/
theorem running_follows_readiness {config : SupervisorConfig} {start : Instant}
    {history : History platform} {program : Supervised Unit} {world : World}
    (reached : Reaches platform (run config) (World.initial start) history program world)
    {next : LifecycleState} (publishes : program.pending = some (.publish .publishRunning next)) :
    foundReady history = true ∧ world.child = .live ∧ world.lifecycle.phase = .starting := by
  obtain ⟨treatment, treats, called⟩ := run_treats reached
  obtain ⟨stance, watched, remaining⟩ := run_follows reached
  obtain ⟨-, lifecycle, -, -⟩ :=
    watched.related (coupled config.rcon) (initial_coupled config.rcon start)
  have same : treatment.child = world.child :=
    treats.related (treated config) (initial_treated config start)
  obtain ⟨-, readiness⟩ := Watched.remembers treats
  obtain ⟨ready, live⟩ := (called.pending_permitted _ publishes).1 rfl
  obtain ⟨-, -, admits, -⟩ := remaining.pending_permitted _ publishes
  refine ⟨readiness ▸ ready, same ▸ live, ?_⟩
  rw [← lifecycle]
  simp only [Transition.admits, Bool.and_eq_true, decide_eq_true_eq] at admits
  exact admits.1

/-- The first child is found ready. -/
def readyRun : Configuration platform Unit :=
  ((rehearsal (exampleConfig false) untilReady.dropLast).follow
    (Cue.event (.connect true))).settle World.dictated 5

/-- The run up to the first readiness is one that the supervisor can really take. -/
theorem readyRun_reached : readyRun.Continues (run (exampleConfig false)) (World.initial 0) :=
  ((rehearsal_reached _ _).follow _).settle _ _

/-- In it the server was found ready with its child alive, while its phase is still starting. -/
theorem first_child_runs_when_ready :
    foundReady readyRun.history = true ∧ readyRun.world.child = .live ∧
      readyRun.world.lifecycle.phase = .starting :=
  have publishes : readyRun.program.pending = some (.publish .publishRunning
      (Transition.publishRunning.target readyRun.world.lifecycle 0)) := by decide +kernel
  running_follows_readiness readyRun_reached publishes

end McServerNap
