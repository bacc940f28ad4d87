import McServerNap.Conformance.Pace
import McServerNap.Conformance.Supervisor
import McServerNap.Rehearsal
import McServerNap.Retention

/-!
# The shutdown watchdog

The runtime waits for its supervisor no longer than `supervisor_shutdown_wait_limit`
after it has signalled a shutdown, and aborts it then. A supervisor that polls its
players when the signal comes finishes that poll first. So the limit suffices exactly
where no such poll can take longer than the limit's margin beyond a whole stop.
-/

namespace McServerNap

open Interaction

/-- `Duration::MAX`. -/
def durationMax : Duration := seconds (2 ^ 64 - 1) + 999999999

/-- `Duration::checked_add`. -/
def checkedAdd (first second : Duration) : Option Duration :=
  if first + second ≤ durationMax then some (first + second) else none

/-- `SUPERVISOR_SHUTDOWN_MARGIN`. -/
def supervisorShutdownMargin : Duration := seconds 10

/-- `supervisor_shutdown_wait_limit`. -/
def supervisorShutdownWaitLimit (commandTimeout shutdownTimeout : Duration) : Option Duration :=
  (checkedAdd commandTimeout shutdownTimeout).bind fun combined =>
    checkedAdd combined supervisorShutdownMargin

/-- A checked sum is the sum. -/
theorem checkedAdd_eq {first second total : Duration}
    (added : checkedAdd first second = some total) : total = first + second := by
  unfold checkedAdd at added
  split at added <;> cases added
  rfl

/-- The wait limit is the two timeouts and the margin. -/
theorem supervisorShutdownWaitLimit_eq {commandTimeout shutdownTimeout limit : Duration}
    (limited : supervisorShutdownWaitLimit commandTimeout shutdownTimeout = some limit) :
    limit = commandTimeout + shutdownTimeout + supervisorShutdownMargin := by
  obtain ⟨combined, first, second⟩ := Option.bind_eq_some_iff.mp limited
  rw [checkedAdd_eq second, checkedAdd_eq first]

/-- A shutdown was signalled, and the supervisor returns in time as soon as it knows. -/
structure WindingDown (config : SupervisorConfig) (limit : Instant) (stance : Stance)
    (pace : Pace) (world : World) : Prop where
  due : pace.due config stance.final stance.stage.closed world.clock ≤ limit
  unheard : stance.final = false → world.shutdown = .sent

/-- A signal that is waiting is still there or was heard. -/
theorem Stance.heard (rcon : Bool) (stance : Stance) {world after : World} {op : Op}
    {reply : Reply op} (performed : world.perform op reply = some after)
    (sent : world.shutdown = .sent) :
    after.shutdown = .sent ∨ (stance.after rcon op reply).ending = true := by
  rw [Stance.after_ending, ← sent]
  exact (World.shutdown_performed performed).imp_right fun heard => Bool.or_eq_true_iff.mpr (.inl heard)

/-- A biased wait that polls the shutdown channel first hears a waiting signal. -/
theorem World.selects_shutdown {world : World} {sources : List Source} {event : Event}
    (first : sources.head? = some .shutdown) (sent : world.shutdown = .sent)
    (selected : world.selects sources event = true) : event = .shutdown := by
  cases sources with
  | nil => cases first
  | cons source rest =>
    obtain rfl : source = .shutdown := Option.some.inj first
    have ready : world.ready .shutdown = true := by simp [World.ready, sent]
    rcases Bool.or_eq_true_iff.mp selected with completes | later
    · cases event <;> first | rfl | cases completes
    · simp [ready] at later

/-- And time does not pass in it. -/
theorem World.idles_shutdown {world : World} {sources : List Source} {instant : Instant}
    (first : sources.head? = some .shutdown) (sent : world.shutdown = .sent) :
    world.idles instant (some (.select sources)) = false := by
  cases sources with
  | nil => cases first
  | cons source rest =>
    obtain rfl : source = .shutdown := Option.some.inj first
    simp [World.idles, World.ready, sent]

variable {config : SupervisorConfig} {stance : Stance} {pace : Pace} {world after : World}

/-- A final supervisor that waits is not free: a free one waits for the shutdown, which a final
one has already observed, or it is in the last stop. -/
theorem Paced.unfree {sources : List Source} (paced : Paced config stance pace world)
    (permitted : stance.permits (.select sources)) (keeps : pace.permits (.select sources))
    (final : stance.final = true) : pace ≠ .free := by
  rintro rfl
  have listed : Source.shutdown ∈ sources := List.mem_of_head? keeps
  have allowed := permitted.2.2.2.1 _ listed
  have suspends := permitted.2.1
  have unstopped := paced.stops
  obtain ⟨stage, lifecycle, child, held, offer, ending⟩ := stance
  cases ending with
  | true => simp [Stance.allows] at allowed
  | false =>
    cases stage with
    | stopping => cases unstopped
    | closing => cases suspends
    | _ => cases final

/-- Until it is final, a supervisor hears a waiting signal in every wait but a poll. -/
theorem Paced.listens {sources : List Source} (paced : Paced config stance pace world)
    (permitted : stance.permits (.select sources)) (keeps : pace.permits (.select sources))
    (serving : stance.final = false) :
    sources.head? = some .shutdown ∨ ∃ deadline, pace = .polling deadline := by
  have attends := permitted.2.2.2.2
  have stops := paced.stops
  obtain ⟨stage, lifecycle, child, held, offer, ending⟩ := stance
  obtain ⟨rfl, unlast⟩ := Bool.or_eq_false_iff.mp serving
  cases pace with
  | free => exact .inl keeps
  | polling deadline => exact .inr ⟨deadline, rfl⟩
  | pollDue | stopping => cases keeps
  | _ =>
    refine .inl (attends.resolve_left ?_)
    cases stage with
    | stopping cause latched => cases cause <;> simp_all [Stance.deaf, Stage.last]
    | _ => cases stops

namespace Pace

/-- What is not published brings nothing forward but a poll that has become due. A new deadline
lies as far ahead as was allowed for when it was not yet there. -/
theorem ahead.due_after {op : Op} {reply : Reply op} {closed : Bool} (final : Bool)
    (ahead : pace.ahead config world.clock) (performed : world.perform op reply = some after)
    (unpublished : ∀ transition next, op ≠ .publish transition next)
    (unclosed : closed = true → pace.stops = false)
    (undue : pace = .free → pace.after config op reply = .free) :
    (pace.after config op reply).due config final closed world.clock ≤
      pace.due config final closed world.clock := by
  cases op with
  | publish transition next => exact absurd rfl (unpublished transition next)
  | now =>
    obtain rfl : reply = world.clock := by
      simp only [World.perform] at performed
      split at performed
      · assumption
      · cases performed
    cases pace <;> cases final <;> cases closed <;>
      grind [Pace.ahead, Pace.after, Pace.due, stopLimit, Pace.stops]
  | tryWait =>
    cases pace <;> cases final <;> cases closed <;>
      grind [Pace.ahead, Pace.after, Pace.due, stopLimit]
  | select sources =>
    cases pace with
    | free => exact Nat.le_of_eq (by rw [undue rfl])
    | polling deadline =>
      cases final <;> cases closed <;>
        grind [Pace.ahead, Pace.after, Pace.due, stopLimit]
    | _ => exact Nat.le_refl _
  | _ => exact Nat.le_refl _

end Pace

/-- What is final stays final. A shutdown that was observed is remembered, and a last stop ends
only by closing the supervision. -/
theorem Stance.final_after (rcon : Bool) {op : Op} (reply : Reply op)
    (permitted : stance.permits op) (final : stance.final = true) :
    (stance.after rcon op reply).final = true := by
  rcases Bool.or_eq_true_iff.mp final with ending | last
  · have kept : (stance.after rcon op reply).ending = true := by
      rw [Stance.after_ending, ending, Bool.or_true]
    exact Bool.or_eq_true_iff.mpr (.inl kept)
  · refine Bool.or_eq_true_iff.mpr (.inr ?_)
    by_cases publishes : ∃ transition next, op = .publish transition next
    · obtain ⟨transition, next, rfl⟩ := publishes
      have unclosed := Stance.unclosed_of_legal permitted.2.1
      have stops : stance.stage.stops = true := by
        cases stage : stance.stage <;> simp_all [Stage.last, Stage.stops, Stage.closed]
      exact Stage.last_of_closed (Stance.closing_of_final permitted.2.1 final stops next)
    · rw [(Stance.after_stops rcon reply permitted
        fun transition next same => publishes ⟨transition, next, same⟩).2.1]
      exact last

/-- A publication brings nothing forward. Where it begins a stop the whole of that stop was
already allowed for, unless a final stop was in progress, which it ends. -/
theorem Paced.due_published {transition : Transition} {next : LifecycleState} {reply : Unit}
    (paced : Paced config stance pace world)
    (permitted : stance.permits (.publish transition next))
    (keeps : pace.permits (.publish transition next)) :
    (pace.after config (.publish transition next) reply).due config
        (stance.after config.rcon (.publish transition next) reply).final
        (stance.after config.rcon (.publish transition next) reply).stage.closed world.clock ≤
      pace.due config stance.final stance.stage.closed world.clock := by
  have legal := permitted.2.1
  have unclosed := Stance.unclosed_of_legal legal
  have begins := Stance.published_stops legal next
  have stops := paced.stops
  -- unless a final stop is in progress, a whole stop is allowed for
  have whole (serving : pace.stops = true → stance.final = false) :
      pace.due config stance.final stance.stage.closed world.clock =
        world.clock + stopLimit config := by
    cases pace with
    | free => cases final : stance.final <;> simp [Pace.due, unclosed]
    | pollDue | polling => cases keeps
    | _ => simp [Pace.due, serving rfl]
  simp only [Stance.after, Pace.after]
  cases starts : transition.stops with
  | true =>
    have owned := Stance.owned_of_stops legal starts
    have open_ := Stage.unclosed_of_stops (begins.trans starts)
    rw [whole fun stopping => by simp [← stops, owned, Stage.stops] at stopping]
    simp only [if_true, Pace.due, open_, Bool.false_eq_true, if_false]
    split <;> exact Nat.le_refl _
  | false =>
    simp only [Bool.false_eq_true, if_false]
    cases closed : (stance.published next transition).closed with
    | true =>
      have last := Stage.last_of_closed closed
      simpa [Pace.due, Stance.final, last] using
        paced.ahead.le_due stance.final stance.stage.closed
    | false =>
      rw [whole fun stopping => by
        cases final : stance.final with
        | false => rfl
        | true =>
          have closing := Stance.closing_of_final legal final (stops.trans stopping) next
          exact absurd closing (by simp [closed])]
      simp only [Pace.due, Bool.false_eq_true, if_false]
      split <;> exact Nat.le_refl _

/-- While a signal is waiting no player poll becomes due: the wait has the branch of the shutdown
first, and a `biased` wait takes that one. -/
theorem WindingDown.undue {limit : Instant} {op : Op} {reply : Reply op}
    (winding : WindingDown config limit stance pace world) (paced : Paced config stance pace world)
    (permitted : stance.permits op) (keeps : pace.permits op)
    (performed : world.perform op reply = some after)
    (unpublished : ∀ transition next, op ≠ .publish transition next) (free : pace = .free) :
    pace.after config op reply = .free := by
  subst free
  cases op with
  | publish transition next => exact absurd rfl (unpublished transition next)
  | select sources =>
    have serving : stance.final = false := by
      cases final : stance.final with
      | false => rfl
      | true => exact absurd rfl (paced.unfree permitted keeps final)
    have selected : world.selects sources reply = true := by
      simp only [World.perform] at performed
      split at performed
      · assumption
      · cases performed
    obtain rfl := World.selects_shutdown keeps (winding.unheard serving) selected
    simp [Pace.after]
  | _ => rfl

/-- No operation puts off the end of a supervisor that is to shut down. Publications and other
operations are two lemmas; what is to be found at the next wait stays there. -/
theorem WindingDown.issued {limit : Instant} {op : Op} {reply : Reply op}
    (winding : WindingDown config limit stance pace world) (paced : Paced config stance pace world)
    (permitted : stance.permits op) (keeps : pace.permits op)
    (performed : world.perform op reply = some after) :
    WindingDown config limit (stance.after config.rcon op reply) (pace.after config op reply)
      after := by
  have clock := (World.framed performed).clock
  have later := (paced.issued permitted keeps performed).ahead
  have finally_ := Stance.final_after config.rcon reply permitted
  rw [clock] at later
  constructor
  · refine Nat.le_trans ?_ winding.due
    rw [clock]
    by_cases publishes : ∃ transition next, op = .publish transition next
    · obtain ⟨transition, next, rfl⟩ := publishes
      exact paced.due_published permitted keeps
    · have unpublished : ∀ transition next, op ≠ .publish transition next :=
        fun transition next same => publishes ⟨transition, next, same⟩
      have unclosed (closed : stance.stage.closed = true) : pace.stops = false := by
        rw [← paced.stops]
        cases stage : stance.stage <;> simp_all [Stage.closed, Stage.stops]
      have brought := paced.ahead.due_after stance.final performed unpublished unclosed
        (winding.undue paced permitted keeps performed unpublished)
      rw [(Stance.after_stops config.rcon reply permitted unpublished).2.2]
      refine Nat.le_trans ?_ brought
      cases before : stance.final with
      | true => rw [finally_ before]
      | false =>
        cases (stance.after config.rcon op reply).final with
        | true => exact later.due_final stance.stage.closed
        | false => exact Nat.le_refl _
  · intro serving
    have unfinished : stance.final = false := by
      cases final : stance.final with
      | false => rfl
      | true => exact absurd (finally_ final) (Bool.eq_false_iff.mp serving)
    have heard_ := Stance.heard config.rcon stance performed (winding.unheard unfinished)
    refine heard_.resolve_right fun heard => ?_
    exact absurd (Bool.or_eq_true_iff.mpr (.inl heard)) (Bool.eq_false_iff.mp serving)

/-- A signal that was sent waits for the supervisor to receive it; neither time nor clients take
it away. -/
theorem World.sent_timedMove {waiting : Option Op} {move : Move}
    (moved : world.timedMove waiting move = some after) (sent : world.shutdown = .sent) :
    after.shutdown = .sent := by
  cases move with
  | tick elapsed => 
    obtain rfl := Option.some.inj (World.timedMove_move moved)
    exact sent
  | client index step =>
    obtain ⟨task, later, stepped, -, step, rfl⟩ := World.move_client moved
    obtain ⟨slot, activity, changed, rfl⟩ := World.clientStep_frame step
    exact sent
  | sendShutdown | dropShutdown =>
    simp [World.timedMove, World.move, sent] at moved
  | closeWakes | accept =>
    cases moved
    exact sent

/-- Time passes only while a deadline is awaited that is already accounted for, so the end that is
to be expected stays where it is while a wait idles. -/
theorem WindingDown.due_idles {limit : Instant} {waiting : Option Op} {elapsed : Duration}
    (winding : WindingDown config limit stance pace world) (paced : Paced config stance pace world)
    (permitted : ∀ op, waiting = some op → stance.permits op)
    (keeps : ∀ op, waiting = some op → pace.permits op)
    (idles : world.idles (world.clock + elapsed) waiting = true) :
    pace.due config stance.final stance.stage.closed (world.clock + elapsed) =
      pace.due config stance.final stance.stage.closed world.clock := by
  cases waiting with
  | none => cases idles
  | some op =>
    cases op with
    | select sources =>
      have waits := keeps _ rfl
      cases final : stance.final with
      | false =>
        rcases paced.listens (permitted _ rfl) waits final with first | ⟨deadline, rfl⟩
        · rw [World.idles_shutdown first (winding.unheard final)] at idles
          cases idles
        · rfl
      | true =>
        cases pace with
        | free => exact absurd rfl (paced.unfree (permitted _ rfl) waits final)
        | pollDue | stopping => cases waits
        | terminating =>
          obtain ⟨source, listed, kills⟩ := List.any_eq_true.mp waits.1
          have lasts := List.all_eq_true.mp idles source listed
          cases source <;> simp_all [Source.kills, Source.lasts]
        | _ => simp only [Pace.due, if_true]
    | _ => cases idles

/-- Time passes only where it is accounted for. A tick leaves the expected end where it is, and
every other move leaves the clock. -/
theorem WindingDown.moved {limit : Instant} {waiting : Option Op} {move : Move}
    (winding : WindingDown config limit stance pace world) (paced : Paced config stance pace world)
    (permitted : ∀ op, waiting = some op → stance.permits op)
    (keeps : ∀ op, waiting = some op → pace.permits op)
    (moved : world.timedMove waiting move = some after) :
    WindingDown config limit stance pace after := by
  constructor
  · refine Nat.le_trans ?_ winding.due
    rcases World.clock_timedMove moved with ⟨elapsed, -, idles, rfl⟩ | same
    · exact Nat.le_of_eq (winding.due_idles paced permitted keeps idles)
    · rw [same]
  · intro serving
    exact World.sent_timedMove moved (winding.unheard serving)

/-- The last wait that ended was for the next player poll, so that one is in progress. -/
def pollsPlayers : History timed → Bool
  | .issued (.select _) event :: _ => event = .elapsed .playerPoll
  | _ :: earlier => pollsPlayers earlier
  | [] => false

/-- Only the end of a poll's delay begins a poll, and the next event ends it. -/
theorem Pace.after_polls {history : History timed} {op : Op} {reply : Reply op}
    (agrees : pollsPlayers history = pace.polls) (keeps : pace.permits op)
    (performed : world.perform op reply = some after) :
    pollsPlayers (.issued op reply :: history) = (pace.after config op reply).polls := by
  cases op with
  | select sources =>
    have offered : reply = .elapsed .playerPoll → sources.any Source.polls = true := by
      rintro rfl
      simp only [World.perform] at performed
      split at performed
      · rename_i selected
        obtain ⟨source, listed, offers⟩ := World.selects_offers selected
        refine List.any_eq_true.mpr ⟨source, listed, ?_⟩
        cases source <;> simp_all [Source.offers, Source.polls]
      · cases performed
    have other (unpolled : sources.any Source.polls = false) :
        decide (reply = .elapsed .playerPoll) = false :=
      decide_eq_false fun due => by simp [offered due] at unpolled
    simp only [pollsPlayers]
    cases pace with
    | free =>
      by_cases due : reply = .elapsed .playerPoll
      · simp [Pace.after, due, offered due, Pace.polls]
      · simp [Pace.after, due, Pace.polls]
    | pollDue | stopping => cases keeps
    | _ => rw [other keeps.2]; rfl
  | publish transition next =>
    simp only [pollsPlayers, agrees, Pace.after]
    cases pace with
    | pollDue | polling => cases keeps
    | _ => split <;> rfl
  | now | tryWait =>
    simp only [pollsPlayers, agrees]
    cases pace <;> rfl
  | _ => exact agrees

variable {start limit : Instant} {history later earlier : History timed}
  {program : Supervised Unit} {waiting : Option Op} {present : World}

/-- What holds of a run as far as it has come: a poll of its history is a poll of its
pace, and every signal it contains left the time that the supervisor needs. -/
structure Timely (config : SupervisorConfig) (start : Instant) (history : History timed)
    (states : Stance × Pace) (world : World) : Prop where
  replayed : timed.replay (World.initial start) history = some world
  polls : pollsPlayers history = states.2.polls
  winding : ∀ {later waiting earlier present},
    history = later ++ .moved waiting .sendShutdown :: earlier →
    timed.replay (World.initial start) earlier = some present →
    WindingDown config (present.clock +
      (if pollsPlayers earlier then config.commandTimeout else 0) + stopLimit config)
      states.1 states.2 world

/-- At first nothing has been polled, and no signal has come. -/
theorem Timely.initial : Timely config start [] (Stance.initial (.reconciling start), .free)
    (World.initial start) where
  replayed := rfl
  polls := rfl
  winding := fun passed => by simp at passed

/-- The supervisor's operations keep the account: a poll of the run is one of the pace, and what a
signal left is used up only by time. -/
theorem Timely.issued {states : Stance × Pace} {op : Op} {reply : Reply op}
    (timely : Timely config start history states world)
    (paced : Paced config states.1 states.2 world)
    (permitted : states.1.permits op) (keeps : states.2.permits op)
    (performed : world.perform op reply = some after) :
    Timely config start (.issued op reply :: history)
      (states.1.after config.rcon op reply, states.2.after config op reply) after where
  replayed := Platform.replay_issued timely.replayed performed
  polls := Pace.after_polls timely.polls keeps performed
  winding := by
    intro later waiting earlier present passed signalled
    cases later with
    | nil => cases passed
    | cons label rest =>
      obtain ⟨-, remaining⟩ := List.cons.inj passed
      exact (timely.winding remaining signalled).issued paced permitted keeps performed

/-- Time that passes brings the supervisor closer to the end of its next deadline, and a signal
that arrives leaves it all the time the pace still needs. -/
theorem Timely.moved {states : Stance × Pace} {move : Move}
    (timely : Timely config start history states world)
    (paced : Paced config states.1 states.2 world)
    (permitted : ∀ op, waiting = some op → states.1.permits op ∧ states.2.permits op)
    (disturbed : world.timedMove waiting move = some after) :
    Timely config start (.moved waiting move :: history) states after where
  replayed := Platform.replay_moved timely.replayed disturbed
  polls := timely.polls
  winding := by
    intro later waited earlier present passed signalled
    cases later with
    | nil =>
      obtain ⟨same, rfl⟩ := List.cons.inj passed
      cases same
      obtain rfl : present = world := Option.some.inj (signalled.symm.trans timely.replayed)
      simp only [World.timedMove, World.move] at disturbed
      split at disturbed <;> cases disturbed
      refine ⟨?_, fun _ => rfl⟩
      rw [timely.polls]
      exact paced.ahead.due_le _ _
    | cons label rest =>
      obtain ⟨-, remaining⟩ := List.cons.inj passed
      exact (timely.winding remaining signalled).moved paced (fun op waits => (permitted op waits).1)
        (fun op waits => (permitted op waits).2) disturbed

/-- A run leaves the time that the supervisor needs after a signal, and no more: it is
a whole stop, after a poll of the players where one is in progress. -/
theorem run_timely
    (reached : Reaches timed (run config) (World.initial start) history program world) :
    ∃ states, Timely config start history states world ∧
      Paced config states.1 states.2 world := by
  have initial : (clocked config).relates (Stance.initial (.reconciling start), .free)
      (World.initial start) :=
    ⟨initial_coupled config.rcon start, trivial, rfl⟩
  obtain ⟨states, watched, -⟩ := reached.watched (clocked config) initial
    ((safe_run (initial_sound start)).both paced_run)
  refine ⟨states, ?_, (watched.related (clocked config) initial).2⟩
  exact watched.always (clocked config) initial (Timely config start) .initial
    (fun timely related permitted performed =>
      timely.issued related.2 permitted.1 permitted.2 performed)
    fun timely related permitted disturbed => timely.moved related.2 permitted disturbed

/-- The watchdog outlasts a supervisor that was not polling its players when it was
signalled, or whose polls take no longer than the margin leaves beside the reaping. -/
theorem watchdog_outlasts_supervisor {config : SupervisorConfig} {start limit : Instant}
    {history later earlier : History timed} {program : Supervised Unit} {waiting : Option Op}
    {present world : World}
    (reached : Reaches timed (run config) (World.initial start) history program world)
    (passed : history = later ++ .moved waiting .sendShutdown :: earlier)
    (signalled : timed.replay (World.initial start) earlier = some present)
    (limited : supervisorShutdownWaitLimit config.commandTimeout config.shutdownTimeout =
      some limit)
    (brief : pollsPlayers earlier = false ∨ config.commandTimeout ≤ seconds 5) :
    world.supervised = true → world.clock ≤ present.clock + limit := by
  intro _
  obtain ⟨states, timely, paced⟩ := run_timely reached
  have due := (timely.winding passed signalled).due
  have reached := paced.ahead.le_due states.1.final states.1.stage.closed
  rw [supervisorShutdownWaitLimit_eq limited]
  refine Nat.le_trans reached (Nat.le_trans due ?_)
  rcases brief with idle | brief
  · simp only [idle, Bool.false_eq_true, if_false, stopLimit, reapingTimeout]
    grind [supervisorShutdownMargin, seconds]
  · split <;> grind [stopLimit, reapingTimeout, supervisorShutdownMargin, seconds]

/-- The same cue where nothing but waiting takes time. -/
def Cue.timed : Cue platform → Cue timed
  | .reply policy => .reply policy
  | .move move => .move move

/-- A rehearsal on the timed platform. -/
def timedRehearsal (config : SupervisorConfig) (cues : List (Cue platform)) :
    Configuration timed Unit :=
  (Configuration.fresh timed (run config) (World.initial 0)).rehearse World.dictated 64
    (cues.map Cue.timed)

instance : DecidableEq timed.Move := inferInstanceAs (DecidableEq Move)

/-- Every wait of a stop lasts as long as it can, and so did the poll before. -/
def slowStop : List (Cue platform) :=
  [.move (.tick (seconds 10)), Cue.event (.rconStop true)] ++ Cue.elapse .graceful (seconds 30) ++
    [Cue.tryWait .running, Cue.event (.killTree .killed), .move (.tick (seconds 5))]

/-- The shutdown is signalled while the supervisor waits for the idle server. -/
def slowStopRun : Configuration timed Unit :=
  timedRehearsal (exampleConfig true) (untilReady ++
    [Cue.event (.elapsed .playerPoll), Cue.event (.rconConnect false),
      .move .sendShutdown, Cue.event .shutdown] ++ slowStop)

/-- The run with a slow stop is one that the supervisor can really take. -/
theorem slowStopRun_reached :
    slowStopRun.Continues (run (exampleConfig true)) (World.initial 0) :=
  Configuration.rehearse_reached _ _ _ _ _

/-- The supervisor waits for the idle server when it is signalled. -/
def idlingRun : Configuration timed Unit :=
  timedRehearsal (exampleConfig true) (untilReady ++
    [Cue.event (.elapsed .playerPoll), Cue.event (.rconConnect false)])

/-- So is the run up to its signal. -/
theorem idlingRun_reached : idlingRun.Continues (run (exampleConfig true)) (World.initial 0) :=
  Configuration.rehearse_reached _ _ _ _ _

/-- In this run the supervisor still goes on where it ends, which is not more than 50 seconds
after the signal. -/
theorem watchdog_outlasts_slow_stop :
    slowStopRun.world.supervised = true ∧
      slowStopRun.world.clock ≤ idlingRun.world.clock + seconds 50 := by
  have supervised : slowStopRun.world.supervised = true := by decide +kernel
  exact ⟨supervised, watchdog_outlasts_supervisor slowStopRun_reached
    (by decide +kernel : slowStopRun.history = slowStopRun.history.take 14 ++
      .moved (some (.select [.shutdown, .wake, .child, .activity,
        .sleepUntil .playerPoll (seconds 2)])) .sendShutdown :: idlingRun.history)
    idlingRun_reached.replayed (by decide +kernel) (.inl (by decide +kernel)) supervised⟩

/-- A poll of the players has begun. -/
def pollingRun : Configuration timed Unit :=
  timedRehearsal (exampleConfig true) (untilReady ++ [Cue.event (.elapsed .playerPoll)])

/-- The run whose signal arrives during a poll of the players is one that the supervisor can
really take. -/
theorem pollingRun_reached : pollingRun.Continues (run (exampleConfig true)) (World.initial 0) :=
  Configuration.rehearse_reached _ _ _ _ _

/-- The shutdown is signalled at the beginning of a poll. -/
def slowPollRun : Configuration timed Unit :=
  timedRehearsal (exampleConfig true) (untilReady ++
    [Cue.event (.elapsed .playerPoll), .move .sendShutdown] ++
    Cue.elapse .command (seconds 10) ++ [Cue.event .shutdown] ++ slowStop)

/-- With the default timings the watchdog does not outlast a stop that follows a poll of
the players: the child is not reaped yet five seconds after the limit. -/
theorem slow_poll_outlasts_watchdog :
    ∃ (history later earlier : History timed) (program : Supervised Unit) (world present : World)
      (waiting : Option Op) (limit : Instant),
      Reaches timed (run (exampleConfig true)) (World.initial 0) history program world ∧
        history = later ++ .moved waiting .sendShutdown :: earlier ∧
        timed.replay (World.initial 0) earlier = some present ∧
        supervisorShutdownWaitLimit (exampleConfig true).commandTimeout
          (exampleConfig true).shutdownTimeout = some limit ∧
        world.supervised = true ∧ world.child = .live ∧
        world.clock = present.clock + limit + seconds 5 :=
  ⟨slowPollRun.history, slowPollRun.history.take 18, pollingRun.history, slowPollRun.program,
    slowPollRun.world, pollingRun.world,
    some (.select [.rconConnect, .sleepUntil .command (seconds 10)]), seconds 50,
    Configuration.rehearse_reached _ _ _ _ _, by decide +kernel, pollingRun_reached.replayed,
    by decide +kernel, by decide +kernel, by decide +kernel, by decide +kernel⟩

end McServerNap
