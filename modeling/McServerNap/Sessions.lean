import McServerNap.IdleStop

/-!
# Sessions over time

While a cycle is current the activity record counts its sessions. From the record's
idle anchor on there was none, at no instant; a clock that only advances makes the
end of the last session the latest instant at which one was open.
-/

namespace McServerNap

open Interaction

/-- No answer and no move turns the clock back, so an instant that has passed stays in the
past. -/
theorem World.clock_moved {world after : World} {move : Move}
    (moved : world.move move = some after) : world.clock ≤ after.clock := by
  cases move with
  | client index step =>
    obtain ⟨task, later, stepped, -, step, rfl⟩ := World.move_client moved
    obtain ⟨slot, activity, changed, rfl⟩ := World.clientStep_frame step
    exact Nat.le_refl _
  | sendShutdown | dropShutdown =>
    simp only [World.move] at moved
    split at moved <;> cases moved
    exact Nat.le_refl _
  | tick elapsed =>
    cases moved
    exact Nat.le_add_right _ _
  | closeWakes | accept =>
    cases moved
    exact Nat.le_refl _

/-- The clock of a run does not go back. The induction is on the later part of its history. -/
theorem clock_monotone {origin passed world : World} {later earlier : List Happening}
    (before : platform.replay origin earlier = some passed)
    (after : platform.replay origin (later ++ earlier) = some world) :
    passed.clock ≤ world.clock := by
  induction later generalizing world with
  | nil =>
    obtain rfl : passed = world := Option.some.inj (before.symm.trans after)
    exact Nat.le_refl _
  | cons happening rest inductionHypothesis =>
    cases happening with
    | issued op reply =>
      obtain ⟨between, reached, performed⟩ := Option.bind_eq_some_iff.mp after
      rw [(World.framed performed).clock]
      exact inductionHypothesis reached
    | moved waiting move =>
      obtain ⟨between, reached, moved⟩ := Option.bind_eq_some_iff.mp after
      exact Nat.le_trans (inductionHypothesis reached) (World.clock_moved moved)

/-- At no instant after the anchor a session of the cycle was open. Between two
events the sessions stay as they are, so the events' worlds cover all instants. -/
def Rested (origin : World) (cycle : BackendCycle) (anchor : Instant)
    (history : List Happening) : Prop :=
  ∀ later earlier passed, history = later ++ earlier →
    platform.replay origin earlier = some passed → anchor < passed.clock →
    ∀ task ∈ passed.clients, task.session ≠ some cycle

/-- A rest goes on with each event that leaves no session open. Only the world after that event
has to be looked at. -/
theorem Rested.cons {origin world : World} {cycle : BackendCycle} {anchor : Instant}
    {history : List Happening} {happening : Happening} (rested : Rested origin cycle anchor history)
    (replayed : platform.replay origin (happening :: history) = some world)
    (closed : ∀ task ∈ world.clients, task.session ≠ some cycle) :
    Rested origin cycle anchor (happening :: history) := by
  intro later earlier passed split reached past
  cases later with
  | nil =>
    obtain rfl : happening :: history = earlier := split
    obtain rfl : world = passed := Option.some.inj (replayed.symm.trans reached)
    exact closed
  | cons first rest =>
    exact rested rest earlier passed (List.cons.inj split).2 reached past

/-- A rest may begin now. -/
theorem Rested.now {origin world : World} {cycle : BackendCycle} {history : List Happening}
    (replayed : platform.replay origin history = some world) :
    Rested origin cycle world.clock history := by
  intro later earlier passed split reached past
  subst split
  exact absurd (clock_monotone reached replayed) (Nat.not_le.mpr past)

/-- A cycle that has rested since an instant has rested since every later one. -/
theorem Rested.later {origin : World} {cycle : BackendCycle} {anchor after : Instant}
    {history : List Happening} (rested : Rested origin cycle anchor history)
    (past : anchor ≤ after) : Rested origin cycle after history :=
  fun later earlier passed split reached since =>
    rested later earlier passed split reached (Nat.lt_of_le_of_lt past since)

/-- How many sessions of the cycle are open. -/
def World.sessions (world : World) (cycle : BackendCycle) : Nat :=
  world.clients.countP fun task => task.session = some cycle

/-- Where no session of a cycle is open, no client's task holds one. -/
theorem World.closed_of_sessions {world : World} {cycle : BackendCycle}
    (none : world.sessions cycle = 0) : ∀ task ∈ world.clients, task.session ≠ some cycle := by
  simpa [World.sessions, List.countP_eq_zero] using none

/-- The activity record tells how many sessions of the cycle are open and, where
there is none, since when. -/
structure Tallied (origin : World) (cycle : BackendCycle) (since : Instant)
    (history : List Happening) (world : World) : Prop where
  record : ∃ activity, world.activity = some activity ∧ activity.cycle = cycle ∧
    activity.runningSince = since ∧
    activity.activeLoginTransferSessions = world.sessions cycle ∧
    (∀ instant, activity.lastFinalSessionDisconnect = some instant → since ≤ instant) ∧
    ∀ anchor, activity.proxyIdleAnchor = some anchor →
      anchor ≤ world.clock ∧ Rested origin cycle anchor history
  begun : since ≤ world.clock

/-- What a client does to the sessions of the current record's cycle. -/
inductive SessionChange (cycle : BackendCycle) (now : Instant) (activity : CurrentCycleActivity)
    (task later : ClientTask) : Option CurrentCycleActivity → Prop where
  | steady (same : later.session = some cycle ↔ task.session = some cycle) :
      SessionChange cycle now activity task later (some activity)
  | established (before : task.session ≠ some cycle) (after : later.session = some cycle) :
      SessionChange cycle now activity task later (some { activity with
        activeLoginTransferSessions := activity.activeLoginTransferSessions + 1 })
  | dropped (remaining : Nat) (counted : activity.activeLoginTransferSessions = remaining + 1)
      (before : task.session = some cycle) (after : later.session ≠ some cycle) :
      SessionChange cycle now activity task later (some { activity with
        activeLoginTransferSessions := remaining
        lastFinalSessionDisconnect :=
          if remaining = 0 then some now else activity.lastFinalSessionDisconnect })
  | underflow (empty : activity.activeLoginTransferSessions = 0)
      (before : task.session = some cycle) :
      SessionChange cycle now activity task later (some activity)

section SessionChange

variable {activity changed : CurrentCycleActivity} {cycle : BackendCycle} {now : Instant}

/-- A session is counted only in the record's own cycle. -/
theorem SessionChange.of_established
    (counted : establishLoginTransferSession (some activity) cycle = some changed) :
    SessionChange activity.cycle now activity (.working .establish cycle) (.announcing cycle)
      (some changed) := by
  simp only [establishLoginTransferSession, Option.bind_some, Option.ite_none_right_eq_some,
    Option.some.injEq] at counted
  obtain ⟨rfl, rfl⟩ := counted
  exact .established nofun rfl

/-- A session that is counted goes from the record with its task. If it was the last one, the
anchor becomes the instant of the drop. -/
theorem SessionChange.of_dropped
    (dropped : dropLoginTransferSession (some activity) cycle now = .counted changed) :
    SessionChange activity.cycle now activity (.proxying cycle) (.announcingEnd cycle)
      (some changed) := by
  simp only [dropLoginTransferSession] at dropped
  split at dropped
  · rename_i same
    subst same
    split at dropped
    · cases dropped
    · rename_i remaining counted
      cases dropped
      exact .dropped remaining counted rfl (by simp [ClientTask.session])
  · cases dropped

/-- A session of another cycle changes nothing about this one's. -/
theorem SessionChange.of_other
    (other : dropLoginTransferSession (some activity) cycle now = .otherCycle) :
    SessionChange activity.cycle now activity (.proxying cycle) (.releasing cycle)
      (some activity) := by
  refine .steady ⟨nofun, fun same => ?_⟩
  obtain rfl : cycle = activity.cycle := Option.some.inj same
  simp only [dropLoginTransferSession, if_true] at other
  split at other <;> cases other

/-- Nor does one that the record does not count, which the source would panic at. -/
theorem SessionChange.of_underflow
    (underflow : dropLoginTransferSession (some activity) cycle now = .underflow) :
    SessionChange activity.cycle now activity (.proxying cycle) (.releasing cycle)
      (some activity) := by
  simp only [dropLoginTransferSession] at underflow
  split at underflow
  · rename_i same
    subst same
    split at underflow
    · rename_i empty
      exact .underflow empty rfl
    · cases underflow
  · cases underflow

end SessionChange

/-- A step of a client changes the record exactly as it changes the sessions. The cases are the
steps that establish or drop one, and all others. -/
theorem World.clientStep_sessions {world after : World} {task later : ClientTask}
    {step : ClientStep} {activity : CurrentCycleActivity}
    (stepped : world.clientStep task step = some (later, after))
    (recorded : world.activity = some activity) :
    SessionChange activity.cycle world.clock activity task later after.activity := by
  revert stepped
  fun_cases World.clientStep world task step
  all_goals
    intro stepped
    cases stepped
  all_goals try rw [recorded] at *
  all_goals first
    | exact .of_established (by assumption)
    | exact .of_dropped (by assumption)
    | exact .of_other (by assumption)
    | exact .of_underflow (by assumption)
    | exact .steady Iff.rfl
    | refine .steady (iff_of_false ?_ ?_) <;> (simp [ClientTask.session]; done)
    | split <;> refine .steady (iff_of_false ?_ ?_) <;> simp [ClientTask.session]

/-- The record is replaced only by a new cycle's. Every other operation of the supervisor leaves
it as it is; sessions are counted by the clients. -/
theorem World.activity_performed {world after : World} {op : Op} {reply : Reply op}
    (performed : world.perform op reply = some after)
    (same : ∀ cycle since, op ≠ .beginCycle cycle since) : after.activity = world.activity := by
  cases op with
  | select sources =>
    simp only [World.perform] at performed
    split at performed <;> cases performed
    cases reply with
    | wake request => cases request <;> rfl
    | child result => cases result <;> rfl
    | kill ok => cases ok <;> rfl
    | _ => rfl
  | beginCycle cycle since => exact absurd rfl (same cycle since)
  | now | currentLifecycle | activitySnapshot | wakesClosed =>
    simp only [World.perform] at performed
    split at performed <;> cases performed
    rfl
  | tryRecvShutdown =>
    simp only [World.perform] at performed
    split at performed <;> cases performed
    all_goals rfl
  | tryRecvWake =>
    simp only [World.perform] at performed
    split at performed
    all_goals first
      | split at performed <;> cases performed <;> rfl
      | cases performed
        try rfl
  | tryWait =>
    cases present : world.child <;> cases reply <;>
      simp only [World.perform, present, Option.some.injEq, reduceCtorEq] at performed <;>
      subst performed <;> rfl
  | launch => cases reply <;> cases performed <;> rfl
  | publish | answer | releaseExclusive | exit =>
    cases performed
    rfl
  | panic => cases reply

namespace Tallied

variable {origin world after : World} {cycle : BackendCycle} {since : Instant}
  {history : List Happening}

/-- Where no session is open before and after an event, the record's anchor stays. -/
theorem steady {happening : Happening} (tallied : Tallied origin cycle since history world)
    (replayed : platform.replay origin (happening :: history) = some after)
    (activity : after.activity = world.activity) (sessions : after.sessions cycle = world.sessions cycle)
    (clock : world.clock ≤ after.clock) : Tallied origin cycle since (happening :: history) after := by
  obtain ⟨⟨record, recorded, current, running, counted, disconnected, anchored⟩, begun⟩ := tallied
  refine ⟨⟨record, activity.trans recorded, current, running, counted.trans sessions.symm,
    disconnected, fun anchor idle => ?_⟩, Nat.le_trans begun clock⟩
  obtain ⟨past, rested⟩ := anchored anchor idle
  refine ⟨Nat.le_trans past clock, rested.cons replayed (World.closed_of_sessions ?_)⟩
  rw [sessions, ← counted]
  by_contra opened
  simp [CurrentCycleActivity.proxyIdleAnchor, opened] at idle

/-- The supervisor's operations touch no session, as long as they begin no further cycle. -/
theorem issued {op : Op} {reply : Reply op} (tallied : Tallied origin cycle since history world)
    (replayed : platform.replay origin history = some world)
    (performed : world.perform op reply = some after)
    (same : ∀ cycle since, op ≠ .beginCycle cycle since) :
    Tallied origin cycle since (.issued op reply :: history) after := by
  have framed := World.framed performed
  refine tallied.steady (Platform.replay_issued replayed performed)
    (World.activity_performed performed same) ?_ (Nat.le_of_eq framed.clock.symm)
  unfold World.sessions
  rw [framed.clients]

/-- A client step keeps the record in step with the sessions. The last session's end
is the record's new anchor, which no earlier instant passes. -/
theorem stepped {happening : Happening} {index : Nat} {task later : ClientTask}
    {record : CurrentCycleActivity} (tallied : Tallied origin record.cycle since history world)
    (replayed : platform.replay origin (happening :: history) = some after)
    (listed : world.clients[index]? = some task) (recorded : world.activity = some record)
    (clients : after.clients = world.clients.set index later) (clock : after.clock = world.clock)
    (change : SessionChange record.cycle world.clock record task later after.activity) :
    Tallied origin record.cycle since (happening :: history) after := by
  obtain ⟨inside, present⟩ := List.getElem?_eq_some_iff.mp listed
  have sessions : after.sessions record.cycle =
      world.sessions record.cycle - (if task.session = some record.cycle then 1 else 0) +
        (if later.session = some record.cycle then 1 else 0) := by
    simp [World.sessions, clients, List.countP_set inside, present]
  have counts : (if task.session = some record.cycle then 1 else 0) ≤
      world.sessions record.cycle := by
    split
    · exact List.countP_pos_iff.mpr ⟨task, List.mem_of_getElem? listed, by simpa⟩
    · exact Nat.zero_le _
  obtain ⟨_, same, -, running, counted, disconnected, -⟩ := tallied.record
  obtain rfl := Option.some.inj (recorded.symm.trans same)
  have begun := clock ▸ tallied.begun
  generalize changed : after.activity = activity at change
  cases change with
  | steady same =>
    refine tallied.steady replayed (changed.trans recorded.symm) ?_ (Nat.le_of_eq clock.symm)
    by_cases opened : task.session = some record.cycle
    · rw [if_pos opened] at counts
      rw [sessions, if_pos opened, if_pos (same.mpr opened)]
      omega
    · rw [sessions, if_neg opened, if_neg (mt same.mp opened)]
      omega
  | established unopened opened =>
    rw [if_neg unopened, if_pos opened] at sessions
    refine ⟨⟨_, changed, rfl, running, by simp only; omega, disconnected, fun anchor idle => ?_⟩,
      begun⟩
    simp [CurrentCycleActivity.proxyIdleAnchor] at idle
  | dropped remaining counted' opened closed =>
    rw [if_pos opened] at counts
    rw [if_pos opened, if_neg closed] at sessions
    refine ⟨⟨_, changed, rfl, running, by simp only; omega, fun instant ended => ?_,
      fun anchor idle => ?_⟩, begun⟩
    · split at ended
      · obtain rfl := Option.some.inj ended
        exact tallied.begun
      · exact disconnected instant ended
    · simp only [CurrentCycleActivity.proxyIdleAnchor, Option.ite_none_right_eq_some] at idle
      obtain ⟨rfl, anchored⟩ := idle
      obtain rfl : world.clock = anchor := by simpa using anchored
      exact ⟨Nat.le_of_eq clock.symm, clock ▸ Rested.now replayed⟩
  | underflow empty opened =>
    rw [if_pos opened] at counts
    omega

/-- A client's step keeps the tally: the record counts the sessions that are open and dates the
last drop that left none. -/
theorem moved {waiting : Option Op} {move : Move} (tallied : Tallied origin cycle since history world)
    (replayed : platform.replay origin history = some world)
    (moved : world.move move = some after) :
    Tallied origin cycle since (.moved waiting move :: history) after := by
  have reached : platform.replay origin (.moved waiting move :: history) = some after :=
    Platform.replay_moved replayed moved
  have clock := World.clock_moved moved
  cases move with
  | client index step =>
    obtain ⟨task, later, between, listed, step, rfl⟩ := World.move_client moved
    obtain ⟨record, recorded, rfl, -⟩ := tallied.record
    have change := World.clientStep_sessions step recorded
    obtain ⟨slot, activity, changed, rfl⟩ := World.clientStep_frame step
    exact tallied.stepped reached listed recorded rfl rfl change
  | accept =>
    cases moved
    refine tallied.steady reached rfl ?_ clock
    simp [World.sessions, List.countP_append, ClientTask.session]
  | sendShutdown | dropShutdown =>
    simp only [World.move] at moved
    split at moved <;> cases moved
    exact tallied.steady reached rfl rfl clock
  | tick | closeWakes =>
    cases moved
    exact tallied.steady reached rfl rfl clock

end Tallied

end McServerNap
