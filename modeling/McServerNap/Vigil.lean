import McServerNap.Sessions

/-!
# The vigil before an idle stop

A second account of the supervisor, beside its conduct: what it has read and heard
while it watches a running server. An idle stop is due once these readings show the
idle period that they must show. Nothing else is constrained here, so the account
composes with any program that publishes no idle stop of its own.
-/

namespace McServerNap

open Interaction

/-- What the end of a `select!` says about the player list. An interruption after
which the same request goes on says nothing. -/
inductive Inspected where
  | untouched
  | zero
  | broken
  deriving DecidableEq, Repr

/-- What the end of a `select!` on a list request says: anything but a list of zero
players breaks a row of them. -/
def Event.listing : Event → Inspected
  | .rconList (some response) =>
    if observedPlayerCount response = some 0 then .zero else .broken
  | .wake (some _) | .elapsed .stability => .untouched
  | _ => .broken

/-- A connection attempt breaks the row as well. -/
def inspected (sources : List Source) (event : Event) : Inspected :=
  if .rconConnect ∈ sources then .broken
  else if .rconList ∈ sources then event.listing
  else .untouched

/-- What an event of the run says about the player list. -/
def Happening.inspected : Happening → Inspected
  | .issued (.select sources) event => McServerNap.inspected sources event
  | _ => .untouched

/-- A reply of zero players came no later than the limit, and the row of zero replies
was not broken since. -/
def ZeroSince (origin : World) (limit : Instant) (history : List Happening) : Prop :=
  ∃ later sources event earlier passed,
    history = later ++ .issued (.select sources) event :: earlier ∧
    inspected sources event = .zero ∧ platform.replay origin earlier = some passed ∧
    passed.clock ≤ limit ∧ ∀ happening ∈ later, Happening.inspected happening ≠ .broken

/-- The exclusive side was acquired, is still held, and a condition holds of the
events since. -/
def UnderGate (history : List Happening) (condition : List Happening → Prop) : Prop :=
  ∃ later sources earlier, history = later ++ .issued (.select sources) .exclusive :: earlier ∧
    (∀ happening ∈ later, happening ≠ .issued .releaseExclusive ()) ∧ condition later

/-- A reply of zero players is among the events. -/
def HeardZero (events : List Happening) : Prop :=
  ∃ happening ∈ events, Happening.inspected happening = .zero

/-- A row of zero replies, and the first clock reading after its begin. -/
inductive Streak where
  | none
  | begun
  | dated (read : Instant)
  deriving DecidableEq, Repr

/-- What has been read and heard. `latest` is the latest clock reading, `snapshot`
the activity record last read under the gate, and `confirmed` a zero reply heard
under it. -/
structure Vigil where
  streak : Streak
  latest : Instant
  held : Bool
  snapshot : Option CurrentCycleActivity
  confirmed : Bool
  deriving DecidableEq, Repr

namespace Vigil

/-- Before the first event nothing has been read or heard. -/
def initial : Vigil where
  streak := .none
  latest := 0
  held := false
  snapshot := none
  confirmed := false

/-- The clock was read. -/
def read (vigil : Vigil) (now : Instant) : Vigil :=
  { vigil with
    latest := max vigil.latest now
    streak := if vigil.streak = .begun then .dated now else vigil.streak }

/-- What a `select!` tells about the player list. -/
def heard (vigil : Vigil) : Inspected → Vigil
  | .untouched => vigil
  | .zero => { vigil with
      streak := if vigil.streak = .none then .begun else vigil.streak
      confirmed := true }
  | .broken => { vigil with streak := .none, confirmed := false }

/-- The exclusive side was acquired. -/
def entered (vigil : Vigil) : Vigil :=
  { vigil with held := true, snapshot := none, confirmed := false }

/-- What the vigil has read and heard after an operation and its reply. -/
def after (vigil : Vigil) : (op : Op) → Reply op → Vigil
  | .now, now => vigil.read now
  | .activitySnapshot, snapshot => { vigil with snapshot := snapshot }
  | .releaseExclusive, _ => { vigil with held := false }
  | .select sources, event =>
    let vigil := vigil.heard (inspected sources event)
    if event = .exclusive then vigil.entered else vigil
  | _, _ => vigil

/-- The readings show the cycle idle for the timeout by the record under the gate
and, where RCON is configured, by an unbroken row of zero replies that goes on
under the gate. -/
def Due (config : SupervisorConfig) (cycle : BackendCycle) (vigil : Vigil) : Prop :=
  vigil.held = true ∧ ∃ record proxy anchor, vigil.snapshot = some record ∧
    record.cycle = cycle ∧ record.proxyIdleAnchor = some proxy ∧ proxy ≤ anchor ∧
    anchor + config.idleTimeout ≤ vigil.latest ∧
    (config.rcon = true → vigil.confirmed = true ∧
      ∃ read, vigil.streak = .dated read ∧ read ≤ anchor)

/-- When an idle stop may be published: under the gate, after an idle period that the readings
show, and with RCON after zero replies from its beginning to the end. -/
def permits (config : SupervisorConfig) (cycle : BackendCycle) (vigil : Vigil) : Op → Prop
  | .publish (.beginIdleStop stopped) _ => stopped = cycle ∧ vigil.Due config cycle
  | .beginCycle _ _ => False
  | _ => True

end Vigil

/-- The monitor of a vigil. Its readings say all that the argument needs of the
replies. -/
abbrev vigilance (config : SupervisorConfig) (cycle : BackendCycle) : Monitor Op Reply where
  State := Vigil
  permits := Vigil.permits config cycle
  answers _ _ _ := True
  after := Vigil.after

/-- The vigil's readings hold in the world: the clock has not gone back, and the
record read under the gate is the present one. -/
structure Vigil.Holds (cycle : BackendCycle) (vigil : Vigil) (world : World) : Prop where
  latest : vigil.latest ≤ world.clock
  gate : vigil.held = true → world.writer = true
  exclusive : world.Exclusive
  snapshot : vigil.held = true → ∀ record, vigil.snapshot = some record →
    record.cycle = cycle → world.activity = some record

/-- Without a lease a client does not touch the record. -/
theorem World.clientStep_unleased {world after : World} {task later : ClientTask}
    {step : ClientStep} (stepped : world.clientStep task step = some (later, after))
    (free : task.lease = none) : after.activity = world.activity := by
  revert stepped
  fun_cases World.clientStep world task step
  all_goals
    intro stepped
    cases stepped
  all_goals first
    | rfl
    | cases free

/-- The gate moves with its acquisition and its release alone. This is read off from the stance,
whose agreement with the world was shown for every operation. -/
theorem World.writer_performed {world after : World} {op : Op} {reply : Reply op}
    (performed : world.perform op reply = some after) :
    after.writer = match op, reply with
      | .select _, .exclusive => true
      | .releaseExclusive, _ => false
      | _, _ => world.writer := by
  have seen : Stance.agrees ⟨.closing, world.lifecycle, world.child, world.writer, none, false⟩
      world := ⟨rfl, rfl, rfl⟩
  rw [← (seen.performed false performed).2.2]
  cases op with
  | select sources =>
    cases reply with
    | wake request => cases request <;> rfl
    | child result => cases result <;> rfl
    | kill ok => cases ok <;> rfl
    | _ => rfl
  | wakesClosed | tryRecvWake | tryWait => cases reply <;> rfl
  | tryRecvShutdown => cases reply <;> rfl
  | panic => cases reply
  | _ => rfl

namespace Vigil

variable {cycle : BackendCycle} {vigil : Vigil} {world after : World}

/-- Hearing a reply reads no clock. -/
@[simp] theorem heard_latest (vigil : Vigil) (reply : Inspected) :
    (vigil.heard reply).latest = vigil.latest := by cases reply <;> rfl

/-- It neither takes the gate nor gives it back. -/
@[simp] theorem heard_held (vigil : Vigil) (reply : Inspected) :
    (vigil.heard reply).held = vigil.held := by cases reply <;> rfl

/-- It reads no record. -/
@[simp] theorem heard_snapshot (vigil : Vigil) (reply : Inspected) :
    (vigil.heard reply).snapshot = vigil.snapshot := by cases reply <;> rfl

/-- What the vigil has read stays true of the world after each operation: the clock does not go
back, and under the gate no session begins. -/
theorem Holds.performed {config : SupervisorConfig} {op : Op} {reply : Reply op}
    (holds : vigil.Holds cycle world) (permitted : vigil.permits config cycle op)
    (performed : world.perform op reply = some after) :
    (vigil.after op reply).Holds cycle after := by
  have framed := World.framed performed
  have writer := World.writer_performed performed
  have activity : after.activity = world.activity := by
    refine World.activity_performed performed fun cycle since begins => ?_
    subst begins
    exact permitted
  obtain ⟨latest, gate, exclusive, snapshot⟩ := holds
  have excluded := exclusive.performed performed
  cases op with
  | now =>
    have current : reply = world.clock := by
      by_contra other
      simp [World.perform, other] at performed
    refine ⟨?_, fun held => writer.trans (gate held), excluded, fun held record taken same =>
      activity.trans (snapshot held record taken same)⟩
    rw [framed.clock]
    exact max_le latest (Nat.le_of_eq current)
  | activitySnapshot =>
    have current : reply = world.activity := by
      by_contra other
      simp [World.perform, other] at performed
    exact ⟨framed.clock ▸ latest, fun held => writer.trans (gate held), excluded,
      fun held record taken same => activity.trans (current.symm.trans taken)⟩
  | releaseExclusive => exact ⟨framed.clock ▸ latest, nofun, excluded, nofun⟩
  | select sources =>
    by_cases acquired : reply = .exclusive
    · subst acquired
      refine ⟨?_, fun _ => writer, excluded, nofun⟩
      simpa [Vigil.after, entered, framed.clock] using latest
    · have steady : after.writer = world.writer := by
        rw [writer]
        cases reply <;> first | rfl | exact absurd rfl acquired
      simp only [Vigil.after, acquired, if_false]
      refine ⟨by simpa [framed.clock] using latest, fun held => ?_, excluded,
        fun held record taken same => ?_⟩
      · exact steady.trans (gate (by simpa using held))
      · exact activity.trans (snapshot (by simpa using held) record (by simpa using taken) same)
  | _ =>
    exact ⟨framed.clock ▸ latest, fun held => writer.trans (gate held), excluded,
      fun held record taken same => activity.trans (snapshot held record taken same)⟩

/-- And after each move, as under the gate no client can change the record: a client needs a lease
for that, and the gate was acquired when there was none. -/
theorem Holds.moved {move : Move} (holds : vigil.Holds cycle world)
    (moved : world.move move = some after) : vigil.Holds cycle after := by
  have clock := World.clock_moved moved
  obtain ⟨latest, gate, exclusive, snapshot⟩ := holds
  have excluded := exclusive.moved moved
  have bound := Nat.le_trans latest clock
  cases move with
  | client index step =>
    obtain ⟨task, later, stepped, listed, step, rfl⟩ := World.move_client moved
    refine ⟨bound, fun held => ?_, excluded, fun held record taken same => ?_⟩
    · obtain ⟨slot, activity, changed, rfl⟩ := World.clientStep_frame step
      exact gate held
    · have free := exclusive (gate held) task (List.mem_of_getElem? listed)
      exact (World.clientStep_unleased step free).trans (snapshot held record taken same)
  | sendShutdown | dropShutdown =>
    simp only [World.move] at moved
    split at moved <;> cases moved
    exact ⟨bound, gate, excluded, snapshot⟩
  | tick | closeWakes | accept =>
    cases moved
    exact ⟨bound, gate, excluded, snapshot⟩

end Vigil

section History

variable {origin world after : World} {history : List Happening} {happening : Happening}

/-- A row of zero replies goes on while nothing breaks it. -/
theorem ZeroSince.cons {limit : Instant} (since : ZeroSince origin limit history)
    (unbroken : Happening.inspected happening ≠ .broken) :
    ZeroSince origin limit (happening :: history) := by
  obtain ⟨later, sources, event, earlier, passed, rfl, zero, reached, bound, row⟩ := since
  exact ⟨happening :: later, sources, event, earlier, passed, rfl, zero, reached, bound,
    List.forall_mem_cons.mpr ⟨unbroken, row⟩⟩

/-- A row that began by an instant began by every later one. -/
theorem ZeroSince.later {limit after : Instant} (since : ZeroSince origin limit history)
    (past : limit ≤ after) : ZeroSince origin after history := by
  obtain ⟨later, sources, event, earlier, passed, split, zero, reached, bound, row⟩ := since
  exact ⟨later, sources, event, earlier, passed, split, zero, reached, Nat.le_trans bound past, row⟩

/-- What happens before the gate is given back happens under it. -/
theorem UnderGate.cons {condition weaker : List Happening → Prop}
    (gate : UnderGate history condition) (kept : happening ≠ .issued .releaseExclusive ())
    (weaken : ∀ events, condition events → weaker (happening :: events)) :
    UnderGate (happening :: history) weaker := by
  obtain ⟨later, sources, earlier, rfl, held, holds⟩ := gate
  exact ⟨happening :: later, sources, earlier, rfl, List.forall_mem_cons.mpr ⟨kept, held⟩,
    weaken later holds⟩

/-- A zero reply that was heard was heard. -/
theorem HeardZero.cons {events : List Happening} (heard : HeardZero events) :
    HeardZero (happening :: events) := by
  obtain ⟨zero, listed, parsed⟩ := heard
  exact ⟨zero, List.mem_cons_of_mem _ listed, parsed⟩

/-- What the vigil stands for in the history. -/
structure Vigil.Recalls (origin : World) (history : List Happening) (world : World)
    (vigil : Vigil) : Prop where
  begun : vigil.streak = .begun → ZeroSince origin world.clock history
  dated : ∀ read, vigil.streak = .dated read → ZeroSince origin read history
  gate : vigil.held = true →
    UnderGate history fun events => vigil.confirmed = true → HeardZero events

namespace Vigil.Recalls

variable {vigil : Vigil}

/-- An event that is no reply about players and no release changes nothing. -/
theorem quiet (recalls : vigil.Recalls origin history world)
    (untouched : Happening.inspected happening = .untouched)
    (kept : happening ≠ .issued .releaseExclusive ()) (clock : world.clock ≤ after.clock) :
    vigil.Recalls origin (happening :: history) after where
  begun streak := ((recalls.begun streak).cons (by simp [untouched])).later clock
  dated read streak := (recalls.dated read streak).cons (by simp [untouched])
  gate held := (recalls.gate held).cons kept fun _ heard confirmed => (heard confirmed).cons

/-- A wait adds to the row of replies what its event says: a reply of zero players makes the row
longer, any other end of an inspection breaks it, and other events leave it as it is. -/
theorem heard {sources : List Source} {event : Event}
    (recalls : vigil.Recalls origin history world)
    (replayed : platform.replay origin history = some world) (clock : after.clock = world.clock) :
    (vigil.heard (inspected sources event)).Recalls origin
      (.issued (.select sources) event :: history) after := by
  cases reply : inspected sources event with
  | untouched => exact recalls.quiet reply nofun (Nat.le_of_eq clock.symm)
  | zero =>
    have unbroken : Happening.inspected (.issued (.select sources) event) ≠ .broken := by
      simp [Happening.inspected, reply]
    refine ⟨fun streak => ?_, fun read streak => ?_, fun held => ?_⟩
    · exact ⟨[], sources, event, history, world, rfl, reply, replayed, Nat.le_of_eq clock.symm,
        List.forall_mem_nil _⟩
    · refine (recalls.dated read ?_).cons unbroken
      simp only [Vigil.heard] at streak
      split at streak
      · cases streak
      · exact streak
    · exact (recalls.gate held).cons nofun fun _ _ _ => ⟨_, List.mem_cons_self, reply⟩
  | broken =>
    exact ⟨nofun, nofun, fun held => (recalls.gate held).cons nofun fun _ _ => nofun⟩

/-- The vigil goes on standing for the history, operation by operation: a wait may add a reply, a
reading of the clock may date the first one, and a release gives up the gate. -/
theorem issued {op : Op} {reply : Reply op} (recalls : vigil.Recalls origin history world)
    (replayed : platform.replay origin history = some world)
    (performed : world.perform op reply = some after) :
    (vigil.after op reply).Recalls origin (.issued op reply :: history) after := by
  have clock := (World.framed performed).clock
  have passed := Nat.le_of_eq clock.symm
  cases op with
  | now =>
    have current : reply = world.clock := by
      by_contra other
      simp [World.perform, other] at performed
    obtain ⟨begun, dated, gate⟩ : vigil.Recalls origin (.issued .now reply :: history) after :=
      recalls.quiet rfl nofun passed
    refine ⟨fun streak => ?_, fun read streak => ?_, gate⟩
    · simp only [Vigil.after, Vigil.read] at streak
      split at streak
      · cases streak
      · contradiction
    · simp only [Vigil.after, Vigil.read] at streak
      split at streak
      · obtain rfl := Streak.dated.inj streak
        exact (begun (by assumption)).later (Nat.le_of_eq (clock.trans current.symm))
      · exact dated read streak
  | select sources =>
    obtain ⟨begun, dated, gate⟩ : (vigil.heard (inspected sources reply)).Recalls origin
      (.issued (.select sources) reply :: history) after := recalls.heard replayed clock
    by_cases acquired : reply = .exclusive
    · subst acquired
      exact ⟨begun, dated, fun _ =>
        ⟨[], sources, history, List.nil_append _, List.forall_mem_nil _, nofun⟩⟩
    · simp only [Vigil.after, acquired, if_false]
      exact ⟨begun, dated, gate⟩
  | releaseExclusive =>
    refine ⟨fun streak => ?_, fun read streak => ?_, nofun⟩
    · exact ((recalls.begun streak).cons (by simp [Happening.inspected])).later passed
    · exact (recalls.dated read streak).cons (by simp [Happening.inspected])
  | activitySnapshot =>
    obtain ⟨begun, dated, gate⟩ : vigil.Recalls origin
      (.issued .activitySnapshot reply :: history) after := recalls.quiet rfl nofun passed
    exact ⟨begun, dated, gate⟩
  | _ => exact recalls.quiet rfl nofun passed

/-- The moves of the others are no replies. -/
theorem moved {waiting : Option Op} {move : Move} (recalls : vigil.Recalls origin history world)
    (moved : world.move move = some after) :
    vigil.Recalls origin (.moved waiting move :: history) after :=
  recalls.quiet rfl nofun (World.clock_moved moved)

end Vigil.Recalls

end History

/-- The vigil's readings hold, whoever else acts. -/
def observant (config : SupervisorConfig) (cycle : BackendCycle) :
    Coupling platform (vigilance config cycle) where
  relates := fun (vigil : Vigil) (world : World) => vigil.Holds cycle world
  answered := fun _ _ _ => trivial
  issued := fun holds permitted performed => holds.performed permitted performed
  moved := fun holds _ disturbed => holds.moved disturbed

end McServerNap
