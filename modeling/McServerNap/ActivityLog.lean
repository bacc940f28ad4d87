import Mathlib.Data.List.Nodup
import McServerNap.BackendUse

/-!
# The activity record and the calls it stems from

The record keeps one counter and one instant for the current cycle, and sessions of
older cycles go on living beside it. Here every call on the coordinator is also
entered in a log, and the record is compared with what the log says: which sessions
of the last begun cycle are still open, and when the last of them was closed.

Sessions are numbered by the log, so each of them can be told from the others of
its cycle. A session exists from a successful `establish_login_transfer_session` until
its drop, and its number is the place of that call in the log.
-/

namespace McServerNap

/-- A call on the coordinator, or the drop of a session. A lease is known by its
cycle. -/
inductive ActivityCall where
  | beginCycle (cycle : BackendCycle) (runningSince : Instant)
  | establish (lease : BackendCycle)
  | drop (session : Nat) (now : Instant)
  deriving DecidableEq, Repr

/-- What came of a call. -/
inductive ActivityEvent where
  | begun (cycle : BackendCycle) (runningSince : Instant)
  | established (session : Nat) (cycle : BackendCycle)
  | refused (lease : BackendCycle)
  | dropped (session : Nat) (now : Instant)
  deriving DecidableEq, Repr

/-! ## What a log says

Logs are read from their latest event. -/

/-- The cycles that were begun. -/
def begunIn (log : List ActivityEvent) : List BackendCycle :=
  log.filterMap fun event =>
    match event with
    | .begun cycle _ => some cycle
    | _ => none

/-- The sessions that were established in a cycle. -/
def establishedIn (cycle : BackendCycle) (log : List ActivityEvent) : List Nat :=
  log.filterMap fun event =>
    match event with
    | .established session owner => if owner = cycle then some session else none
    | _ => none

/-- The sessions that were dropped. -/
def droppedIn (log : List ActivityEvent) : List Nat :=
  log.filterMap fun event =>
    match event with
    | .dropped session _ => some session
    | _ => none

/-- The sessions of a cycle that are still open. -/
def openIn (cycle : BackendCycle) (log : List ActivityEvent) : List Nat :=
  (establishedIn cycle log).filter fun session => session ∉ droppedIn log

/-- The cycle begun last, and since when it has been running. -/
def lastBegun : List ActivityEvent → Option (BackendCycle × Instant)
  | [] => none
  | .begun cycle runningSince :: _ => some (cycle, runningSince)
  | _ :: earlier => lastBegun earlier

/-- The instant of the last drop that left no session of the cycle open. -/
def lastDropToZero (cycle : BackendCycle) : List ActivityEvent → Option Instant
  | [] => none
  | .dropped session now :: earlier =>
    if session ∈ establishedIn cycle earlier ∧ openIn cycle (.dropped session now :: earlier) = []
    then some now else lastDropToZero cycle earlier
  | _ :: earlier => lastDropToZero cycle earlier

/-- The activity of the last begun cycle, from the log alone. -/
def activityOf (log : List ActivityEvent) : Option CurrentCycleActivity :=
  (lastBegun log).map fun begun => {
    cycle := begun.1
    activeLoginTransferSessions := (openIn begun.1 log).length
    runningSince := begun.2
    lastFinalSessionDisconnect := lastDropToZero begun.1 log }

/-! ## The coordinator with its log -/

/-- The coordinator's record with what the source keeps elsewhere: the sessions that are alive,
each with the cycle of its lease, and the log of the calls so far. -/
structure Tracked where
  activity : Option CurrentCycleActivity
  sessions : List (Nat × BackendCycle)
  log : List ActivityEvent
  deriving DecidableEq, Repr

namespace Tracked

/-- `BackendUseCoordinator::new`. -/
def new : Tracked := ⟨none, [], []⟩

/-- A call as the coordinator executes it. There is no result when the session does
not exist, and none when the checked subtraction panics. -/
def act (tracked : Tracked) : ActivityCall → Option Tracked
  | .beginCycle cycle runningSince => some {
      activity := some (.beginCycle cycle runningSince)
      sessions := tracked.sessions
      log := .begun cycle runningSince :: tracked.log }
  | .establish lease =>
    match establishLoginTransferSession tracked.activity lease with
    | some activity => some {
        activity := some activity
        sessions := (tracked.log.length, lease) :: tracked.sessions
        log := .established tracked.log.length lease :: tracked.log }
    | none => some { tracked with log := .refused lease :: tracked.log }
  | .drop session now =>
    match tracked.sessions.find? fun held => held.1 = session with
    | none => none
    | some held =>
      let sessions := tracked.sessions.filter fun other => other.1 ≠ session
      match dropLoginTransferSession tracked.activity held.2 now with
      | .counted activity => some ⟨some activity, sessions, .dropped session now :: tracked.log⟩
      | .otherCycle => some ⟨tracked.activity, sessions, .dropped session now :: tracked.log⟩
      | .underflow => none

/-- Calls that can be made: no cycle is begun twice, and a session is dropped only
while it exists. -/
def Admits (tracked : Tracked) : ActivityCall → Prop
  | .beginCycle cycle _ => cycle ∉ begunIn tracked.log
  | .establish _ => True
  | .drop session _ => session ∈ tracked.sessions.map Prod.fst

/-- A whole sequence of calls. -/
def actAll (tracked : Tracked) : List ActivityCall → Option Tracked
  | [] => some tracked
  | call :: rest => (tracked.act call).bind fun later => later.actAll rest

/-- Every call of the sequence can be made when its turn comes. -/
def AdmitsAll (tracked : Tracked) : List ActivityCall → Prop
  | [] => True
  | call :: rest => tracked.Admits call ∧
      ∀ later ∈ tracked.act call, later.AdmitsAll rest

end Tracked

/-! ## Logs one event longer -/

section Longer

variable (cycle owner : BackendCycle) (session : Nat) (now : Instant)
  (log : List ActivityEvent)

/-- A new cycle establishes no session by itself. -/
@[simp] theorem establishedIn_begun :
    establishedIn cycle (.begun owner now :: log) = establishedIn cycle log := rfl

/-- A refused lease leaves no session behind. -/
@[simp] theorem establishedIn_refused :
    establishedIn cycle (.refused owner :: log) = establishedIn cycle log := rfl

/-- A drop does not take back that its session was established. -/
@[simp] theorem establishedIn_dropped :
    establishedIn cycle (.dropped session now :: log) = establishedIn cycle log := rfl

/-- An established session is one of its own cycle and of no other. -/
@[simp] theorem establishedIn_established :
    establishedIn cycle (.established session owner :: log) =
      if owner = cycle then session :: establishedIn cycle log else establishedIn cycle log := by
  by_cases same : owner = cycle <;> simp [establishedIn, same]

/-- A new cycle drops no session of an older one, which is why sessions can outlive their cycle.
-/
@[simp] theorem droppedIn_begun : droppedIn (.begun owner now :: log) = droppedIn log := rfl

/-- A refused lease drops nothing. -/
@[simp] theorem droppedIn_refused : droppedIn (.refused owner :: log) = droppedIn log := rfl

/-- Establishing a session drops no other one. -/
@[simp] theorem droppedIn_established :
    droppedIn (.established session owner :: log) = droppedIn log := rfl

/-- A drop adds its session to the dropped ones. -/
@[simp] theorem droppedIn_dropped :
    droppedIn (.dropped session now :: log) = session :: droppedIn log := rfl

/-- A new cycle leaves the open sessions of every cycle as they are, its own included. -/
@[simp] theorem openIn_begun :
    openIn cycle (.begun owner now :: log) = openIn cycle log := rfl

/-- A refused lease neither opens nor closes a session. -/
@[simp] theorem openIn_refused : openIn cycle (.refused owner :: log) = openIn cycle log := rfl

/-- A session with a fresh number is open in its own cycle from the start. Freshness is needed
since a number dropped before would not count as open. -/
theorem openIn_established (fresh : session ∉ droppedIn log) :
    openIn cycle (.established session owner :: log) =
      if owner = cycle then session :: openIn cycle log else openIn cycle log := by
  unfold openIn
  rw [establishedIn_established, droppedIn_established]
  by_cases same : owner = cycle
  · rw [if_pos same, if_pos same, List.filter_cons_of_pos (by simpa using fresh)]
  · rw [if_neg same, if_neg same]

/-- A drop closes its session and no other. -/
theorem openIn_dropped : openIn cycle (.dropped session now :: log) =
    (openIn cycle log).filter fun other => other ≠ session := by
  simp only [openIn, establishedIn_dropped, droppedIn_dropped, List.filter_filter]
  congr 1
  funext other
  by_cases same : other = session <;> simp [same]

/-- Open means established and not dropped, without a condition on when. -/
theorem mem_openIn : session ∈ openIn cycle log ↔
    session ∈ establishedIn cycle log ∧ session ∉ droppedIn log := by
  simp [openIn]

end Longer

/-- The last begun cycle was begun. -/
theorem lastBegun_mem {log : List ActivityEvent} {cycle : BackendCycle} {runningSince : Instant}
    (last : lastBegun log = some (cycle, runningSince)) : cycle ∈ begunIn log := by
  induction log with
  | nil => simp [lastBegun] at last
  | cons event earlier inductionHypothesis =>
    cases event with
    | begun other since =>
      simp only [lastBegun, Option.some.injEq, Prod.mk.injEq] at last
      simp [begunIn, last.1]
    | established _ _ | refused _ | dropped _ _ => exact inductionHypothesis last

/-- A cycle without sessions was never left by its last one. The induction is on the log, whose
other events say nothing about that cycle's sessions. -/
theorem lastDropToZero_none {log : List ActivityEvent} {cycle : BackendCycle}
    (unused : establishedIn cycle log = []) : lastDropToZero cycle log = none := by
  induction log with
  | nil => rfl
  | cons event earlier inductionHypothesis =>
    cases event with
    | begun _ _ | refused _ => exact inductionHypothesis unused
    | established session owner =>
      rw [establishedIn_established] at unused
      split at unused
      · simp at unused
      · exact inductionHypothesis unused
    | dropped session now =>
      rw [establishedIn_dropped] at unused
      simp only [lastDropToZero, unused, List.not_mem_nil, false_and, if_false]
      exact inductionHypothesis unused

/-! ## The record keeps up with its log -/

namespace Tracked

/-- The record is the one of the log, the sessions held are the open ones, and every
session has a number of its own and a cycle that was begun. -/
structure Kept (tracked : Tracked) : Prop where
  snapshot : tracked.activity = activityOf tracked.log
  held : ∀ session cycle, (session, cycle) ∈ tracked.sessions ↔
    session ∈ openIn cycle tracked.log
  begun : ∀ session cycle, session ∈ establishedIn cycle tracked.log →
    cycle ∈ begunIn tracked.log
  numbered : ∀ session cycle, session ∈ establishedIn cycle tracked.log →
    session < tracked.log.length
  closed : ∀ session ∈ droppedIn tracked.log, session < tracked.log.length
  apart : ∀ session cycle other, session ∈ establishedIn cycle tracked.log →
    session ∈ establishedIn other tracked.log → cycle = other
  distinct : ∀ cycle, (establishedIn cycle tracked.log).Nodup

/-- A coordinator without a cycle keeps the account of an empty log. -/
theorem new_kept : new.Kept where
  snapshot := rfl
  held := by simp [new, openIn, establishedIn]
  begun := by simp [new, establishedIn]
  numbered := by simp [new, establishedIn]
  closed := by simp [new, droppedIn]
  apart := by simp [new, establishedIn]
  distinct := by simp [new, establishedIn]

variable {tracked : Tracked}

/-- A record belongs to the cycle begun last. -/
theorem Kept.lastBegun (kept : tracked.Kept) {activity : CurrentCycleActivity}
    (current : tracked.activity = some activity) :
    McServerNap.lastBegun tracked.log = some (activity.cycle, activity.runningSince) ∧
      activity.activeLoginTransferSessions = (openIn activity.cycle tracked.log).length ∧
      activity.lastFinalSessionDisconnect = lastDropToZero activity.cycle tracked.log := by
  have snapshot := kept.snapshot
  rw [current, activityOf, eq_comm, Option.map_eq_some_iff] at snapshot
  obtain ⟨⟨cycle, since⟩, last, rfl⟩ := snapshot
  exact ⟨last, rfl, rfl⟩

/-- A fresh cycle begins with a record of its own: no session of it can have been established, so
the new counter of zero is the log's number. -/
theorem Kept.beginCycle (kept : tracked.Kept) (cycle : BackendCycle) (runningSince : Instant)
    (fresh : cycle ∉ begunIn tracked.log) :
    Kept ⟨some (.beginCycle cycle runningSince), tracked.sessions,
      .begun cycle runningSince :: tracked.log⟩ where
  snapshot := by
    have unused : establishedIn cycle tracked.log = [] := by
      apply List.eq_nil_iff_forall_not_mem.mpr
      exact fun session among => fresh (kept.begun session cycle among)
    have noneOpen : openIn cycle tracked.log = [] := by rw [openIn, unused, List.filter_nil]
    have noneDropped := lastDropToZero_none unused
    simp only [activityOf, McServerNap.lastBegun, Option.map_some, openIn_begun, lastDropToZero,
      noneOpen, noneDropped]
    rfl
  held := kept.held
  begun session owner among := List.mem_cons_of_mem _ (kept.begun session owner among)
  numbered session owner among := Nat.lt_succ_of_lt (kept.numbered session owner among)
  closed session among := Nat.lt_succ_of_lt (kept.closed session among)
  apart := kept.apart
  distinct := kept.distinct

/-- A refusal enters the log without touching the record or the sessions. -/
theorem Kept.refused (kept : tracked.Kept) (lease : BackendCycle) :
    Kept { tracked with log := .refused lease :: tracked.log } where
  snapshot := kept.snapshot
  held := kept.held
  begun := kept.begun
  numbered session owner among := Nat.lt_succ_of_lt (kept.numbered session owner among)
  closed session among := Nat.lt_succ_of_lt (kept.closed session among)
  apart := kept.apart
  distinct := kept.distinct

/-- The number of the next session is not taken. -/
theorem Kept.fresh (kept : tracked.Kept) (cycle : BackendCycle) :
    tracked.log.length ∉ establishedIn cycle tracked.log := fun among =>
  Nat.lt_irrefl _ (kept.numbered _ _ among)

/-- A session that was counted is counted by the log as well. Its number is the place of the call,
which no earlier session has. -/
theorem Kept.established (kept : tracked.Kept) {lease : BackendCycle}
    {activity : CurrentCycleActivity}
    (counted : establishLoginTransferSession tracked.activity lease = some activity) :
    Kept ⟨some activity, (tracked.log.length, lease) :: tracked.sessions,
      .established tracked.log.length lease :: tracked.log⟩ := by
  obtain ⟨before, current, counted⟩ := Option.bind_eq_some_iff.mp counted
  obtain ⟨last, count, disconnect⟩ := kept.lastBegun current
  split at counted
  case isFalse => simp at counted
  case isTrue same =>
    obtain rfl := Option.some.inj counted
    subst same
    have undropped : tracked.log.length ∉ droppedIn tracked.log := fun among =>
      Nat.lt_irrefl _ (kept.closed _ among)
    have opened := fun cycle => openIn_established cycle before.cycle tracked.log.length tracked.log
      undropped
    refine ⟨?_, ?_, ?_, ?_, ?_, ?_, ?_⟩
    · simp only [activityOf, McServerNap.lastBegun, last, Option.map_some, opened, if_true,
        List.length_cons, lastDropToZero, ← count, ← disconnect]
    · intro session cycle
      rw [opened, List.mem_cons, Prod.mk.injEq, kept.held]
      by_cases same : before.cycle = cycle
      · simp [same]
      · simp [same, Ne.symm same]
    · intro session cycle among
      rw [establishedIn_established] at among
      split at among
      · next same => exact same ▸ lastBegun_mem last
      · exact kept.begun session cycle among
    · intro session cycle among
      rw [establishedIn_established] at among
      split at among
      · rcases List.mem_cons.mp among with rfl | earlier
        · exact Nat.lt_succ_self _
        · exact Nat.lt_succ_of_lt (kept.numbered session cycle earlier)
      · exact Nat.lt_succ_of_lt (kept.numbered session cycle among)
    · exact fun session among => Nat.lt_succ_of_lt (kept.closed session among)
    · intro session cycle other one two
      rw [establishedIn_established] at one two
      by_cases new : session = tracked.log.length
      · subst new
        split at one
        · split at two
          · next first second => exact first.symm.trans second
          · exact absurd two (kept.fresh other)
        · exact absurd one (kept.fresh cycle)
      · apply kept.apart session cycle other
        · split at one
          · exact (List.mem_cons.mp one).resolve_left new
          · exact one
        · split at two
          · exact (List.mem_cons.mp two).resolve_left new
          · exact two
    · intro cycle
      rw [establishedIn_established]
      split
      · exact List.nodup_cons.mpr ⟨kept.fresh cycle, kept.distinct cycle⟩
      · exact kept.distinct cycle

/-- A session that is held is open in the cycle of its lease and in no other. -/
theorem Kept.openIn_other (kept : tracked.Kept) {session : Nat} {lease cycle : BackendCycle}
    (held : (session, lease) ∈ tracked.sessions) (other : cycle ≠ lease) :
    session ∉ establishedIn cycle tracked.log := fun among => by
  have own := ((mem_openIn _ _ _).mp ((kept.held session lease).mp held)).1
  exact other (kept.apart session cycle lease among own)

/-- No session is open twice, so the length of the list is the number of open sessions. -/
theorem Kept.openIn_nodup (kept : tracked.Kept) (cycle : BackendCycle) :
    (openIn cycle tracked.log).Nodup := (kept.distinct cycle).filter _

/-- Closing an open session leaves one fewer. Numbers of sessions are used once, so filtering the
closed one out erases a single entry. -/
theorem Kept.openIn_length (kept : tracked.Kept) {session : Nat} {lease : BackendCycle}
    (held : (session, lease) ∈ tracked.sessions) (now : Instant) :
    (openIn lease tracked.log).length =
      (openIn lease (.dropped session now :: tracked.log)).length + 1 := by
  have among := (kept.held session lease).mp held
  have erased := (kept.openIn_nodup lease).erase_eq_filter session
  rw [openIn_dropped]
  have same : (openIn lease tracked.log).filter (fun other => other ≠ session) =
      (openIn lease tracked.log).erase session := by
    rw [erased]
    congr 1
    funext other
    simp [bne, beq_eq_decide]
  have positive := List.length_pos_of_mem among
  rw [same, List.length_erase_of_mem among]
  omega

/-- Closing a session leaves the other cycles as they are. -/
theorem Kept.openIn_unchanged (kept : tracked.Kept) {session : Nat} {lease cycle : BackendCycle}
    (held : (session, lease) ∈ tracked.sessions) (other : cycle ≠ lease) (now : Instant) :
    openIn cycle (.dropped session now :: tracked.log) = openIn cycle tracked.log := by
  rw [openIn_dropped, List.filter_eq_self]
  intro open_session among
  have elsewhere := kept.openIn_other held other
  have distinct : open_session ≠ session := by
    rintro rfl
    exact elsewhere ((mem_openIn _ _ _).mp among).1
  simpa using distinct

/-- What a drop keeps whatever it does to the record: the sessions that are held are still the
open ones of the log, and numbers stay below the next one. Only the agreement of the snapshot
depends on the cycle that the record shows. -/
theorem Kept.dropped (kept : tracked.Kept) {session : Nat} {lease : BackendCycle}
    (held : (session, lease) ∈ tracked.sessions) (now : Instant)
    (activity : Option CurrentCycleActivity)
    (snapshot : activity = activityOf (.dropped session now :: tracked.log)) :
    Kept ⟨activity, tracked.sessions.filter fun other => other.1 ≠ session,
      .dropped session now :: tracked.log⟩ where
  snapshot := snapshot
  held other cycle := by
    rw [openIn_dropped, List.mem_filter, List.mem_filter, kept.held]
  begun other cycle among := kept.begun other cycle among
  numbered other cycle among := Nat.lt_succ_of_lt (kept.numbered other cycle among)
  closed other among := by
    rcases List.mem_cons.mp among with rfl | earlier
    · exact Nat.lt_succ_of_lt (kept.numbered _ lease
        ((mem_openIn _ _ _).mp ((kept.held _ lease).mp held)).1)
    · exact Nat.lt_succ_of_lt (kept.closed other earlier)
  apart := kept.apart
  distinct := kept.distinct

/-- The drop of a held session counts down in its own cycle, leaves the record of
another cycle alone, and never finds the counter at zero. -/
theorem Kept.drop (kept : tracked.Kept) {session : Nat} {lease : BackendCycle}
    (held : (session, lease) ∈ tracked.sessions) (now : Instant) :
    match dropLoginTransferSession tracked.activity lease now with
    | .counted activity => some activity = activityOf (.dropped session now :: tracked.log)
    | .otherCycle => tracked.activity = activityOf (.dropped session now :: tracked.log)
    | .underflow => False := by
  have own := ((mem_openIn _ _ _).mp ((kept.held session lease).mp held)).1
  cases current : tracked.activity with
  | none =>
    have snapshot := kept.snapshot
    rw [current, activityOf, eq_comm, Option.map_eq_none_iff] at snapshot
    simp only [dropLoginTransferSession, activityOf, McServerNap.lastBegun, snapshot,
      Option.map_none]
  | some activity =>
    obtain ⟨last, count, disconnect⟩ := kept.lastBegun current
    by_cases same : activity.cycle = lease
    · subst same
      have fewer := kept.openIn_length held now
      rw [dropLoginTransferSession, if_pos rfl]
      cases remaining : activity.activeLoginTransferSessions with
      | zero => omega
      | succ remaining' =>
        have left : (openIn activity.cycle (.dropped session now :: tracked.log)).length =
            remaining' := by omega
        simp only [activityOf, McServerNap.lastBegun, last, Option.map_some, left, lastDropToZero,
          own, true_and, ← List.length_eq_zero_iff, disconnect]
    · rw [dropLoginTransferSession, if_neg same]
      have elsewhere := kept.openIn_other held same
      simp only [activityOf, McServerNap.lastBegun, last, Option.map_some, lastDropToZero, elsewhere,
        false_and, if_false, kept.openIn_unchanged held same now, ← count, ← disconnect]

/-- One call that can be made has a result, and the record keeps up. An establishment that is
refused changes only the log; a drop finds its session, because only sessions that are held can be
dropped. -/
theorem Kept.act (kept : tracked.Kept) (call : ActivityCall) (admitted : tracked.Admits call) :
    ∃ later, tracked.act call = some later ∧ later.Kept := by
  cases call with
  | beginCycle cycle runningSince => exact ⟨_, rfl, kept.beginCycle cycle runningSince admitted⟩
  | establish lease =>
    cases counted : establishLoginTransferSession tracked.activity lease with
    | none => exact ⟨_, by simp only [Tracked.act, counted], kept.refused lease⟩
    | some activity => exact ⟨_, by simp only [Tracked.act, counted], kept.established counted⟩
  | drop session now =>
    cases found : tracked.sessions.find? fun held => held.1 = session with
    | none =>
      obtain ⟨held, among, same⟩ := List.mem_map.mp admitted
      exact absurd same (by simpa using List.find?_eq_none.mp found held among)
    | some held =>
      obtain ⟨number, lease⟩ := held
      have matched := List.find?_some found
      obtain rfl : number = session := of_decide_eq_true matched
      have among := List.mem_of_find?_eq_some found
      have outcome := kept.drop among now
      cases dropped : dropLoginTransferSession tracked.activity lease now with
      | counted activity =>
        rw [dropped] at outcome
        exact ⟨_, by simp only [Tracked.act, found, dropped], kept.dropped among now _ outcome⟩
      | otherCycle =>
        rw [dropped] at outcome
        exact ⟨_, by simp only [Tracked.act, found, dropped], kept.dropped among now _ outcome⟩
      | underflow =>
        rw [dropped] at outcome
        exact outcome.elim

/-- A whole sequence of admitted calls has a result, and the record it leaves is the log's: the
induction over the calls carries `Kept` from each call to the next. -/
theorem Kept.actAll (kept : tracked.Kept) (calls : List ActivityCall)
    (admitted : tracked.AdmitsAll calls) :
    ∃ later, tracked.actAll calls = some later ∧ later.Kept := by
  induction calls generalizing tracked with
  | nil => exact ⟨tracked, rfl, kept⟩
  | cons call rest inductionHypothesis =>
    obtain ⟨between, acted, keptBetween⟩ := kept.act call admitted.1
    obtain ⟨later, rested, keptLater⟩ := inductionHypothesis keptBetween
      (admitted.2 between acted)
    exact ⟨later, by rw [Tracked.actAll, acted]; exact rested, keptLater⟩

/-- A lease is refused exactly when its cycle is not the last begun one. -/
theorem Kept.refuses_iff (kept : tracked.Kept) (lease : BackendCycle) :
    establishLoginTransferSession tracked.activity lease = none ↔
      (McServerNap.lastBegun tracked.log).map Prod.fst ≠ some lease := by
  cases current : tracked.activity with
  | none =>
    have snapshot := kept.snapshot
    rw [current, activityOf, eq_comm, Option.map_eq_none_iff] at snapshot
    simp [establishLoginTransferSession, snapshot]
  | some activity =>
    obtain ⟨last, _, _⟩ := kept.lastBegun current
    simp [establishLoginTransferSession, last]

end Tracked

/-- For every sequence of calls that can be made, in which no cycle is begun twice and
sessions and leases of any age are used and dropped at any time, the coordinator never
panics and its record is the one of the log: it belongs to the last begun cycle, counts
the sessions that were established in it and are still open, and has been idle since
the last drop that left none of them, or since the cycle runs. A session counts for the
cycle of its lease alone. A lease is refused when its cycle is not the last begun one,
and then nothing changes. -/
theorem activity_is_that_of_its_log (calls : List ActivityCall)
    (admitted : Tracked.new.AdmitsAll calls) :
    ∃ tracked, Tracked.new.actAll calls = some tracked ∧
      tracked.activity = activityOf tracked.log ∧
      (∀ activity, tracked.activity = some activity →
        lastBegun tracked.log = some (activity.cycle, activity.runningSince) ∧
        activity.activeLoginTransferSessions = (openIn activity.cycle tracked.log).length ∧
        activity.proxyIdleAnchor =
          if 0 < (openIn activity.cycle tracked.log).length then none
          else some ((lastDropToZero activity.cycle tracked.log).getD activity.runningSince)) ∧
      (∀ session lease, (session, lease) ∈ tracked.sessions →
        ∀ cycle, session ∈ openIn cycle tracked.log ↔ cycle = lease) ∧
      (∀ lease, establishLoginTransferSession tracked.activity lease = none ↔
        (lastBegun tracked.log).map Prod.fst ≠ some lease) ∧
      (∀ lease, establishLoginTransferSession tracked.activity lease = none →
        tracked.act (.establish lease) = some { tracked with log := .refused lease :: tracked.log }) ∧
      (∀ session lease now, (session, lease) ∈ tracked.sessions →
        dropLoginTransferSession tracked.activity lease now ≠ .underflow) := by
  obtain ⟨tracked, acted, kept⟩ := Tracked.new_kept.actAll calls admitted
  refine ⟨tracked, acted, kept.snapshot, fun activity current => ?_,
    fun session lease held cycle => ?_, kept.refuses_iff, fun lease refused => ?_,
    fun session lease now held underflow => ?_⟩
  · obtain ⟨last, count, disconnect⟩ := kept.lastBegun current
    refine ⟨last, count, ?_⟩
    rw [CurrentCycleActivity.proxyIdleAnchor, count, disconnect]
    by_cases none : (openIn activity.cycle tracked.log).length = 0
    · rw [if_pos none, if_neg (by omega)]
    · rw [if_neg none, if_pos (by omega)]
  · constructor
    · intro among
      by_contra other
      exact kept.openIn_other held other ((mem_openIn _ _ _).mp among).1
    · rintro rfl
      exact (kept.held session cycle).mp held
  · simp only [Tracked.act, refused]
  · have outcome := kept.drop held now
    rw [underflow] at outcome
    exact outcome

/-- A session that outlives its cycle and one of the next, dropped in turn: the drop of the old
one must not end up in the count of the cycle that came after it. -/
theorem old_session_outlives_its_cycle :
    ∃ tracked, Tracked.new.actAll [.beginCycle ⟨1⟩ 0, .establish ⟨1⟩, .beginCycle ⟨2⟩ 4,
        .establish ⟨2⟩, .drop 1 6, .drop 3 8] = some tracked ∧
      tracked.activity = activityOf tracked.log := by
  obtain ⟨tracked, acted, snapshot, _⟩ := activity_is_that_of_its_log
    [.beginCycle ⟨1⟩ 0, .establish ⟨1⟩, .beginCycle ⟨2⟩ 4, .establish ⟨2⟩, .drop 1 6, .drop 3 8]
    (by
      refine ⟨by simp [Tracked.new, Tracked.Admits, begunIn], ?_⟩
      rintro _ ⟨⟩
      refine ⟨trivial, ?_⟩
      rintro _ ⟨⟩
      refine ⟨by simp [Tracked.Admits, Tracked.new, begunIn], ?_⟩
      rintro _ ⟨⟩
      refine ⟨trivial, ?_⟩
      rintro _ ⟨⟩
      refine ⟨by simp [Tracked.Admits, Tracked.new], ?_⟩
      rintro _ ⟨⟩
      refine ⟨by simp [Tracked.Admits, Tracked.new], ?_⟩
      rintro _ ⟨⟩
      trivial)
  exact ⟨tracked, acted, snapshot⟩

end McServerNap
