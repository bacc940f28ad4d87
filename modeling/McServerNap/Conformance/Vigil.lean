import McServerNap.Conformance.Kinds
import McServerNap.Vigil

/-!
# Watching a running server keeps the vigil

The program variables of the monitor, its anchors and its inspection, stand for
what the vigil has read and heard. The cleanups publish no idle stop and need no
more than that said of them.
-/

namespace McServerNap

open Interaction SupervisorControl

/-- The operations that no vigil constrains. -/
def Op.unwatched : Op → Prop
  | .publish (.beginIdleStop _) _ | .beginCycle _ _ => False
  | _ => True

/-- A cleanup stops nothing for being idle and begins no cycle. -/
theorem unwatched_of_cleans (op : Op) (cleans : op.cleans) : op.unwatched := by
  cases op with
  | publish transition next => cases transition <;> trivial
  | _ => trivial

/-- The operations that at most read the clock, as far as a vigil is concerned. -/
def Op.reads : Op → Prop
  | .select _ | .activitySnapshot | .releaseExclusive | .publish (.beginIdleStop _) _
  | .beginCycle _ _ => False
  | _ => True

section Monitoring

variable {config : SupervisorConfig} {cycle : BackendCycle} {vigil : Vigil} {α : Type}

/-- The vigil has to permit the operation, and what follows has to hold for each of its
replies. -/
theorem vigil_access {op : Op} {post : Reply op → Vigil → Prop}
    (permitted : vigil.permits config cycle op)
    (handled : ∀ reply, post reply (vigil.after op reply)) :
    Safe (vigilance config cycle) (access op) post vigil :=
  ⟨permitted, fun reply _ => handled reply⟩

/-- After an assertion its condition is known. -/
theorem vigil_assert {condition : Bool} {post : Unit → Vigil → Prop}
    (holds : condition = true → post () vigil) :
    Safe (vigilance config cycle) (assert condition) post vigil := by
  cases condition with
  | true => exact holds rfl
  | false => exact ⟨trivial, nofun⟩

/-- What clock readings keep, a program that otherwise only looks keeps as well. -/
theorem vigil_reads {program : Supervised α} (reads : Issues Op.reads program)
    {invariant : Vigil → Prop} (stable : ∀ vigil now, invariant vigil → invariant (vigil.read now))
    (holds : invariant vigil) :
    Safe (vigilance config cycle) program (fun _ vigil => invariant vigil) vigil := by
  refine Issues.safe (fun vigil op holds admitted => ?_) reads holds
  cases op with
  | now => exact ⟨trivial, fun now _ => stable vigil now holds⟩
  | publish transition next =>
    cases transition <;> first | exact ⟨trivial, fun _ _ => holds⟩ | cases admitted
  | select | activitySnapshot | releaseExclusive | beginCycle => cases admitted
  | _ => exact ⟨trivial, fun _ _ => holds⟩

/-- What is plain does not even read the clock. -/
theorem reads_of_plain (op : Op) (plain : op.plain) : op.reads := by
  cases op <;> trivial

/-- Looking for a shutdown is plain. -/
theorem reads_shutdownPending : Issues Op.reads shutdownPending :=
  issues_shutdownPending reads_of_plain

/-- Forgetting a streak of failures is none of the vigil's business. -/
theorem reads_completeStabilityWindow : Issues Op.reads completeStabilityWindow :=
  issues_completeStabilityWindow reads_of_plain trivial trivial fun _ _ => trivial

/-- What the inspection stands for: its zero anchor is the reading that dates the
present row of zero replies, and a client without an anchor has heard none. -/
def Inspects (config : SupervisorConfig) (inspection : PlayerInspection) (vigil : Vigil) : Prop :=
  match inspection with
  | .proxyOnly => config.rcon = false
  | .configuredRcon client _ zeroAnchor => config.rcon = true ∧
      (∀ read, zeroAnchor = some read → vigil.streak = .dated read) ∧
      (client = true → zeroAnchor = none → vigil.streak = .none)

/-- The monitor's state stands for the vigil of its own cycle. -/
def Keeps (config : SupervisorConfig) (cycle : BackendCycle) (state : RunningMonitorState)
    (vigil : Vigil) : Prop :=
  state.cycle = cycle ∧ Inspects config state.playerInspection vigil

/-- A reading dates a row of zero replies only if it has just begun. -/
theorem Vigil.read_streak {vigil : Vigil} {streak : Streak} (now : Instant)
    (same : vigil.streak = streak) (settled : streak ≠ .begun) :
    (vigil.read now).streak = streak := by
  simp [Vigil.read, same, settled]

/-- The first reading after a first zero reply dates the row, later than the reply itself. -/
theorem Vigil.read_begun {vigil : Vigil} (now : Instant) (begun : vigil.streak = .begun) :
    (vigil.read now).streak = .dated now := by
  simp [Vigil.read, begun]

/-- The inspection keeps standing for the row of replies, as its anchor is a date and readings
change none. -/
theorem Inspects.read {inspection : PlayerInspection} (now : Instant)
    (inspects : Inspects config inspection vigil) : Inspects config inspection (vigil.read now) := by
  cases inspection with
  | proxyOnly => exact inspects
  | configuredRcon client nextPoll zeroAnchor =>
    obtain ⟨rcon, anchored, unheard⟩ := inspects
    exact ⟨rcon, fun read same => Vigil.read_streak now (anchored read same) nofun,
      fun present unanchored => Vigil.read_streak now (unheard present unanchored) nofun⟩

/-- So the monitor's state keeps standing for the vigil. -/
theorem Keeps.read {state : RunningMonitorState} (now : Instant)
    (keeps : Keeps config cycle state vigil) : Keeps config cycle state (vigil.read now) :=
  ⟨keeps.1, keeps.2.read now⟩

/-- The readings under the gate show an expired idle period from this anchor on. -/
structure Expired (config : SupervisorConfig) (cycle : BackendCycle) (anchor : Instant)
    (state : RunningMonitorState) (vigil : Vigil) : Prop where
  keeps : Keeps config cycle state vigil
  held : vigil.held = true
  idle : ∃ record proxy, vigil.snapshot = some record ∧ record.cycle = cycle ∧
    record.proxyIdleAnchor = some proxy ∧ proxy ≤ anchor
  elapsed : anchor + config.idleTimeout ≤ vigil.latest
  zero : ∀ client nextPoll zeroAnchor,
    state.playerInspection = .configuredRcon client nextPoll zeroAnchor →
    ∃ read, zeroAnchor = some read ∧ read ≤ anchor

/-- An idle period that has expired stays expired, since the clock does not go back. -/
theorem Expired.read {anchor : Instant} {state : RunningMonitorState} (now : Instant)
    (expired : Expired config cycle anchor state vigil) :
    Expired config cycle anchor state (vigil.read now) where
  keeps := expired.keeps.read now
  held := expired.held
  idle := expired.idle
  elapsed := Nat.le_trans expired.elapsed (Nat.le_max_left _ _)
  zero := expired.zero

/-- A stop that is due stays due. -/
theorem Vigil.Due.read (now : Instant) (due : vigil.Due config cycle) :
    (vigil.read now).Due config cycle := by
  obtain ⟨held, record, proxy, anchor, taken, current, idle, past, elapsed, row⟩ := due
  refine ⟨held, record, proxy, anchor, taken, current, idle, past,
    Nat.le_trans elapsed (Nat.le_max_left _ _), fun rcon => ?_⟩
  obtain ⟨confirmed, read, dated, before⟩ := row rcon
  exact ⟨confirmed, read, Vigil.read_streak now dated nofun, before⟩

/-- One more reply of zero players under the gate makes an expired idle period due: the record has
shown no session since the anchor, and the reply says the same of the server. -/
theorem Expired.confirmed {anchor : Instant} {state : RunningMonitorState}
    (expired : Expired config cycle anchor state vigil) (rcon : config.rcon = true) :
    Keeps config cycle state (vigil.heard .zero) ∧ (vigil.heard .zero).Due config cycle := by
  obtain ⟨⟨current, inspects⟩, held, ⟨record, proxy, taken, same, idle, past⟩, elapsed, zero⟩ :=
    expired
  cases inspection : state.playerInspection with
  | proxyOnly =>
    rw [inspection] at inspects
    exact absurd (rcon.symm.trans inspects) (by simp)
  | configuredRcon client nextPoll zeroAnchor =>
    rw [inspection] at inspects
    obtain ⟨-, anchored, -⟩ := inspects
    obtain ⟨read, rfl, before⟩ := zero client nextPoll zeroAnchor inspection
    have dated : (vigil.heard .zero).streak = .dated read := by
      simp [Vigil.heard, anchored read rfl]
    refine ⟨⟨current, ?_⟩, held, record, proxy, anchor, taken, same, idle, past, elapsed,
      fun _ => ⟨rfl, read, dated, before⟩⟩
    rw [inspection]
    exact ⟨rcon, fun other anchored => Option.some.inj anchored ▸ dated, by simp⟩

/-- Without RCON the record alone makes it due. -/
theorem Expired.due {anchor : Instant} {state : RunningMonitorState}
    (expired : Expired config cycle anchor state vigil) (unused : config.rcon = false) :
    vigil.Due config cycle := by
  obtain ⟨-, held, ⟨record, proxy, taken, same, idle, past⟩, elapsed, -⟩ := expired
  exact ⟨held, record, proxy, anchor, taken, same, idle, past, elapsed, fun rcon =>
    absurd (rcon.symm.trans unused) nofun⟩

/-- Branches apart from RCON say nothing about players. -/
theorem inspected_untouched {sources : List Source} {event : Event}
    (unconnected : Source.rconConnect ∉ sources) (unlisted : Source.rconList ∉ sources) :
    inspected sources event = .untouched := by
  simp [inspected, unconnected, unlisted]

/-- The stability window adds only its own timer to a wait. -/
theorem stability_unlisted (state : RunningMonitorState) (source : Source)
    (other : ∀ deadline, source ≠ .sleepUntil .stability deadline) : source ∉ state.stability := by
  intro listed
  obtain ⟨deadline, same⟩ := stability_watches listed
  exact other deadline same

/-- The wait for the gate keeps the vigil over all its turns, and the gate is held exactly when it
says so. -/
theorem vigil_acquireIdleExclusive {expectedAnchor : Instant} {state : RunningMonitorState}
    {post : RunningMonitorState × IdleExclusiveOutcome → Vigil → Prop}
    (keeps : Keeps config cycle state vigil)
    (acquired : ∀ state vigil, Keeps config cycle state vigil → vigil.held = true →
      post (state, .acquired) vigil)
    (changed : ∀ state vigil, Keeps config cycle state vigil →
      post (state, .activityChanged) vigil)
    (shutdown : ∀ state vigil, post (state, .shutdown) vigil)
    (childWait : ∀ state status vigil, post (state, .childWait status) vigil) :
    Safe (vigilance config cycle) (acquireIdleExclusive config expectedAnchor state) post vigil := by
  refine safe_loop (Keeps config cycle) keeps ?_
  intro state vigil keeps
  simp only [Program.bind_eq, safe_bind]
  refine vigil_access trivial fun closed => ?_
  split
  · exact shutdown _ _
  · simp only [safe_bind]
    refine vigil_access trivial fun activity => ?_
    have keeps : Keeps config cycle state { vigil with snapshot := activity } := keeps
    split
    · exact changed _ _ keeps
    · simp only [safe_bind]
      refine vigil_access trivial fun event => ?_
      have quiet : inspected ([.shutdown, .wake, .child] ++ state.stability ++
          [.activity, .exclusive]) event = .untouched := by
        apply inspected_untouched <;> simp [stability_unlisted]
      simp only [Vigil.after, quiet, Vigil.heard]
      cases event with
      | wake request =>
        cases request with
        | none => exact shutdown _ _
        | some request =>
          simp only [safe_bind]
          exact vigil_access trivial fun _ => keeps
      | child status => exact childWait _ _ _
      | elapsed timer =>
        simp only [safe_bind, reduceCtorEq, if_false]
        refine (vigil_reads reads_completeStabilityWindow (fun _ now => Keeps.read now) keeps).mono ?_
        intro completed vigil keeps
        cases completed with
        | some status => exact childWait _ _ _
        | none => exact keeps
      | activity =>
        simp only [safe_bind]
        refine vigil_access trivial fun activity => ?_
        split
        · exact changed _ _ keeps
        · simp only [safe_bind]
          refine vigil_access trivial fun now => ?_
          split
          · exact changed _ _ (keeps.read now)
          · exact keeps.read now
      | exclusive => exact acquired _ _ keeps rfl
      | _ => exact shutdown _ _

/-- The final check either hears one more reply of zero players under the gate, or
breaks the row. -/
theorem vigil_finalRconPlayerCheck {anchor : Instant} {state : RunningMonitorState}
    {post : RunningMonitorState × FinalRconCheck → Vigil → Prop}
    (expired : Expired config cycle anchor state vigil) (rcon : config.rcon = true)
    (zero : ∀ state vigil, Keeps config cycle state vigil → vigil.Due config cycle →
      post (state, .zero) vigil)
    (veto : ∀ state client vigil, state.cycle = cycle → vigil.streak = .none →
      post (state, .veto client) vigil)
    (shutdown : ∀ state vigil, post (state, .shutdown) vigil)
    (childWait : ∀ state status vigil, post (state, .childWait status) vigil) :
    Safe (vigilance config cycle) (finalRconPlayerCheck config state) post vigil := by
  simp only [finalRconPlayerCheck, Program.bind_eq, safe_bind]
  refine vigil_access trivial fun now => ?_
  refine safe_loop (Expired config cycle anchor) (expired.read now) ?_
  intro state vigil expired
  simp only [safe_bind]
  refine vigil_access trivial fun closed => ?_
  split
  · exact shutdown _ _
  · simp only [safe_bind]
    refine vigil_access trivial fun event => ?_
    have listing : inspected ([.shutdown, .wake, .child] ++ state.stability ++
        [.rconList, .sleepUntil .command (now + config.commandTimeout)]) event =
        event.listing := by
      simp [inspected, stability_unlisted]
    simp only [Vigil.after, listing]
    cases event with
    | wake request =>
      cases request with
      | none => exact shutdown _ _
      | some request =>
        simp only [safe_bind]
        exact vigil_access trivial fun _ => expired
    | child status => exact childWait _ _ _
    | elapsed timer =>
      cases timer with
      | stability =>
        simp only [safe_bind, reduceCtorEq, if_false, Vigil.heard, Event.listing]
        refine (vigil_reads reads_completeStabilityWindow (fun _ now => Expired.read now) expired).mono ?_
        intro completed vigil expired
        cases completed with
        | some status => exact childWait _ _ _
        | none => exact ⟨expired.keeps, expired.held, expired.idle, expired.elapsed, expired.zero⟩
      | _ => exact veto _ _ _ expired.keeps.1 rfl
    | rconList response =>
      cases response with
      | none => exact veto _ _ _ expired.keeps.1 rfl
      | some response =>
        by_cases empty : observedPlayerCount response = some 0
        · simp only [Event.listing, empty, if_true, reduceCtorEq, if_false]
          obtain ⟨keeps, due⟩ := expired.confirmed rcon
          exact zero _ _ keeps due
        · simp only [Event.listing, empty, if_false, reduceCtorEq]
          exact veto _ _ _ expired.keeps.1 rfl
    | _ => exact shutdown _ _

/-- What confirms an idle server is what makes its stop due: without RCON the expired period
itself, and with it a zero reply under the gate. -/
theorem vigil_confirmIdlePlayerState {anchor : Instant} {state : RunningMonitorState}
    {post : RunningMonitorState × IdlePlayerCheck → Vigil → Prop}
    (expired : Expired config cycle anchor state vigil)
    (confirmed : ∀ state vigil, Keeps config cycle state vigil → vigil.Due config cycle →
      post (state, .confirmed) vigil)
    (veto : ∀ state vigil, Keeps config cycle state vigil → post (state, .veto) vigil)
    (shutdown : ∀ state vigil, post (state, .shutdown) vigil)
    (childWait : ∀ state status vigil, post (state, .childWait status) vigil) :
    Safe (vigilance config cycle) (confirmIdlePlayerState config state) post vigil := by
  obtain ⟨current, inspects⟩ := expired.keeps
  unfold confirmIdlePlayerState
  split
  · rename_i inspection
    rw [inspection] at inspects
    exact confirmed _ _ expired.keeps (expired.due inspects)
  · rename_i nextPoll zeroAnchor inspection
    rw [inspection] at inspects
    simp only [Program.bind_eq, safe_bind]
    exact vigil_access trivial fun now => veto _ _ ⟨current, inspects.1, by simp, by simp⟩
  · rename_i nextPoll zeroAnchor inspection
    rw [inspection] at inspects
    obtain ⟨rcon, anchored, -⟩ := inspects
    simp only [Program.bind_eq, safe_bind]
    -- the client is taken, and its anchor stays behind for the final check
    have taken : Expired config cycle anchor
        { state with playerInspection := .configuredRcon false nextPoll zeroAnchor } vigil := by
      refine ⟨⟨current, rcon, anchored, by simp⟩, expired.held, expired.idle,
        expired.elapsed, ?_⟩
      rintro client nextPoll zeroAnchor same
      cases same
      exact expired.zero _ _ _ inspection
    refine vigil_finalRconPlayerCheck taken rcon confirmed ?_ shutdown childWait
    intro state client vigil current streak
    dsimp only
    split
    · exact ⟨trivial, by simp⟩
    · simp only [safe_bind]
      exact vigil_access trivial fun now =>
        veto _ _ ⟨current, rcon, by simp, fun _ _ => Vigil.read_streak now streak (by simp)⟩

/-- How a turn of the monitor may leave the vigil: only a continued watch keeps it. -/
def TurnKeeps (config : SupervisorConfig) (cycle : BackendCycle)
    (turn : RunningMonitorState × RunningMonitorOutcome) (vigil : Vigil) : Prop :=
  turn.2 = .continued → Keeps config cycle turn.1 vigil

/-- The stop is published only while it is due. The reading of the clock and of the shutdown in
between take nothing from what makes it due. -/
theorem vigil_commitIdleStop {state : RunningMonitorState}
    (keeps : Keeps config cycle state vigil) (due : vigil.Due config cycle) :
    Safe (vigilance config cycle) (commitIdleStop state)
      (fun outcome => TurnKeeps config cycle (state, outcome)) vigil := by
  simp only [commitIdleStop, Program.bind_eq, safe_bind]
  refine vigil_access trivial fun lifecycle => ?_
  split
  · exact fun _ => keeps
  · simp only [safe_bind]
    refine (vigil_reads reads_shutdownPending (fun _ now => Vigil.Due.read now) due).mono ?_
    intro pending vigil due
    split
    · rintro ⟨⟩
    · simp only [safe_bind]
      refine vigil_access trivial fun outcome => ?_
      cases outcome with
      | exited | failed => rintro ⟨⟩
      | running =>
        simp only [beginIdleStop, advance, publish, currentLifecycle, now, Program.bind_eq,
          safe_bind]
        refine vigil_access trivial fun _ => vigil_access trivial fun _ =>
          vigil_assert fun _ => vigil_access trivial fun now => vigil_assert fun _ =>
            vigil_access ⟨keeps.1, ?_⟩ fun _ => by rintro ⟨⟩
        exact (due.read _).read _

/-- An anchor that the record and the inspection agree on is no earlier than either: where the
server is inspected it is the later of the two instants, else that of the record. -/
theorem effectiveIdleAnchor_bounds {state : RunningMonitorState}
    {activity : Option CurrentCycleActivity} {anchor : Instant}
    (agreed : state.effectiveIdleAnchor activity = some anchor) :
    (∃ record proxy, activity = some record ∧ record.cycle = state.cycle ∧
      record.proxyIdleAnchor = some proxy ∧ proxy ≤ anchor) ∧
    ∀ client nextPoll zeroAnchor,
      state.playerInspection = .configuredRcon client nextPoll zeroAnchor →
      ∃ read, zeroAnchor = some read ∧ read ≤ anchor := by
  simp only [RunningMonitorState.effectiveIdleAnchor, Option.bind_eq_bind,
    Option.bind_eq_some_iff, Option.filter_eq_some_iff, decide_eq_true_eq] at agreed
  obtain ⟨record, ⟨rfl, same⟩, proxy, idle, decided⟩ := agreed
  cases inspection : state.playerInspection with
  | proxyOnly =>
    rw [inspection] at decided
    obtain rfl := Option.some.inj decided
    exact ⟨⟨record, proxy, rfl, same, idle, Nat.le_refl _⟩, nofun⟩
  | configuredRcon client nextPoll zeroAnchor =>
    rw [inspection] at decided
    obtain ⟨read, rfl, rfl⟩ := Option.map_eq_some_iff.mp decided
    refine ⟨⟨record, proxy, rfl, same, idle, Nat.le_max_left _ _⟩, ?_⟩
    rintro _ _ _ agreed
    cases agreed
    exact ⟨read, rfl, Nat.le_max_right _ _⟩

/-- Under the gate the record is read again, the period is compared with the reading just made,
and the players are asked once more, before anything is published. -/
theorem vigil_attemptUnderExclusive {anchor : Instant} {state : RunningMonitorState}
    (keeps : Keeps config cycle state vigil) (held : vigil.held = true) :
    Safe (vigilance config cycle) (attemptUnderExclusive config anchor state)
      (TurnKeeps config cycle) vigil := by
  simp only [attemptUnderExclusive, Program.bind_eq, safe_bind]
  refine vigil_access trivial fun activity => ?_
  have keeps : Keeps config cycle state { vigil with snapshot := activity } := keeps
  split
  · exact fun _ => keeps
  · rename_i agreed
    simp only [Bool.or_eq_true, not_or, decide_eq_true_eq, Decidable.not_not] at agreed
    obtain ⟨idle, zero⟩ := effectiveIdleAnchor_bounds agreed.2
    simp only [safe_bind]
    refine vigil_access trivial fun now => ?_
    split
    · exact fun _ => keeps.read now
    · rename_i late
      have expired : Expired config cycle anchor state
          (({ vigil with snapshot := activity } : Vigil).read now) := by
        refine ⟨keeps.read now, held, keeps.1 ▸ idle, ?_, zero⟩
        exact Nat.le_trans (Nat.not_lt.mp late) (Nat.le_max_right _ _)
      simp only [safe_bind]
      refine vigil_access trivial fun lifecycle => ?_
      split
      · exact fun _ => expired.keeps
      · simp only [safe_bind]
        refine (vigil_reads reads_shutdownPending (fun _ now => Expired.read now) expired).mono ?_
        intro pending vigil expired
        split
        · exact nofun
        · simp only [safe_bind]
          refine vigil_access trivial fun outcome => ?_
          cases outcome with
          | exited | failed => exact nofun
          | running =>
            simp only [safe_bind]
            refine vigil_confirmIdlePlayerState expired ?_ (fun _ _ keeps _ => keeps)
              (fun _ _ => nofun) (fun _ _ _ => nofun)
            intro state vigil keeps due
            simp only [safe_bind]
            exact vigil_commitIdleStop keeps due

/-- An attempt that ends without a stop gives the gate back and keeps the vigil. -/
theorem vigil_attemptExpiredIdleStop {anchor : Instant} {state : RunningMonitorState}
    (keeps : Keeps config cycle state vigil) :
    Safe (vigilance config cycle) (attemptExpiredIdleStop config state anchor)
      (TurnKeeps config cycle) vigil := by
  simp only [attemptExpiredIdleStop, Program.bind_eq, safe_bind]
  refine vigil_acquireIdleExclusive keeps ?_ (fun _ _ keeps _ => keeps) (fun _ _ => nofun)
    (fun _ _ _ => nofun)
  intro state vigil keeps held
  simp only [safe_bind]
  refine (vigil_attemptUnderExclusive keeps held).mono fun turn vigil kept => ?_
  exact vigil_access trivial fun _ => kept

/-- A poll's reply begins, continues or ends the row of zero replies, and the anchor it returns is
dated by the reading after the reply. -/
theorem vigil_pollPlayerPresence {inspection : PlayerInspection}
    (inspects : Inspects config inspection vigil) :
    Safe (vigilance config cycle) (pollPlayerPresence config inspection) (Inspects config)
      vigil := by
  unfold pollPlayerPresence
  split
  · exact inspects
  · obtain ⟨rcon, -⟩ := inspects
    simp only [Program.bind_eq, safe_bind]
    refine vigil_assert fun _ => vigil_access trivial fun now =>
      vigil_access trivial fun event => ?_
    have broken : inspected [.rconConnect, .sleepUntil .command (now + config.commandTimeout)]
        event = .broken := by
      simp [inspected]
    simp only [Vigil.after, broken]
    generalize seen : (if event = Event.exclusive then _ else _ : Vigil) = later
    have streak : later.streak = .none := by
      rw [← seen]
      split <;> rfl
    split <;> simp only [safe_bind] <;> refine vigil_access trivial fun now => ?_
    · exact ⟨rcon, by simp, fun _ _ => Vigil.read_streak now streak (by simp)⟩
    · exact ⟨rcon, by simp, by simp⟩
  · rename_i nextPoll zeroAnchor
    obtain ⟨rcon, anchored, unheard⟩ := inspects
    simp only [Program.bind_eq, safe_bind]
    refine vigil_assert fun _ => vigil_access trivial fun start =>
      vigil_access trivial fun event => ?_
    have listing : inspected [.rconList, .sleepUntil .command (start + config.commandTimeout)]
        event = event.listing := by
      simp [inspected]
    have settled : (vigil.read start).streak = vigil.streak := by
      cases zeroAnchor with
      | none => rw [unheard rfl rfl, Vigil.read_streak start (unheard rfl rfl) (by simp)]
      | some read => rw [anchored read rfl, Vigil.read_streak start (anchored read rfl) (by simp)]
    simp only [Vigil.after, listing]
    split
    · rename_i response
      by_cases empty : observedPlayerCount response = some 0
      · simp only [Event.listing, empty, if_true, reduceCtorEq, if_false]
        cases zeroAnchor with
        | some started =>
          have dated : ((vigil.read start).heard .zero).streak = .dated started := by
            simp [Vigil.heard, settled, anchored started rfl]
          simp only [Program.pure_eq, Program.done_bind, safe_bind]
          refine vigil_access trivial fun first => vigil_access trivial fun second => ?_
          refine ⟨rcon, fun read same => Option.some.inj same ▸ ?_, by simp⟩
          exact Vigil.read_streak _ (Vigil.read_streak _ dated (by simp)) (by simp)
        | none =>
          have begun : ((vigil.read start).heard .zero).streak = .begun := by
            simp [Vigil.heard, settled, unheard rfl rfl]
          simp only [safe_bind]
          refine vigil_access trivial fun started => vigil_access trivial fun first =>
            vigil_access trivial fun second => ?_
          have dated := Vigil.read_begun started begun
          refine ⟨rcon, fun read same => Option.some.inj same ▸ ?_, by simp⟩
          exact Vigil.read_streak _ (Vigil.read_streak _ dated (by simp)) (by simp)
      · simp only [Event.listing, empty, if_false, reduceCtorEq, safe_bind]
        refine vigil_access trivial fun now => ?_
        exact ⟨rcon, by simp, fun _ _ => Vigil.read_streak now rfl (by simp)⟩
    · simp only [safe_bind]
      exact vigil_access trivial fun now => ⟨rcon, by simp, by simp⟩

/-- The monitor's own wait keeps the vigil, whichever branch completes, as a poll keeps it. No
branch is itself an answer of the server; only the poll that may follow one brings an answer. -/
theorem vigil_awaitRunningMonitor {state : RunningMonitorState} {anchor : Option Instant}
    (keeps : Keeps config cycle state vigil) :
    Safe (vigilance config cycle) (awaitRunningMonitor config state anchor)
      (TurnKeeps config cycle) vigil := by
  simp only [awaitRunningMonitor, Program.bind_eq, safe_bind]
  refine vigil_access trivial fun event => ?_
  generalize branches : ([.shutdown, .wake, .child] ++ state.stability ++ [.activity] ++
    state.playerPoll ++ _ : List Source) = sources
  have quiet : inspected sources event = .untouched := by
    rw [← branches]
    apply inspected_untouched <;> intro listed <;>
      rcases mem_awaitRunningMonitor listed with named | ⟨timer, deadline, same⟩
    · simp at named
    · cases same
    · simp at named
    · cases same
  simp only [Vigil.after, quiet, Vigil.heard]
  cases event with
  | wake request =>
    cases request with
    | none => rintro ⟨⟩
    | some request =>
      simp only [safe_bind]
      exact vigil_access trivial fun _ _ => keeps
  | child status => rintro ⟨⟩
  | elapsed timer =>
    cases timer with
    | stability =>
      simp only [safe_bind, reduceCtorEq, if_false]
      refine (vigil_reads reads_completeStabilityWindow (fun _ now => Keeps.read now) keeps).mono ?_
      intro completed vigil keeps
      cases completed with
      | some status => rintro ⟨⟩
      | none => exact fun _ => keeps
    | playerPoll =>
      simp only [safe_bind, reduceCtorEq, if_false]
      exact (vigil_pollPlayerPresence keeps.2).mono fun inspection vigil inspects _ =>
        ⟨keeps.1, inspects⟩
    | _ => exact fun _ => keeps
  | activity => exact fun _ => keeps
  | _ => rintro ⟨⟩

/-- One turn of the monitor keeps the vigil if the watch continues. The record that it reads first
is the one that decides whether the idle period has expired. -/
theorem vigil_advanceRunningMonitor {state : RunningMonitorState}
    (keeps : Keeps config cycle state vigil) :
    Safe (vigilance config cycle) (advanceRunningMonitor config state)
      (TurnKeeps config cycle) vigil := by
  simp only [advanceRunningMonitor, Program.bind_eq, safe_bind]
  refine vigil_access trivial fun activity => ?_
  have keeps : Keeps config cycle state { vigil with snapshot := activity } := keeps
  split
  · simp only [safe_bind]
    refine vigil_access trivial fun now => ?_
    split
    · exact vigil_attemptExpiredIdleStop (keeps.read now)
    · exact vigil_awaitRunningMonitor (keeps.read now)
  · exact vigil_awaitRunningMonitor keeps

/-- A cleanup may follow any vigil. -/
theorem vigil_unwatched {program : Supervised α} (unwatched : Issues Op.unwatched program) :
    Safe (vigilance config cycle) program (fun _ _ => True) vigil := by
  refine Issues.safe (fun vigil op _ admitted => ⟨?_, fun _ _ => trivial⟩) unwatched trivial
  cases op with
  | publish transition next => cases transition <;> trivial
  | beginCycle => cases admitted
  | _ => trivial

/-- Monitoring keeps the vigil from the inspection's beginning to the end of the cycle. The
inspection starts without an anchor, so no earlier cycle can lend it one. -/
theorem vigil_monitorRunningServer :
    Safe (vigilance config cycle) ((PlayerInspection.fromConfig config).bind fun inspection =>
      monitorRunningServer config inspection cycle) (fun _ _ => True) .initial := by
  rw [safe_bind]
  have monitored : ∀ inspection vigil, Inspects config inspection vigil →
      Safe (vigilance config cycle) (monitorRunningServer config inspection cycle)
        (fun _ _ => True) vigil := by
    intro inspection vigil inspects
    simp only [monitorRunningServer, RunningMonitorState.new, Program.bind_eq, safe_bind]
    refine vigil_access trivial fun lifecycle => vigil_assert fun _ => ?_
    refine safe_loop (Keeps config cycle) ⟨rfl, inspects⟩ fun state vigil keeps => ?_
    simp only [safe_bind]
    refine (vigil_advanceRunningMonitor keeps).mono ?_
    rintro ⟨state, outcome⟩ vigil kept
    cases outcome with
    | continued => exact kept rfl
    | committed =>
      simp only [safe_bind]
      exact (vigil_unwatched ((cleans_stopCommittedIdleServer config).mono unwatched_of_cleans)).mono fun _ _ _ => trivial
    | shutdown =>
      simp only [safe_bind]
      exact (vigil_unwatched ((cleans_stopForShutdown config).mono unwatched_of_cleans)).mono fun _ _ _ => trivial
    | childWait status =>
      simp only [safe_bind]
      exact (vigil_unwatched ((cleans_processWaitOutcome config status _).mono unwatched_of_cleans)).mono
        fun _ _ _ => trivial
  unfold PlayerInspection.fromConfig
  split
  · rename_i rcon
    simp only [Program.bind_eq, safe_bind]
    exact vigil_access trivial fun now => monitored _ _ ⟨rcon, by simp, by simp⟩
  · rename_i unused
    exact monitored _ _ ((Bool.not_eq_true _).mp unused)

end Monitoring

end McServerNap
