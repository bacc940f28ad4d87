import McServerNap.Encoding.Fallible
import McServerNap.Lifecycle

/-!
# Deadlines on a bounded clock

The configuration is checked once: every timeout has to fit behind the instant at which it is
loaded. The deadlines are computed for the whole life of the daemon, by plain additions that
panic beyond the last instant. So the check holds for later instants only while the longest
timeout still fits behind the clock, and that is exactly when no deadline overflows.

The daemon is modelled as far as its deadlines go. Its tasks record anchors of idle periods
and compute deadlines at any instant and in any order; which of them do is the business of
the supervisor and of the clients.
-/

namespace McServerNap

open Encoding

/-! ## Configuration -/

/-- `TimeoutsSchema`. -/
structure TimeoutsSchema where
  pollIntervalSeconds : UInt64
  idleTimeoutSeconds : UInt64
  startupTimeoutSeconds : UInt64
  retryIntervalSeconds : UInt64
  commandTimeoutSeconds : UInt64
  shutdownTimeoutSeconds : UInt64
  handshakeTimeoutSeconds : UInt64
  proxyConnectTimeoutSeconds : UInt64
  deriving DecidableEq, Repr

/-- `PreparedTimeouts`, the durations that the daemon computes its deadlines with. -/
structure PreparedTimeouts where
  poll : Duration
  idle : Duration
  startup : Duration
  retry : Duration
  command : Duration
  shutdown : Duration
  handshake : Duration
  proxyConnect : Duration
  deriving DecidableEq, Repr

/-- The errors of `validate_duration`, with the server and the field they name. -/
inductive TimeoutError where
  /-- "[server={server_id}] {name} must be greater than zero" -/
  | notPositive (serverId name : String)
  /-- "[server={server_id}] {name} is too large for Tokio timing on this platform" -/
  | tooLarge (serverId name : String)
  deriving DecidableEq, Repr

/-- `Instant::checked_add`, on a clock that ends with the instant `last`. -/
def instantCheckedAdd (last instant : Instant) (duration : Duration) : Option Instant :=
  if instant + duration ≤ last then some (instant + duration) else none

/-- `validate_duration`, where the clock shows `loaded`. -/
def validateDuration (last loaded : Instant) (serverId name : String) (count : UInt64) :
    Except TimeoutError Unit :=
  if 0 < count then
    if (instantCheckedAdd last loaded (seconds count.toNat)).isSome then .ok ()
    else .error (.tooLarge serverId name)
  else .error (.notPositive serverId name)

/-- `prepare_timeouts`. The clock may run between two checks; `loaded` is its latest
reading. -/
def prepareTimeouts (last loaded : Instant) (serverId : String) (raw : TimeoutsSchema) :
    Except TimeoutError PreparedTimeouts :=
  let duration (name : String) (count : UInt64) : Except TimeoutError Duration :=
    (validateDuration last loaded serverId name count).map fun _ => seconds count.toNat
  do
    let poll ← duration "poll_interval_seconds" raw.pollIntervalSeconds
    let idle ← duration "idle_timeout_seconds" raw.idleTimeoutSeconds
    let startup ← duration "startup_timeout_seconds" raw.startupTimeoutSeconds
    let retry ← duration "retry_interval_seconds" raw.retryIntervalSeconds
    let command ← duration "command_timeout_seconds" raw.commandTimeoutSeconds
    let shutdown ← duration "shutdown_timeout_seconds" raw.shutdownTimeoutSeconds
    let handshake ← duration "handshake_timeout_seconds" raw.handshakeTimeoutSeconds
    let proxyConnect ← duration "proxy_connect_timeout_seconds" raw.proxyConnectTimeoutSeconds
    return { poll, idle, startup, retry, command, shutdown, handshake, proxyConnect }

/-! ## Deadlines -/

/-- The additions of a configured timeout to an instant. -/
inductive Computation where
  /-- `monitor_external_server`: `Instant::now() + config.poll_interval` -/
  | externalPoll
  /-- `wait_for_readiness`: `Instant::now() + config.startup_timeout` -/
  | startupDeadline
  /-- `wait_for_readiness`: `Instant::now() + config.retry_interval` -/
  | readinessRetry
  /-- `acquire_idle_exclusive`, `attempt_expired_idle_stop` and `advance_running_monitor`:
  `anchor + config.idle_timeout` -/
  | idleDeadline (anchor : Instant)
  /-- `confirm_idle_player_state` and `poll_player_presence`:
  `Instant::now() + config.poll_interval` -/
  | playerPoll
  /-- `confirm_idle_player_state` and `poll_player_presence`:
  `Instant::now() + config.retry_interval` -/
  | playerRetry
  /-- `stop_and_reap` and `rcon::probe`: `Instant::now() + command_timeout` -/
  | commandDeadline
  /-- `handle_client`: `Instant::now() + context.handshake_timeout` -/
  | initialDeadline
  /-- `connect_backend`: `Instant::now() + connect_timeout`, with the proxy's connect
  timeout -/
  | backendConnect
  deriving DecidableEq, Repr

/-- The instant that the timeout is added to. -/
def Computation.base (now : Instant) : Computation → Instant
  | .idleDeadline anchor => anchor
  | _ => now

/-- The duration that a computation adds. -/
def Computation.timeout (timeouts : PreparedTimeouts) : Computation → Duration
  | .externalPoll | .playerPoll => timeouts.poll
  | .startupDeadline => timeouts.startup
  | .readinessRetry | .playerRetry => timeouts.retry
  | .idleDeadline _ => timeouts.idle
  | .commandDeadline => timeouts.command
  | .initialDeadline => timeouts.handshake
  | .backendConnect => timeouts.proxyConnect

/-- The clock and the anchors recorded so far. -/
structure Daemon where
  clock : Instant
  anchors : List Instant
  deriving DecidableEq, Repr

/-- What happens next. An anchor is the instant at which it is recorded: the last session of a
cycle has ended, a server is running, or its player list was found empty. -/
inductive Daemon.Step where
  | pass (duration : Duration)
  | anchor
  | compute (computation : Computation)
  deriving DecidableEq, Repr

/-- How a run has gone so far. -/
inductive Daemon.Progress where
  | runs (daemon : Daemon)
  /-- A plain addition has overflowed, which panics. -/
  | panicked
  /-- The clock has no such instant, or nothing has recorded such an anchor. -/
  | impossible
  deriving DecidableEq, Repr

/-- What a step does. A computation adds to the clock or to a recorded anchor, and panics where
the sum is no instant of the clock. -/
def Daemon.step (last : Instant) (timeouts : PreparedTimeouts) (daemon : Daemon) :
    Daemon.Step → Daemon.Progress
  | .pass duration =>
    if daemon.clock + duration ≤ last then .runs { daemon with clock := daemon.clock + duration }
    else .impossible
  | .anchor => .runs { daemon with anchors := daemon.clock :: daemon.anchors }
  | .compute computation =>
    if computation.base daemon.clock ∈ daemon.clock :: daemon.anchors then
      match instantCheckedAdd last (computation.base daemon.clock) (computation.timeout timeouts) with
      | some _ => .runs daemon
      | none => .panicked
    else .impossible

/-- A run goes on until an addition panics. -/
def Daemon.run (last : Instant) (timeouts : PreparedTimeouts) (daemon : Daemon) :
    List Daemon.Step → Daemon.Progress
  | [] => .runs daemon
  | step :: steps =>
    match daemon.step last timeouts step with
    | .runs next => next.run last timeouts steps
    | stopped => stopped

/-- The daemon that has just loaded its configuration. -/
def Daemon.loaded (now : Instant) : Daemon := ⟨now, []⟩

/-! ## When they fit -/

/-- The largest of the numbers. -/
def largest (numbers : List Nat) : Nat := numbers.foldr max 0

/-- No number of a list is above its largest. -/
theorem le_largest {number : Nat} {numbers : List Nat} (mem : number ∈ numbers) :
    number ≤ largest numbers := by
  induction numbers with
  | nil => cases mem
  | cons first rest inductionHypothesis =>
    simp only [largest, List.foldr_cons] at inductionHypothesis ⊢
    rcases List.mem_cons.mp mem with rfl | mem
    · exact Nat.le_max_left _ _
    · exact Nat.le_trans (inductionHypothesis mem) (Nat.le_max_right _ _)

/-- The largest number of a list is one of them, if there is any. -/
theorem largest_mem {numbers : List Nat} (nonempty : numbers ≠ []) :
    largest numbers ∈ numbers := by
  induction numbers with
  | nil => exact absurd rfl nonempty
  | cons first rest inductionHypothesis =>
    by_cases alone : rest = []
    · subst alone
      simp [largest]
    · have later := inductionHypothesis alone
      simp only [largest, List.foldr_cons] at later ⊢
      rcases Nat.le_total first (rest.foldr max 0) with smaller | larger
      · rw [Nat.max_eq_right smaller]
        exact List.mem_cons_of_mem _ later
      · rw [Nat.max_eq_left larger]
        exact List.mem_cons_self

/-- The longest of the timeouts that deadlines are computed with. -/
def PreparedTimeouts.longest (timeouts : PreparedTimeouts) : Duration :=
  largest [timeouts.poll, timeouts.idle, timeouts.startup, timeouts.retry, timeouts.command,
    timeouts.handshake, timeouts.proxyConnect]

/-- Every timeout that is added to the clock or to an anchor is one of the seven that the longest
is taken from. -/
theorem Computation.timeout_le (timeouts : PreparedTimeouts) (computation : Computation) :
    computation.timeout timeouts ≤ timeouts.longest := by
  apply le_largest
  cases computation <;> simp [timeout]

/-- Some deadline is computed with the longest timeout, from the current instant on. The longest
is one of the seven, and each of the seven has such a computation. -/
theorem PreparedTimeouts.longest_computed (timeouts : PreparedTimeouts) (now : Instant) :
    ∃ computation : Computation, computation.timeout timeouts = timeouts.longest ∧
      computation.base now = now := by
  have attained : timeouts.longest ∈ _ := largest_mem (List.cons_ne_nil _ _)
  simp only [List.mem_cons, List.not_mem_nil, or_false] at attained
  rcases attained with same | same | same | same | same | same | same
  · exact ⟨.externalPoll, same.symm, rfl⟩
  · exact ⟨.idleDeadline now, same.symm, rfl⟩
  · exact ⟨.startupDeadline, same.symm, rfl⟩
  · exact ⟨.readinessRetry, same.symm, rfl⟩
  · exact ⟨.commandDeadline, same.symm, rfl⟩
  · exact ⟨.initialDeadline, same.symm, rfl⟩
  · exact ⟨.backendConnect, same.symm, rfl⟩

/-- Anchors lie in the past. -/
def Daemon.Sound (daemon : Daemon) : Prop := ∀ anchor ∈ daemon.anchors, anchor ≤ daemon.clock

/-- A step keeps the anchors behind the clock, which does not go back: time passes forward, and an
anchor is recorded as the reading of the clock at that step. -/
theorem Daemon.Sound.stepped {last : Instant} {timeouts : PreparedTimeouts}
    {daemon next : Daemon} {step : Daemon.Step} (sound : daemon.Sound)
    (stepped : daemon.step last timeouts step = .runs next) :
    next.Sound ∧ daemon.clock ≤ next.clock := by
  cases step with
  | pass duration =>
    simp only [Daemon.step] at stepped
    split at stepped
    · obtain rfl := Progress.runs.inj stepped
      exact ⟨fun anchor mem => Nat.le_add_right_of_le (sound anchor mem), Nat.le_add_right _ _⟩
    · cases stepped
  | anchor =>
    obtain rfl := Progress.runs.inj stepped
    refine ⟨fun anchor mem => ?_, Nat.le_refl _⟩
    rcases List.mem_cons.mp mem with rfl | mem
    · exact Nat.le_refl _
    · exact sound anchor mem
  | compute computation =>
    simp only [Daemon.step] at stepped
    split at stepped
    · split at stepped
      · obtain rfl := Progress.runs.inj stepped
        exact ⟨sound, Nat.le_refl _⟩
      · cases stepped
    · cases stepped

/-- A step does not panic where the longest timeout fits behind the clock: a deadline is computed
from an anchor no later than the clock and a timeout no longer than the longest. -/
theorem Daemon.Sound.step_fits {last : Instant} {timeouts : PreparedTimeouts} {daemon : Daemon}
    (sound : daemon.Sound) (fits : daemon.clock + timeouts.longest ≤ last) (step : Daemon.Step) :
    daemon.step last timeouts step ≠ .panicked := by
  cases step with
  | pass duration =>
    simp only [Daemon.step]
    split <;> exact nofun
  | anchor => exact nofun
  | compute computation =>
    simp only [Daemon.step]
    split
    · rename_i recorded
      have bounded : computation.base daemon.clock ≤ daemon.clock := by
        rcases List.mem_cons.mp recorded with same | mem
        · exact Nat.le_of_eq same
        · exact sound _ mem
      have room : computation.base daemon.clock + computation.timeout timeouts ≤ last :=
        Nat.le_trans (Nat.add_le_add bounded (computation.timeout_le timeouts)) fits
      simp only [instantCheckedAdd, if_pos room]
      exact nofun
    · exact nofun

/-- Where the longest timeout does not fit behind the clock, some deadline panics. -/
theorem Daemon.step_overflows {last : Instant} {timeouts : PreparedTimeouts} (daemon : Daemon)
    (beyond : ¬ daemon.clock + timeouts.longest ≤ last) :
    ∃ computation, daemon.step last timeouts (.compute computation) = .panicked := by
  obtain ⟨computation, longest, current⟩ := timeouts.longest_computed daemon.clock
  refine ⟨computation, ?_⟩
  simp only [step, current, List.mem_cons_self, if_pos, longest, instantCheckedAdd, if_neg beyond]

/-- The run never computes a deadline at an instant behind which the longest timeout does not
fit. -/
def Daemon.Fitting (last : Instant) (timeouts : PreparedTimeouts) (daemon : Daemon) :
    List Daemon.Step → Prop
  | [] => True
  | step :: steps =>
    ((∃ computation, step = .compute computation) → daemon.clock + timeouts.longest ≤ last) ∧
      ∀ next, daemon.step last timeouts step = .runs next → next.Fitting last timeouts steps

/-- A fitting run may begin with a step at which the longest timeout still fits. -/
theorem Daemon.fitting_cons {last : Instant} {timeouts : PreparedTimeouts} {daemon later : Daemon}
    {step : Daemon.Step} {steps : List Daemon.Step}
    (fits : daemon.clock + timeouts.longest ≤ last)
    (stepped : daemon.step last timeouts step = .runs later)
    (fitting : later.Fitting last timeouts steps) :
    daemon.Fitting last timeouts (step :: steps) := by
  refine ⟨fun _ => fits, fun next same => ?_⟩
  obtain rfl := Daemon.Progress.runs.inj (stepped.symm.trans same)
  exact fitting

/-- Such a run never panics. The induction is on its steps, with the daemon generalized: the
anchors stay behind the clock, so the bound applies to each computation in turn. -/
theorem Daemon.Sound.run_fits {last : Instant} {timeouts : PreparedTimeouts} {daemon : Daemon}
    (sound : daemon.Sound) (steps : List Daemon.Step)
    (fitting : daemon.Fitting last timeouts steps) :
    daemon.run last timeouts steps ≠ .panicked := by
  induction steps generalizing daemon with
  | nil => exact nofun
  | cons step steps inductionHypothesis =>
    obtain ⟨fits, later⟩ := fitting
    have calm : daemon.step last timeouts step ≠ .panicked := by
      cases step with
      | compute computation => exact sound.step_fits (fits ⟨computation, rfl⟩) _
      | pass duration =>
        simp only [Daemon.step]
        split <;> exact nofun
      | anchor => exact nofun
    unfold Daemon.run
    cases stepped : daemon.step last timeouts step with
    | runs next => exact inductionHypothesis (sound.stepped stepped).1 (later next stepped)
    | panicked => exact absurd stepped calm
    | impossible => exact nofun

/-- Anchors lie in the past in every run. The induction is on the steps, with the daemon
generalized. -/
theorem Daemon.Sound.run {last : Instant} {timeouts : PreparedTimeouts} {daemon later : Daemon}
    {steps : List Daemon.Step} (sound : daemon.Sound)
    (reached : daemon.run last timeouts steps = .runs later) : later.Sound := by
  induction steps generalizing daemon with
  | nil =>
    obtain rfl := Progress.runs.inj reached
    exact sound
  | cons step steps inductionHypothesis =>
    simp only [Daemon.run] at reached
    cases stepped : daemon.step last timeouts step with
    | runs between =>
      rw [stepped] at reached
      exact inductionHypothesis (sound.stepped stepped).1 reached
    | panicked => simp only [stepped, reduceCtorEq] at reached
    | impossible => simp only [stepped, reduceCtorEq] at reached

/-- A daemon that was just loaded has recorded nothing. -/
theorem Daemon.loaded_sound (now : Instant) : (Daemon.loaded now).Sound := nofun

/-- What a check accepts fits behind the instant of the check. -/
theorem validateDuration_eq_ok (last loaded : Instant) (serverId name : String) (count : UInt64) :
    validateDuration last loaded serverId name count = .ok () ↔
      0 < count ∧ loaded + seconds count.toNat ≤ last := by
  unfold validateDuration instantCheckedAdd
  by_cases positive : 0 < count
  · by_cases room : loaded + seconds count.toNat ≤ last
    · simp [positive, room]
    · simp [positive, room]
  · simp [positive]

/-- A configured number of seconds has become a timeout: it is positive and fits behind the
instant at which it was checked. -/
structure Admitted (last loaded : Instant) (count : UInt64) (duration : Duration) : Prop where
  positive : 0 < count
  fits : loaded + seconds count.toNat ≤ last
  same : duration = seconds count.toNat

/-- An admitted timeout is positive. -/
theorem Admitted.duration_pos {last loaded : Instant} {count : UInt64} {duration : Duration}
    (admitted : Admitted last loaded count duration) : 0 < duration := by
  have counted : 0 < count.toNat := UInt64.lt_iff_toNat_lt.mp admitted.positive
  rw [admitted.same]
  exact Nat.mul_pos counted (by decide)

/-- An admitted timeout fits behind the instant of its check. -/
theorem Admitted.duration_fits {last loaded : Instant} {count : UInt64} {duration : Duration}
    (admitted : Admitted last loaded count duration) : loaded + duration ≤ last := by
  rw [admitted.same]
  exact admitted.fits

/-- One of the checks that `prepare_timeouts` makes admits a timeout or names its field. -/
theorem duration_eq_ok {last loaded : Instant} {serverId name : String} {count : UInt64}
    {duration : Duration} :
    (validateDuration last loaded serverId name count).map (fun _ => seconds count.toNat) =
      .ok duration ↔ Admitted last loaded count duration := by
  rw [except_map_eq_ok]
  constructor
  · rintro ⟨⟨⟩, checked, same⟩
    obtain ⟨positive, fits⟩ := (validateDuration_eq_ok _ _ _ _ _).mp checked
    exact ⟨positive, fits, same.symm⟩
  · rintro ⟨positive, fits, same⟩
    exact ⟨(), (validateDuration_eq_ok _ _ _ _ _).mpr ⟨positive, fits⟩, same.symm⟩

/-- Timeouts are accepted exactly when each of the eight is admitted, the one for a shutdown
among them. -/
theorem prepareTimeouts_eq_ok {last loaded : Instant} {serverId : String} {raw : TimeoutsSchema}
    {timeouts : PreparedTimeouts} :
    prepareTimeouts last loaded serverId raw = .ok timeouts ↔
      Admitted last loaded raw.pollIntervalSeconds timeouts.poll ∧
      Admitted last loaded raw.idleTimeoutSeconds timeouts.idle ∧
      Admitted last loaded raw.startupTimeoutSeconds timeouts.startup ∧
      Admitted last loaded raw.retryIntervalSeconds timeouts.retry ∧
      Admitted last loaded raw.commandTimeoutSeconds timeouts.command ∧
      Admitted last loaded raw.shutdownTimeoutSeconds timeouts.shutdown ∧
      Admitted last loaded raw.handshakeTimeoutSeconds timeouts.handshake ∧
      Admitted last loaded raw.proxyConnectTimeoutSeconds timeouts.proxyConnect := by
  simp only [prepareTimeouts, except_bind_eq_ok, duration_eq_ok, except_pure_eq_ok]
  constructor
  · rintro ⟨_, poll, _, idle, _, startup, _, retry, _, command, _, shutdown, _, handshake, _,
      proxyConnect, rfl⟩
    exact ⟨poll, idle, startup, retry, command, shutdown, handshake, proxyConnect⟩
  · rintro ⟨poll, idle, startup, retry, command, shutdown, handshake, proxyConnect⟩
    exact ⟨_, poll, _, idle, _, startup, _, retry, _, command, _, shutdown, _, handshake, _,
      proxyConnect, rfl⟩

/-- Every timeout that a deadline is computed with was admitted when it was loaded. -/
theorem Computation.admitted {last loaded : Instant} {serverId : String} {raw : TimeoutsSchema}
    {timeouts : PreparedTimeouts}
    (accepted : prepareTimeouts last loaded serverId raw = .ok timeouts)
    (computation : Computation) :
    ∃ count, Admitted last loaded count (computation.timeout timeouts) := by
  obtain ⟨poll, idle, startup, retry, command, -, handshake, proxyConnect⟩ :=
    prepareTimeouts_eq_ok.mp accepted
  cases computation with
  | externalPoll | playerPoll => exact ⟨_, poll⟩
  | startupDeadline => exact ⟨_, startup⟩
  | readinessRetry | playerRetry => exact ⟨_, retry⟩
  | idleDeadline anchor => exact ⟨_, idle⟩
  | commandDeadline => exact ⟨_, command⟩
  | initialDeadline => exact ⟨_, handshake⟩
  | backendConnect => exact ⟨_, proxyConnect⟩

/-- Accepted timeouts fit behind the instant at which they were loaded. -/
theorem prepareTimeouts_fits {last loaded : Instant} {serverId : String} {raw : TimeoutsSchema}
    {timeouts : PreparedTimeouts}
    (accepted : prepareTimeouts last loaded serverId raw = .ok timeouts) :
    loaded + timeouts.longest ≤ last := by
  obtain ⟨computation, longest, -⟩ := timeouts.longest_computed loaded
  obtain ⟨count, admitted⟩ := computation.admitted accepted
  rw [← longest]
  exact admitted.duration_fits

/-- The check at load time covers every run in which deadlines are computed only while the
longest timeout fits behind the clock, and that is exactly when none of them can overflow. -/
theorem deadlines_fit_while_the_longest_timeout_does {last loaded : Instant} {serverId : String}
    {raw : TimeoutsSchema} {timeouts : PreparedTimeouts}
    (accepted : prepareTimeouts last loaded serverId raw = .ok timeouts) :
    loaded + timeouts.longest ≤ last ∧
    (∀ steps, (Daemon.loaded loaded).Fitting last timeouts steps →
      (Daemon.loaded loaded).run last timeouts steps ≠ .panicked) ∧
    ∀ steps daemon, (Daemon.loaded loaded).run last timeouts steps = .runs daemon →
      ((∀ computation, daemon.step last timeouts (.compute computation) ≠ .panicked) ↔
        daemon.clock + timeouts.longest ≤ last) := by
  refine ⟨prepareTimeouts_fits accepted, (Daemon.loaded_sound loaded).run_fits, ?_⟩
  intro steps daemon reached
  constructor
  · intro calm
    by_cases fits : daemon.clock + timeouts.longest ≤ last
    · exact fits
    · obtain ⟨computation, panics⟩ := daemon.step_overflows fits
      exact absurd panics (calm computation)
  · intro fits computation
    exact ((Daemon.loaded_sound loaded).run reached).step_fits fits _

/-- The last instant of a clock of signed 64-bit seconds. -/
def lastInstant : Instant := 2 ^ 63 * 1000000000 - 1

/-- Loaded 1000 seconds after the clock's start, with a command timeout that just fits. -/
def longTimeouts : TimeoutsSchema where
  pollIntervalSeconds := 60
  idleTimeoutSeconds := 600
  startupTimeoutSeconds := 600
  retryIntervalSeconds := 2
  commandTimeoutSeconds := 9223372036854774807
  shutdownTimeoutSeconds := 30
  handshakeTimeoutSeconds := 5
  proxyConnectTimeoutSeconds := 10

/-- What the long timeouts are prepared to. -/
def longPrepared : PreparedTimeouts where
  poll := seconds 60
  idle := seconds 600
  startup := seconds 600
  retry := seconds 2
  command := seconds 9223372036854774807
  shutdown := seconds 30
  handshake := seconds 5
  proxyConnect := seconds 10

/-- The load-time check accepts them, since the command timeout just fits behind the clock of that
moment. -/
theorem longTimeouts_accepted :
    prepareTimeouts lastInstant (seconds 1000) "survival" longTimeouts = .ok longPrepared := rfl

/-- Half a second passes, and then the deadlines of an idle period and of a command are
computed. -/
def promptSteps : List Daemon.Step :=
  [.anchor, .pass 500000000, .compute (.idleDeadline (seconds 1000)), .compute .commandDeadline]

/-- Where the prompt steps lead. -/
def promptDaemon : Daemon := ⟨seconds 1000 + 500000000, [seconds 1000]⟩

/-- The prompt steps compute both deadlines without a panic. -/
theorem promptSteps_run :
    (Daemon.loaded (seconds 1000)).run lastInstant longPrepared promptSteps =
      .runs promptDaemon := by
  decide +kernel

/-- At each of the prompt steps every timeout still fits behind the clock, so the run really
computes deadlines and does not panic. -/
theorem promptSteps_fitting :
    (Daemon.loaded (seconds 1000)).Fitting lastInstant longPrepared promptSteps := by
  have fits : promptDaemon.clock + longPrepared.longest ≤ lastInstant := by decide +kernel
  have fitsBefore : seconds 1000 + longPrepared.longest ≤ lastInstant := by decide +kernel
  have passes : Daemon.step lastInstant longPrepared ⟨seconds 1000, [seconds 1000]⟩
      (.pass 500000000) = .runs promptDaemon := by decide +kernel
  have waits : promptDaemon.step lastInstant longPrepared
      (.compute (.idleDeadline (seconds 1000))) = .runs promptDaemon := by decide +kernel
  have commands : promptDaemon.step lastInstant longPrepared (.compute .commandDeadline) =
      .runs promptDaemon := by decide +kernel
  exact Daemon.fitting_cons fitsBefore rfl (Daemon.fitting_cons fitsBefore passes
    (Daemon.fitting_cons fits waits (Daemon.fitting_cons fits commands trivial)))

/-- They fit behind the instant of their check, and half a second later too: the deadlines
computed by then did not panic, and neither would any other. -/
theorem long_timeouts_fit_at_once :
    seconds 1000 + longPrepared.longest ≤ lastInstant ∧
    (Daemon.loaded (seconds 1000)).run lastInstant longPrepared promptSteps ≠ .panicked ∧
    ∀ computation, promptDaemon.step lastInstant longPrepared (.compute computation) ≠
      .panicked := by
  obtain ⟨fits, runs, exactly⟩ := deadlines_fit_while_the_longest_timeout_does longTimeouts_accepted
  refine ⟨fits, runs promptSteps promptSteps_fitting, ?_⟩
  exact (exactly promptSteps promptDaemon promptSteps_run).mpr (by decide +kernel)

/-- One second later a command's deadline overflows: the longest timeout was accepted when the
configuration was loaded, and does not fit any more. -/
theorem accepted_timeout_panics_later :
    ¬ ∀ last loaded serverId raw timeouts, prepareTimeouts last loaded serverId raw = .ok timeouts →
      ∀ steps, (Daemon.loaded loaded).run last timeouts steps ≠ .panicked := by
  intro always
  exact always lastInstant (seconds 1000) "survival" longTimeouts longPrepared
    longTimeouts_accepted [.pass (seconds 1), .compute .commandDeadline] (by decide +kernel)

end McServerNap
