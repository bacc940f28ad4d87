import McServerNap.Conformance.Connection
import McServerNap.IdleStop

/-!
# Client programs refine their automata

A run of a supervisor among client programs is a run among their automata: with the same operations
and replies of the supervisor, the same world, and each program at the point that its automaton
has reached. What is proved of every run among automata is so proved of the programs, too.
-/

namespace McServerNap

open Interaction

/-! ## The world without its clients -/

section Clients

variable (world : World) (clients : List ClientTask)

/-- A client task does not look at the other ones. -/
theorem World.clientStep_clients (task : ClientTask) (step : ClientStep) :
    ({ world with clients } : World).clientStep task step =
      (world.clientStep task step).map fun (later, after) => (later, { after with clients }) := by
  fun_cases World.clientStep world task step <;> simp_all [World.clientStep]

/-- The steps of one task do not look at the tasks of the other clients, so they lead to the same
places whichever those are. -/
theorem World.follow_clients (task : ClientTask) (steps : List ClientStep) :
    ({ world with clients } : World).follow task steps =
      (world.follow task steps).map fun (later, after) => (later, { after with clients }) := by
  induction steps generalizing world task with
  | nil => rfl
  | cons step rest inductionHypothesis =>
    rw [World.follow, World.clientStep_clients]
    cases stepped : world.clientStep task step with
    | none => simp [World.follow, stepped]
    | some continued => simp [World.follow, stepped, inductionHypothesis]

/-- A step of a listed task is a move of the world, which puts the later task in its place. -/
theorem World.client_moves {world : World} {index : Nat} {task later : ClientTask}
    {step : ClientStep} {after : World} (listed : world.clients[index]? = some task)
    (stepped : world.clientStep task step = some (later, after)) :
    world.move (.client index step) =
      some { after with clients := world.clients.set index later } := by
  obtain ⟨slot, activity, changed, rfl⟩ := World.clientStep_frame stepped
  simp only [World.move, Option.bind_eq_bind, Option.bind_eq_some_iff]
  exact ⟨task, listed, _, stepped, rfl⟩

/-- A wait sees of the clients only whether one of them holds a lease. -/
theorem World.selects_clients (same : ({ world with clients } : World).leased = world.leased)
    (sources : List Source) (event : Event) :
    ({ world with clients } : World).selects sources event = world.selects sources event := by
  have ready (source : Source) :
      ({ world with clients } : World).ready source = world.ready source := by
    cases source <;> simp [World.ready, same]
  have completes (source : Source) :
      ({ world with clients } : World).completes source event = world.completes source event := by
    fun_cases World.completes world source event <;> simp_all [World.completes]
  induction sources with
  | nil => rfl
  | cons source rest inductionHypothesis =>
    simp only [World.selects, ready, completes, inductionHypothesis]

/-- What an event completes in the world leaves the clients as they are. -/
theorem World.completed_clients (event : Event) :
    ({ world with clients } : World).completed event =
      { world.completed event with clients } := by
  fun_cases World.completed world event <;> simp_all [World.completed]

/-- The supervisor meets its clients at the gate only. -/
theorem World.perform_clients (same : ({ world with clients } : World).leased = world.leased)
    (op : Op) (reply : Reply op) :
    ({ world with clients } : World).perform op reply =
      (world.perform op reply).map fun after => { after with clients } := by
  have selects := World.selects_clients world clients same
  have completed := World.completed_clients world clients
  fun_cases World.perform world op reply <;> simp_all [World.perform]

end Clients

/-- The moves of one client, one for each of its steps. The list of clients changes only at its
index, so the steps can be taken one after the other from the same entry. -/
theorem disturbs_client {world after : World} {task later : ClientTask} {index : Nat}
    {steps : List ClientStep} (waiting : Option Op) (listed : world.clients[index]? = some task)
    (followed : world.follow task steps = some (later, after)) :
    platform.disturbs waiting world (steps.map (.client index)) =
      some { after with clients := world.clients.set index later } := by
  induction steps generalizing world task after with
  | nil =>
    cases followed
    obtain ⟨inside, rfl⟩ := List.getElem?_eq_some_iff.mp listed
    rw [List.set_getElem_self]
    rfl
  | cons step rest inductionHypothesis =>
    obtain ⟨⟨middle, between⟩, stepped, followed⟩ := Option.bind_eq_some_iff.mp followed
    dsimp only at followed
    obtain ⟨inside, -⟩ := List.getElem?_eq_some_iff.mp listed
    obtain ⟨slot, activity, changed, rfl⟩ := World.clientStep_frame stepped
    have moved := World.client_moves listed stepped
    have set : (world.clients.set index middle)[index]? = some middle :=
      List.getElem?_set_self inside
    have continued := World.follow_clients
      { world with slot := slot, activity := activity, changed := changed }
      (world.clients.set index middle) middle rest
    rw [followed] at continued
    have rested := inductionHypothesis set continued
    rw [List.set_set] at rested
    exact Option.bind_eq_some_iff.mpr ⟨_, moved, rested⟩

/-! ## Programs and automata -/

/-- How many leases some tasks hold. -/
def leasesOf (tasks : List ClientTask) : Nat := tasks.countP fun task => task.lease.isSome

/-- The gate is held as long as leases are out. -/
theorem leased_iff (world : World) : world.leased = true ↔ 0 < leasesOf world.clients := by
  rw [World.leased, leasesOf, List.countP_pos_iff, List.any_eq_true]

/-- When one task moves, the leases of all tasks change by its own. In particular its lease was
among those counted. -/
theorem leasesOf_set {tasks : List ClientTask} {index : Nat} {task : ClientTask}
    (listed : tasks[index]? = some task) (later : ClientTask) :
    leasesOf (tasks.set index later) + task.leases = leasesOf tasks + later.leases ∧
      task.leases ≤ leasesOf tasks := by
  obtain ⟨inside, rfl⟩ := List.getElem?_eq_some_iff.mp listed
  have counted : tasks[index].leases ≤ leasesOf tasks := by
    unfold ClientTask.leases leasesOf
    by_cases held : tasks[index].lease.isSome
    · rw [if_pos held]
      exact List.countP_pos_iff.mpr ⟨_, List.getElem_mem inside, held⟩
    · rw [if_neg held]
      exact Nat.zero_le _
  refine ⟨?_, counted⟩
  have set := List.countP_set (p := fun task : ClientTask => task.lease.isSome) (a := later) inside
  unfold ClientTask.leases leasesOf at *
  omega

/-- The shared world with automata in place of the programs. -/
def Hosted.among (hosted : Hosted) (tasks : List ClientTask) : World :=
  { hosted.world with clients := tasks }

/-- The automata stand for the programs, and hold the leases that are out. -/
structure Represented (hosted : Hosted) (tasks : List ClientTask) : Prop where
  readers : hosted.readers = leasesOf tasks
  stands : List.Forall₂ StandsAt hosted.connections tasks
  senders : hosted.world.sendersOpen = false →
    ∀ connection ∈ hosted.connections, Hosted.ended connection = true

/-- The world among the automata of the programs. -/
def Hosts (hosted : Hosted) (world : World) : Prop :=
  ∃ tasks, world = hosted.among tasks ∧ Represented hosted tasks

/-- What an advance is made of: a connection that waits for a reply, a reply that has come, its
effect on the world, and the connection that goes on. -/
theorem Hosted.advance_eq_some {hosted after : Hosted} {index : Nat}
    {reply : (op : ConnectionOp) → Option (ConnectionReply op)}
    (advanced : hosted.advance index reply = some after) :
    ∃ op next answer world readers, hosted.connections[index]? = some (.perform op next) ∧
      reply op = some answer ∧
      op.effect hosted.world hosted.readers answer = some (world, readers) ∧
      after = ⟨world, readers, hosted.connections.set index (next answer)⟩ := by
  unfold Hosted.advance at advanced
  split at advanced
  · obtain ⟨answer, replied, advanced⟩ := Option.bind_eq_some_iff.mp advanced
    obtain ⟨⟨world, readers⟩, effect, rfl⟩ := Option.map_eq_some_iff.mp advanced
    exact ⟨_, _, answer, world, readers, by assumption, replied, effect, rfl⟩
  · cases advanced

/-- No client closes the wake channel. -/
theorem effect_sendersOpen {world after : World} {readers readers' : Nat} {op : ConnectionOp}
    {reply : ConnectionReply op} (effect : op.effect world readers reply = some (after, readers')) :
    after.sendersOpen = world.sendersOpen := by
  revert effect
  fun_cases ConnectionOp.effect world readers op reply
  all_goals
    intro effect
    cases effect
  all_goals rfl

section Related

variable {α β : Type 1} {Related : α → ClientTask → Prop} {first : List α}
  {second : List ClientTask} {index : Nat}

/-- Related lists are related place by place. -/
theorem getElem?_of_forall₂ (related : List.Forall₂ Related first second) {one : α}
    (listed : first[index]? = some one) :
    ∃ other, second[index]? = some other ∧ Related one other := by
  induction related generalizing index with
  | nil => cases listed
  | cons relates _ inductionHypothesis =>
    cases index with
    | zero =>
      cases listed
      exact ⟨_, rfl, relates⟩
    | succ index => exact inductionHypothesis listed

/-- Related lists stay related when both are set at one place to related values. -/
theorem set_of_forall₂ (related : List.Forall₂ Related first second) {one : α} {other : ClientTask}
    (relates : Related one other) :
    List.Forall₂ Related (first.set index one) (second.set index other) := by
  induction related generalizing index with
  | nil => exact .nil
  | cons head _ inductionHypothesis =>
    cases index with
    | zero => exact .cons relates (by assumption)
    | succ index => exact .cons head inductionHypothesis

end Related

section Simulation

variable {hosted after : Hosted} {tasks : List ClientTask}

/-- The supervisor's operations go the same way among the automata. It sees of the clients only
whether there is a lease, and the two sides agree on that. -/
theorem Represented.performed (represented : Represented hosted tasks) {op : Op} {reply : Reply op}
    (performed : hosted.perform op reply = some after) :
    (hosted.among tasks).perform op reply = some (after.among tasks) ∧
      Represented after tasks := by
  obtain ⟨world, standing, rfl⟩ := Option.map_eq_some_iff.mp performed
  have same : (hosted.among tasks).leased = hosted.standing.leased := by
    rw [Bool.eq_iff_iff, leased_iff, leased_iff]
    simp only [Hosted.among, Hosted.standing, leasesOf, List.countP_replicate, ClientTask.lease,
      Option.isSome_some, ↓reduceIte, represented.readers]
  constructor
  · have met := World.perform_clients hosted.standing tasks same op reply
    rw [standing] at met
    exact met
  · have framed := World.framed standing
    exact ⟨represented.readers, represented.stands, fun closed =>
      represented.senders (framed.sendersOpen.symm.trans closed)⟩

/-- A move among the programs is some moves among the automata. Most moves are the same on both
sides; an access of a connection becomes the steps that its automaton takes for it. -/
theorem Represented.moved (represented : Represented hosted tasks) {move : HostedMove}
    (waiting : Option Op) (moved : hosted.move move = some after) :
    ∃ moves later, platform.disturbs waiting (hosted.among tasks) moves = some (after.among later) ∧
      Represented after later := by
  obtain ⟨readers, stands, senders⟩ := represented
  cases move with
  | tick elapsed =>
    cases moved
    exact ⟨[.tick elapsed], tasks, rfl, readers, stands, senders⟩
  | sendShutdown =>
    simp only [Hosted.move, Option.ite_none_right_eq_some, Option.some.injEq] at moved
    obtain ⟨empty, rfl⟩ := moved
    refine ⟨[.sendShutdown], tasks, ?_, readers, stands, senders⟩
    exact Option.bind_eq_some_iff.mpr ⟨_, if_pos empty, rfl⟩
  | dropShutdown =>
    simp only [Hosted.move, Option.ite_none_right_eq_some, Option.some.injEq] at moved
    obtain ⟨empty, rfl⟩ := moved
    refine ⟨[.dropShutdown], tasks, ?_, readers, stands, senders⟩
    exact Option.bind_eq_some_iff.mpr ⟨_, if_pos empty, rfl⟩
  | closeWakes =>
    simp only [Hosted.move, Option.ite_none_right_eq_some, Option.some.injEq] at moved
    obtain ⟨ended, rfl⟩ := moved
    exact ⟨[.closeWakes], tasks, rfl, readers, stands, fun _ => List.all_eq_true.mp ended⟩
  | accept =>
    simp only [Hosted.move, Option.ite_none_right_eq_some, Option.some.injEq] at moved
    obtain ⟨opened, rfl⟩ := moved
    refine ⟨[.accept], tasks ++ [.reading], rfl, ?_, ?_, ?_⟩
    · rw [leasesOf, List.countP_append]
      exact readers
    · exact List.rel_append stands (.cons Connection.handleClient_safe .nil)
    · intro closed
      rw [opened] at closed
      cases closed
  | advance index reply =>
    obtain ⟨op, next, answer, world, left, listed, -, effect, rfl⟩ :=
      Hosted.advance_eq_some moved
    obtain ⟨task, stood, expected, continues⟩ := getElem?_of_forall₂ stands listed
    have opened : hosted.world.sendersOpen = true := by
      by_contra closed
      have ended := senders (by simpa using closed) _ (List.mem_of_getElem? listed)
      cases ended
    obtain ⟨balanced, held⟩ := leasesOf_set stood (task.accessed op answer)
    obtain ⟨steps, followed, counted⟩ := access_follows opened expected (readers ▸ held) effect
    have among : (hosted.among tasks).follow task steps =
        some (task.accessed op answer, { world with clients := tasks }) := by
      rw [Hosted.among, World.follow_clients, followed]
      rfl
    have disturbed := disturbs_client waiting stood among
    refine ⟨steps.map (.client index), tasks.set index (task.accessed op answer), disturbed, ?_, ?_,
      ?_⟩
    · dsimp only
      omega
    · exact set_of_forall₂ stands (continues answer trivial)
    · intro closed
      rw [effect_sendersOpen effect, opened] at closed
      cases closed

end Simulation

/-- The hosted programs are stood for by their automata. -/
theorem hosting_simulation : Simulation hosting platform Hosts where
  performed := by
    rintro hosted _ op reply after ⟨tasks, rfl, represented⟩ performed
    obtain ⟨among, kept⟩ := represented.performed performed
    exact ⟨_, among, tasks, rfl, kept⟩
  disturbed := by
    rintro hosted _ waiting move after ⟨tasks, rfl, represented⟩ disturbed
    obtain ⟨moves, later, among, kept⟩ := represented.moved waiting disturbed
    exact ⟨moves, _, among, later, rfl, kept⟩

/-- Before any connection there are no programs and no tasks, and the two worlds agree. -/
theorem initial_represented (start : Instant) : Represented (Hosted.initial start) [] where
  readers := rfl
  stands := .nil
  senders closed := nomatch closed

end McServerNap
