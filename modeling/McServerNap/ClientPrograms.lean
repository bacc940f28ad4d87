import McServerNap.Conformance.Hosting
import McServerNap.Rehearsal

/-!
# A supervisor among client programs

The runs of a supervisor were studied among automata of its clients. They are the runs among the
programs of the clients: nothing that holds of every run among the automata depends on how
closely the clients are looked at.
-/

namespace McServerNap

open Interaction

/-- Every run of a supervisor among client programs is one among their automata: its own operations
and their replies are the same, and so is the world they share; the leases that are out are those
of the automata, and each program is where its automaton is. -/
theorem client_programs_refine_their_automata {α : Type} {first program : Supervised α}
    {start : Instant} {history : History hosting} {hosted : Hosted}
    (reached : Reaches hosting first (Hosted.initial start) history program hosted) :
    ∃ (events : History platform) (tasks : List ClientTask),
      Reaches platform first (World.initial start) events program (hosted.among tasks) ∧
      issues events = issues history ∧ hosted.readers = leasesOf tasks ∧
      List.Forall₂ StandsAt hosted.connections tasks := by
  have initial : Hosts (Hosted.initial start) (World.initial start) :=
    ⟨[], rfl, initial_represented start⟩
  obtain ⟨events, _, among, same, tasks, rfl, represented⟩ :=
    hosting_simulation.reaches initial reached
  exact ⟨events, tasks, among, same, represented.readers, represented.stands⟩

/-- The replies to a login by a client that sees the lifecycle in one state, as far as its wake
request in a sleeping phase and as far as its session in phase Running. -/
def loginReplies (observed : LifecycleState) : (op : ConnectionOp) → Option (ConnectionReply op)
  | .setNodelay => some true
  | .readEnvelope => some (some (.ok ⟨[7, 0, 47, 1, 97, 0x63, 0xdd, 2], 47, (4, 5), 25565, .login⟩))
  | .borrow => some observed
  | .readRequest _ => some (some (.ok (some (.login .login))))
  | .trySend _ => some .sent
  | .acquireShared => some true
  | .hasChanged _ => some true
  | .borrowCurrent _ => some observed
  | .connectBackend => some (some (.ok ()))
  | .replayHandshake _ => some (some (.ok ()))
  | .establishSession _ => some true
  | _ => none

/-- One client connects and sends its request before the supervisor takes its first step. -/
def wakingRun : Configuration hosting Unit :=
  (Configuration.fresh hosting (run (exampleConfig true)) (Hosted.initial 0)).rehearse
    (fun _ _ => none) 0
    (.move .accept :: List.replicate 5 (.move (.advance 0 (loginReplies (.reconciling 0)))))

/-- The waking run is one the supervisor and its client can really take: each of its steps follows
from the one before. -/
theorem wakingRun_reached :
    wakingRun.Continues (run (exampleConfig true)) (Hosted.initial 0) :=
  Configuration.rehearse_reached _ _ _ _ _

namespace Hosted

/-- The replies that the shared world alone determines. -/
def dictated (hosted : Hosted) : (op : Op) → Option (Reply op) := hosted.world.dictated

/-- A `select!` of the supervisor completes with the event. -/
def completes (event : Event) : Cue hosting :=
  .reply fun
    | _, .select _ => some event
    | _, _ => none

/-- The supervisor's launch succeeds. -/
def launches : Cue hosting :=
  .reply fun
    | _, .launch => some true
    | _, _ => none

/-- A client connects, and its task does as many operations. -/
def login (index steps : Nat) (observed : LifecycleState) : List (Cue hosting) :=
  .move .accept :: List.replicate steps (.move (.advance index (loginReplies observed)))

/-- Placing the automata of the tasks among the clients leaves the activity record alone. -/
theorem among_activity (hosted : Hosted) (tasks : List ClientTask) :
    (hosted.among tasks).activity = hosted.world.activity := rfl

end Hosted

/-- The lifecycle that clients see once the backend was found stopped, and once it is ready. -/
def stoppedLifecycle : LifecycleState :=
  (rehearsal (exampleConfig true) [Cue.event (.probe .refused)]).world.lifecycle

/-- The lifecycle that the rehearsed launch publishes once the server answers. -/
def readyLifecycle : LifecycleState := (rehearsal (exampleConfig true) untilReady).world.lifecycle

/-- A first client wakes the server, and a second one is connected to it and has been counted. -/
def servedRun : Configuration hosting Unit :=
  (Configuration.fresh hosting (run (exampleConfig true)) (Hosted.initial 0)).rehearse
    Hosted.dictated 64
    ([Hosted.completes (.probe .refused)] ++ Hosted.login 0 5 stoppedLifecycle ++
      [Hosted.completes (.wake (some ⟨stoppedLifecycle⟩)), Hosted.completes (.probe .refused),
        Hosted.launches, Hosted.completes (.connect true)] ++ Hosted.login 1 14 readyLifecycle)

/-- The served run is a run as well, from a stopped backend to a session that is counted. -/
theorem servedRun_reached :
    servedRun.Continues (run (exampleConfig true)) (Hosted.initial 0) :=
  Configuration.rehearse_reached _ _ _ _ _

/-- The automaton of a first client fills the slot as its program did. In a longer run the
supervisor has launched the backend, and the automaton of the client it serves has the lease
that the program has, while one session is counted. -/
theorem waking_automaton_fills_slot :
    (∃ (events : History platform) (tasks : List ClientTask),
      Reaches platform (run (exampleConfig true)) (World.initial 0) events
        (run (exampleConfig true))
        { World.initial 0 with slot := some ⟨.reconciling 0⟩, clients := tasks } ∧
      issues events = [] ∧ leasesOf tasks = 0) ∧
    ∃ (events : History platform) (tasks : List ClientTask),
      Reaches platform (run (exampleConfig true)) (World.initial 0) events servedRun.program
        (servedRun.world.among tasks) ∧
      (⟨.launch, true⟩ : (op : Op) × Reply op) ∈ issues events ∧ leasesOf tasks = 1 ∧
      (servedRun.world.among tasks).activity = some ⟨⟨1⟩, 1, 0, none⟩ := by
  constructor
  · obtain ⟨events, tasks, among, same, readers, -⟩ :=
      client_programs_refine_their_automata wakingRun_reached
    exact ⟨events, tasks, among, same, readers.symm⟩
  · have leased : servedRun.world.readers = 1 := by decide +kernel
    have counted : servedRun.world.world.activity = some ⟨⟨1⟩, 1, 0, none⟩ := by decide +kernel
    have launched : (⟨.launch, true⟩ : (op : Op) × Reply op) ∈ issues servedRun.history := by
      decide +kernel
    obtain ⟨events, tasks, among, same, readers, -⟩ :=
      client_programs_refine_their_automata servedRun_reached
    rw [← same] at launched
    exact ⟨events, tasks, among, launched, readers.symm.trans leased,
      (Hosted.among_activity _ _).trans counted⟩

end McServerNap
