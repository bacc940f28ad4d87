import McServerNap.Interaction.Execution

/-!
# Monitors and safe programs

A monitor is an abstract account of a program's conduct. It decides which
operations are in order, assumes what their replies can be, and follows both.
A program is safe for a monitor when it only issues permitted operations and
finishes in a state its postcondition admits. Safety of a loop is a loop
invariant; the other cases follow the program's constructors.

The monitor sees only the program's own operations and replies. A separate
coupling relates monitor states to worlds and justifies the assumed replies.
The adequacy theorem then turns every execution of a safe program into one that
the monitor watches, so that results about a program's executions are proved
about monitor states and worlds, without the program's text.
-/

namespace Interaction

/-- An abstract account of what a program may do next and how its state evolves. -/
structure Monitor (Op : Type) (Reply : Op → Type) where
  State : Type
  permits : State → Op → Prop
  answers : State → (op : Op) → Reply op → Prop
  after : State → (op : Op) → Reply op → State

variable {Op : Type} {Reply : Op → Type} {α β σ : Type}

/-- The program stays within what the monitor permits, whatever admissible
replies it gets, and a value it finishes with satisfies the postcondition. -/
def Safe (monitor : Monitor Op Reply) :
    {α : Type} → Program Op Reply α → (α → monitor.State → Prop) → monitor.State → Prop
  | _, .done value, post, state => post value state
  | _, .perform op next, post, state => monitor.permits state op ∧
      ∀ reply, monitor.answers state op reply →
        Safe monitor (next reply) post (monitor.after state op reply)
  | _, .iterate (σ := σ) body current next, post, state =>
      ∃ invariant : σ → monitor.State → Prop, invariant current state ∧
        ∀ current state, invariant current state →
          Safe monitor (body current) (fun decision state => decision.elim
            (fun later => invariant later state)
            (fun value => Safe monitor (next value) post state)) state

section Rules

variable {monitor : Monitor Op Reply}

/-- A finished program is safe where its value and the state are as wanted. -/
@[simp] theorem safe_done (value : α) (post : α → monitor.State → Prop) (state : monitor.State) :
    Safe monitor (.done value) post state ↔ post value state := Iff.rfl

/-- An operation is safe where it is permitted and every answer to it is followed safely. -/
@[simp] theorem safe_perform (op : Op) (next : Reply op → Program Op Reply α)
    (post : α → monitor.State → Prop) (state : monitor.State) :
    Safe monitor (.perform op next) post state ↔ monitor.permits state op ∧
      ∀ reply, monitor.answers state op reply →
        Safe monitor (next reply) post (monitor.after state op reply) := Iff.rfl

/-- A loop is safe with an invariant that holds at first, that each turn keeps, and from which its
end is as wanted. -/
theorem safe_iterate (body : σ → Program Op Reply (Turn σ β)) (current : σ)
    (next : β → Program Op Reply α) (post : α → monitor.State → Prop) (state : monitor.State) :
    Safe monitor (.iterate body current next) post state ↔
      ∃ invariant : σ → monitor.State → Prop, invariant current state ∧
        ∀ current state, invariant current state →
          Safe monitor (body current) (fun decision state => decision.elim
            (fun later => invariant later state)
            (fun value => Safe monitor (next value) post state)) state := Iff.rfl

/-- One operation is safe when it is permitted and each reply leads where the
postcondition asks. -/
@[simp] theorem safe_request (op : Op) (post : Reply op → monitor.State → Prop)
    (state : monitor.State) :
    Safe monitor (.request op) post state ↔ monitor.permits state op ∧
      ∀ reply, monitor.answers state op reply → post reply (monitor.after state op reply) := Iff.rfl

/-- A weaker postcondition is satisfied as well. The induction is on the program; the invariant of
a loop stays the one that was given. -/
theorem Safe.mono {program : Program Op Reply α} {post weaker : α → monitor.State → Prop}
    {state : monitor.State} (safe : Safe monitor program post state)
    (weaken : ∀ value state, post value state → weaker value state) :
    Safe monitor program weaker state := by
  induction program generalizing state with
  | done value => exact weaken value state safe
  | perform op next inductionHypothesis =>
    exact ⟨safe.1, fun reply answered => inductionHypothesis reply (safe.2 reply answered) weaken⟩
  | iterate body current next bodyHypothesis nextHypothesis =>
    obtain ⟨invariant, initial, preserved⟩ := safe
    refine ⟨invariant, initial, fun current state holds => ?_⟩
    refine bodyHypothesis current (preserved current state holds) fun decision state decided => ?_
    cases decision with
    | again later => exact decided
    | leave value => exact nextHypothesis value decided weaken

/-- A sequence is safe exactly when its first program is, with the safety of the
rest as its postcondition. -/
@[simp] theorem safe_bind (first : Program Op Reply α) (following : α → Program Op Reply β)
    (post : β → monitor.State → Prop) (state : monitor.State) :
    Safe monitor (first.bind following) post state ↔
      Safe monitor first (fun value state => Safe monitor (following value) post state) state := by
  induction first generalizing state with
  | done value => exact Iff.rfl
  | perform op next inductionHypothesis =>
    simp only [Program.perform_bind, safe_perform]
    exact and_congr_right fun _ => forall_congr' fun reply => imp_congr_right fun _ =>
      inductionHypothesis reply following _
  | iterate body current next _ inductionHypothesis =>
    simp only [Program.iterate_bind, safe_iterate]
    refine exists_congr fun invariant => and_congr_right fun _ => forall_congr' fun current =>
      forall_congr' fun state => imp_congr_right fun _ => ?_
    constructor <;> intro safe <;> refine safe.mono fun decision state decided => ?_ <;>
      cases decision
    · exact decided
    · exact (inductionHypothesis _ following state).mp decided
    · exact decided
    · exact (inductionHypothesis _ following state).mpr decided

/-- The loop rule: an invariant that each turn keeps, and that yields the
postcondition when a turn leaves. -/
theorem safe_loop {body : σ → Program Op Reply (Turn σ β)} {current : σ}
    {post : β → monitor.State → Prop} {state : monitor.State}
    (invariant : σ → monitor.State → Prop) (initial : invariant current state)
    (preserved : ∀ current state, invariant current state →
      Safe monitor (body current) (fun decision state => decision.elim
        (fun later => invariant later state) (fun value => post value state)) state) :
    Safe monitor (.loop body current) post state :=
  ⟨invariant, initial, preserved⟩

/-- A safe loop is safe after unrolling: its invariant supports the first turn
and, again, every later one. -/
theorem Safe.turn {body : σ → Program Op Reply (Turn σ β)} {current : σ}
    {next : β → Program Op Reply α} {post : α → monitor.State → Prop} {state : monitor.State}
    (safe : Safe monitor (.iterate body current next) post state) :
    Safe monitor (Program.turn body current next) post state := by
  obtain ⟨invariant, initial, preserved⟩ := safe
  rw [Program.turn, safe_bind]
  refine (preserved current state initial).mono fun decision state decided => ?_
  cases decision with
  | again later => exact ⟨invariant, decided, preserved⟩
  | leave value => exact decided

/-- What every answer establishes holds wherever a safe program stops. The induction is on the
program; a loop keeps the invariant together with its own. -/
theorem Safe.strengthen {invariant : monitor.State → Prop}
    (kept : ∀ state op reply, monitor.answers state op reply →
      invariant (monitor.after state op reply))
    {program : Program Op Reply α} {post : α → monitor.State → Prop} {state : monitor.State}
    (safe : Safe monitor program post state) (holds : invariant state) :
    Safe monitor program (fun value state => invariant state ∧ post value state) state := by
  induction program generalizing state with
  | done value => exact ⟨holds, safe⟩
  | perform op next inductionHypothesis =>
    exact ⟨safe.1, fun reply answered =>
      inductionHypothesis reply (safe.2 reply answered) (kept state op reply answered)⟩
  | iterate body current next bodyHypothesis nextHypothesis =>
    obtain ⟨loopInvariant, initial, preserved⟩ := safe
    refine ⟨fun current state => invariant state ∧ loopInvariant current state,
      ⟨holds, initial⟩, fun current state held => ?_⟩
    refine (bodyHypothesis current (preserved current state held.2) held.1).mono ?_
    intro decision state decided
    cases decision with
    | again later => exact decided
    | leave value => exact nextHypothesis value decided.2 decided.1

/-- Two monitors side by side. -/
def Monitor.both (first second : Monitor Op Reply) : Monitor Op Reply where
  State := first.State × second.State
  permits state op := first.permits state.1 op ∧ second.permits state.2 op
  answers state op reply := first.answers state.1 op reply ∧ second.answers state.2 op reply
  after state op reply := (first.after state.1 op reply, second.after state.2 op reply)

/-- A program that is safe for each of two monitors is safe for both at once. -/
theorem Safe.both {first second : Monitor Op Reply} {program : Program Op Reply α}
    {post : α → first.State → Prop} {otherPost : α → second.State → Prop}
    {state : first.State} {other : second.State} (safe : Safe first program post state)
    (otherSafe : Safe second program otherPost other) :
    Safe (first.both second) program
      (fun value states => post value states.1 ∧ otherPost value states.2) (state, other) := by
  induction program generalizing state other with
  | done value => exact ⟨safe, otherSafe⟩
  | perform op next inductionHypothesis =>
    exact ⟨⟨safe.1, otherSafe.1⟩, fun reply answered =>
      inductionHypothesis reply (safe.2 reply answered.1) (otherSafe.2 reply answered.2)⟩
  | iterate body current next bodyHypothesis nextHypothesis =>
    obtain ⟨invariant, initial, preserved⟩ := safe
    obtain ⟨otherInvariant, otherInitial, otherPreserved⟩ := otherSafe
    refine ⟨fun current states => invariant current states.1 ∧ otherInvariant current states.2,
      ⟨initial, otherInitial⟩, fun current states held => ?_⟩
    have turn := bodyHypothesis current (preserved current states.1 held.1)
      (otherPreserved current states.2 held.2)
    refine turn.mono fun decision states decided => ?_
    cases decision with
    | again later => exact decided
    | leave value => exact nextHypothesis value decided.1 decided.2

/-- The program issues only operations of a kind, whatever the replies. -/
def Issues (kind : Op → Prop) : {α : Type} → Program Op Reply α → Prop
  | _, .done _ => True
  | _, .perform op next => kind op ∧ ∀ reply, Issues kind (next reply)
  | _, .iterate body _ next =>
    (∀ current, Issues kind (body current)) ∧ ∀ value, Issues kind (next value)

/-- Programs that issue operations of one kind do so one after the other. -/
theorem Issues.bind {kind : Op → Prop} {first : Program Op Reply α}
    {following : α → Program Op Reply β} (issues : Issues kind first)
    (rest : ∀ value, Issues kind (following value)) : Issues kind (first.bind following) := by
  induction first with
  | done value => exact rest value
  | perform op next inductionHypothesis =>
    exact ⟨issues.1, fun reply => inductionHypothesis reply (issues.2 reply) rest⟩
  | iterate body current next _ inductionHypothesis =>
    exact ⟨issues.1, fun value => inductionHypothesis value (issues.2 value) rest⟩

/-- A wider kind admits the same programs. -/
theorem Issues.mono {kind wider : Op → Prop} {program : Program Op Reply α}
    (issues : Issues kind program) (widen : ∀ op, kind op → wider op) : Issues wider program := by
  induction program with
  | done value => trivial
  | perform op next inductionHypothesis =>
    exact ⟨widen op issues.1, fun reply => inductionHypothesis reply (issues.2 reply)⟩
  | iterate body current next bodyHypothesis nextHypothesis =>
    exact ⟨fun current => bodyHypothesis current (issues.1 current),
      fun value => nextHypothesis value (issues.2 value)⟩

/-- One operation of the kind is such a program. -/
theorem Issues.request {kind : Op → Prop} {op : Op} (admitted : kind op) :
    Issues kind (.request op : Program Op Reply (Reply op)) := ⟨admitted, fun _ => trivial⟩

/-- So is a loop whose turns are. -/
theorem Issues.loop {kind : Op → Prop} {body : σ → Program Op Reply (Turn σ β)} {current : σ}
    (issues : ∀ current, Issues kind (body current)) : Issues kind (.loop body current) :=
  ⟨issues, fun _ => trivial⟩

/-- A program that only issues operations which keep an invariant is safe. The one hypothesis is
about single operations, and the invariant serves all loops of the program. -/
theorem Issues.safe {kind : Op → Prop} {invariant : monitor.State → Prop}
    (kept : ∀ state op, invariant state → kind op → monitor.permits state op ∧
      ∀ reply, monitor.answers state op reply → invariant (monitor.after state op reply))
    {program : Program Op Reply α} (issues : Issues kind program) {state : monitor.State}
    (holds : invariant state) : Safe monitor program (fun _ state => invariant state) state := by
  induction program generalizing state with
  | done value => exact holds
  | perform op next inductionHypothesis =>
    obtain ⟨permitted, answered⟩ := kept state op holds issues.1
    exact ⟨permitted, fun reply answer =>
      inductionHypothesis reply (issues.2 reply) (answered reply answer)⟩
  | iterate body current next bodyHypothesis nextHypothesis =>
    refine ⟨fun _ => invariant, holds, fun current state holds => ?_⟩
    refine (bodyHypothesis current (issues.1 current) holds).mono fun decision state decided => ?_
    cases decision with
    | again later => exact decided
    | leave value => exact nextHypothesis value (issues.2 value) decided

end Rules

/-- Executions as the monitor sees them: each issued operation was permitted,
and so was each operation waiting while the world moved. -/
inductive Watched (platform : Platform Op Reply) (monitor : Monitor Op Reply)
    (first : monitor.State) (origin : platform.World) :
    History platform → monitor.State → platform.World → Prop where
  | start : Watched platform monitor first origin [] first origin
  | issue {history : History platform} {state : monitor.State} {world after : platform.World}
      {op : Op} {reply : Reply op}
      (reached : Watched platform monitor first origin history state world)
      (permitted : monitor.permits state op)
      (performed : platform.perform world op reply = some after) :
      Watched platform monitor first origin (.issued op reply :: history)
        (monitor.after state op reply) after
  | move {history : History platform} {state : monitor.State} {world after : platform.World}
      {waiting : Option Op} {move : platform.Move}
      (reached : Watched platform monitor first origin history state world)
      (permitted : ∀ op, waiting = some op → monitor.permits state op)
      (disturbed : platform.disturb world waiting move = some after) :
      Watched platform monitor first origin (.moved waiting move :: history) state after

/-- A relation between monitor states and worlds that every permitted step keeps
and that explains the replies the monitor assumes. -/
structure Coupling (platform : Platform Op Reply) (monitor : Monitor Op Reply) where
  relates : monitor.State → platform.World → Prop
  answered : ∀ {state world op reply after}, relates state world → monitor.permits state op →
    platform.perform world op reply = some after → monitor.answers state op reply
  issued : ∀ {state world op reply after}, relates state world → monitor.permits state op →
    platform.perform world op reply = some after → relates (monitor.after state op reply) after
  moved : ∀ {state world waiting move after}, relates state world →
    (∀ op, waiting = some op → monitor.permits state op) →
    platform.disturb world waiting move = some after → relates state after

/-- Two monitors side by side are coupled with the world by their own couplings. -/
def Coupling.both {platform : Platform Op Reply} {first second : Monitor Op Reply}
    (one : Coupling platform first) (other : Coupling platform second) :
    Coupling platform (first.both second) where
  relates := fun states world => one.relates states.1 world ∧ other.relates states.2 world
  answered := fun related permitted performed =>
    ⟨one.answered related.1 permitted.1 performed, other.answered related.2 permitted.2 performed⟩
  issued := fun related permitted performed =>
    ⟨one.issued related.1 permitted.1 performed, other.issued related.2 permitted.2 performed⟩
  moved := fun related permitted disturbed =>
    ⟨one.moved related.1 (fun op waits => (permitted op waits).1) disturbed,
      other.moved related.2 (fun op waits => (permitted op waits).2) disturbed⟩

/-- A safe program waits only for permitted operations. -/
theorem Safe.pending_permitted {monitor : Monitor Op Reply} {program : Program Op Reply α}
    {post : α → monitor.State → Prop} {state : monitor.State}
    (safe : Safe monitor program post state) (op : Op) (waiting : program.pending = some op) :
    monitor.permits state op := by
  cases program with
  | perform issued next =>
    obtain rfl : issued = op := Option.some.inj waiting
    exact safe.1
  | done value => cases waiting
  | iterate body current next => cases waiting

/-- Every coupled pair the monitor reaches stays coupled, by induction on the run: one case for an
operation, one for a move. -/
theorem Watched.related {platform : Platform Op Reply} {monitor : Monitor Op Reply}
    (coupling : Coupling platform monitor) {first : monitor.State} {origin : platform.World}
    (initial : coupling.relates first origin) {history : History platform}
    {state : monitor.State} {world : platform.World}
    (watched : Watched platform monitor first origin history state world) :
    coupling.relates state world := by
  induction watched with
  | start => exact initial
  | issue _ permitted performed inductionHypothesis =>
    exact coupling.issued inductionHypothesis permitted performed
  | move _ permitted disturbed inductionHypothesis =>
    exact coupling.moved inductionHypothesis permitted disturbed

/-- The run rule: what holds at the start and is kept by every permitted step of a
coupled pair holds in every watched execution. -/
theorem Watched.always {platform : Platform Op Reply} {monitor : Monitor Op Reply}
    (coupling : Coupling platform monitor) {first : monitor.State} {origin : platform.World}
    (initial : coupling.relates first origin)
    (holds : History platform → monitor.State → platform.World → Prop)
    (start : holds [] first origin)
    (issue : ∀ {history state world op reply after}, holds history state world →
      coupling.relates state world → monitor.permits state op →
      platform.perform world op reply = some after →
      holds (.issued op reply :: history) (monitor.after state op reply) after)
    (move : ∀ {history state world waiting move after}, holds history state world →
      coupling.relates state world → (∀ op, waiting = some op → monitor.permits state op) →
      platform.disturb world waiting move = some after →
      holds (.moved waiting move :: history) state after)
    {history : History platform} {state : monitor.State} {world : platform.World}
    (watched : Watched platform monitor first origin history state world) :
    holds history state world := by
  induction watched with
  | start => exact start
  | issue reached permitted performed inductionHypothesis =>
    exact issue inductionHypothesis (reached.related coupling initial) permitted performed
  | move reached permitted disturbed inductionHypothesis =>
    exact move inductionHypothesis (reached.related coupling initial) permitted disturbed

/-- The rule of stability. After a marking event the pair is locked, a locked pair
only does what is proper, and it stays locked. -/
theorem Watched.once {platform : Platform Op Reply} {monitor : Monitor Op Reply}
    (coupling : Coupling platform monitor) {first : monitor.State} {origin : platform.World}
    (initial : coupling.relates first origin)
    (marks proper : Label Op Reply platform.Move → Prop)
    (locked : monitor.State → platform.World → Prop)
    (issueMarks : ∀ {state world op reply after}, coupling.relates state world →
      monitor.permits state op → platform.perform world op reply = some after →
      marks (.issued op reply) → locked (monitor.after state op reply) after)
    (moveMarks : ∀ {state world waiting move after}, coupling.relates state world →
      (∀ op, waiting = some op → monitor.permits state op) →
      platform.disturb world waiting move = some after →
      marks (.moved waiting move) → locked state after)
    (issueKeeps : ∀ {state world op reply after}, coupling.relates state world →
      locked state world → monitor.permits state op →
      platform.perform world op reply = some after →
      proper (.issued op reply) ∧ locked (monitor.after state op reply) after)
    (moveKeeps : ∀ {state world waiting move after}, coupling.relates state world →
      locked state world → (∀ op, waiting = some op → monitor.permits state op) →
      platform.disturb world waiting move = some after →
      proper (.moved waiting move) ∧ locked state after)
    {history : History platform} {state : monitor.State} {world : platform.World}
    (watched : Watched platform monitor first origin history state world)
    {later earlier : History platform} {label : Label Op Reply platform.Move}
    (passed : history = later ++ label :: earlier) (marked : marks label) :
    (∀ event ∈ later, proper event) ∧ locked state world := by
  induction watched generalizing later with
  | start => cases later <;> cases passed
  | issue reached permitted performed inductionHypothesis =>
    have related := reached.related coupling initial
    cases later with
    | nil =>
      obtain ⟨rfl, -⟩ := List.cons.inj passed
      exact ⟨nofun, issueMarks related permitted performed marked⟩
    | cons event rest =>
      obtain ⟨rfl, remaining⟩ := List.cons.inj passed
      obtain ⟨before, held⟩ := inductionHypothesis remaining
      obtain ⟨present, kept⟩ := issueKeeps related held permitted performed
      exact ⟨List.forall_mem_cons.mpr ⟨present, before⟩, kept⟩
  | move reached permitted disturbed inductionHypothesis =>
    have related := reached.related coupling initial
    cases later with
    | nil =>
      obtain ⟨rfl, -⟩ := List.cons.inj passed
      exact ⟨nofun, moveMarks related permitted disturbed marked⟩
    | cons event rest =>
      obtain ⟨rfl, remaining⟩ := List.cons.inj passed
      obtain ⟨before, held⟩ := inductionHypothesis remaining
      obtain ⟨present, kept⟩ := moveKeeps related held permitted disturbed
      exact ⟨List.forall_mem_cons.mpr ⟨present, before⟩, kept⟩

/-- Adequacy: each execution of a safe program is watched by the monitor, and
the program that remains is safe in the monitor's present state. -/
theorem Reaches.watched {platform : Platform Op Reply} {monitor : Monitor Op Reply}
    (coupling : Coupling platform monitor) {program last : Program Op Reply α}
    {post : α → monitor.State → Prop} {first : monitor.State} {origin world : platform.World}
    {history : History platform} (initial : coupling.relates first origin)
    (safe : Safe monitor program post first)
    (reached : Reaches platform program origin history last world) :
    ∃ state, Watched platform monitor first origin history state world ∧
      Safe monitor last post state := by
  induction reached with
  | start => exact ⟨first, .start, safe⟩
  | issue _ performed inductionHypothesis =>
    obtain ⟨state, watched, remaining⟩ := inductionHypothesis
    have answered := coupling.answered (watched.related coupling initial) remaining.1 performed
    exact ⟨_, .issue watched remaining.1 performed, remaining.2 _ answered⟩
  | move _ disturbed inductionHypothesis =>
    obtain ⟨state, watched, remaining⟩ := inductionHypothesis
    exact ⟨state, .move watched remaining.pending_permitted disturbed, remaining⟩
  | unroll _ inductionHypothesis =>
    obtain ⟨state, watched, remaining⟩ := inductionHypothesis
    exact ⟨state, watched, remaining.turn⟩

end Interaction
