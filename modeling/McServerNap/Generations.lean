import McServerNap.Demand

/-!
# Generations separate launches

While the counter does not go round, it grows by one with each launch attempt and
each consuming block. The demand that a launch decides was received with that
launch's generation, so demands of different launches share no request.
-/

namespace McServerNap

open Interaction

/-- An operation receives the request that it delivers, if any. -/
theorem received_issued (op : Op) (reply : Reply op) (earlier : List Happening) :
    received (.issued op reply :: earlier) =
      (Happening.delivers (.issued op reply)).toList ++ received earlier := by
  unfold received
  rw [List.filterMap_cons]
  cases Happening.delivers (.issued op reply) <;> rfl

/-- Where an offer comes from: the event that delivered it, or before. Nothing else of what the
supervisor does offers a request. -/
theorem Stance.after_offer {rcon : Bool} {stance : Stance} {op : Op} {reply : Reply op}
    {request : WakeRequest} (offered : (stance.after rcon op reply).offer = some request) :
    Happening.delivers (.issued op reply) = some request ∨ stance.offer = some request := by
  cases op with
  | select sources =>
    cases reply with
    | wake delivered => cases delivered <;> first | exact .inr offered | exact .inl offered
    | child result => cases result <;> exact .inr offered
    | kill ok => cases ok <;> exact .inr offered
    | _ => exact .inr offered
  | tryRecvWake => cases reply <;> first | exact .inl offered | exact .inr offered
  | answer => cases offered
  | wakesClosed | tryWait => cases reply <;> exact .inr offered
  | tryRecvShutdown => cases reply <;> exact .inr offered
  | panic => cases reply
  | _ => exact .inr offered

/-- What is offered and what is undecided was received. -/
structure Traced (history : List Happening) (stance : Stance) : Prop where
  offered : ∀ request, stance.offer = some request → request ∈ received history
  undecided : ∀ request ∈ undecided history, request ∈ received history

/-- What is offered or waiting was received before, and receiving is what adds to it. A decision
moves the offered request to the waiting ones or drops it. -/
theorem Traced.issued {history : List Happening} {stance : Stance} {rcon : Bool} {op : Op}
    (reply : Reply op) (traced : Traced history stance) (permitted : stance.permits op) :
    Traced (.issued op reply :: history) (stance.after rcon op reply) := by
  have kept : ∀ request ∈ received history, request ∈ received (.issued op reply :: history) := by
    intro request listed
    rw [received_issued]
    exact List.mem_append_right _ listed
  refine ⟨fun request offered => ?_, fun request listed => ?_⟩
  · rcases Stance.after_offer offered with delivered | before
    · rw [received_issued, delivered]
      exact List.mem_append_left _ (List.mem_singleton.mpr rfl)
    · exact kept request (traced.offered request before)
  · rw [undecided_issued] at listed
    cases op with
    | answer answered accepted =>
      cases accepted with
      | true =>
        rcases List.mem_cons.mp listed with rfl | before
        · exact kept _ (traced.offered _ permitted.1)
        · exact kept _ (traced.undecided _ before)
      | false => exact kept _ (traced.undecided _ listed)
    | publish transition next =>
      cases consuming : transition.consumes with
      | true => simp [consuming] at listed
      | false => exact kept _ (traced.undecided _ (by simpa [consuming] using listed))
    | launch => cases listed
    | _ => exact kept _ (traced.undecided _ listed)

/-- A demand received in one generation, from clients that needed a launch. -/
def Launching (history : List Happening) (generation : Nat) (demand : List WakeRequest) : Prop :=
  demand ≠ [] ∧ ∀ request ∈ demand, request ∈ received history ∧
    request.observed.launchGeneration = generation ∧ World.wakes request.observed.phase = true

/-- The demands of different launches, newest first, are of different generations. -/
structure Separated (history : List Happening) : Prop where
  justified : ∀ demand ∈ launchDemands history,
    ∃ generation < attempts history + blocks history, Launching history generation demand
  ordered : (launchDemands history).Pairwise fun newer older =>
    ∀ request ∈ newer, ∀ former ∈ older,
      former.observed.launchGeneration < request.observed.launchGeneration

/-- The published generations, newest first, grow by one or not at all. -/
def Stepwise (origin : LifecycleState) (history : List Happening) : Prop :=
  (publications origin history).IsChain fun later earlier =>
    later.launchGeneration = earlier.launchGeneration ∨
      later.launchGeneration = earlier.launchGeneration + 1

/-- Everything a history says about generations while the counter has not gone round. -/
structure Generational (origin : LifecycleState) (history : List Happening) (stance : Stance) :
    Prop where
  traced : Traced history stance
  newest : ∃ older, publications origin history = stance.lifecycle :: older
  unwrapped : attempts history + blocks history < 2 ^ 64 →
    Stepwise origin history ∧ Separated history

/-- Events only add to the counts. -/
theorem counts_grow (op : Op) (reply : Reply op) (history : List Happening) :
    attempts history + blocks history ≤
      attempts (.issued op reply :: history) + blocks (.issued op reply :: history) := by
  rw [attempts_issued, blocks_issued]
  cases op with
  | launch => exact Nat.add_le_add_right (Nat.le_succ _) _
  | publish transition next =>
    simp only
    split <;> omega
  | _ => exact Nat.le_refl _

/-- A launch takes demands of the present generation and is recorded with the next one, so a later
launch has other demands while the counter has not gone round. -/
theorem Separated.issued {history : List Happening} {stance : Stance} {op : Op}
    (reply : Reply op) (separated : Separated history) (counted : Counted history stance)
    (contributed : Contributed history stance) (traced : Traced history stance)
    (permitted : stance.permits op) (small : attempts history + blocks history < 2 ^ 64) :
    Separated (.issued op reply :: history) := by
  have grown := counts_grow op reply history
  have kept : ∀ demand ∈ launchDemands history,
      ∃ generation < attempts (.issued op reply :: history) + blocks (.issued op reply :: history),
        Launching (.issued op reply :: history) generation demand := by
    intro demand listed
    obtain ⟨generation, bounded, nonempty, observed⟩ := separated.justified demand listed
    refine ⟨generation, by omega, nonempty, fun request member => ?_⟩
    obtain ⟨arrived, rest⟩ := observed request member
    refine ⟨?_, rest⟩
    rw [received_issued]
    exact List.mem_append_right _ arrived
  cases op with
  | launch =>
    obtain ⟨-, gate, -, -⟩ := permitted
    have generation : stance.lifecycle.launchGeneration = attempts history + blocks history := by
      have total := counted.unwrapped small
      rw [counted.unrecorded, gate] at total
      simpa [Stage.attemptedLaunch] using total
    have demanded : stance.stage.demanding = true := by rw [gate]; rfl
    refine ⟨List.forall_mem_cons.mpr ⟨?_, kept⟩, List.pairwise_cons.mpr ⟨?_, separated.ordered⟩⟩
    · refine ⟨_, ?_, contributed.waiting demanded, fun request listed =>
        ⟨?_, (contributed.observed request listed).1, (contributed.observed request listed).2⟩⟩
      · rw [generation, attempts_issued, blocks_issued]
        simp only
        omega
      · rw [received_issued]
        exact List.mem_append_right _ (traced.undecided request listed)
    · intro older listed request member former included
      obtain ⟨passed, bounded, -, observed⟩ := separated.justified older listed
      rw [(contributed.observed request member).1, generation, (observed former included).2.1]
      exact bounded
  | _ => exact ⟨kept, separated.ordered⟩

/-- Without going round, exactly the records of attempts and the consuming blocks
publish the next generation. -/
theorem Counted.advances {history : List Happening} {stance : Stance} {transition : Transition}
    {next : LifecycleState} {reply : Unit} (counted : Counted history stance)
    (legal : stance.legal transition = true) (now : Instant)
    (small : attempts (.issued (.publish transition next) reply :: history) +
      blocks (.issued (.publish transition next) reply :: history) < 2 ^ 64) :
    (transition.target stance.lifecycle now).launchGeneration =
      stance.lifecycle.launchGeneration + (transition.records || transition.consumes).toNat := by
  obtain ⟨records, consumes⟩ := Stance.legal_records legal
  rw [attempts_issued, blocks_issued] at small
  have total := counted.unwrapped
    (Nat.lt_of_le_of_lt (Nat.add_le_add_left (by simp only; split <;> omega) _) small)
  rw [counted.unrecorded] at total
  rw [transition.target_generation, records]
  unfold wrappingSucc
  cases launching : stance.stage.attemptedLaunch <;> cases consuming : transition.consumes <;>
    simp [launching, consuming] at small total consumes ⊢ <;> omega

/-- The generation grows with each recorded launch and each consuming block, and by no other
publication. -/
theorem Generational.issued {origin : LifecycleState} {history : List Happening}
    {stance : Stance} {rcon : Bool} {op : Op} (reply : Reply op)
    (generational : Generational origin history stance) (counted : Counted history stance)
    (contributed : Contributed history stance) (permitted : stance.permits op) :
    Generational origin (.issued op reply :: history) (stance.after rcon op reply) := by
  obtain ⟨traced, ⟨older, newest⟩, unwrapped⟩ := generational
  refine ⟨traced.issued reply permitted, ?_, fun small => ?_⟩
  · rw [publications_issued, Stance.after_lifecycle]
    cases op with
    | publish => exact ⟨_, rfl⟩
    | _ => exact ⟨older, newest⟩
  · have grown := counts_grow op reply history
    obtain ⟨stepwise, separated⟩ := unwrapped (by omega)
    refine ⟨?_, separated.issued reply counted contributed traced permitted (by omega)⟩
    unfold Stepwise at stepwise ⊢
    rw [publications_issued]
    cases op with
    | publish transition next =>
      obtain ⟨-, legal, -, now, rfl⟩ := permitted
      rw [newest] at stepwise ⊢
      refine .cons_cons ?_ stepwise
      rw [counted.advances legal now small]
      cases transition.records || transition.consumes
      · exact .inl rfl
      · exact .inr rfl
    | _ => exact stepwise

/-- A move adds nothing to what is recorded. -/
theorem Generational.moved {origin : LifecycleState} {history : List Happening} {stance : Stance}
    {waiting : Option Op} {move : Move} (generational : Generational origin history stance) :
    Generational origin (.moved waiting move :: history) stance := by
  obtain ⟨⟨offered, undecided⟩, newest, unwrapped⟩ := generational
  refine ⟨⟨offered, undecided⟩, newest, fun small => ?_⟩
  obtain ⟨stepwise, justified, ordered⟩ := unwrapped small
  exact ⟨stepwise, justified, ordered⟩

/-- Of items that are pairwise different by some measure at most one has a given
property that fixes the measure. -/
theorem countP_le_one {α : Type} {different : α → α → Prop} {property : α → Bool} {items : List α}
    (separate : items.Pairwise different)
    (exclusive : ∀ first second, different first second →
      property first = true → property second = false) : items.countP property ≤ 1 := by
  induction separate with
  | nil => exact Nat.zero_le _
  | @cons first rest apart _ inductionHypothesis =>
    cases holds : property first with
    | false =>
      rw [List.countP_cons_of_neg (by simp [holds])]
      exact inductionHypothesis
    | true =>
      have none : rest.countP property = 0 :=
        List.countP_eq_zero.mpr fun second listed =>
          Bool.eq_false_iff.mp (exclusive first second (apart second listed) holds)
      rw [List.countP_cons_of_pos holds, none]

/-- The account of a history that a stance bears out. -/
structure Accounted (origin : LifecycleState) (history : List Happening) (stance : Stance) :
    Prop where
  counted : Counted history stance
  contributed : Contributed history stance
  generational : Generational origin history stance

/-- Before the first operation there are no demands, and the counter is zero. -/
theorem Accounted.start (start : Instant) :
    Accounted (.reconciling start) [] (.initial (.reconciling start)) where
  counted := ⟨Nat.two_pow_pos 64, rfl, rfl⟩
  contributed := ⟨nofun, nofun, nofun, fun undecided => absurd rfl undecided⟩
  generational := ⟨⟨nofun, nofun⟩, ⟨[], rfl⟩, fun _ => ⟨.singleton _, nofun, .nil⟩⟩

/-- Every part of the account is kept, each by its own lemma. Those that need the counter not to
have gone round are asked for only as long as it has not. -/
theorem Accounted.issued {origin : LifecycleState} {history : List Happening} {stance : Stance}
    {rcon : Bool} {op : Op} (reply : Reply op) (accounted : Accounted origin history stance)
    (sound : stance.Sound) (permitted : stance.permits op) :
    Accounted origin (.issued op reply :: history) (stance.after rcon op reply) := by
  obtain ⟨counted, contributed, generational⟩ := accounted
  exact ⟨counted.issued reply permitted, contributed.issued reply sound permitted,
    generational.issued reply counted contributed permitted⟩

/-- The moves of the clients are no operations of the supervisor, so no count and no demand
changes. -/
theorem Accounted.moved {origin : LifecycleState} {history : List Happening} {stance : Stance}
    {waiting : Option Op} {move : Move} (accounted : Accounted origin history stance) :
    Accounted origin (.moved waiting move :: history) stance := by
  obtain ⟨⟨bounded, unrecorded, generation⟩, contributed, generational⟩ := accounted
  exact ⟨⟨bounded, unrecorded, generation⟩, contributed.steady rfl rfl rfl rfl id,
    generational.moved⟩

/-- While the counter has not gone round: it counts launch attempts and consuming
blocks, one each; a launch follows the receipt of a request of its generation; and
the requests of one generation, however many, lead to at most one launch. -/
theorem generations_separate_launches {config : SupervisorConfig} {start : Instant}
    {history : History platform} {program : Supervised Unit} {world : World}
    (reached : Reaches platform (run config) (World.initial start) history program world)
    (unwrapped : attempts history + blocks history < 2 ^ 64) :
    world.lifecycle.launchGeneration + (unrecorded history).toNat =
        attempts history + blocks history ∧
      Stepwise (.reconciling start) history ∧
      (program.pending = some .launch →
        Launching history world.lifecycle.launchGeneration (undecided history)) ∧
      (∀ demand ∈ launchDemands history, ∃ generation < attempts history + blocks history,
        Launching history generation demand) ∧
      (launchDemands history).Pairwise (fun newer older => ∀ request ∈ newer, request ∉ older) ∧
      ∀ generation, (launchDemands history).countP (fun demand =>
        demand.any fun request => request.observed.launchGeneration = generation) ≤ 1 := by
  obtain ⟨stance, watched, remaining⟩ := run_follows reached
  obtain ⟨counted, contributed, generational⟩ := watched.always (coupled config.rcon)
    (initial_coupled config.rcon start)
    (fun history stance _ => Accounted (.reconciling start) history stance)
    (.start start)
    (fun accounted related permitted _ => accounted.issued _ related.1 permitted)
    (fun accounted _ _ _ => accounted.moved)
  have agrees := (watched.related (coupled config.rcon) (initial_coupled config.rcon start)).2
  obtain ⟨stepwise, justified, ordered⟩ := generational.unwrapped unwrapped
  rw [← agrees.1]
  refine ⟨counted.unwrapped unwrapped, stepwise, fun waits => ?_, justified, ?_, ?_⟩
  · obtain ⟨-, gate, -⟩ := remaining.pending_permitted _ waits
    refine ⟨contributed.waiting (by rw [gate]; rfl), fun request listed =>
      ⟨generational.traced.undecided request listed, contributed.observed request listed⟩⟩
  · exact ordered.imp fun apart request newer older =>
      absurd (apart request newer request older) (Nat.lt_irrefl _)
  · intro generation
    refine countP_le_one ordered fun newer older apart observed => ?_
    by_contra shared
    simp only [Bool.not_eq_false, List.any_eq_true, decide_eq_true_eq] at observed shared
    obtain ⟨request, member, rfl⟩ := observed
    obtain ⟨former, included, same⟩ := shared
    have later := apart request member former included
    omega

/-- Two clients see the backend stopped; the launch for the first fails while the
request of the second waits. -/
def burstRun : Configuration platform Unit :=
  rehearsal (exampleConfig true) ([Cue.event (.probe .refused)] ++ Cue.login 0 ++ Cue.login 1 ++
    [Cue.client 0 .trySend, Cue.wake, Cue.client 1 .trySend, Cue.event (.probe .refused),
      Cue.launch false, Cue.wake])

/-- In the run where several clients wake one stopped backend at once, at most one launch comes of
the requests that observed its first generation. -/
theorem burst_causes_one_launch : (launchDemands burstRun.history).countP
    (fun demand => demand.any fun request => request.observed.launchGeneration = 0) ≤ 1 :=
  (generations_separate_launches (rehearsal_reached (exampleConfig true) _)
    (by decide +kernel :
      attempts burstRun.history + blocks burstRun.history < 2 ^ 64)).2.2.2.2.2 0

end McServerNap
