import McServerNap.Coupling

/-!
# What a history records

Functions of the history alone: which states were published, which demands are
accepted and not yet decided, how often a generation was consumed, and whether
the supervisor has observed a shutdown. Nothing here refers to stances, so that
results about runs can be read without the conduct.
-/

namespace McServerNap

open Interaction

/-- One event of a supervisor's execution. -/
abbrev Happening := Label Op Reply Move

/-- The states published so far, newest first, down to the one a run starts from. -/
def publications (origin : LifecycleState) : List Happening → List LifecycleState
  | [] => [origin]
  | .issued (.publish _ next) _ :: earlier => next :: publications origin earlier
  | _ :: earlier => publications origin earlier

/-- A block of the final gate or of the startup reconciliation that uses up the
demand it answers. -/
def Transition.consumes : Transition → Bool
  | .publishExternal consumeDemand | .publishConflict _ consumeDemand => consumeDemand
  | _ => false

/-- The publications that record a launch attempt. -/
def Transition.records : Transition → Bool
  | .recordLaunchSuccess | .recordLaunchFailure => true
  | _ => false

/-- The requests accepted since the last launch attempt or consuming block, newest
first. They are the demand that is accepted and not yet decided. -/
def undecided : List Happening → List WakeRequest
  | [] => []
  | .issued (.answer request accepted) _ :: earlier =>
    if accepted then request :: undecided earlier else undecided earlier
  | .issued .launch _ :: _ => []
  | .issued (.publish transition _) _ :: earlier =>
    if transition.consumes then [] else undecided earlier
  | _ :: earlier => undecided earlier

/-- How many launches were attempted. -/
def attempts : List Happening → Nat
  | [] => 0
  | .issued .launch _ :: earlier => attempts earlier + 1
  | _ :: earlier => attempts earlier

/-- How many blocks consumed a demand. -/
def blocks : List Happening → Nat
  | [] => 0
  | .issued (.publish transition _) _ :: earlier =>
    if transition.consumes then blocks earlier + 1 else blocks earlier
  | _ :: earlier => blocks earlier

/-- The request that the event takes from the wake channel. -/
def Happening.delivers : Happening → Option WakeRequest
  | .issued (.select _) (.wake request) => request
  | .issued .tryRecvWake (.received request) => some request
  | _ => none

/-- The requests received so far, newest first. -/
def received (history : List Happening) : List WakeRequest :=
  history.filterMap Happening.delivers

/-- For each launch attempt, newest first, the demand that it decides. -/
def launchDemands : List Happening → List (List WakeRequest)
  | [] => []
  | .issued .launch _ :: earlier => undecided earlier :: launchDemands earlier
  | _ :: earlier => launchDemands earlier

/-- The last launch attempt is not recorded yet. -/
def unrecorded : List Happening → Bool
  | [] => false
  | .issued .launch _ :: _ => true
  | .issued (.publish _ _) _ :: _ => false
  | _ :: earlier => unrecorded earlier

/-- The event tells the supervisor to end: a value on the shutdown channel or its
loss, or the loss of all wake senders. -/
def Happening.reportsShutdown : Happening → Bool
  | .issued (.select _) .shutdown | .issued (.select _) (.wake none)
  | .issued .wakesClosed true | .issued .tryRecvShutdown .received
  | .issued .tryRecvShutdown .closed | .issued .tryRecvWake .disconnected => true
  | _ => false

/-- The supervisor has observed a shutdown. -/
def shutdownObserved (history : List Happening) : Bool := history.any Happening.reportsShutdown

/-- A shutdown observed is remembered, and nothing else counts as one. So the stance knows of the
shutdown exactly when the history reports it. -/
theorem Stance.after_ending (rcon : Bool) (stance : Stance) (op : Op) (reply : Reply op) :
    (stance.after rcon op reply).ending =
      (Happening.reportsShutdown (.issued op reply) || stance.ending) := by
  cases op with
  | select sources =>
    cases reply with
    | wake request => cases request <;> rfl
    | child result => cases result <;> rfl
    | kill ok => cases ok <;> rfl
    | _ => rfl
  | wakesClosed | tryRecvWake | tryWait => cases reply <;> rfl
  | tryRecvShutdown => cases reply <;> rfl
  | _ => rfl

/-- Only a supervisor that observes a shutdown empties the channel: by the branch of a wait or by
the look that does not wait. Every other operation leaves it as it is. -/
theorem World.shutdown_performed {world after : World} {op : Op} {reply : Reply op}
    (performed : world.perform op reply = some after) :
    after.shutdown = world.shutdown ∨ Happening.reportsShutdown (.issued op reply) = true := by
  cases op with
  | select sources =>
    simp only [World.perform] at performed
    split at performed <;> cases performed
    cases reply with
    | shutdown => exact .inr rfl
    | wake request => cases request <;> exact .inl rfl
    | child result => cases result <;> exact .inl rfl
    | kill ok => cases ok <;> exact .inl rfl
    | _ => exact .inl rfl
  | tryRecvShutdown =>
    cases reply with
    | empty =>
      simp only [World.perform] at performed
      split at performed <;> simp_all
    | received | closed => exact .inr rfl
  | now | currentLifecycle | activitySnapshot | wakesClosed =>
    simp only [World.perform] at performed
    split at performed <;> cases performed
    exact .inl rfl
  | tryRecvWake =>
    simp only [World.perform] at performed
    split at performed
    all_goals first
      | cases performed
      | (split at performed <;> cases performed); exact .inl rfl
  | tryWait =>
    cases present : world.child <;> cases reply <;>
      simp only [World.perform, present, Option.some.injEq, reduceCtorEq] at performed <;>
      subst performed <;> exact .inl rfl
  | launch => cases reply <;> cases performed <;> exact .inl rfl
  | answer | publish | beginCycle | releaseExclusive | exit =>
    cases performed
    exact .inl rfl
  | panic => cases reply

end McServerNap
