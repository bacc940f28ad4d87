import McServerNap.Interaction.Program

/-!
# Programs that run alone

Where nobody else acts, each operation has one reply and one effect, and a program comes to one
end. Such a run takes the program's loops turn by turn, so that it exists only for a program that
returns.
-/

namespace Interaction

variable {Op : Type} {Reply : Op → Type} {α β σ : Type}

/-- The program, alone with its surroundings, returns a value and leaves them in a state. -/
inductive Solo (handler : (op : Op) → σ → Reply op × σ) :
    {α : Type} → Program Op Reply α → σ → α → σ → Prop where
  | done {α : Type} (value : α) (state : σ) : Solo handler (.done value) state value state
  | perform {α : Type} {op : Op} {next : Reply op → Program Op Reply α} {state last : σ} {value : α}
      (rest : Solo handler (next (handler op state).1) (handler op state).2 value last) :
      Solo handler (.perform op next) state value last
  | turn {α β τ : Type} {body : τ → Program Op Reply (Turn τ β)} {current : τ}
      {next : β → Program Op Reply α} {state last : σ} {value : α}
      (rest : Solo handler (Program.turn body current next) state value last) :
      Solo handler (.iterate body current next) state value last

namespace Solo

variable {handler : (op : Op) → σ → Reply op × σ} {first : Program Op Reply α}
  {following : α → Program Op Reply β} {state middle last : σ}

/-- One operation. -/
theorem request {op : Op} {reply : Reply op} (replies : handler op state = (reply, last)) :
    Solo handler (.request op) state reply last := by
  have performed : Solo handler (.request op) state (handler op state).1 (handler op state).2 :=
    .perform (.done _ _)
  rwa [replies] at performed

/-- Programs run one after the other. -/
theorem bind {value : α} {result : β} (before : Solo handler first state value middle)
    (after : Solo handler (following value) middle result last) :
    Solo handler (first.bind following) state result last := by
  induction before with
  | done value state => exact after
  | perform _ inductionHypothesis => exact .perform (inductionHypothesis after)
  | turn _ inductionHypothesis =>
    have rest := inductionHypothesis after
    rw [Program.turn_bind] at rest
    exact .turn rest

/-- A program that runs alone has one end only, because its handler answers each operation with
one reply. -/
theorem unique {value other : α} {last later : σ} (one : Solo handler first state value last)
    (another : Solo handler first state other later) : value = other ∧ last = later := by
  induction one with
  | done value state =>
    cases another
    exact ⟨rfl, rfl⟩
  | perform _ inductionHypothesis =>
    cases another with
    | perform rest => exact inductionHypothesis rest
  | turn _ inductionHypothesis =>
    cases another with
    | turn rest => exact inductionHypothesis rest

end Solo

end Interaction
