/-!
# Sequential programs over an operation signature

A program either has finished, asks its platform for one operation and continues
with the reply, or enters a loop. The signature fixes which operations exist and
the type of each reply; it fixes no meaning for them. Loops are syntax rather
than recursion, so a program that never returns is an ordinary finite term and
no fuel appears anywhere.

The continuation of an operation is a function of its reply. Between two
operations a program therefore has exactly one position, and every interleaving
of a platform with the program happens at an operation.
-/

namespace Interaction

/-- The decision of one loop body: another turn from a new state, or the
loop's value. -/
inductive Turn (σ β : Type) where
  | again (state : σ)
  | leave (value : β)

/-- Case distinction on a loop body's decision. -/
def Turn.elim {σ β : Type} {ρ : Sort _} (onAgain : σ → ρ) (onLeave : β → ρ) : Turn σ β → ρ
  | .again state => onAgain state
  | .leave value => onLeave value

/-- A further turn is taken as one. -/
@[simp] theorem Turn.elim_again {σ β : Type} {ρ : Sort _} (onAgain : σ → ρ) (onLeave : β → ρ)
    (state : σ) : (Turn.again state).elim onAgain onLeave = onAgain state := rfl

/-- The last turn is taken as one. -/
@[simp] theorem Turn.elim_leave {σ β : Type} {ρ : Sort _} (onAgain : σ → ρ) (onLeave : β → ρ)
    (value : β) : (Turn.leave value).elim onAgain onLeave = onLeave value := rfl

/-- Programs returning a value of the index type. -/
inductive Program (Op : Type) (Reply : Op → Type) : Type → Type 1 where
  | done {α : Type} (value : α) : Program Op Reply α
  | perform {α : Type} (op : Op) (next : Reply op → Program Op Reply α) : Program Op Reply α
  | iterate {α σ β : Type} (body : σ → Program Op Reply (Turn σ β)) (state : σ)
      (next : β → Program Op Reply α) : Program Op Reply α

namespace Program

variable {Op : Type} {Reply : Op → Type} {α β γ σ : Type}

/-- Sequential composition hands the first program's value to the second. -/
def bind : Program Op Reply α → (α → Program Op Reply β) → Program Op Reply β
  | .done value, following => following value
  | .perform op next, following => .perform op (fun reply => (next reply).bind following)
  | .iterate body state next, following =>
      .iterate body state (fun value => (next value).bind following)

/-- Programs are sequenced by running the second with the value of the first. -/
instance : Monad (Program Op Reply) where
  pure := .done
  bind := .bind

/-- One operation, returning its reply. -/
def request (op : Op) : Program Op Reply (Reply op) := .perform op .done

/-- A loop whose value is the program's value. -/
def loop (body : σ → Program Op Reply (Turn σ β)) (state : σ) : Program Op Reply β :=
  .iterate body state .done

/-- A loop's first turn followed by the loop itself, or by its continuation. -/
def turn (body : σ → Program Op Reply (Turn σ β)) (state : σ)
    (next : β → Program Op Reply α) : Program Op Reply α :=
  (body state).bind (Turn.elim (fun later => .iterate body later next) next)

/-- The operation a program is waiting for. A finished program waits for none,
and neither does one that has yet to enter its next loop turn. -/
def pending : Program Op Reply α → Option Op
  | .perform op _ => some op
  | _ => none

/-- The value of a finished program. -/
def value : Program Op Reply α → Option α
  | .done value => some value
  | _ => none

/-- Only a finished program has a value. -/
theorem value_eq_some {program : Program Op Reply α} {result : α} :
    program.value = some result ↔ program = .done result := by
  cases program with
  | done returned => simp only [Program.value, Option.some.injEq, done.injEq]
  | perform op next => exact ⟨nofun, nofun⟩
  | iterate body state next => exact ⟨nofun, nofun⟩

/-- A value is a finished program. -/
@[simp] theorem pure_eq (value : α) : (pure value : Program Op Reply α) = .done value := rfl

/-- Sequencing is `bind`. -/
@[simp] theorem bind_eq (first : Program Op Reply α) (following : α → Program Op Reply β) :
    first >>= following = first.bind following := rfl

/-- After a finished program the next one runs with its value. -/
@[simp] theorem done_bind (value : α) (following : α → Program Op Reply β) :
    (done value : Program Op Reply α).bind following = following value := rfl

/-- After an operation the rest of the first program runs before the second. -/
@[simp] theorem perform_bind (op : Op) (next : Reply op → Program Op Reply α)
    (following : α → Program Op Reply β) :
    (perform op next).bind following = .perform op (fun reply => (next reply).bind following) := rfl

/-- The same of a loop, which does not change. -/
@[simp] theorem iterate_bind (body : σ → Program Op Reply (Turn σ γ)) (state : σ)
    (next : γ → Program Op Reply α) (following : α → Program Op Reply β) :
    (iterate body state next).bind following =
      .iterate body state (fun value => (next value).bind following) := rfl

/-- Composition is associative. Both sides issue the first program's operations
before either continuation, so induction on that program suffices. -/
theorem bind_assoc (first : Program Op Reply α) (second : α → Program Op Reply β)
    (third : β → Program Op Reply γ) :
    (first.bind second).bind third = first.bind (fun value => (second value).bind third) := by
  induction first with
  | done value => rfl
  | perform op next inductionHypothesis =>
    simp only [perform_bind]
    exact congrArg (perform op) (funext fun reply => inductionHypothesis reply second)
  | iterate body state next _ inductionHypothesis =>
    simp only [iterate_bind]
    exact congrArg (iterate body state) (funext fun value => inductionHypothesis value second)

/-- Unrolling commutes with a continuation of the whole loop. -/
theorem turn_bind (body : σ → Program Op Reply (Turn σ γ)) (state : σ)
    (next : γ → Program Op Reply α) (following : α → Program Op Reply β) :
    (turn body state next).bind following =
      turn body state (fun value => (next value).bind following) := by
  rw [turn, turn, bind_assoc]
  congr 1
  funext decision
  cases decision <;> rfl

end Program

end Interaction
