/-!
# Failures of the daemon

Errors are `anyhow` errors: a message with the chain of its causes. The daemon collects
the errors of all of its tasks. The first one is primary, and those that come later never
displace it.
-/

namespace McServerNap

/-- An `anyhow::Error`. The message is the outermost context; its causes follow. -/
structure Error where
  message : String
  causes : List String
  deriving DecidableEq, Repr

namespace Error

/-- `anyhow!` with a message. -/
def msg (message : String) : Error := ⟨message, []⟩

/-- `Context::context`: the message is put before the error it explains. -/
def context (error : Error) (message : String) : Error :=
  ⟨message, error.message :: error.causes⟩

/-- The whole chain, as the alternate form of formatting prints it. -/
def chain (error : Error) : String := ": ".intercalate (error.message :: error.causes)

end Error

/-- A `JoinError` with its text. -/
inductive JoinError where
  | cancelled (display : String)
  | panicked (display : String)
  deriving DecidableEq, Repr

namespace JoinError

/-- `JoinError::is_panic`. -/
def isPanic : JoinError → Bool
  | .panicked _ => true
  | .cancelled _ => false

/-- `JoinError::is_cancelled`. -/
def isCancelled : JoinError → Bool
  | .cancelled _ => true
  | .panicked _ => false

/-- `JoinError::fmt`, whose text comes from the runtime. -/
def display : JoinError → String
  | .cancelled display | .panicked display => display

end JoinError

/-- The task did not end by itself. -/
def wasCancelled {α : Type} : Except JoinError α → Bool
  | .error error => error.isCancelled
  | .ok _ => false

/-- The joined task has panicked. -/
def hasPanicked {α : Type} : Except JoinError α → Bool
  | .error error => error.isPanic
  | .ok _ => false

/-- Results can be compared where their values and errors can. -/
@[reducible] def decideExcept {ε α : Type} [DecidableEq ε] [DecidableEq α] :
    DecidableEq (Except ε α)
  | .ok first, .ok second => decidable_of_iff (first = second) ⟨congrArg _, Except.ok.inj⟩
  | .error first, .error second => decidable_of_iff (first = second) ⟨congrArg _, Except.error.inj⟩
  | .ok _, .error _ | .error _, .ok _ => isFalse nofun

instance : DecidableEq (Except Error Unit) := decideExcept

instance : DecidableEq (Except JoinError Unit) := decideExcept

instance : DecidableEq (Except JoinError (Except Error Unit)) := decideExcept

/-- `combine_runtime_errors` -/
def combineRuntimeErrors (primary : Except Error Unit) (additional : Option Error) :
    Except Error Unit :=
  match primary, additional with
  | result, none => result
  | .ok (), some error => .error error
  | .error primary, some additional =>
    .error (primary.context ("another runtime failure occurred: " ++ additional.chain))

/-- Combining yields no error exactly when there was none on either side. -/
theorem combineRuntimeErrors_ok {primary : Except Error Unit} {additional : Option Error} :
    combineRuntimeErrors primary additional = .ok () ↔ primary = .ok () ∧ additional = none := by
  cases additional with
  | none => cases primary <;> simp [combineRuntimeErrors]
  | some error => cases primary <;> simp [combineRuntimeErrors]

/-- `FatalErrors` -/
structure FatalErrors where
  primary : Option Error
  additional : List Error
  deriving DecidableEq, Repr

namespace FatalErrors

/-- `FatalErrors::default` -/
def empty : FatalErrors := ⟨none, []⟩

/-- `FatalErrors::record`: the first error is the primary one, and later ones are added behind
it. -/
def record (failures : FatalErrors) (error : Error) : FatalErrors :=
  if failures.primary.isNone then { failures with primary := some error }
  else { failures with additional := failures.additional ++ [error] }

/-- `FatalErrors::finish`: an error if any was recorded. -/
def finish (failures : FatalErrors) : Except Error Unit :=
  match failures.primary with
  | none => .ok ()
  | some primary =>
    if failures.additional.isEmpty then .error primary
    else .error (.msg (primary.chain ++ "; additional daemon failures: " ++
      "; ".intercalate (failures.additional.map Error.chain)))

/-- What is left of errors recorded in this order. -/
def ofList (errors : List Error) : FatalErrors := ⟨errors.head?, errors.tail⟩

/-- The first error recorded stays the primary one, and each later one is kept once, in
the order of recording. -/
theorem record_ofList (errors : List Error) (error : Error) :
    (ofList errors).record error = ofList (errors ++ [error]) := by
  cases errors <;> rfl

end FatalErrors

end McServerNap
