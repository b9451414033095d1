import MessageExpr.Message.Basic

/-!
# Runs

A run starts in a state of the host and ends with an outcome, the state that is reached and the
events on the way in their order. The outcome is a value, a failure, or neither: a run is exhausted
if implementations nest their sends deeper than they may.

Runs are put together in sequence (`Run.andThen`). A run that does not end with a value is the end of
the whole; its state and events stay.
-/

set_option autoImplicit false

namespace MessageExpr

/-- How a run ends. -/
inductive Outcome (Result : Type) where
  /-- With a result. -/
  | value (result : Result)
  /-- With a failure. -/
  | failure (cause : Failure)
  /-- Without an answer, because sends are nested too deeply. -/
  | exhausted

/-- What happens in a run. -/
inductive Event where
  /-- A message is sent to a receiver, whether or not the receiver understands it. -/
  | sent (receiver : Value) (selector : String) (argument : Option Value)
  /-- The gatekeeper is asked about a message, and refuses it for a cause or accepts it. -/
  | asked (selector : String) (signature : Signature) (refusal : Option Failure)
  /-- The implementation of a message starts with a receiver and an argument. -/
  | ran (selector : String) (signature : Signature) (receiver argument : Value)

/-- The end of a run. -/
structure Ending (World Result : Type) where
  /-- How the run ends. -/
  outcome : Outcome Result
  /-- The state of the host at the end. -/
  world : World
  /-- The events of the run. -/
  events : List Event

/-- A run from a state of the host. -/
def Run (World Result : Type) := World → Ending World Result

namespace Run

variable {World Result Next : Type}

/-- The run that ends with a result at once. -/
def returning (result : Result) : Run World Result := fun world => ⟨.value result, world, []⟩

/-- The run that fails at once. -/
def failing (cause : Failure) : Run World Result := fun world => ⟨.failure cause, world, []⟩

/-- The run that has no answer. -/
def exhausted : Run World Result := fun world => ⟨.exhausted, world, []⟩

/-- A run and then another one that depends on its result. -/
def andThen (first : Run World Result) (next : Result → Run World Next) : Run World Next :=
  fun world =>
    match first world with
    | ⟨.value result, reached, events⟩ =>
      let ending := next result reached
      ⟨ending.outcome, ending.world, events ++ ending.events⟩
    | ⟨.failure cause, reached, events⟩ => ⟨.failure cause, reached, events⟩
    | ⟨.exhausted, reached, events⟩ => ⟨.exhausted, reached, events⟩

instance : Monad (Run World) where
  pure := returning
  bind := andThen

/-- The run that ends as a computation did. -/
def ofExcept (computed : Except Failure Result) : Run World Result :=
  match computed with
  | .ok result => returning result
  | .error cause => failing cause

/-- The run that turns a failure into a result. -/
def attempt (run : Run World Result) : Run World (Except Failure Result) := fun world =>
  match run world with
  | ⟨.value result, reached, events⟩ => ⟨.value (.ok result), reached, events⟩
  | ⟨.failure cause, reached, events⟩ => ⟨.value (.error cause), reached, events⟩
  | ⟨.exhausted, reached, events⟩ => ⟨.exhausted, reached, events⟩

/-- The run that computes a result and the next state. -/
def ofState (step : World → Result × World) : Run World Result := fun world =>
  ⟨.value (step world).1, (step world).2, []⟩

/-- The run that records an event. -/
def record (event : Event) : Run World Unit := fun world => ⟨.value (), world, [event]⟩

end Run

end MessageExpr
