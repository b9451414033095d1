import MessageExpr.Run.Send

/-!
# Safe runs

Some failures are a program's own: they say what is wrong with an expression or with the operands of
a message. The others say that a message does not do what its signature declares, or that evaluation
was started on what no expression is. A run is safe if it ends with a result of a given kind or with
a failure of the first sort (`Run.Safe`). Runs in sequence are safe if each of them is.
-/

set_option autoImplicit false

namespace MessageExpr

/-! ## Ordinary failures -/

/-- The failures that a built-in message may have on operands of the types that it declares. -/
def BuiltinFailure.Ordinary : BuiltinFailure → Prop
  | .operandMismatch _ _ _ => False
  | _ => True

/-- The selectors of the built-in messages that can find that there is nothing to answer with. -/
def selectorsOfMissing : List String := ["randomElement", "elementAtIndex:", "elementForKey:"]

/-- The failures that an expression can have without a host, under a limit on nested brackets. -/
def Failure.Ordinary (maxDepth : Option Nat) : Failure → Prop
  | .expressionTooShort _ => True
  | .expectedArgumentButFoundNil _ => True
  | .noInitialObject _ => True
  | .unrecognisedSelector _ _ => True
  | .unexpectedArgumentType _ _ _ => True
  | .methodReturnedNil selector _ => selector ∈ selectorsOfMissing
  | .nestingTooDeep limit => maxDepth = some limit
  | .raised (.builtin failure) => failure.Ordinary
  | _ => False

variable {maxDepth : Option Nat}

/-- A failure to prepare an argument is ordinary. -/
theorem ordinary_of_prepareArgument_eq_error {selector : String} {expected : ValueType}
    {argument : Option Value} {cause : Failure}
    (failed : prepareArgument selector expected argument = .error cause) :
    cause.Ordinary maxDepth := by
  simp only [prepareArgument] at failed
  split at failed
  · split at failed
    · cases failed
    · cases failed
      trivial
  split at failed
  · cases failed
  split at failed
  · cases failed
  · cases failed
    trivial

/-! ## Safety -/

variable {World Result Next : Type}

/-- The outcome is a good result or an ordinary failure. -/
def Outcome.Safe (maxDepth : Option Nat) (good : Result → Prop) : Outcome Result → Prop
  | .value result => good result
  | .failure cause => cause.Ordinary maxDepth
  | .exhausted => False

/-- A run is safe if all its outcomes are. -/
def Run.Safe (maxDepth : Option Nat) (good : Result → Prop) (run : Run World Result) : Prop :=
  ∀ world, (run world).outcome.Safe maxDepth good

namespace Run.Safe

variable {good : Result → Prop} {goodNext : Next → Prop}

theorem returning {result : Result} (isGood : good result) :
    (Run.returning result : Run World Result).Safe maxDepth good :=
  fun _ => isGood

theorem failing {cause : Failure} (ordinary : cause.Ordinary maxDepth) :
    (Run.failing cause : Run World Result).Safe maxDepth good :=
  fun _ => ordinary

theorem ofState (step : World → Result × World) :
    (Run.ofState step).Safe maxDepth fun _ => True :=
  fun _ => trivial

theorem record (event : Event) :
    (Run.record event : Run World Unit).Safe maxDepth fun _ => True :=
  fun _ => trivial

/-- Runs in sequence are safe if the first one is and the second one is after its good results. -/
theorem andThen {first : Run World Result} {next : Result → Run World Next}
    (firstSafe : first.Safe maxDepth good)
    (nextSafe : ∀ result, good result → (next result).Safe maxDepth goodNext) :
    (first.andThen next).Safe maxDepth goodNext := by
  intro world
  have ends := firstSafe world
  rw [Run.andThen]
  cases ending : first world with
  | mk outcome reached events =>
      rw [ending] at ends
      cases outcome with
      | value result => exact nextSafe result ends reached
      | failure cause => exact ends
      | exhausted => exact ends

/-- A run whose failures are turned into results goes on safely if what follows is safe for both. -/
theorem attempt_andThen {first : Run World Result}
    {next : Except Failure Result → Run World Next} (firstSafe : first.Safe maxDepth good)
    (okSafe : ∀ result, good result → (next (.ok result)).Safe maxDepth goodNext)
    (errorSafe : ∀ cause, cause.Ordinary maxDepth →
      (next (.error cause)).Safe maxDepth goodNext) :
    (first.attempt.andThen next).Safe maxDepth goodNext := by
  intro world
  have ends := firstSafe world
  rw [Run.andThen, Run.attempt]
  cases ending : first world with
  | mk outcome reached events =>
      rw [ending] at ends
      cases outcome with
      | value result => exact okSafe result ends reached
      | failure cause => exact errorSafe cause ends reached
      | exhausted => exact ends

end Run.Safe

end MessageExpr
