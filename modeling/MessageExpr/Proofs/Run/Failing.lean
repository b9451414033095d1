import MessageExpr.Proofs.Message.Elementary
import MessageExpr.Proofs.Run.Dispatch

/-!
# The failures of runs and sends

What failures a run can have is known from its parts (`Run.FailsOnly`). A send finds few failures by
itself (`Failure.OfSend`): the message is unknown, its argument is missing or of the wrong type, its
result is, or a built-in message raises its own failure. All others come from the gatekeeper or from
a host's messages. A kind of failures that has those of sends and what the host adds
(`Context.FailsOnly`) therefore has every failure of a send (`sendWithin_failsOnly`).
-/

set_option autoImplicit false

namespace MessageExpr

variable {World Result Next : Type} {allowed : Failure → Prop}

/-! ## Runs -/

/-- All failures of the run are of a kind. -/
def Run.FailsOnly (allowed : Failure → Prop) (run : Run World Result) : Prop :=
  ∀ world cause, (run world).outcome = .failure cause → allowed cause

namespace Run.FailsOnly

theorem returning (result : Result) : (Run.returning result : Run World Result).FailsOnly allowed :=
  fun _ _ failed => nomatch failed

theorem failing {cause : Failure} (isAllowed : allowed cause) :
    (Run.failing cause : Run World Result).FailsOnly allowed := by
  intro world other failed
  cases failed
  exact isAllowed

theorem ofExcept {computed : Except Failure Result}
    (isAllowed : ∀ cause, computed = .error cause → allowed cause) :
    (Run.ofExcept computed : Run World Result).FailsOnly allowed := by
  cases computed with
  | ok result => exact .returning result
  | error cause => exact .failing (isAllowed cause rfl)

theorem ofState (step : World → Result × World) : (Run.ofState step).FailsOnly allowed :=
  fun _ _ failed => nomatch failed

theorem andThen {first : Run World Result} {next : Result → Run World Next}
    (firstFails : first.FailsOnly allowed) (nextFails : ∀ result, (next result).FailsOnly allowed) :
    (first.andThen next).FailsOnly allowed := by
  intro world cause failed
  cases ending : first world with
  | mk outcome reached events =>
      cases outcome with
      | value result =>
          rw [andThen_of_value ending] at failed
          exact nextFails result reached cause failed
      | failure other =>
          rw [andThen_of_failure ending] at failed
          cases failed
          exact firstFails world cause (congrArg Ending.outcome ending)
      | exhausted =>
          rw [andThen_of_exhausted ending] at failed
          cases failed

/-- What goes on with a reply may rely on the reply. -/
theorem attempt_andThen {first : Run World Result}
    {next : Except Failure Result → Run World Next} (firstFails : first.FailsOnly allowed)
    (afterValue : ∀ result, (next (.ok result)).FailsOnly allowed)
    (afterFailure : ∀ cause, allowed cause → (next (.error cause)).FailsOnly allowed) :
    (first.attempt.andThen next).FailsOnly allowed := by
  intro world cause failed
  simp only [Run.andThen, Run.attempt] at failed
  cases ending : first world with
  | mk outcome reached events =>
      rw [ending] at failed
      cases outcome with
      | value result => exact afterValue result reached cause failed
      | failure other =>
          have otherAllowed := firstFails world other (congrArg Ending.outcome ending)
          exact afterFailure other otherAllowed reached cause failed
      | exhausted => cases failed

end Run.FailsOnly

/-! ## Messages -/

/-- The behaviour fails as the kind allows if what it sends does. -/
def Behaviour.FailsOnly (allowed : Failure → Prop) : Behaviour World → Prop
  | .finish reply => ∀ cause, reply = .error cause → allowed cause
  | .send _ _ _ next =>
    (∀ value, (next (.ok value)).FailsOnly allowed) ∧
      ∀ cause, allowed cause → (next (.error cause)).FailsOnly allowed
  | .now next => ∀ instant, (next instant).FailsOnly allowed
  | .userInfo next => ∀ info, (next info).FailsOnly allowed
  | .choose _ next => ∀ choice, (next choice).FailsOnly allowed
  | .change _ next => ∀ world, (next world).FailsOnly allowed

theorem Behaviour.Elementary.failsOnly (builtins : ∀ failure, allowed (.ofBuiltin failure))
    {behaviour : Behaviour World} (elementary : behaviour.Elementary) :
    behaviour.FailsOnly allowed := by
  induction elementary with
  | returning value => exact fun _ failed => nomatch failed
  | failing failure =>
      rintro _ ⟨⟩
      exact builtins failure
  | send fails _ ih =>
      refine ⟨ih, fun cause isAllowed => ?_⟩
      rw [fails]
      rintro _ ⟨⟩
      exact isAllowed
  | now _ ih => exact ih
  | choose _ ih => exact ih

theorem Behaviour.FailsOnly.run {context : Context World}
    {send : Value → String → Option Value → Run World Value}
    (sends : ∀ receiver selector argument, (send receiver selector argument).FailsOnly allowed)
    {behaviour : Behaviour World} (fails : behaviour.FailsOnly allowed) :
    (behaviour.run context send).FailsOnly allowed := by
  induction behaviour with
  | finish reply => exact .ofExcept fails
  | send receiver selector argument next ih =>
      obtain ⟨afterValue, afterFailure⟩ := fails
      refine .attempt_andThen (sends receiver selector argument) ?_ ?_
      · exact fun value => ih (.ok value) (afterValue value)
      · exact fun cause isAllowed => ih (.error cause) (afterFailure cause isAllowed)
  | now next ih => exact .andThen (.ofState _) fun instant => ih instant (fails instant)
  | userInfo next ih => exact ih context.userInfo (fails context.userInfo)
  | choose count next ih => exact .andThen (.ofState _) fun choice => ih _ (fails _)
  | change update next ih => exact .andThen (.ofState _) fun world => ih world (fails world)

/-! ## Sends -/

/-- The failures that a send finds by itself. -/
def Failure.OfSend : Failure → Prop
  | .unrecognisedSelector _ _ => True
  | .unexpectedArgumentType _ _ _ => True
  | .unexpectedReturnType _ _ _ _ => True
  | .methodReturnedNil _ _ => True
  | .expectedArgumentButFoundNil _ => True
  | .raised (.builtin _) => True
  | _ => False

theorem Unprepared.ofSend {selector : String} {declared : ValueType} {argument : Option Value}
    {cause : Failure} (unprepared : Unprepared selector declared argument cause) : cause.OfSend := by
  cases unprepared with
  | missing => trivial
  | mismatched => trivial

theorem ofSend_of_checkResult_eq_error {receiver declared : ValueType} {selector : String}
    {result : Value} {cause : Failure}
    (failed : checkResult receiver selector declared result = .error cause) : cause.OfSend := by
  simp only [checkResult] at failed
  split at failed
  · split at failed
    · cases failed
    · cases failed
      trivial
  · split at failed
    · cases failed
    · cases failed
      trivial

/-- The failures that the host adds are of a kind: what the gatekeeper raises, and what a message of
the host does by itself. -/
structure Context.FailsOnly (allowed : Failure → Prop) (context : Context World) : Prop where
  gatekeeper : ∀ gatekeeper, context.gatekeeper = some gatekeeper →
    ∀ selector signature world cause,
      (gatekeeper selector signature world).1 = some cause → allowed cause
  hosts : ∀ identity selector message,
    (context.directory identity).get? selector = some message →
      ∀ receiver argument, (message.implementation receiver argument).FailsOnly allowed

/-- **A send fails as sends and the host do.** -/
theorem sendWithin_failsOnly (covers : ∀ cause : Failure, cause.OfSend → allowed cause)
    {context : Context World} (host : context.FailsOnly allowed) (levels : Nat) (receiver : Value)
    (selector : String) (argument : Option Value) :
    (sendWithin context levels receiver selector argument).FailsOnly allowed := by
  induction levels generalizing receiver selector argument with
  | zero => exact fun _ _ failed => nomatch failed
  | succ levels ih =>
      intro world cause failed
      have dispatch := sendWithin_dispatch context levels receiver selector argument world
      generalize sendWithin context (levels + 1) receiver selector argument world = ending
        at dispatch failed
      cases dispatch with
      | unknown absent =>
          cases failed
          exact covers _ trivial
      | unprepared found unprepared =>
          cases failed
          exact covers cause unprepared.ofSend
      | refused found prepared asks refuses =>
          cases failed
          exact host.gatekeeper _ asks selector _ world cause refuses
      | @ran message received questions entered found prepared admission =>
          have behaves : (message.implementation receiver received).FailsOnly allowed :=
            Directory.property_of_find?
              (fun _ elementary receiver argument =>
                (elementary receiver argument).failsOnly fun _ => covers _ trivial)
              host.hosts found receiver received
          have implements :
              (implement context (sendWithin context levels) selector message receiver
                received).FailsOnly allowed :=
            .andThen (behaves.run ih) fun result =>
              .ofExcept fun _ unchecked => covers _ (ofSend_of_checkResult_eq_error unchecked)
          exact implements entered cause failed

end MessageExpr
