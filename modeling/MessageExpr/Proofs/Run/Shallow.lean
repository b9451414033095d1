import MessageExpr.Proofs.Run.Failing

/-!
# Sends and the limit on nested brackets

The failure of a limit on nested brackets has its cause in evaluation. Neither the preparation of an
argument nor the check of a result has it, nor an elementary message. A host could raise it of its
own accord; where the gatekeeper does not, and the host's messages do so at most when what they sent
did (`Context.Shallow`), no send fails in this way (`sendWithin_shallow`).
-/

set_option autoImplicit false

namespace MessageExpr

variable {World Result Next : Type}

/-! ## Runs -/

/-- No failure of the run is that of the limit. -/
def Run.Shallow (run : Run World Result) : Prop :=
  ∀ world cause, (run world).outcome = .failure cause → cause.Shallow

namespace Run.Shallow

theorem returning (result : Result) : (Run.returning result : Run World Result).Shallow :=
  FailsOnly.returning result

theorem failing {cause : Failure} (shallow : cause.Shallow) :
    (Run.failing cause : Run World Result).Shallow :=
  FailsOnly.failing shallow

theorem andThen {first : Run World Result} {next : Result → Run World Next}
    (firstShallow : first.Shallow) (nextShallow : ∀ result, (next result).Shallow) :
    (first.andThen next).Shallow :=
  FailsOnly.andThen firstShallow nextShallow

end Run.Shallow

theorem Run.compositional_shallow :
    Run.Compositional fun run _ : Run World Value => run.Shallow where
  returning := .returning
  failing := fun _ => .failing
  andThen := .andThen

/-! ## Messages -/

/-- The behaviour raises the failure of the limit at most if what it sent had it. -/
def Behaviour.Shallow : Behaviour World → Prop
  | .finish reply => ∀ cause, reply = .error cause → cause.Shallow
  | .send _ _ _ next =>
    (∀ value, (next (.ok value)).Shallow) ∧
      ∀ cause : Failure, cause.Shallow → (next (.error cause)).Shallow
  | .now next => ∀ instant, (next instant).Shallow
  | .userInfo next => ∀ info, (next info).Shallow
  | .choose _ next => ∀ choice, (next choice).Shallow
  | .change _ next => ∀ world, (next world).Shallow

theorem Behaviour.Shallow.failsOnly {behaviour : Behaviour World} (shallow : behaviour.Shallow) :
    behaviour.FailsOnly Failure.Shallow := by
  induction behaviour with
  | finish reply => exact shallow
  | send receiver selector argument next ih =>
      obtain ⟨valueShallow, failureShallow⟩ := shallow
      exact ⟨fun value => ih (.ok value) (valueShallow value),
        fun cause causeShallow => ih (.error cause) (failureShallow cause causeShallow)⟩
  | now next ih => exact fun instant => ih instant (shallow instant)
  | userInfo next ih => exact fun info => ih info (shallow info)
  | choose count next ih => exact fun choice => ih choice (shallow choice)
  | change update next ih => exact fun world => ih world (shallow world)

/-! ## Sends -/

theorem Failure.OfSend.shallow {cause : Failure} (ofSend : cause.OfSend) : cause.Shallow := by
  cases cause <;> trivial

/-- Neither the gatekeeper nor the messages of the host raise the failure of the limit. -/
structure Context.Shallow (context : Context World) : Prop where
  gatekeeper : ∀ gatekeeper, context.gatekeeper = some gatekeeper →
    ∀ selector signature world cause,
      (gatekeeper selector signature world).1 = some cause → cause.Shallow
  hosts : ∀ identity selector message,
    (context.directory identity).get? selector = some message →
      ∀ receiver argument, (message.implementation receiver argument).Shallow

/-- **No send fails because of the limit if the host does not raise this failure.** -/
theorem sendWithin_shallow {context : Context World} (shallow : context.Shallow) (levels : Nat)
    (receiver : Value) (selector : String) (argument : Option Value) :
    (sendWithin context levels receiver selector argument).Shallow := by
  have host : context.FailsOnly Failure.Shallow :=
    ⟨shallow.gatekeeper, fun identity selector message own receiver argument =>
      (shallow.hosts identity selector message own receiver argument).failsOnly⟩
  exact sendWithin_failsOnly (fun _ => Failure.OfSend.shallow) host levels receiver selector argument

end MessageExpr
