import MessageExpr.Proofs.Run.Mediation
import MessageExpr.Proofs.Run.Preparation

/-!
# What one send does

A send ends in one of four ways (`Dispatch`): its message is not found, its argument cannot be
prepared, the gatekeeper refuses it, or the implementation of the message runs on the prepared
argument and its result is checked. What is true of every send, those that implementations send
included, follows from these cases (`sendWithin_dispatch`).
-/

set_option autoImplicit false

namespace MessageExpr

variable {World : Type} {context : Context World}
  {nested : Value → String → Option Value → Run World Value} {receiver : Value}
  {selector : String} {argument : Option Value} {world : World}

/-! ## The four ways of a send -/

/-- The question before an implementation that may run, and the state of the host after it. -/
inductive Admission (context : Context World) (selector : String) (signature : Signature)
    (world : World) : List Event → World → Prop where
  | unasked (nobody : context.gatekeeper = none) : Admission context selector signature world [] world
  | accepted {gatekeeper : Gatekeeper World} (asks : context.gatekeeper = some gatekeeper)
      (accepts : (gatekeeper selector signature world).1 = none) :
      Admission context selector signature world [.asked selector signature none]
        (gatekeeper selector signature world).2

/-- How a send can end, if its implementation sends by `nested`. -/
inductive Dispatch (context : Context World)
    (nested : Value → String → Option Value → Run World Value) (receiver : Value)
    (selector : String) (argument : Option Value) (world : World) : Ending World Value → Prop where
  | unknown (absent : context.directory.find? receiver selector = none) :
      Dispatch context nested receiver selector argument world
        ⟨.failure (.unrecognisedSelector selector receiver.type), world,
          [.sent receiver selector argument]⟩
  | unprepared {message : Message World} {cause : Failure}
      (found : context.directory.find? receiver selector = some message)
      (unprepared : Unprepared selector message.signature.argument argument cause) :
      Dispatch context nested receiver selector argument world
        ⟨.failure cause, world, [.sent receiver selector argument]⟩
  | refused {message : Message World} {received : Value} {gatekeeper : Gatekeeper World}
      {cause : Failure} (found : context.directory.find? receiver selector = some message)
      (prepared : Prepared message.signature.argument argument received)
      (asks : context.gatekeeper = some gatekeeper)
      (refuses : (gatekeeper selector message.signature world).1 = some cause) :
      Dispatch context nested receiver selector argument world
        ⟨.failure cause, (gatekeeper selector message.signature world).2,
          [.sent receiver selector argument, .asked selector message.signature (some cause)]⟩
  | ran {message : Message World} {received : Value} {questions : List Event} {entered : World}
      (found : context.directory.find? receiver selector = some message)
      (prepared : Prepared message.signature.argument argument received)
      (admission : Admission context selector message.signature world questions entered) :
      Dispatch context nested receiver selector argument world
        { implement context nested selector message receiver received entered with
          events := .sent receiver selector argument :: (questions ++
            .ran selector message.signature receiver received ::
              (implement context nested selector message receiver received entered).events) }

theorem Context.ask_eq_returning (nobody : context.gatekeeper = none) (selector : String)
    (signature : Signature) : context.ask selector signature = .returning () := by
  rw [Context.ask, nobody]

theorem Context.ask_of_unasked (nobody : context.gatekeeper = none) (selector : String)
    (signature : Signature) (world : World) :
    context.ask selector signature world = ⟨.value (), world, []⟩ := by
  rw [Context.ask_eq_returning nobody]
  rfl

theorem Context.ask_of_admission {signature : Signature} {questions : List Event} {entered : World}
    (admission : Admission context selector signature world questions entered) :
    context.ask selector signature world = ⟨.value (), entered, questions⟩ := by
  cases admission with
  | unasked nobody => exact Context.ask_of_unasked nobody selector signature world
  | accepted asks accepts => exact Context.ask_of_accepted asks accepts

/-- A message that may run does so on the argument that is prepared for it. -/
theorem deliver_of_admission {message : Message World} {prepared : Value} {questions : List Event}
    {entered : World}
    (isPrepared : prepareArgument selector message.signature.argument argument = .ok prepared)
    (admission : Admission context selector message.signature world questions entered) :
    deliver context nested receiver selector message argument world =
      { implement context nested selector message receiver prepared entered with
        events := questions ++ .ran selector message.signature receiver prepared ::
          (implement context nested selector message receiver prepared entered).events } := by
  rw [deliver, isPrepared, Run.ofExcept, Run.returning_andThen,
    Run.andThen_of_value (Context.ask_of_admission admission), perform, Run.andThen_assoc]
  rfl

/-- **Every send ends in one of the four ways.** -/
theorem sendWithin_dispatch (context : Context World) (levels : Nat) (receiver : Value)
    (selector : String) (argument : Option Value) (world : World) :
    Dispatch context (sendWithin context levels) receiver selector argument world
      (sendWithin context (levels + 1) receiver selector argument world) := by
  rw [sendWithin, Run.record_andThen]
  cases found : context.directory.find? receiver selector with
  | none => exact .unknown found
  | some message =>
      obtain ⟨received, isPrepared, prepared⟩ | ⟨cause, failed, unprepared⟩ :=
        prepareArgument_spec selector message.signature.argument argument
      · cases asks : context.gatekeeper with
        | none =>
            have admission : Admission context selector message.signature world [] world :=
              .unasked asks
            simp only [deliver_of_admission isPrepared admission]
            exact .ran found prepared admission
        | some gatekeeper =>
            cases answer : (gatekeeper selector message.signature world).1 with
            | none =>
                have admission := Admission.accepted asks answer
                simp only [deliver_of_admission isPrepared admission]
                exact .ran found prepared admission
            | some cause =>
                simp only [deliver_of_refused asks isPrepared answer]
                exact .refused found prepared asks answer
      · simp only [deliver, failed, Run.ofExcept, Run.failing_andThen]
        exact .unprepared found unprepared

end MessageExpr
