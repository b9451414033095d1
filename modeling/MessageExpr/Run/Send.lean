import MessageExpr.Run.Context
import MessageExpr.Value.Literal

/-!
# Sending a message

To send a message is to find it among those that the receiver understands, to prepare its argument,
to ask the gatekeeper, to run the implementation and to check its result, in this order. The first
of these that fails is the end.

Implementations may send in turn. How deeply they do is bounded (`sendWithin`); a context's own bound
is that of `send`.
-/

set_option autoImplicit false

namespace MessageExpr

variable {World : Type}

/-- The argument that an implementation is given for the one that is sent. A missing argument is
the missing value where the signature leaves it unchecked and a failure elsewhere; an argument of
another type than the expected one has to stand in for that type. -/
def prepareArgument (selector : String) (expected : ValueType) (argument : Option Value) :
    Except Failure Value :=
  let value := argument.getD .null
  if value.isNull then
    if expected.isUnchecked then .ok .null else .error (.expectedArgumentButFoundNil selector)
  else if expected.isUnchecked || expected = value.type then .ok value
  else
    match value.coerce? expected with
    | some coerced => .ok coerced
    | none => .error (.unexpectedArgumentType selector expected value.type)

/-- The result of an implementation, if it is of the declared type. -/
def checkResult (receiver : ValueType) (selector : String) (expected : ValueType)
    (result : Value) : Except Failure Value :=
  if result.isNull then
    if expected = .null then .ok result else .error (.methodReturnedNil selector receiver)
  else if expected.isUnchecked || expected = result.type then .ok result
  else .error (.unexpectedReturnType receiver selector expected result.type)

/-- Runs the implementation of a message on a receiver and an argument, with a way to send. -/
def perform (context : Context World) (send : Value → String → Option Value → Run World Value)
    (selector : String) (message : Message World) (receiver argument : Value) : Run World Value :=
  (Run.record (.ran selector message.signature receiver argument)).andThen fun _ =>
    (message.implementation receiver argument).run context send

/-- Sends a message that has been found. -/
def deliver (context : Context World) (send : Value → String → Option Value → Run World Value)
    (receiver : Value) (selector : String) (message : Message World) (argument : Option Value) :
    Run World Value :=
  (Run.ofExcept (prepareArgument selector message.signature.argument argument)).andThen
    fun prepared =>
      (context.ask selector message.signature).andThen fun _ =>
        (perform context send selector message receiver prepared).andThen fun result =>
          .ofExcept (checkResult receiver.type selector message.signature.result result)

/-- Sends a message, with at most this many sends nested in one another. -/
def sendWithin (context : Context World) : Nat → Value → String → Option Value → Run World Value
  | 0, _, _, _ => .exhausted
  | levels + 1, receiver, selector, argument =>
    (Run.record (.sent receiver selector argument)).andThen fun _ =>
      match context.directory.find? receiver selector with
      | none => .failing (.unrecognisedSelector selector receiver.type)
      | some message =>
        deliver context (sendWithin context levels) receiver selector message argument

/-- Sends a message to a receiver. -/
def send (context : Context World) : Value → String → Option Value → Run World Value :=
  sendWithin context context.sendNesting

end MessageExpr
