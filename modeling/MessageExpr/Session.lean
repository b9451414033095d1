import MessageExpr.Evaluation

/-!
# Sessions

In a session expressions are typed line by line. A line in front of which there is an at sign is an
aliased expression, a blank line is skipped, and the quit command, in letters of any case, ends the
session. A failure is reported and does not end it.
-/

set_option autoImplicit false

namespace MessageExpr

/-- What becomes of a line. -/
inductive LineOutcome where
  /-- The session ends. -/
  | quit
  /-- Nothing. -/
  | skip
  /-- The line has a value. -/
  | value (value : Value)
  /-- The line fails, with this report. -/
  | report (text : String)

namespace Session

variable {World : Type}

/-- Whether two texts differ at most in the case of ASCII letters. -/
def equalUpToCase (left right : String) : Bool :=
  left.toList.map Char.toLower == right.toList.map Char.toLower

/-- The report of a failure on a line. What an implementation raised is only its message. -/
def report : Failure → String
  | .raised cause => cause.message
  | failure => failure.report

/-- The run of a line that is neither blank nor the quit command. -/
def evaluateLine (context : Context World) (registry : Registry) (line : String) :
    Run World Value :=
  match line.toList with
  | '@' :: rest => evaluateAliased context registry (String.ofList rest)
  | _ => evaluate context registry line

/-- The run of a line. -/
def processLine (context : Context World) (registry : Registry) (quitCommand line : String) :
    Run World LineOutcome :=
  let trimmed := Text.trim line
  if trimmed.isEmpty then .returning .skip
  else if equalUpToCase trimmed quitCommand then .returning .quit
  else
    (evaluateLine context registry trimmed).attempt.andThen fun
      | .ok value => .returning (.value value)
      | .error failure => .returning (.report (report failure))

end Session

end MessageExpr
