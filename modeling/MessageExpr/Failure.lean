import MessageExpr.Calendar.DateText
import MessageExpr.Number.Shortest
import MessageExpr.Text.Basic
import MessageExpr.Value.Basic

/-!
# Failures

A failure is the cause for which an evaluation stopped. Some causes lie in the expression, some in a
message's signature; the others are raised by an implementation or by a gatekeeper. Each cause has
one message. The causes that evaluation itself finds also have a code, and some of them a hint.
-/

set_option autoImplicit false

namespace MessageExpr

/-- Why an implementation of a built-in message failed. -/
inductive BuiltinFailure where
  /-- An array has no element at this index. -/
  | indexOutOfBounds (index : Int64) (count : Nat)
  /-- A map has no such key. -/
  | keyNotFound (key : String)
  /-- The text is not that of a representable date. -/
  | invalidDate (text : String)
  /-- The pattern is malformed. -/
  | invalidDateFormat (pattern : String)
  /-- The sum is no representable date. -/
  | dateOutOfRange
  /-- The number truncates to no 64-bit integer. -/
  | notRepresentable (number : Binary64)
  /-- The receiver or the argument is of a type that the implementation does not work on. -/
  | operandMismatch (selector : String) (expected actual : ValueType)
deriving DecidableEq

namespace BuiltinFailure

/-- The message of a failure. -/
def message : BuiltinFailure → String
  | .indexOutOfBounds index count =>
    "index " ++ toString index.toInt ++ " is out of bounds for a collection of " ++
      toString count ++ " elements"
  | .keyNotFound key => "no element for key " ++ Text.quoted key
  | .invalidDate text =>
    "cannot parse date " ++ Text.quoted text ++ ", expected the format `" ++
      DateText.patternText ++ "`"
  | .invalidDateFormat pattern => "invalid date format " ++ Text.quoted pattern
  | .dateOutOfRange => "date is out of the representable range"
  | .notRepresentable number => number.positionalText ++ " cannot be represented as an integer"
  | .operandMismatch selector expected actual =>
    "`" ++ selector ++ "` expected a " ++ expected.name ++ " operand but got " ++ actual.name

end BuiltinFailure

/-- What an implementation or a gatekeeper raises. -/
inductive Raised where
  /-- The failure of a built-in message. -/
  | builtin (failure : BuiltinFailure)
  /-- A message of the host's own. -/
  | report (text : String)
deriving DecidableEq

namespace Raised

/-- The message of what was raised. -/
def message : Raised → String
  | .builtin failure => failure.message
  | .report text => text

end Raised

/-- Why an evaluation stopped. -/
inductive Failure where
  /-- There is no receiver with a message. -/
  | expressionTooShort (source : String)
  /-- The first component names no object and is no literal. -/
  | noInitialObject (name : String)
  /-- No registered object advertises the word. -/
  | unrecognisedAlias (word : String)
  /-- The receiver has no such message. -/
  | unrecognisedSelector (selector : String) (receiver : ValueType)
  /-- The argument is not of the expected type and cannot stand in for it. -/
  | unexpectedArgumentType (selector : String) (expected actual : ValueType)
  /-- The result is not of the declared type. -/
  | unexpectedReturnType (receiver : ValueType) (selector : String) (expected actual : ValueType)
  /-- A message that declares a result returned the missing value. -/
  | methodReturnedNil (selector : String) (receiver : ValueType)
  /-- The whole expression has no value. -/
  | expressionReturnedNil
  /-- A bracketed expression has no value. -/
  | innerExpressionReturnedNil (source : String)
  /-- A message lacks the argument that it takes. -/
  | expectedArgumentButFoundNil (selector : String)
  /-- Brackets are nested beyond the limit. -/
  | nestingTooDeep (limit : Nat)
  /-- An evaluation was started on tokens that no expression has. -/
  | unexpected
  /-- An implementation or the gatekeeper raised a failure of its own. -/
  | raised (cause : Raised)
deriving DecidableEq

namespace Failure

/-- The failure of a built-in message, as evaluation passes it on. -/
def ofBuiltin (failure : BuiltinFailure) : Failure := .raised (.builtin failure)

/-- The message of a failure. -/
def message : Failure → String
  | .expressionTooShort source =>
    "[" ++ source ++ "]: initial object or first selector not found; expression is too short"
  | .noInitialObject name => "[" ++ name ++ "]: no such initial object"
  | .unrecognisedAlias word => "[" ++ word ++ "]: unrecognised message alias"
  | .unrecognisedSelector selector receiver =>
    "[" ++ receiver.name ++ " <- " ++ selector ++ "]: unrecognised selector"
  | .unexpectedArgumentType selector expected actual =>
    "[" ++ selector ++ "]: message expected argument of type " ++ expected.name ++
      " but received " ++ actual.name
  | .unexpectedReturnType receiver selector expected actual =>
    "[" ++ receiver.name ++ " " ++ selector ++ "]: expression expected to return value of type " ++
      expected.name ++ " but returned " ++ actual.name
  | .methodReturnedNil selector receiver =>
    "[" ++ receiver.name ++ " <- " ++ selector ++ "]: method returned nil"
  | .expressionReturnedNil => "expression returned nil"
  | .innerExpressionReturnedNil source =>
    "[" ++ source ++ "]: inner expression returned nil, interrupting the outer expression"
  | .expectedArgumentButFoundNil selector =>
    "[" ++ selector ++ "]: expected argument but found nil"
  | .nestingTooDeep limit => "expression nesting exceeds the limit of " ++ toString limit
  | .unexpected => "unexpected Smoltalk error"
  | .raised cause => cause.message

/-- The code of a failure that evaluation itself finds. -/
def code? : Failure → Option String
  | .expressionTooShort _ => some "smoltalk::expression_too_short"
  | .noInitialObject _ => some "smoltalk::no_initial_object"
  | .unrecognisedAlias _ => some "smoltalk::unrecognised_alias"
  | .unrecognisedSelector _ _ => some "smoltalk::unrecognised_selector"
  | .unexpectedArgumentType _ _ _ => some "smoltalk::unexpected_argument_type"
  | .unexpectedReturnType _ _ _ _ => some "smoltalk::unexpected_return_type"
  | .methodReturnedNil _ _ => some "smoltalk::method_returned_nil"
  | .expressionReturnedNil => some "smoltalk::expression_returned_nil"
  | .innerExpressionReturnedNil _ => some "smoltalk::inner_expression_returned_nil"
  | .expectedArgumentButFoundNil _ => some "smoltalk::expected_argument"
  | .nestingTooDeep _ => some "smoltalk::nesting_too_deep"
  | .unexpected => some "smoltalk::unexpected"
  | .raised _ => none

/-- What the writer of an expression can do about a failure. -/
def help? : Failure → Option String
  | .expressionTooShort _ =>
    some "an expression needs a receiver followed by at least one message"
  | .noInitialObject _ => some "use a registered object name, a number, or a quoted string"
  | .unrecognisedSelector _ _ =>
    some "send `selectors` to the receiver to list the messages it understands"
  | .expectedArgumentButFoundNil _ =>
    some "keyword selectors ending in `:` must be followed by an argument"
  | _ => none

/-- The selector that a failure is about. -/
def selector? : Failure → Option String
  | .unrecognisedSelector selector _ => some selector
  | .unexpectedArgumentType selector _ _ => some selector
  | .unexpectedReturnType _ selector _ _ => some selector
  | .methodReturnedNil selector _ => some selector
  | .expectedArgumentButFoundNil selector => some selector
  | _ => none

/-- A line of a message in a report: behind a mark and without the spaces at its end. An empty line has
no mark. -/
def markedLine (mark : String) (line : List Char) : String :=
  if line.isEmpty then "\n"
  else mark ++ String.ofList (line.reverse.dropWhile (· = ' ')).reverse ++ "\n"

/-- The lines of a message: the first behind a cross and the others behind a bar. -/
def messageLines (message : String) : String :=
  match Text.piecesAround ['\n'] 0 message.toList with
  | [] => ""
  | first :: rest =>
    markedLine "  × " first ++ String.join (rest.map (markedLine "  │ "))

/-- The report of a failure: its code and an empty line, its message, and its hint. -/
def report (failure : Failure) : String :=
  let code := (failure.code?.map fun code => code ++ "\n\n").getD ""
  let help := (failure.help?.map fun help => "  help: " ++ help ++ "\n").getD ""
  code ++ messageLines failure.message ++ help

end Failure

end MessageExpr
