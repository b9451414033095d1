import MessageExpr.Expression.Token
import MessageExpr.Registry
import MessageExpr.Run.Send

/-!
# Evaluation

An expression is evaluated from left to right. Its head names the first receiver: one of the two
constructors, a registered object, or a literal. Each message is sent to what the one before it
returned, and the last result is the value of the expression. A bracketed expression is evaluated
when it is reached, one level deeper; there it must have a value.

A bracketed expression is shorter than the expression that holds it, so evaluation ends
(`evaluateAt`).
-/

set_option autoImplicit false

namespace MessageExpr

variable {World : Type}

/-- The value that the head of an expression names. -/
def resolve (context : Context World) (registry : Registry) (name : String) : Run World Value :=
  if name = "Date" then (Run.ofState context.clock).andThen fun instant => .returning (.date instant)
  else if name = "String" then .returning (.string "")
  else
    match registry.get? name with
    | some value => .returning value
    | none =>
      match Literal.read? name with
      | some value => .returning value
      | none => .failing (.noInitialObject name)

/-- The argument that a word or quoted text writes. -/
def flatArgument (argument : String) : Value := .string ((Literal.unquote? argument).getD argument)

/-- The value of a bracketed expression, which must not be the missing one. -/
def presentInner (inner : String) (value : Value) : Run World Value :=
  if value.isNull then .failing (.innerExpressionReturnedNil inner) else .returning value

/-- The value of a whole expression, which must not be the missing one. -/
def present (value : Value) : Run World Value :=
  if value.isNull then .failing .expressionReturnedNil else .returning value

/-- Takes one token after the head: what it makes of the receiver. `evaluateInner` evaluates a
bracketed expression. -/
def takeToken (context : Context World) (evaluateInner : String → Run World Value)
    (receiver : Value) : Token → Run World Value
  | .head _ => .failing .unexpected
  | .unary selector => send context receiver selector none
  | .keyword selector argument => send context receiver selector (some (flatArgument argument))
  | .keywordBracket selector inner =>
    ((evaluateInner inner).andThen (presentInner inner)).andThen fun argument =>
      send context receiver selector (some argument)
  | .bracket inner => (evaluateInner inner).andThen (presentInner inner)

/-- Takes the tokens after the head, each on the result of the one before. -/
def takeTokens (context : Context World) (evaluateInner : String → Run World Value)
    (receiver : Value) : List Token → Run World Value
  | [] => .returning receiver
  | token :: rest =>
    (takeToken context evaluateInner receiver token).andThen fun result =>
      takeTokens context evaluateInner result rest

/-- Evaluates the tokens of an expression. -/
def evaluateTokensAt (context : Context World) (registry : Registry)
    (evaluateInner : String → Run World Value) : List Token → Run World Value
  | .head name :: token :: rest =>
    (resolve context registry name).andThen fun receiver =>
      takeTokens context evaluateInner receiver (token :: rest)
  | [.head name] => .failing (.expressionTooShort (Token.source [.head name]))
  | [] => .failing (.expressionTooShort "")
  | _ => .failing .unexpected

/-- Whether a depth of brackets is beyond the limit, and then the limit. -/
def Context.exceeded? (context : Context World) (depth : Nat) : Option Nat :=
  match context.maxDepth with
  | some limit => if limit < depth then some limit else none
  | none => none

/-- Evaluates an expression inside a number of brackets. A bracketed expression inside it is
shorter; were it not, it would have no answer. -/
def evaluateAt (context : Context World) (registry : Registry) (depth : Nat)
    (expression : String) : Run World Value :=
  match context.exceeded? depth with
  | some limit => .failing (.nestingTooDeep limit)
  | none =>
    match Token.scan expression with
    | .error failure => .failing failure
    | .ok tokens =>
      evaluateTokensAt context registry
        (fun inner =>
          if inner.length < expression.length then
            evaluateAt context registry (depth + 1) inner
          else .exhausted)
        tokens
  termination_by expression.length

/-- Evaluates an expression. -/
def evaluate (context : Context World) (registry : Registry) (expression : String) :
    Run World Value :=
  (evaluateAt context registry 0 expression).andThen present

/-- Evaluates tokens as if they were those of an expression. -/
def evaluateTokens (context : Context World) (registry : Registry) (tokens : List Token) :
    Run World Value :=
  (evaluateTokensAt context registry (evaluateAt context registry 1) tokens).andThen present

/-- Expands the alias at the front of an expression and evaluates the result. -/
def evaluateAliased (context : Context World) (registry : Registry) (expression : String) :
    Run World Value :=
  (Run.ofExcept (Alias.expand registry expression)).andThen (evaluate context registry)

end MessageExpr
