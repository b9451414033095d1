import MessageExpr.Expression.Component
import MessageExpr.Failure
import MessageExpr.Value.Literal

/-!
# Tokens of an expression

The components of an expression are its head, which names the first receiver, and its messages. A
component that ends in a colon is a keyword and takes the component after it as its argument. A
component between brackets is an expression of its own: after a keyword it computes the argument, by
itself it replaces the receiver.

`Token.scan` reads an expression into tokens, and `Token.source` writes tokens as an expression.
-/

set_option autoImplicit false

namespace MessageExpr

/-- A part of an expression. -/
inductive Token where
  /-- The name or literal of the first receiver. -/
  | head (name : String)
  /-- A message without an argument. -/
  | unary (selector : String)
  /-- A message with a word or quoted text as its argument. -/
  | keyword (selector argument : String)
  /-- A message with a bracketed expression as its argument. -/
  | keywordBracket (selector inner : String)
  /-- A bracketed expression in the place of a message. -/
  | bracket (inner : String)
deriving DecidableEq, Inhabited

namespace Token

/-- The selector that a token sends. -/
def selector? : Token → Option String
  | .unary selector => some selector
  | .keyword selector _ => some selector
  | .keywordBracket selector _ => some selector
  | .head _ => none
  | .bracket _ => none

/-- The bracketed expression of a token. -/
def inner? : Token → Option String
  | .keywordBracket _ inner => some inner
  | .bracket inner => some inner
  | _ => none

/-- The text between the brackets of a component that starts with one and ends with one. -/
def bracketInner? (component : String) : Option String :=
  (Literal.between? '[' ']' component.toList).map String.ofList

/-- Whether a component is a keyword. -/
def isKeyword (component : String) : Bool := component.toList.getLast? == some ':'

/-- The token of a keyword and its argument. -/
def ofKeyword (keyword argument : String) : Token :=
  match bracketInner? argument with
  | some inner => .keywordBracket keyword inner
  | none => .keyword keyword argument

/-- The token of a component that is neither a keyword nor an argument. -/
def ofSingle (component : String) : Token :=
  match bracketInner? component with
  | some inner => .bracket inner
  | none => .unary component

/-- The tokens of the components after the head. A keyword without an argument is a failure. -/
def ofMessages : List String → Except Failure (List Token)
  | [] => .ok []
  | [component] =>
    if isKeyword component then .error (.expectedArgumentButFoundNil component)
    else .ok [ofSingle component]
  | component :: next :: rest =>
    if isKeyword component then
      if isKeyword next then .error (.expectedArgumentButFoundNil component)
      else (ofMessages rest).map (ofKeyword component next :: ·)
    else (ofMessages (next :: rest)).map (ofSingle component :: ·)

/-- Reads an expression into tokens. It needs a head and at least one message. -/
def scan (expression : String) : Except Failure (List Token) :=
  match componentsOf expression with
  | name :: message :: messages => (ofMessages (message :: messages)).map (.head name :: ·)
  | _ => .error (.expressionTooShort expression)

/-- The text of a token. -/
def text : Token → String
  | .head name => name
  | .unary selector => selector
  | .keyword selector argument => selector ++ " " ++ argument
  | .keywordBracket selector inner => selector ++ " [" ++ inner ++ "]"
  | .bracket inner => "[" ++ inner ++ "]"

/-- The expression that tokens write, with one space between them. -/
def source (tokens : List Token) : String := " ".intercalate (tokens.map text)

end Token

end MessageExpr
