import MessageExpr.Failure

/-!
# Messages

A message is a signature and an implementation. The signature says what type of argument the message
takes and what type of result it returns. The implementation maps a receiver and an argument to a
behaviour: a tree of the steps that it takes, in their order, up to its reply.

The steps are all that an implementation can do. It can read the clock and the user information,
choose among several possibilities, read and change the host's own state, and send messages. What it
learns from a step selects the branch that follows.
-/

set_option autoImplicit false

namespace MessageExpr

/-- The types of a message's argument and result. -/
structure Signature where
  /-- The type of the argument; `null` if there is none. -/
  argument : ValueType
  /-- The type of the result; `null` if there is none. -/
  result : ValueType
deriving DecidableEq, Inhabited

namespace Signature

/-- The signature of a message without an argument. -/
def unary (result : ValueType) : Signature := ⟨.null, result⟩

/-- Whether a message with this signature takes an argument. -/
def takesArgument (signature : Signature) : Bool := signature.argument ≠ .null

end Signature

/-- What an implementation does, where `World` is the state of the host. -/
inductive Behaviour (World : Type) where
  /-- Ends with a result or a failure. -/
  | finish (reply : Except Failure Value)
  /-- Sends a message and goes on with its reply. -/
  | send (receiver : Value) (selector : String) (argument : Option Value)
      (next : Except Failure Value → Behaviour World)
  /-- Reads the clock. -/
  | now (next : Instant → Behaviour World)
  /-- Reads the user information. -/
  | userInfo (next : Option Value → Behaviour World)
  /-- Chooses one of the numbers below `count`. -/
  | choose (count : Nat) (next : Nat → Behaviour World)
  /-- Changes the state of the host and goes on with the new state. -/
  | change (update : World → World) (next : World → Behaviour World)

namespace Behaviour

variable {World : Type}

/-- Returns a value. -/
def returning (value : Value) : Behaviour World := .finish (.ok value)

/-- Stops with a failure. -/
def failing (failure : Failure) : Behaviour World := .finish (.error failure)

/-- Ends as a computation on operands did. -/
def ofOperands (reply : Except BuiltinFailure Value) : Behaviour World :=
  .finish (reply.mapError Failure.ofBuiltin)

end Behaviour

/-- A message of a type of values. -/
structure Message (World : Type) where
  /-- The types of the argument and the result. -/
  signature : Signature
  /-- What happens for a receiver and an argument. A message without an argument is given the
  missing value. -/
  implementation : Value → Value → Behaviour World

namespace Message

variable {World : Type}

/-- A message that computes its result from the receiver and the argument. -/
def computing (argument result : ValueType)
    (compute : Value → Value → Except BuiltinFailure Value) : Message World :=
  ⟨⟨argument, result⟩, fun receiver value => .ofOperands (compute receiver value)⟩

/-- A message that computes its result from the receiver. -/
def computingUnary (result : ValueType) (compute : Value → Except BuiltinFailure Value) :
    Message World :=
  ⟨.unary result, fun receiver _ => .ofOperands (compute receiver)⟩

end Message

/-- Messages under their selectors. -/
abbrev MessageTable (World : Type) := Dictionary (Message World)

/-! ## Operands -/

/-- An operand of an expected type. The selector goes into the failure. -/
def operand {Data : Type} (data? : Value → Option Data) (expected : ValueType) (selector : String)
    (value : Value) : Except BuiltinFailure Data :=
  match data? value with
  | some data => .ok data
  | none => .error (.operandMismatch selector expected value.type)

/-- A truth value as an operand. -/
def boolOperand := operand Value.bool? .bool

/-- A whole number as an operand. -/
def intOperand := operand Value.int? .int

/-- A binary64 number as an operand. -/
def doubleOperand := operand Value.double? .double

/-- A text as an operand. -/
def stringOperand := operand Value.string? .string

/-- An instant as an operand. -/
def dateOperand := operand Value.date? .date

/-- The elements of an array as an operand. -/
def arrayOperand := operand Value.array? .array

/-- The entries of a map as an operand. -/
def mapOperand := operand Value.map? .map

end MessageExpr
