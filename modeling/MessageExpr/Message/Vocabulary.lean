import MessageExpr.Message.Collective
import MessageExpr.Message.Numeric
import MessageExpr.Message.Temporal
import MessageExpr.Message.Textual

/-!
# What a value understands

A value understands its own messages, which its type or its host provides, and three messages that
every value has: it describes itself, lists its selectors and tells whether it has a selector. An own
message takes the place of a common one with the same selector.

The listing shows signatures only, so the common messages are defined from the table of own messages
of each receiver (`commonMessages`), and `Directory.messages` puts both together.
-/

set_option autoImplicit false

namespace MessageExpr

variable {World : Type}

/-- The own messages of a value that is no host object. -/
def builtinMessages : Value → MessageTable World
  | .bool _ => Numeric.boolMessages
  | .int _ => Numeric.intMessages
  | .double _ => Numeric.doubleMessages
  | .string _ => Textual.messages
  | .date _ => Temporal.messages
  | .array _ => Collective.arrayMessages
  | .map _ => Collective.mapMessages
  | .null => .empty
  | .any => .empty
  | .object _ => .empty

/-- The messages of host objects by their identities. -/
abbrev Directory (World : Type) := Nat → MessageTable World

/-! ## Listing -/

/-- The signatures of the messages that every value has. -/
def commonSignatures : Dictionary Signature := .ofList
  [("description", .unary .string), ("selectors", .unary .string),
    ("respondsToSelector:", ⟨.string, .bool⟩)]

/-- One line of a listing: the selector, the type of an argument and that of a result. -/
def listingLine (selector : String) (signature : Signature) : String :=
  let argument := if signature.takesArgument then " " ++ signature.argument.name else ""
  let result := if signature.result ≠ .null then " -> " ++ signature.result.name else ""
  "\n- " ++ selector ++ argument ++ result

/-- The listing of selectors with their signatures, below a title. -/
def listing (signatures : Dictionary Signature) : String :=
  "**Selectors**" ++
    String.join (signatures.entries.map fun entry => listingLine entry.1 entry.2)

/-! ## Tables -/

namespace Directory

/-- The messages that a value's type or host provides. -/
def ownMessages (directory : Directory World) : Value → MessageTable World
  | .object host => directory host.identity
  | value => builtinMessages value

/-- The signatures of all that a value understands. -/
def signatures (directory : Directory World) (value : Value) : Dictionary Signature :=
  commonSignatures.overlay ((directory.ownMessages value).mapItems Message.signature)

/-- The messages that every value has. -/
def commonMessages (directory : Directory World) : MessageTable World := .ofList
  [("description", ⟨.unary .string, fun receiver _ => .returning (.string receiver.display)⟩),
    ("selectors", ⟨.unary .string, fun receiver _ =>
      .returning (.string (listing (directory.signatures receiver)))⟩),
    ("respondsToSelector:", ⟨⟨.string, .bool⟩, fun receiver argument =>
      let selector := argument.string?.getD ""
      .returning (.bool ((directory.signatures receiver).get? selector).isSome)⟩)]

/-- All messages that a value understands. -/
def messages (directory : Directory World) (value : Value) : MessageTable World :=
  directory.commonMessages.overlay (directory.ownMessages value)

/-- The message that a selector means to a value: its own one or else the common one. -/
def find? (directory : Directory World) (value : Value) (selector : String) :
    Option (Message World) :=
  ((directory.ownMessages value).get? selector).orElse fun _ =>
    directory.commonMessages.get? selector

end Directory

/-- The words that a value advertises. -/
def Value.aliases : Value → Dictionary String
  | .date _ => Temporal.aliases
  | .object host => host.aliases
  | _ => .empty

end MessageExpr
