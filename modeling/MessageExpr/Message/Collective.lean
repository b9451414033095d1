import MessageExpr.Message.Basic
import MessageExpr.Value.Display

/-!
# Messages of arrays and maps

`map:` is the one built-in message that sends others: it sends its argument, as a selector, to each
element and stops at the first failure. Two messages make a random choice.
-/

set_option autoImplicit false

namespace MessageExpr.Collective

variable {World : Type}

/-- The texts of values with a separator between them. -/
def joined (separator : String) (values : List Value) : Value :=
  .string (separator.intercalate (values.map Value.display))

/-- Sends a selector to each of the elements and collects the results behind those that are there
already, the last first. -/
def sendToEach (selector : String) : List Value → List Value → Behaviour World
  | [], results => .returning (.array results.reverse)
  | element :: rest, results =>
    .send element selector none fun
      | .ok result => sendToEach selector rest (result :: results)
      | .error failure => .failing failure

/-- Answers with one of the values; with the missing value if there are none. -/
def choosing (values : List Value) : Behaviour World :=
  if values.isEmpty then .returning .null
  else .choose values.length fun index => .returning (values.getD index .null)

/-- Takes values out of a list, each chosen among those left, and answers with them in that
order. -/
def shuffling : Nat → List Value → List Value → Behaviour World
  | 0, left, taken => .returning (.array (taken.reverse ++ left))
  | steps + 1, left, taken =>
    .choose left.length fun index =>
      shuffling steps (left.eraseIdx index) ((left[index]?).toList ++ taken)

/-- The element at an index. -/
def elementAt (elements : List Value) (index : Int64) : Except BuiltinFailure Value :=
  let outside := BuiltinFailure.indexOutOfBounds index elements.length
  if index.toInt < 0 then .error outside
  else
    match elements[index.toInt.toNat]? with
    | some element => .ok element
    | none => .error outside

/-- The value under a key. -/
def elementFor (entries : List (String × Value)) (key : String) : Except BuiltinFailure Value :=
  match entries.lookup key with
  | some value => .ok value
  | none => .error (.keyNotFound key)

/-- Goes on with operands that are as expected, and fails otherwise. -/
def withOperands {Data : Type} (operands : Except BuiltinFailure Data)
    (next : Data → Behaviour World) : Behaviour World :=
  match operands with
  | .ok data => next data
  | .error failure => .failing (.ofBuiltin failure)

/-- The number of a list's members, as a value. -/
def count {Item : Type} (items : List Item) : Value := .int (Int64.ofNat items.length)

/-- The messages of arrays. -/
def arrayMessages : MessageTable World := .ofList
  [("appending:", .computing .any .array fun receiver argument => do
      let elements ← arrayOperand "appending:" receiver
      return .array (elements ++ [argument])),
    ("count", .computingUnary .int fun receiver => do
      let elements ← arrayOperand "count" receiver
      return count elements),
    ("componentsJoinedByString:", .computing .string .string fun receiver argument => do
      let elements ← arrayOperand "componentsJoinedByString:" receiver
      let separator ← stringOperand "componentsJoinedByString:" argument
      return joined separator elements),
    ("map:", ⟨⟨.string, .array⟩, fun receiver argument =>
      withOperands (arrayOperand "map:" receiver) fun elements =>
        withOperands (stringOperand "map:" argument) fun selector =>
          sendToEach selector elements []⟩),
    ("randomElement", ⟨.unary .any, fun receiver _ =>
      withOperands (arrayOperand "randomElement" receiver) choosing⟩),
    ("reversedArray", .computingUnary .array fun receiver => do
      let elements ← arrayOperand "reversedArray" receiver
      return .array elements.reverse),
    ("shuffledArray", ⟨.unary .array, fun receiver _ =>
      withOperands (arrayOperand "shuffledArray" receiver) fun elements =>
        shuffling elements.length elements []⟩),
    ("elementAtIndex:", .computing .int .any fun receiver argument => do
      let elements ← arrayOperand "elementAtIndex:" receiver
      let index ← intOperand "elementAtIndex:" argument
      elementAt elements index)]

/-- The messages of maps. -/
def mapMessages : MessageTable World := .ofList
  [("count", .computingUnary .int fun receiver => do
      let entries ← mapOperand "count" receiver
      return count entries),
    ("componentsJoinedByString:", .computing .string .string fun receiver argument => do
      let entries ← mapOperand "componentsJoinedByString:" receiver
      let separator ← stringOperand "componentsJoinedByString:" argument
      return joined separator (entries.map Prod.snd)),
    ("keys", .computingUnary .array fun receiver => do
      let entries ← mapOperand "keys" receiver
      return .array (entries.map fun entry => .string entry.1)),
    ("values", .computingUnary .array fun receiver => do
      let entries ← mapOperand "values" receiver
      return .array (entries.map Prod.snd)),
    ("randomElement", ⟨.unary .any, fun receiver _ =>
      withOperands (mapOperand "randomElement" receiver) fun entries =>
        choosing (entries.map Prod.snd)⟩),
    ("elementForKey:", .computing .string .any fun receiver argument => do
      let entries ← mapOperand "elementForKey:" receiver
      let key ← stringOperand "elementForKey:" argument
      elementFor entries key)]

end MessageExpr.Collective
