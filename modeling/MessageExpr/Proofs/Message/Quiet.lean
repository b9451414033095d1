import MessageExpr.Proofs.Message.Forms
import MessageExpr.Proofs.Value.HostFree

/-!
# Messages that send nothing

Of the messages that no host provides, only `map:` sends others, and its argument is checked. Only
those of two selectors choose (`selectorsOfChoice`). All the others do nothing but reply, after a look
at the clock if they need one (`Behaviour.Quiet`, `Directory.quiet_of_find?`).
-/

set_option autoImplicit false

namespace MessageExpr

variable {World : Type}

/-- The selectors of the messages that choose. -/
def selectorsOfChoice : List String := ["randomElement", "shuffledArray"]

/-- The behaviour replies, after reading the clock and after choosing if it may choose. -/
inductive Behaviour.Quiet (chooses : Prop) : Behaviour World → Prop where
  | finish (reply : Except Failure Value) : Quiet chooses (.finish reply)
  | now {next : Instant → Behaviour World} (goesOn : ∀ instant, (next instant).Quiet chooses) :
      Quiet chooses (.now next)
  | choose {count : Nat} {next : Nat → Behaviour World} (allowed : chooses)
      (goesOn : ∀ index, (next index).Quiet chooses) : Quiet chooses (.choose count next)

/-- A message that can be sent without an argument sends nothing, and chooses only if it is one of
those that do. -/
def Message.Quiet (selector : String) (message : Message World) : Prop :=
  message.signature.argument.isUnchecked = true →
    ∀ receiver argument,
      (message.implementation receiver argument).Quiet (selector ∈ selectorsOfChoice)

/-! ## Collections -/

namespace Collective

variable {chooses : Prop}

theorem quiet_withOperands {Data : Type} {operands : Except BuiltinFailure Data}
    {next : Data → Behaviour World} (goesOn : ∀ data, (next data).Quiet chooses) :
    (withOperands operands next).Quiet chooses := by
  cases operands with
  | ok data => exact goesOn data
  | error failure => exact .finish _

theorem quiet_choosing (allowed : chooses) (values : List Value) :
    (choosing values : Behaviour World).Quiet chooses := by
  rw [choosing]
  split
  · exact .finish _
  · exact .choose allowed fun _ => .finish _

theorem quiet_shuffling (allowed : chooses) (steps : Nat) (left taken : List Value) :
    (shuffling steps left taken : Behaviour World).Quiet chooses := by
  induction steps generalizing left taken with
  | zero => exact .finish _
  | succ steps ih => exact .choose allowed fun _ => ih _ _

end Collective

/-! ## Messages that are found -/

/-- **Messages of all forms are quiet.** The one that sends is not sent without an argument. -/
theorem Message.Form.quiet {selector : String} {message : Message World}
    (form : message.Form selector) : message.Quiet selector := by
  intro unchecked receiver argument
  cases form with
  | computing => exact .finish _
  | computingUnary => exact .finish _
  | replying => exact .finish _
  | reading => exact .now fun _ => .finish _
  | mapping => cases unchecked
  | choosing operands values =>
      have allowed : "randomElement" ∈ selectorsOfChoice := List.mem_cons_self
      exact Collective.quiet_withOperands fun data =>
        Collective.quiet_choosing allowed (values data)
  | shuffling =>
      have allowed : "shuffledArray" ∈ selectorsOfChoice :=
        List.mem_cons_of_mem _ List.mem_cons_self
      exact Collective.quiet_withOperands fun elements =>
        Collective.quiet_shuffling allowed elements.length elements []

/-- **What a value free of hosts understands is quiet.** -/
theorem Directory.quiet_of_find? {directory : Directory World} {receiver : Value}
    (hostFree : receiver.HostFree) {selector : String} {message : Message World}
    (found : directory.find? receiver selector = some message) : message.Quiet selector := by
  rcases find?_form found with ⟨host, rfl, -⟩ | form
  · cases hostFree
  · exact form.quiet

end MessageExpr
