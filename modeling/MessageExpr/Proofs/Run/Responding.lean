import MessageExpr.Proofs.Run.Dispatch

/-!
# Who responds to a selector

A value's messages are seen in three ways: a send looks one up, the common message
`respondsToSelector:` tells whether there is one, and the common message `selectors` lists them all.
A send ends at once with an unrecognised selector exactly if there is no message under it
(`notUnderstood_iff`). So the three views are views of one table (`message_views_agree`).
-/

set_option autoImplicit false

namespace MessageExpr

variable {World : Type} {context : Context World} {receiver : Value} {selector : String}
  {argument : Option Value} {world : World}

/-- A send ends at once because the receiver does not understand the message. -/
def NotUnderstood (context : Context World) (receiver : Value) (selector : String)
    (argument : Option Value) (world : World) : Prop :=
  send context receiver selector argument world =
    ⟨.failure (.unrecognisedSelector selector receiver.type), world,
      [.sent receiver selector argument]⟩

/-- **A send is not understood exactly if its message is not found.** A message that is found fails
for another reason, or the gatekeeper is asked or an implementation runs before it fails. -/
theorem notUnderstood_iff :
    NotUnderstood context receiver selector argument world ↔
      context.directory.find? receiver selector = none := by
  have dispatch := sendWithin_dispatch context (context.hostNesting + 1) receiver selector argument
    world
  rw [NotUnderstood, send, Context.sendNesting]
  constructor
  · intro ends
    rw [ends] at dispatch
    generalize ending_eq : Ending.mk _ _ _ = ending at dispatch
    cases dispatch with
    | unknown absent => exact absent
    | unprepared found unprepared =>
        cases unprepared with
        | missing => cases ending_eq
        | mismatched => cases ending_eq
    | refused =>
        have events := congrArg Ending.events ending_eq
        simp at events
    | @ran message received questions entered =>
        have events := congrArg Ending.events ending_eq
        cases questions <;> simp at events
  · intro absent
    generalize sendWithin context (context.hostNesting + 2) receiver selector argument world =
      ending at dispatch
    cases dispatch with
    | unknown => rfl
    | unprepared found => simp [absent] at found
    | refused found => simp [absent] at found
    | ran found => simp [absent] at found

/-- **The three views of a value's messages agree.** The table of all messages holds what a send
looks up, own messages before common ones. The answer to `respondsToSelector:` is false exactly for
the selectors that a send does not understand. The listing has one line for each message in the
table, in strictly ascending order of the selectors, which shows the signature of the message that a
send looks up. -/
theorem message_views_agree (context : Context World) (receiver : Value) :
    let common := context.directory.commonMessages
    let table := context.directory.messages receiver
    (∀ selector,
      table.get? selector = context.directory.find? receiver selector ∧
      context.directory.find? receiver selector =
        ((context.directory.ownMessages receiver).get? selector).or (common.get? selector)) ∧
    (∃ responds, common.get? "respondsToSelector:" = some responds ∧
      ∀ selector, ∃ answer,
        responds.implementation receiver (.string selector) = .returning (.bool answer) ∧
        ∀ argument world,
          NotUnderstood context receiver selector argument world ↔ answer = false) ∧
    (∃ lists, common.get? "selectors" = some lists ∧
      ∀ argument, lists.implementation receiver argument = .returning (.string
        ("\n".intercalate ("**Selectors**" ::
          table.entries.map fun entry => entry.2.signature.line entry.1)))) ∧
    table.keys.Pairwise (· < ·) ∧
    ∀ selector message, (selector, message) ∈ table.entries ↔
      context.directory.find? receiver selector = some message := by
  intro common table
  have answers : ∀ selector, context.directory.find? receiver selector = none ↔
      ((context.directory.signatures receiver).get? selector).isSome = false := by
    intro selector
    rw [Directory.get?_signatures, Option.isSome_map, Option.isSome_eq_false_iff,
      Option.isNone_iff_eq_none]
  have listed : listing (context.directory.signatures receiver) =
      "\n".intercalate ("**Selectors**" ::
        table.entries.map fun entry => entry.2.signature.line entry.1) := by
    rw [listing_eq_intercalate, Directory.signatures_eq, Dictionary.mapItems, List.map_map]
    rfl
  refine ⟨fun selector => ⟨?_, ?_⟩, ?_, ?_, ?_, fun selector message => ?_⟩
  · exact context.directory.get?_messages receiver selector
  · exact context.directory.find?_eq_or receiver selector
  · refine ⟨_, context.directory.get?_commonMessages_respondsToSelector, fun selector => ?_⟩
    exact ⟨_, rfl, fun argument world => notUnderstood_iff.trans (answers selector)⟩
  · refine ⟨_, context.directory.get?_commonMessages_selectors, fun argument => ?_⟩
    exact congrArg (fun text => Behaviour.returning (.string text)) listed
  · exact table.ascending.map Prod.fst fun _ _ less => less
  · rw [← Dictionary.get?_eq_some_iff, context.directory.get?_messages]

end MessageExpr
