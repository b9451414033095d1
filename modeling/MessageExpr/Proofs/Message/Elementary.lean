import MessageExpr.Proofs.Message.Forms

/-!
# Elementary messages

A message that no host provides does little: it computes a result or one of the failures of built-in
messages, reads the clock, makes a choice, or sends a message without an argument and stops with that
message's failure if it has one (`Behaviour.Elementary`). Neither the user information nor the state
of the host has a part in it.

Every message that is found is therefore a host's own or elementary (`Directory.find?_elementary`).

An implementation passes failures on if after a send that failed it sends nothing more and fails in
the same way (`Behaviour.PassesFailuresOn`). Elementary messages do, so all messages that are found
do if those of the host do (`Directory.find?_passesFailuresOn`).
-/

set_option autoImplicit false

namespace MessageExpr

variable {World : Type}

/-- The steps of messages that no host provides. -/
inductive Behaviour.Elementary : Behaviour World → Prop where
  | returning (value : Value) : Elementary (.returning value)
  | failing (failure : BuiltinFailure) : Elementary (.failing (.ofBuiltin failure))
  | send {receiver : Value} {selector : String} {next : Except Failure Value → Behaviour World}
      (fails : ∀ cause, next (.error cause) = .failing cause)
      (goesOn : ∀ value, (next (.ok value)).Elementary) :
      Elementary (.send receiver selector none next)
  | now {next : Instant → Behaviour World} (goesOn : ∀ instant, (next instant).Elementary) :
      Elementary (.now next)
  | choose {count : Nat} {next : Nat → Behaviour World}
      (goesOn : ∀ index, (next index).Elementary) : Elementary (.choose count next)

theorem Behaviour.elementary_ofOperands (reply : Except BuiltinFailure Value) :
    (ofOperands reply : Behaviour World).Elementary := by
  cases reply with
  | ok value => exact .returning value
  | error failure => exact .failing failure

/-- All behaviours of a message are elementary. -/
def Message.Elementary (message : Message World) : Prop :=
  ∀ receiver argument, (message.implementation receiver argument).Elementary

/-! ## Collections -/

namespace Collective

theorem elementary_sendToEach (selector : String) (elements results : List Value) :
    (sendToEach selector elements results : Behaviour World).Elementary := by
  induction elements generalizing results with
  | nil => exact .returning _
  | cons element rest ih => exact .send (fun cause => rfl) fun value => ih (value :: results)

theorem elementary_choosing (values : List Value) :
    (choosing values : Behaviour World).Elementary := by
  rw [choosing]
  split
  · exact .returning .null
  · exact .choose fun index => .returning _

theorem elementary_shuffling (steps : Nat) (left taken : List Value) :
    (shuffling steps left taken : Behaviour World).Elementary := by
  induction steps generalizing left taken with
  | zero => exact .returning _
  | succ steps ih => exact .choose fun index => ih _ _

theorem elementary_withOperands {Data : Type} {operands : Except BuiltinFailure Data}
    {next : Data → Behaviour World} (goesOn : ∀ data, (next data).Elementary) :
    (withOperands operands next).Elementary := by
  cases operands with
  | ok data => exact goesOn data
  | error failure => exact .failing failure

end Collective

/-! ## Messages that are found -/

/-- **Messages of all forms are elementary.** -/
theorem Message.Form.elementary {selector : String} {message : Message World}
    (form : message.Form selector) : message.Elementary := by
  intro receiver argument
  cases form with
  | computing => exact Behaviour.elementary_ofOperands _
  | computingUnary => exact Behaviour.elementary_ofOperands _
  | replying => exact .returning _
  | reading => exact .now fun _ => .returning _
  | mapping =>
      refine Collective.elementary_withOperands fun elements => ?_
      exact Collective.elementary_withOperands fun selector =>
        Collective.elementary_sendToEach selector elements []
  | choosing operands values =>
      exact Collective.elementary_withOperands fun data =>
        Collective.elementary_choosing (values data)
  | shuffling =>
      exact Collective.elementary_withOperands fun elements =>
        Collective.elementary_shuffling elements.length elements []

namespace Directory

variable {directory : Directory World} {value : Value} {selector : String} {message : Message World}

/-- **A message that is found is one of a host's or elementary.** -/
theorem find?_elementary (found : directory.find? value selector = some message) :
    (∃ identity, (directory identity).get? selector = some message) ∨ message.Elementary := by
  rcases find?_form found with ⟨host, -, own⟩ | form
  · exact .inl ⟨host.identity, own⟩
  · exact .inr form.elementary

/-- What every elementary message has and the messages of the host have, all messages have. -/
theorem property_of_find? {property : Message World → Prop}
    (elementary : ∀ message : Message World, message.Elementary → property message)
    (hosts : ∀ identity selector message,
      (directory identity).get? selector = some message → property message)
    (found : directory.find? value selector = some message) : property message := by
  rcases find?_elementary found with ⟨identity, own⟩ | isElementary
  · exact hosts identity selector message own
  · exact elementary message isElementary

end Directory

/-! ## Behaviours that pass failures on -/

namespace Behaviour

/-- Sends nothing and ends with this failure. -/
def EndsIn (cause : Failure) : Behaviour World → Prop
  | .finish reply => reply = .error cause
  | .send _ _ _ _ => False
  | .now next => ∀ instant, (next instant).EndsIn cause
  | .userInfo next => ∀ info, (next info).EndsIn cause
  | .choose _ next => ∀ choice, (next choice).EndsIn cause
  | .change _ next => ∀ world, (next world).EndsIn cause

/-- After a send that failed, sends nothing more and ends with its failure. -/
def PassesFailuresOn : Behaviour World → Prop
  | .finish _ => True
  | .send _ _ _ next =>
    (∀ cause, (next (.error cause)).EndsIn cause) ∧ ∀ value, (next (.ok value)).PassesFailuresOn
  | .now next => ∀ instant, (next instant).PassesFailuresOn
  | .userInfo next => ∀ info, (next info).PassesFailuresOn
  | .choose _ next => ∀ choice, (next choice).PassesFailuresOn
  | .change _ next => ∀ world, (next world).PassesFailuresOn

end Behaviour

/-- All behaviours of a message pass failures on. -/
def Message.PassesFailuresOn (message : Message World) : Prop :=
  ∀ receiver argument, (message.implementation receiver argument).PassesFailuresOn

/-- **Elementary behaviours pass failures on.** -/
theorem Behaviour.Elementary.passesFailuresOn {behaviour : Behaviour World}
    (elementary : behaviour.Elementary) : behaviour.PassesFailuresOn := by
  induction elementary with
  | returning value => trivial
  | failing failure => trivial
  | send fails _ ih =>
      refine ⟨fun cause => ?_, ih⟩
      rw [fails]
      rfl
  | now _ ih => exact ih
  | choose _ ih => exact ih

/-! ## Tables that pass failures on -/

/-- All messages of a table pass failures on. -/
def MessageTable.PassesFailuresOn (table : MessageTable World) : Prop :=
  ∀ selector message, table.get? selector = some message → message.PassesFailuresOn

theorem MessageTable.passesFailuresOn_ofList {entries : List (String × Message World)}
    (all : ∀ entry ∈ entries, entry.2.PassesFailuresOn) :
    MessageTable.PassesFailuresOn (.ofList entries) :=
  fun _ _ found =>
    Dictionary.property_of_get?_ofList (fun _ message => message.PassesFailuresOn) all found

/-- Every message that is found passes failures on if those of the host do. -/
theorem Directory.find?_passesFailuresOn {directory : Directory World}
    (hosts : ∀ identity, MessageTable.PassesFailuresOn (directory identity)) {value : Value}
    {selector : String} {message : Message World}
    (found : directory.find? value selector = some message) : message.PassesFailuresOn :=
  property_of_find?
    (fun _ elementary receiver argument => (elementary receiver argument).passesFailuresOn) hosts
    found

end MessageExpr
