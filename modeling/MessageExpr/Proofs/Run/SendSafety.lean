import MessageExpr.Proofs.Message.Soundness
import MessageExpr.Proofs.Run.Sequence

/-!
# Safe sends

Without a gatekeeper, a message that a value free of hosts is sent ends with a value that is there
and free of hosts, or with an ordinary failure (`send_safe`). Sends are nested at most twice: a
message that is sent without an argument is one that sends nothing (`unarySafe_sendWithin`), and every
other built-in message sends nothing but those.
-/

set_option autoImplicit false

namespace MessageExpr

variable {World : Type} {context : Context World} {maxDepth : Option Nat}
  {send : Value → String → Option Value → Run World Value}

/-- Messages without an argument are safe for values free of hosts. -/
def UnarySafe (maxDepth : Option Nat) (send : Value → String → Option Value → Run World Value) :
    Prop :=
  ∀ receiver selector, Value.HostFree receiver →
    (send receiver selector none).Safe maxDepth Value.Proper

/-- **A sound behaviour runs safely if what it sends is answered safely.** -/
theorem Behaviour.Sound.safe {sends : Prop} {good : Value → Prop} {behaviour : Behaviour World}
    (sound : behaviour.Sound maxDepth sends good)
    (sendSafe : sends → UnarySafe maxDepth send) :
    (behaviour.run context send).Safe maxDepth good := by
  induction behaviour with
  | finish reply =>
      cases reply with
      | ok value => exact .returning sound
      | error cause => exact .failing sound
  | send receiver selector argument next ih =>
      obtain ⟨allowed, receiverHostFree, rfl, okSound, errorSound⟩ := sound
      refine .attempt_andThen (sendSafe allowed receiver selector receiverHostFree) ?_ ?_
      · intro value proper
        exact ih (.ok value) (okSound value proper.hostFree)
      · intro cause ordinary
        exact ih (.error cause) (errorSound cause ordinary)
  | now next ih => exact .andThen (.ofState _) fun instant _ => ih instant (sound instant)
  | userInfo next => exact sound.elim
  | choose count next ih =>
      exact .andThen (.ofState _) fun choice _ => ih (choice % count) (sound (choice % count))
  | change update next => exact sound.elim

/-- A reply passes the check of its result, or is the missing value where it may be. -/
theorem checkResult_safe {selector : String} {result : ValueType} {value : Value}
    (replies : Replies selector result value) (declares : result ≠ .null) (receiver : ValueType) :
    (Run.ofExcept (checkResult receiver selector result value) : Run World Value).Safe maxDepth
      Value.Proper := by
  obtain ⟨hostFree, admitted, missing⟩ := replies
  rw [checkResult]
  cases isNull : value.isNull with
  | true =>
      rw [if_pos rfl, if_neg declares]
      exact .failing (missing isNull)
  | false =>
      have accepted : (result.isUnchecked || decide (result = value.type)) = true := by
        rcases admitted with unchecked | isType
        · rw [unchecked, Bool.true_or]
        · rw [isType, decide_eq_true rfl, Bool.or_true]
      rw [if_neg Bool.false_ne_true, if_pos accepted]
      exact .returning ⟨hostFree, isNull⟩

section Hostless

variable (noGatekeeper : context.gatekeeper = none) {receiver : Value}
include noGatekeeper

/-- Delivering a sound message is safe if unary sends are; these matter only if there is an
argument. -/
theorem deliver_safe {selector : String} {message : Message World}
    (sound : message.Sound maxDepth receiver selector) {argument : Option Value}
    (hostFree : ∀ value, argument = some value → value.HostFree)
    (sendSafe : argument ≠ none → UnarySafe maxDepth send) :
    (deliver context send receiver selector message argument).Safe maxDepth Value.Proper := by
  rw [deliver]
  cases isPrepared : prepareArgument selector message.signature.argument argument with
  | error cause =>
      rw [Run.ofExcept, Run.failing_andThen]
      exact .failing (ordinary_of_prepareArgument_eq_error isPrepared)
  | ok prepared =>
      obtain ⟨preparedHostFree, admits⟩ := prepareArgument_admits isPrepared hostFree
      have keeps := sound.keeps prepared preparedHostFree admits
      -- A message that may send has a checked argument, so its argument was not missing.
      have nested : message.signature.argument.isUnchecked = false → UnarySafe maxDepth send := by
        intro checked
        refine sendSafe fun missing => ?_
        rw [missing] at isPrepared
        rw [isUnchecked_of_prepareArgument_none isPrepared] at checked
        cases checked
      have performs : (perform context send selector message receiver prepared).Safe maxDepth
          (Replies selector message.signature.result) :=
        .andThen (.record _) fun _ _ => keeps.safe nested
      have unasked : context.ask selector message.signature = .returning () := by
        rw [Context.ask, noGatekeeper]
      simp only [Run.ofExcept, Run.returning_andThen, unasked]
      exact .andThen performs fun result replies =>
        checkResult_safe replies sound.declares receiver.type

theorem sendWithin_safe (receiverHostFree : receiver.HostFree) {argument : Option Value}
    (hostFree : ∀ value, argument = some value → value.HostFree) {levels : Nat}
    (sendSafe : argument ≠ none → UnarySafe maxDepth (sendWithin context levels))
    (selector : String) :
    (sendWithin context (levels + 1) receiver selector argument).Safe maxDepth Value.Proper := by
  refine .andThen (.record _) fun _ _ => ?_
  cases found : context.directory.find? receiver selector with
  | none => exact .failing trivial
  | some message =>
      have sound : message.Sound maxDepth receiver selector :=
        Directory.sound_of_find? receiverHostFree found
      exact deliver_safe noGatekeeper sound hostFree sendSafe

/-- One level is enough for a message without an argument. -/
theorem unarySafe_sendWithin (levels : Nat) :
    UnarySafe maxDepth (sendWithin context (levels + 1)) := by
  intro receiver selector receiverHostFree
  refine sendWithin_safe noGatekeeper receiverHostFree ?_ (absurd rfl) selector
  intro value absent
  cases absent

/-- **Every send among values free of hosts is safe.** -/
theorem send_safe (receiverHostFree : receiver.HostFree) (selector : String)
    {argument : Option Value} (hostFree : ∀ value, argument = some value → value.HostFree) :
    (MessageExpr.send context receiver selector argument).Safe maxDepth Value.Proper :=
  sendWithin_safe noGatekeeper receiverHostFree hostFree
    (fun _ => unarySafe_sendWithin noGatekeeper context.hostNesting) selector

end Hostless

end MessageExpr
