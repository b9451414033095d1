import MessageExpr.Proofs.Run.Dispatch

/-!
# Sends that are answered

The answer of a message that computes its reply depends on the receiver and the argument alone.
Sending it asks the gatekeeper and starts the implementation, as every send does; unless the
gatekeeper refuses, the send then ends with the reply (`AnswersWith`). This needs the message to be
found, an argument that is given to the implementation as it is, and a reply that passes the check
if there is one (`answersWith_of_reply`). The entries of the receiver's own table are found
(`Directory.find?_of_entry`).
-/

set_option autoImplicit false

namespace MessageExpr

variable {World : Type} {context : Context World} {receiver : Value} {selector : String}

/-- A send with a reply that does not depend on the context: the gatekeeper is asked, then the
implementation starts on the argument, and the reply is the end. -/
def answering (context : Context World) (receiver : Value) (selector : String)
    (signature : Signature) (argument : Option Value) (reply : Except BuiltinFailure Value) :
    Run World Value :=
  (Run.record (.sent receiver selector argument)).andThen fun _ =>
    (context.ask selector signature).andThen fun _ =>
      (Run.record (.ran selector signature receiver (argument.getD .null))).andThen fun _ =>
        .ofExcept (reply.mapError Failure.ofBuiltin)

/-- Sending the message ends with the reply, unless the gatekeeper refuses the message. -/
def AnswersWith (context : Context World) (receiver : Value) (selector : String)
    (argument : Option Value) (reply : Except BuiltinFailure Value) : Prop :=
  ∃ signature, send context receiver selector argument =
    answering context receiver selector signature argument reply

/-- The outcome of a reply. -/
def Outcome.ofReply : Except BuiltinFailure Value → Outcome Value
  | .ok result => .value result
  | .error cause => .failure (.ofBuiltin cause)

/-- Where no gatekeeper is asked, the reply is the end of the send, and the state stays. -/
theorem AnswersWith.stays {argument : Option Value} {reply : Except BuiltinFailure Value}
    (answers : AnswersWith context receiver selector argument reply)
    (nobody : context.gatekeeper = none) (world : World) :
    (send context receiver selector argument).Stays world (.ofReply reply) := by
  obtain ⟨signature, ends⟩ := answers
  rw [ends, answering, Context.ask_eq_returning nobody]
  cases reply with
  | ok value => exact ⟨_, rfl⟩
  | error failure => exact ⟨_, rfl⟩

theorem AnswersWith.outcome {argument : Option Value} {value : Value}
    (answers : AnswersWith context receiver selector argument (.ok value))
    (nobody : context.gatekeeper = none) (world : World) :
    (send context receiver selector argument world).outcome = .value value :=
  (answers.stays nobody world).outcome_eq

/-- A send whose message is found and whose argument is prepared. -/
theorem sendWithin_of_prepared {message : Message World} {argument : Option Value}
    {received : Value}
    (found : context.directory.find? receiver selector = some message)
    (isPrepared : prepareArgument selector message.signature.argument argument = .ok received)
    (levels : Nat) :
    sendWithin context (levels + 1) receiver selector argument =
      (Run.record (.sent receiver selector argument)).andThen fun _ =>
        (context.ask selector message.signature).andThen fun _ =>
          (Run.record (.ran selector message.signature receiver received)).andThen fun _ =>
            implement context (sendWithin context levels) selector message receiver received := by
  have delivered : deliver context (sendWithin context levels) receiver selector message argument =
      (context.ask selector message.signature).andThen fun _ =>
        (Run.record (.ran selector message.signature receiver received)).andThen fun _ =>
          implement context (sendWithin context levels) selector message receiver received := by
    rw [deliver, isPrepared, Run.ofExcept, Run.returning_andThen]
    simp only [perform, Run.andThen_assoc]
    rfl
  rw [← delivered, sendWithin, found]

/-- A context without a gatekeeper and without hosts. -/
def plainContext : Context Unit where
  clock world := (default, world)
  choose _ world := (0, world)
  userInfo := none
  gatekeeper := none
  maxDepth := none
  directory _ := .empty
  hostNesting := 0

/-- An own message of the receiver is the one that is found. -/
theorem Directory.find?_of_own {directory : Directory World} {message : Message World}
    (own : (directory.ownMessages receiver).get? selector = some message) :
    directory.find? receiver selector = some message := by
  rw [find?_eq_or, own, Option.some_or]

/-- A result of the declared type passes the check. -/
theorem checkResult_of_type {receiverType declared : ValueType} {result : Value}
    (isType : result.type = declared) (checked : declared.isUnchecked = false) :
    checkResult receiverType selector declared result = .ok result := by
  have present : result ≠ .null := by
    rintro rfl
    rw [← isType] at checked
    cases checked
  exact checkResult_eq_ok_iff.mpr ⟨rfl, .inr ⟨present, .inr isType⟩⟩

/-- **A message whose implementation computes its reply answers with it**, if the argument is given
to the implementation as it is and the reply passes the check. -/
theorem answersWith_of_reply {message : Message World} {argument : Option Value}
    {reply : Except BuiltinFailure Value}
    (found : context.directory.find? receiver selector = some message)
    (isPrepared : prepareArgument selector message.signature.argument argument =
      .ok (argument.getD .null))
    (replies : message.implementation receiver (argument.getD .null) = .ofOperands reply)
    (passes : ∀ value, reply = .ok value →
      checkResult receiver.type selector message.signature.result value = .ok value) :
    AnswersWith context receiver selector argument reply := by
  -- The check of the result is the one step of the send that leaves no event.
  have implements : ∀ nested, implement context nested selector message receiver
      (argument.getD .null) = .ofExcept (reply.mapError Failure.ofBuiltin) := by
    intro nested
    rw [implement, replies, Behaviour.ofOperands, Behaviour.run]
    cases reply with
    | error failure => rfl
    | ok value => exact congrArg Run.ofExcept (passes value rfl)
  refine ⟨message.signature, ?_⟩
  rw [send, Context.sendNesting, sendWithin_of_prepared found isPrepared, implements]
  rfl

/-- A message that computes its reply from an argument of the declared type. -/
theorem answersWith_of_computing {expected result : ValueType} {argument : Value}
    {compute : Value → Value → Except BuiltinFailure Value} {reply : Except BuiltinFailure Value}
    (found : context.directory.find? receiver selector = some (.computing expected result compute))
    (isType : argument.type = expected) (present : argument ≠ .null)
    (checked : result.isUnchecked = false) (computes : compute receiver argument = reply)
    (keeps : ∀ value, reply = .ok value → value.type = result) :
    AnswersWith context receiver selector (some argument) reply :=
  answersWith_of_reply found (prepareArgument_of_admits present (.inr isType))
    (congrArg Behaviour.ofOperands computes)
    fun value isValue => checkResult_of_type (keeps value isValue) checked

/-- A message that computes its reply from the receiver. -/
theorem answersWith_of_computingUnary {result : ValueType}
    {compute : Value → Except BuiltinFailure Value} {reply : Except BuiltinFailure Value}
    (found : context.directory.find? receiver selector = some (.computingUnary result compute))
    (checked : result.isUnchecked = false) (computes : compute receiver = reply)
    (keeps : ∀ value, reply = .ok value → value.type = result) :
    AnswersWith context receiver selector none reply :=
  answersWith_of_reply found rfl (congrArg Behaviour.ofOperands computes)
    fun value isValue => checkResult_of_type (keeps value isValue) checked

/-- An entry of the receiver's own table is found. -/
theorem Directory.find?_of_entry {directory : Directory World}
    {entries : List (String × Message World)} {message : Message World}
    (table : directory.ownMessages receiver = .ofList entries)
    (distinct : (entries.map Prod.fst).Nodup) (member : (selector, message) ∈ entries) :
    directory.find? receiver selector = some message := by
  apply find?_of_own
  rw [table, Dictionary.get?_ofList_of_mem distinct member]

/-- A message that computes its reply is found where it is an entry of the receiver's own table. -/
theorem answersWith_of_entry {entries : List (String × Message World)}
    {expected result : ValueType} {argument : Value}
    {compute : Value → Value → Except BuiltinFailure Value} {reply : Except BuiltinFailure Value}
    (table : context.directory.ownMessages receiver = .ofList entries)
    (distinct : (entries.map Prod.fst).Nodup)
    (member : (selector, .computing expected result compute) ∈ entries)
    (isType : argument.type = expected) (present : argument ≠ .null)
    (checked : result.isUnchecked = false) (computes : compute receiver argument = reply)
    (keeps : ∀ value, reply = .ok value → value.type = result) :
    AnswersWith context receiver selector (some argument) reply :=
  answersWith_of_computing (Directory.find?_of_entry table distinct member) isType present checked
    computes keeps

end MessageExpr
