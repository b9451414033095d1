import MessageExpr.Proofs.Run.SendSafety
import MessageExpr.Proofs.Run.Unary
import Mathlib.Data.List.Forall2

/-!
# Sending to every element

`map:` sends its argument, as a selector, to the elements of an array in their order, by the
dispatch of every send and one level below its own (`send_map`). It answers with the results in this
order or stops at the first send that fails; behind this send nothing is sent (`mapping_sendEach`).

Sends to elements end as they would by themselves (`nestedSend_settles`). Only one to a host object
may have no answer one level below. Elements that always answer in the same way make a mapping that
does (`sendEach_stays`), and one mapping shows whether they do (`alwaysAnswer_of_sendEach`).
-/

set_option autoImplicit false

namespace MessageExpr

variable {World : Type} {context : Context World}

/-! ## The elements in their order -/

/-- Sends a selector to values in their order, up to the first that does not answer. -/
def sendEach (send : Value → String → Option Value → Run World Value) (selector : String) :
    List Value → Run World (List Value)
  | [] => .returning []
  | element :: rest =>
    (send element selector none).andThen fun result =>
      (sendEach send selector rest).andThen fun results => .returning (result :: results)

theorem sendEach_append (send : Value → String → Option Value → Run World Value) (selector : String)
    (front back : List Value) :
    sendEach send selector (front ++ back) =
      (sendEach send selector front).andThen fun results =>
        (sendEach send selector back).andThen fun further => .returning (results ++ further) := by
  induction front with
  | nil => exact (Run.andThen_returning _).symm
  | cons element rest ih =>
      rw [List.cons_append, sendEach, sendEach, ih]
      simp only [Run.andThen_assoc, Run.returning_andThen, List.cons_append]

/-- How implementations send: one level below the send that they belong to. -/
def nestedSend (context : Context World) : Value → String → Option Value → Run World Value :=
  sendWithin context (context.hostNesting + 1)

theorem run_sendToEach (send : Value → String → Option Value → Run World Value) (selector : String)
    (elements collected : List Value) :
    (Collective.sendToEach selector elements collected).run context send =
      (sendEach send selector elements).andThen fun results =>
        .returning (.array (collected.reverse ++ results)) := by
  induction elements generalizing collected with
  | nil =>
      rw [sendEach, Run.returning_andThen, List.append_nil]
      rfl
  | cons element rest ih =>
      rw [Collective.sendToEach, Behaviour.run, Run.attempt_andThen fun cause => rfl, sendEach]
      simp only [ih, Run.andThen_assoc, Run.returning_andThen]
      simp

theorem send_map (context : Context World) (elements : List Value) (selector : String) :
    send context (.array elements) "map:" (some (.string selector)) =
      (Run.record (.sent (.array elements) "map:" (some (.string selector)))).andThen fun _ =>
        (context.ask "map:" ⟨.string, .array⟩).andThen fun _ =>
          (Run.record (.ran "map:" ⟨.string, .array⟩ (.array elements) (.string selector))).andThen
            fun _ => (sendEach (nestedSend context) selector elements).andThen fun results =>
              .returning (.array results) := by
  have found := @Directory.find?_of_entry _ (.array elements) "map:" context.directory _ _ rfl
    (by simp) (List.mem_of_getElem? (i := 3) rfl)
  have implements : ∀ nested, ∀ message : Message World, message.signature = ⟨.string, .array⟩ →
      message.implementation (.array elements) (.string selector) =
        Collective.sendToEach selector elements [] →
      implement context nested "map:" message (.array elements) (.string selector) =
        (sendEach nested selector elements).andThen fun results => .returning (.array results) := by
    intro nested message signature sends
    rw [implement, sends, signature, run_sendToEach, Run.andThen_assoc]
    rfl
  have isPrepared : prepareArgument "map:" .string (some (.string selector)) =
      .ok (.string selector) := rfl
  rw [send, Context.sendNesting, sendWithin_of_prepared found isPrepared, implements _ _ rfl rfl]
  rfl

/-! ## All answers or the first failure -/

/-- All elements answer, one after the other. -/
inductive AnswerInOrder (send : Value → String → Option Value → Run World Value)
    (selector : String) : List Value → List Value → World → World → List Event → Prop where
  | done (world : World) : AnswerInOrder send selector [] [] world world []
  | next {element result : Value} {rest results : List Value} {world reached last : World}
      {events further : List Event}
      (answers : send element selector none world = ⟨.value result, reached, events⟩)
      (goesOn : AnswerInOrder send selector rest results reached last further) :
      AnswerInOrder send selector (element :: rest) (result :: results) world last
        (events ++ further)

theorem AnswerInOrder.length_eq {send : Value → String → Option Value → Run World Value}
    {selector : String} {elements results : List Value} {world last : World} {events : List Event}
    (answer : AnswerInOrder send selector elements results world last events) :
    results.length = elements.length := by
  induction answer with
  | done => rfl
  | next _ _ ih => exact congrArg (· + 1) ih

/-- How sends to elements end: with all results, with the first failure, or at a send of a host that
is nested too deeply. Nothing is sent behind the element where it ends. -/
inductive Mapping (context : Context World) (selector : String) (elements : List Value)
    (world : World) : Ending World (List Value) → Prop where
  | all {results : List Value} {last : World} {events : List Event}
      (answer : AnswerInOrder (send context) selector elements results world last events) :
      Mapping context selector elements world ⟨.value results, last, events⟩
  | stopped {before after results : List Value} {element : Value} {reached last : World}
      {events further : List Event} {cause : Failure}
      (parts : elements = before ++ element :: after)
      (answer : AnswerInOrder (send context) selector before results world reached events)
      (fails : send context element selector none reached = ⟨.failure cause, last, further⟩) :
      Mapping context selector elements world ⟨.failure cause, last, events ++ further⟩
  | exhausted {before after results : List Value} {element : Value} {reached last : World}
      {events further : List Event} (parts : elements = before ++ element :: after)
      (answer : AnswerInOrder (send context) selector before results world reached events)
      (hosted : ¬ element.HostFree)
      (tooDeep : nestedSend context element selector none reached = ⟨.exhausted, last, further⟩) :
      Mapping context selector elements world ⟨.exhausted, last, events ++ further⟩

/-- There is one result for each element. -/
theorem Mapping.length_eq {selector : String} {elements results : List Value} {world : World}
    {ending : Ending World (List Value)} (mapping : Mapping context selector elements world ending)
    (ends : ending.outcome = .value results) : results.length = elements.length := by
  cases mapping with
  | all answer =>
      cases ends
      exact answer.length_eq
  | stopped => cases ends
  | exhausted => cases ends

theorem nestedSend_settles (receiver : Value) (selector : String) (argument : Option Value) :
    (nestedSend context receiver selector argument).Settles
      (send context receiver selector argument) :=
  sendWithin_settles context (context.hostNesting + 1) receiver selector argument

/-- A further element in front, which answers. -/
theorem Mapping.cons {selector : String} {element result : Value} {rest : List Value}
    {world reached : World} {events : List Event} {run : Run World (List Value)}
    (answers : send context element selector none world = ⟨.value result, reached, events⟩)
    (mapping : Mapping context selector rest reached (run reached)) :
    Mapping context selector (element :: rest) world
      { run.andThen (fun results => .returning (result :: results)) reached with
        events := events ++
          (run.andThen (fun results => .returning (result :: results)) reached).events } := by
  generalize ends : run reached = ending at mapping
  cases mapping with
  | all answer =>
      rw [Run.andThen_of_value ends]
      simpa [Run.returning] using Mapping.all (.next answers answer)
  | stopped parts answer fails =>
      rw [Run.andThen_of_failure ends, ← List.append_assoc]
      exact .stopped (congrArg (element :: ·) parts) (.next answers answer) fails
  | exhausted parts answer hosted tooDeep =>
      rw [Run.andThen_of_exhausted ends, ← List.append_assoc]
      exact .exhausted (congrArg (element :: ·) parts) (.next answers answer) hosted tooDeep

/-- **The elements answer in their order, or the first failure is the end.** -/
theorem mapping_sendEach (selector : String) (elements : List Value) (world : World) :
    Mapping context selector elements world
      (sendEach (nestedSend context) selector elements world) := by
  induction elements generalizing world with
  | nil => exact .all (.done world)
  | cons element rest ih =>
      rw [sendEach]
      have settles := @nestedSend_settles _ context element selector none world
      cases ending : nestedSend context element selector none world with
      | mk outcome reached events =>
          rw [ending] at settles
          cases outcome with
          | exhausted =>
              have hosted : ¬ element.HostFree := fun hostFree =>
                sendWithin_unary_ends hostFree selector context.hostNesting world
                  (congrArg Ending.outcome ending)
              rw [Run.andThen_of_exhausted ending]
              exact .exhausted (List.nil_append _).symm (.done world) hosted ending
          | failure cause =>
              have fails : send context element selector none world = _ :=
                settles.resolve_left (by simp)
              rw [Run.andThen_of_failure ending]
              exact .stopped (List.nil_append _).symm (.done world) fails
          | value result =>
              have answers : send context element selector none world = _ :=
                settles.resolve_left (by simp)
              rw [Run.andThen_of_value ending]
              exact (ih reached).cons answers

/-! ## Elements that always answer -/

/-- In every state the element answers with the result and the state stays. -/
def AlwaysAnswers (send : Value → String → Option Value → Run World Value) (selector : String)
    (element result : Value) : Prop :=
  ∀ world, (send element selector none).Stays world (.value result)

section Always

variable {send : Value → String → Option Value → Run World Value} {selector : String}

theorem sendEach_stays {elements results : List Value}
    (answer : List.Forall₂ (AlwaysAnswers send selector) elements results) (world : World) :
    (sendEach send selector elements).Stays world (.value results) := by
  induction answer with
  | nil => exact .returning [] world
  | cons here _ ih => exact (here world).andThen (ih.andThen (.returning _ world))

/-- If steady elements answer once, they always answer. -/
theorem alwaysAnswer_of_sendEach {elements results : List Value}
    (steady : ∀ element ∈ elements, (send element selector none).Steady) {world : World}
    (ends : (sendEach send selector elements world).outcome = .value results) :
    List.Forall₂ (AlwaysAnswers send selector) elements results := by
  induction elements generalizing results world with
  | nil =>
      cases ends
      exact .nil
  | cons element rest ih =>
      obtain ⟨⟨outcome, stays⟩, restSteady⟩ := List.forall_mem_cons.mp steady
      obtain ⟨result, answers, goesOn⟩ := Run.value_of_andThen ends
      obtain rfl : outcome = .value result := (stays world).outcome_eq.symm.trans answers
      obtain ⟨restResults, restAnswer, same⟩ := Run.value_of_andThen goesOn
      cases same
      exact .cons stays (ih restSteady restAnswer)

end Always

end MessageExpr
