import MessageExpr.Proofs.Message.Elementary
import MessageExpr.Proofs.Run.Sequence
import MessageExpr.Proofs.Run.Trace

/-!
# Runs under a gatekeeper

A run is mediated if its events follow the grammar of `MediatedTrace` and a refusal is the failure
that it ends with (`Run.Mediated`). Runs in sequence are mediated if each of them is, and an
implementation that passes failures on is mediated if its sends are
(`Behaviour.PassesFailuresOn.mediated`). So every send is mediated if the messages of the host pass
failures on (`send_mediated`).
-/

set_option autoImplicit false

namespace MessageExpr

variable {World Result Next : Type} {context : Context World} {gatekeeper : Gatekeeper World}

/-! ## Mediated runs -/

/-- The events follow the grammar, and a refusal is what the run fails with. -/
def Ending.Mediated (context : Context World) (gatekeeper : Gatekeeper World)
    (ending : Ending World Result) : Prop :=
  ∃ refusal, MediatedTrace context gatekeeper ending.events refusal ∧
    ∀ cause, refusal = some cause → ending.outcome = .failure cause

/-- A run is mediated if all its endings are. -/
def Run.Mediated (context : Context World) (gatekeeper : Gatekeeper World)
    (run : Run World Result) : Prop :=
  ∀ world, (run world).Mediated context gatekeeper

/-- An ending without events is mediated. -/
theorem Ending.mediated_of_silent {ending : Ending World Result} (silent : ending.events = []) :
    ending.Mediated context gatekeeper :=
  ⟨none, silent ▸ .done, fun _ refused => nomatch refused⟩

namespace Run.Mediated

theorem returning (result : Result) :
    (Run.returning result : Run World Result).Mediated context gatekeeper :=
  fun _ => Ending.mediated_of_silent rfl

theorem failing (cause : Failure) :
    (Run.failing cause : Run World Result).Mediated context gatekeeper :=
  fun _ => Ending.mediated_of_silent rfl

theorem exhausted : (Run.exhausted : Run World Result).Mediated context gatekeeper :=
  fun _ => Ending.mediated_of_silent rfl

theorem ofState (step : World → Result × World) :
    (Run.ofState step).Mediated context gatekeeper :=
  fun _ => Ending.mediated_of_silent rfl

theorem ofExcept (computed : Except Failure Result) :
    (Run.ofExcept computed : Run World Result).Mediated context gatekeeper := by
  cases computed with
  | ok result => exact returning result
  | error cause => exact failing cause

/-- Runs in sequence are mediated if each of them is. -/
theorem andThen {first : Run World Result} {next : Result → Run World Next}
    (firstMediated : first.Mediated context gatekeeper)
    (nextMediated : ∀ result, (next result).Mediated context gatekeeper) :
    (first.andThen next).Mediated context gatekeeper := by
  intro world
  obtain ⟨refusal, trace, fails⟩ := firstMediated world
  rw [Run.andThen]
  cases ending : first world with
  | mk outcome reached events =>
      rw [ending] at trace fails
      cases outcome with
      | value result =>
          cases refusal with
          -- The first run did not fail, so nothing in it was refused.
          | some cause => cases fails cause rfl
          | none =>
              obtain ⟨later, further, laterFails⟩ := nextMediated result reached
              exact ⟨later, trace.append further, laterFails⟩
      | failure cause =>
          refine ⟨refusal, trace, fun refused same => ?_⟩
          cases fails refused same
          rfl
      | exhausted =>
          refine ⟨refusal, trace, fun refused same => ?_⟩
          cases fails refused same

end Run.Mediated

/-! ## Implementations -/

namespace Behaviour

variable {send : Value → String → Option Value → Run World Value}

/-- A behaviour that ends in a failure does so without events. -/
theorem EndsIn.run {cause : Failure} {behaviour : Behaviour World}
    (endsIn : behaviour.EndsIn cause) (world : World) :
    ∃ reached, behaviour.run context send world = ⟨.failure cause, reached, []⟩ := by
  induction behaviour generalizing world with
  | finish reply =>
      cases endsIn
      exact ⟨world, rfl⟩
  | send => exact endsIn.elim
  | now next ih => exact ih _ (endsIn _) _
  | userInfo next ih => exact ih _ (endsIn _) _
  | choose count next ih => exact ih _ (endsIn _) _
  | change update next ih => exact ih _ (endsIn _) _

/-- A send whose failures are passed on ends as if it were sent in sequence; only the state of the
host may differ. -/
theorem run_send_of_passesFailuresOn {receiver : Value} {selector : String}
    {argument : Option Value} {next : Except Failure Value → Behaviour World}
    (failing : ∀ cause, (next (.error cause)).EndsIn cause) (world : World) :
    ∃ final, (Behaviour.send receiver selector argument next).run context send world =
      { (send receiver selector argument).andThen
          (fun value => (next (.ok value)).run context send) world with world := final } := by
  simp only [Behaviour.run, Run.andThen, Run.attempt]
  cases ending : send receiver selector argument world with
  | mk outcome reached events =>
      cases outcome with
      | value value => exact ⟨_, rfl⟩
      | exhausted => exact ⟨_, rfl⟩
      | failure cause =>
          obtain ⟨final, ends⟩ : ∃ final,
              (next (.error cause)).run context send reached = ⟨.failure cause, final, []⟩ :=
            (failing cause).run reached
          exact ⟨final, by simp only [ends, List.append_nil]⟩

/-- **A behaviour that passes failures on is mediated if its sends are.** -/
theorem PassesFailuresOn.mediated
    (sendMediated : ∀ receiver selector argument,
      (send receiver selector argument).Mediated context gatekeeper)
    {behaviour : Behaviour World} (passes : behaviour.PassesFailuresOn) :
    (behaviour.run context send).Mediated context gatekeeper := by
  induction behaviour with
  | finish reply => exact .ofExcept reply
  | now next ih => exact .andThen (.ofState _) fun instant => ih instant (passes instant)
  | userInfo next ih => exact ih _ (passes _)
  | choose count next ih => exact .andThen (.ofState _) fun choice => ih _ (passes _)
  | change update next ih => exact .andThen (.ofState _) fun world => ih world (passes world)
  | send receiver selector argument next ih =>
      obtain ⟨failing, succeeding⟩ := passes
      intro world
      have inSequence := Run.Mediated.andThen (sendMediated receiver selector argument)
        (fun value => ih (.ok value) (succeeding value)) world
      obtain ⟨final, same⟩ := run_send_of_passesFailuresOn failing world
      rw [same]
      exact inSequence

end Behaviour

/-! ## Sends -/

/-- No send is delivered whose message is not found. -/
theorem not_delivers_of_find?_eq_none {receiver : Value} {selector : String}
    (argument : Option Value) (unknown : context.directory.find? receiver selector = none)
    (signature : Signature) (prepared : Value) :
    ¬ Delivers context receiver selector argument signature prepared := by
  rintro ⟨message, found, -, -⟩
  rw [unknown] at found
  cases found

/-- No send is delivered whose argument is not prepared. -/
theorem not_delivers_of_prepareArgument_eq_error {receiver : Value} {selector : String}
    {argument : Option Value} {message : Message World} {cause : Failure}
    (found : context.directory.find? receiver selector = some message)
    (unprepared : prepareArgument selector message.signature.argument argument = .error cause)
    (signature : Signature) (prepared : Value) :
    ¬ Delivers context receiver selector argument signature prepared := by
  rintro ⟨other, alsoFound, rfl, isPrepared⟩
  rw [found] at alsoFound
  cases alsoFound
  rw [unprepared] at isPrepared
  cases isPrepared

/-- Asking a gatekeeper that refuses is failing with its cause. -/
theorem Context.ask_of_refused (asks : context.gatekeeper = some gatekeeper) {selector : String}
    {signature : Signature} {world : World} {cause : Failure}
    (refuses : (gatekeeper selector signature world).1 = some cause) :
    context.ask selector signature world =
      ⟨.failure cause, (gatekeeper selector signature world).2,
        [.asked selector signature (some cause)]⟩ := by
  simp only [Context.ask, asks, Run.andThen, Run.ofState, Run.record, refuses, Run.failing,
    List.nil_append, List.append_nil]

theorem Context.ask_of_accepted (asks : context.gatekeeper = some gatekeeper) {selector : String}
    {signature : Signature} {world : World}
    (accepts : (gatekeeper selector signature world).1 = none) :
    context.ask selector signature world =
      ⟨.value (), (gatekeeper selector signature world).2, [.asked selector signature none]⟩ := by
  simp only [Context.ask, asks, Run.andThen, Run.ofState, Run.record, accepts, Run.returning,
    List.nil_append, List.append_nil]

section Delivery

variable {send : Value → String → Option Value → Run World Value} {receiver : Value}
  {selector : String} {message : Message World} {argument : Option Value} {prepared : Value}

/-- What an implementation does, and the check of its result. -/
def implement (context : Context World) (send : Value → String → Option Value → Run World Value)
    (selector : String) (message : Message World) (receiver argument : Value) : Run World Value :=
  ((message.implementation receiver argument).run context send).andThen fun result =>
    .ofExcept (checkResult receiver.type selector message.signature.result result)

theorem deliver_of_refused (asks : context.gatekeeper = some gatekeeper)
    (isPrepared : prepareArgument selector message.signature.argument argument = .ok prepared)
    {world : World} {cause : Failure}
    (refuses : (gatekeeper selector message.signature world).1 = some cause) :
    deliver context send receiver selector message argument world =
      ⟨.failure cause, (gatekeeper selector message.signature world).2,
        [.asked selector message.signature (some cause)]⟩ := by
  rw [deliver, isPrepared, Run.ofExcept, Run.returning_andThen, Run.andThen,
    Context.ask_of_refused asks refuses]

/-- A message that is accepted runs, and what it does is what its implementation does. -/
theorem deliver_of_accepted (asks : context.gatekeeper = some gatekeeper)
    (isPrepared : prepareArgument selector message.signature.argument argument = .ok prepared)
    {world : World} (accepts : (gatekeeper selector message.signature world).1 = none) :
    deliver context send receiver selector message argument world =
      { implement context send selector message receiver prepared
          (gatekeeper selector message.signature world).2 with
        events := .asked selector message.signature none ::
          .ran selector message.signature receiver prepared ::
            (implement context send selector message receiver prepared
              (gatekeeper selector message.signature world).2).events } := by
  rw [deliver, isPrepared, Run.ofExcept, Run.returning_andThen, Run.andThen,
    Context.ask_of_accepted asks accepts, perform, Run.andThen_assoc]
  rfl

/-- What a message does that passes failures on is mediated if its sends are. -/
theorem implement_mediated
    (sendMediated : ∀ receiver selector argument,
      (send receiver selector argument).Mediated context gatekeeper)
    (passes : message.PassesFailuresOn) (selector : String) (receiver prepared : Value) :
    (implement context send selector message receiver prepared).Mediated context gatekeeper :=
  .andThen (Behaviour.PassesFailuresOn.mediated sendMediated (passes receiver prepared))
    fun _ => .ofExcept _

end Delivery

/-- **Every send is mediated if the host's messages pass failures on.** -/
theorem sendWithin_mediated (asks : context.gatekeeper = some gatekeeper)
    (hosts : ∀ identity, MessageTable.PassesFailuresOn (context.directory identity))
    (levels : Nat) (receiver : Value) (selector : String) (argument : Option Value) :
    (sendWithin context levels receiver selector argument).Mediated context gatekeeper := by
  induction levels generalizing receiver selector argument with
  | zero => exact .exhausted
  | succ levels ih =>
      intro world
      rw [sendWithin, Run.record_andThen]
      cases found : context.directory.find? receiver selector with
      | none =>
          have undelivered := not_delivers_of_find?_eq_none argument found
          exact ⟨none, .unasked undelivered .done, fun _ refused => nomatch refused⟩
      | some message =>
          cases isPrepared : prepareArgument selector message.signature.argument argument with
          | error cause =>
              have undelivered := not_delivers_of_prepareArgument_eq_error found isPrepared
              refine ⟨none, ?_, fun _ refused => nomatch refused⟩
              simp only [deliver, isPrepared]
              exact .unasked undelivered .done
          | ok prepared =>
              have delivers : Delivers context receiver selector argument message.signature
                  prepared := ⟨message, found, rfl, isPrepared⟩
              cases answer : (gatekeeper selector message.signature world).1 with
              | some cause =>
                  simp only [deliver_of_refused asks isPrepared answer]
                  refine ⟨some cause, .refused delivers ⟨world, answer⟩, ?_⟩
                  rintro refused ⟨⟩
                  rfl
              | none =>
                  have passes : message.PassesFailuresOn :=
                    Directory.find?_passesFailuresOn hosts found
                  obtain ⟨refusal, trace, fails⟩ : Ending.Mediated context gatekeeper _ :=
                    implement_mediated ih passes selector receiver prepared
                      (gatekeeper selector message.signature world).2
                  simp only [deliver_of_accepted asks isPrepared answer]
                  exact ⟨refusal, .accepted delivers ⟨world, answer⟩ trace, fails⟩

theorem send_mediated (asks : context.gatekeeper = some gatekeeper)
    (hosts : ∀ identity, MessageTable.PassesFailuresOn (context.directory identity))
    (receiver : Value) (selector : String) (argument : Option Value) :
    (send context receiver selector argument).Mediated context gatekeeper :=
  sendWithin_mediated asks hosts context.sendNesting receiver selector argument

/-! ## Complete mediation -/

/-- **What mediation means for the events of a run and for its outcome.** -/
structure Ending.CompletelyMediated (context : Context World) (gatekeeper : Gatekeeper World)
    (ending : Ending World Result) : Prop where
  /-- Directly in front of an implementation stands an accepted question about its message, and in
  front of this the send that delivers the argument. -/
  question_of_run : ∀ before selector signature receiver prepared after,
    ending.events = before ++ .ran selector signature receiver prepared :: after →
      ∃ earlier argument, Delivers context receiver selector argument signature prepared ∧
        before = earlier ++ [.sent receiver selector argument, .asked selector signature none]
  /-- Directly behind an accepted question stands an implementation of the message. -/
  run_of_question : ∀ before selector signature after,
    ending.events = before ++ .asked selector signature none :: after →
      ∃ receiver prepared later, after = .ran selector signature receiver prepared :: later
  /-- The implementations are those that were accepted, in the same order. -/
  runs_eq_acceptances :
    ending.events.filterMap Event.run? = ending.events.filterMap Event.acceptance?
  /-- A question stands directly behind a send that finds its message and prepares its argument, and
  the answer is the gatekeeper's. -/
  send_of_question : ∀ before selector signature answer after,
    ending.events = before ++ .asked selector signature answer :: after →
      ∃ earlier receiver argument prepared,
        Delivers context receiver selector argument signature prepared ∧
        Answers gatekeeper selector signature answer ∧
        before = earlier ++ [.sent receiver selector argument]
  /-- A send is followed by a question if and only if it finds its message and prepares its
  argument. -/
  asked_iff_delivers : ∀ before receiver selector argument after,
    ending.events = before ++ .sent receiver selector argument :: after →
      ((∃ signature answer later, after = .asked selector signature answer :: later) ↔
        ∃ signature prepared, Delivers context receiver selector argument signature prepared)
  /-- A refused question is the last event, and its cause is the failure of the run. -/
  refusal_last : ∀ before selector signature cause after,
    ending.events = before ++ .asked selector signature (some cause) :: after →
      after = [] ∧ ending.outcome = .failure cause

/-- Mediated runs are completely mediated. -/
theorem Ending.Mediated.completely {ending : Ending World Result}
    (mediated : ending.Mediated context gatekeeper) :
    ending.CompletelyMediated context gatekeeper := by
  obtain ⟨refusal, trace, fails⟩ := mediated
  have asked : ∀ before selector signature answer after,
      ending.events = before ++ .asked selector signature answer :: after →
        ∃ earlier receiver argument prepared,
          Delivers context receiver selector argument signature prepared ∧
          Answers gatekeeper selector signature answer ∧
          before = earlier ++ [.sent receiver selector argument] := by
    intro before selector signature answer after split
    cases trace.placed split with
    | refusedQuestion earlier delivers answers => exact ⟨earlier, _, _, _, delivers, answers, rfl⟩
    | acceptedQuestion earlier delivers answers => exact ⟨earlier, _, _, _, delivers, answers, rfl⟩
  constructor
  case question_of_run =>
    intro before selector signature receiver prepared after split
    cases trace.placed split with
    | implementation earlier delivers => exact ⟨earlier, _, delivers, rfl⟩
  case run_of_question =>
    intro before selector signature after split
    cases trace.placed split with
    | acceptedQuestion => exact ⟨_, _, _, rfl⟩
  case runs_eq_acceptances => exact trace.runs_eq_acceptances
  case send_of_question => exact asked
  case asked_iff_delivers =>
    intro before receiver selector argument after split
    constructor
    · rintro ⟨signature, answer, later, rfl⟩
      obtain ⟨earlier, sender, sent, prepared, delivers, -, same⟩ :=
        asked (before ++ [.sent receiver selector argument]) selector signature answer later
          (by rw [split, List.append_assoc]; rfl)
      obtain ⟨-, last⟩ := List.append_inj' same rfl
      cases last
      exact ⟨signature, prepared, delivers⟩
    · rintro ⟨signature, prepared, delivers⟩
      cases trace.placed split with
      | unaskedSend undelivered => exact absurd delivers (undelivered signature prepared)
      | askedSend => exact ⟨_, _, _, rfl⟩
  case refusal_last =>
    intro before selector signature cause after split
    cases trace.placed split with
    | refusedQuestion earlier delivers answers last => exact ⟨rfl, fails cause last⟩

end MessageExpr
