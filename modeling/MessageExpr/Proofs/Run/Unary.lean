import MessageExpr.Proofs.Message.Quiet
import MessageExpr.Proofs.Run.Answers
import MessageExpr.Proofs.Run.Nesting

/-!
# Sends without an argument

A value free of hosts that is sent a message without an argument sends nothing itself
(`unary_cases`). So its answer does not depend on how deeply sends may be nested
(`sendWithin_unary_eq`), and there always is one (`sendWithin_unary_ends`). Without a gatekeeper, with
a fixed clock and unless the message chooses, the answer does not depend on the state of the host
either, and the state stays (`sendWithin_unary_steady`).
-/

set_option autoImplicit false

namespace MessageExpr

variable {World Result Next : Type} {context : Context World} {chooses : Prop}

/-! ## Runs that end -/

/-- The run always has an answer. -/
def Run.Ends (run : Run World Result) : Prop := ∀ world, (run world).outcome ≠ .exhausted

namespace Run.Ends

theorem returning (result : Result) : (Run.returning result : Run World Result).Ends :=
  fun _ exhausted => nomatch exhausted

theorem failing (cause : Failure) : (Run.failing cause : Run World Result).Ends :=
  fun _ exhausted => nomatch exhausted

theorem ofState (step : World → Result × World) : (Run.ofState step).Ends :=
  fun _ exhausted => nomatch exhausted

theorem record (event : Event) : (Run.record event : Run World Unit).Ends :=
  fun _ exhausted => nomatch exhausted

theorem ofExcept (computed : Except Failure Result) :
    (Run.ofExcept computed : Run World Result).Ends := by
  cases computed with
  | ok result => exact returning result
  | error cause => exact failing cause

theorem andThen {first : Run World Result} {next : Result → Run World Next} (ends : first.Ends)
    (nextEnds : ∀ result, (next result).Ends) : (first.andThen next).Ends := by
  intro world
  have notExhausted := ends world
  cases ending : first world with
  | mk outcome reached events =>
      rw [ending] at notExhausted
      cases outcome with
      | value result =>
          rw [andThen_of_value ending]
          exact nextEnds result reached
      | failure cause =>
          rw [andThen_of_failure ending]
          exact nofun
      | exhausted => exact absurd rfl notExhausted

theorem ask (context : Context World) (selector : String) (signature : Signature) :
    (context.ask selector signature).Ends := by
  rw [Context.ask]
  split
  · exact returning ()
  · refine andThen (ofState _) fun refusal => andThen (record _) fun _ => ?_
    cases refusal with
    | none => exact returning ()
    | some cause => exact failing cause

end Run.Ends

/-! ## Runs that are always the same -/

/-- The run has one outcome and reaches no other state. -/
def Run.Steady (run : Run World Result) : Prop := ∃ outcome, ∀ world, run.Stays world outcome

namespace Run.Steady

theorem returning (result : Result) : (Run.returning result : Run World Result).Steady :=
  ⟨.value result, .returning result⟩

theorem failing (cause : Failure) : (Run.failing cause : Run World Result).Steady :=
  ⟨.failure cause, .failing cause⟩

theorem record (event : Event) : (Run.record event : Run World Unit).Steady :=
  ⟨.value (), .record event⟩

theorem ofExcept (computed : Except Failure Result) :
    (Run.ofExcept computed : Run World Result).Steady := by
  cases computed with
  | ok result => exact returning result
  | error cause => exact failing cause

theorem andThen {first : Run World Result} {next : Result → Run World Next} (steady : first.Steady)
    (nextSteady : ∀ result, (next result).Steady) : (first.andThen next).Steady := by
  obtain ⟨outcome, stays⟩ := steady
  cases outcome with
  | value result =>
      obtain ⟨outcome, goesOn⟩ := nextSteady result
      exact ⟨outcome, fun world => (stays world).andThen (goesOn world)⟩
  | failure cause => exact ⟨.failure cause, fun world => (stays world).andThen_of_failure⟩
  | exhausted =>
      refine ⟨.exhausted, fun world => ?_⟩
      obtain ⟨events, ends⟩ := stays world
      exact ⟨events, andThen_of_exhausted ends⟩

end Run.Steady

/-- A clock that always tells the same time. -/
def Context.HasFixedClock (context : Context World) : Prop :=
  ∃ instant, ∀ world, context.clock world = (instant, world)

theorem Context.HasFixedClock.steady (fixed : context.HasFixedClock) :
    (Run.ofState context.clock).Steady := by
  obtain ⟨instant, tells⟩ := fixed
  exact ⟨.value instant, fun world => ⟨[], by rw [Run.ofState, tells]⟩⟩

/-! ## Behaviours that send nothing -/

namespace Behaviour.Quiet

variable {behaviour : Behaviour World} {nested : Value → String → Option Value → Run World Value}

theorem run_eq (quiet : behaviour.Quiet chooses)
    (other : Value → String → Option Value → Run World Value) :
    behaviour.run context nested = behaviour.run context other := by
  induction quiet with
  | finish reply => rfl
  | now _ ih => simp only [Behaviour.run, ih]
  | choose _ _ ih => simp only [Behaviour.run, ih]

theorem ends (quiet : behaviour.Quiet chooses) : (behaviour.run context nested).Ends := by
  induction quiet with
  | finish reply => exact .ofExcept reply
  | now _ ih => exact .andThen (.ofState _) ih
  | choose _ _ ih => exact .andThen (.ofState _) fun choice => ih _

theorem steady (quiet : behaviour.Quiet chooses) (noChoice : ¬ chooses)
    (fixed : context.HasFixedClock) : (behaviour.run context nested).Steady := by
  induction quiet with
  | finish reply => exact .ofExcept reply
  | now _ ih => exact .andThen fixed.steady ih
  | choose allowed => exact absurd allowed noChoice

end Behaviour.Quiet

/-! ## Sends of values free of hosts -/

section HostFree

variable {receiver : Value} (hostFree : receiver.HostFree) (selector : String)
include hostFree

/-- **A message without an argument fails at once or has a quiet implementation.** -/
theorem unary_cases (context : Context World) :
    (∃ cause, ∀ levels, sendWithin context (levels + 1) receiver selector none =
        (Run.record (.sent receiver selector none)).andThen fun _ => .failing cause) ∨
      ∃ message : Message World,
        (message.implementation receiver .null).Quiet (selector ∈ selectorsOfChoice) ∧
        ∀ levels, sendWithin context (levels + 1) receiver selector none =
          (Run.record (.sent receiver selector none)).andThen fun _ =>
            (context.ask selector message.signature).andThen fun _ =>
              (Run.record (.ran selector message.signature receiver .null)).andThen fun _ =>
                implement context (sendWithin context levels) selector message receiver .null := by
  cases found : context.directory.find? receiver selector with
  | none =>
      refine .inl ⟨.unrecognisedSelector selector receiver.type, fun levels => ?_⟩
      rw [sendWithin, found]
  | some message =>
      have quiet := Directory.quiet_of_find? hostFree found
      cases unchecked : message.signature.argument.isUnchecked with
      | true =>
          have isPrepared :
              prepareArgument selector message.signature.argument none = .ok .null := by
            rw [prepareArgument_of_missing (.inl rfl), if_pos unchecked]
          exact .inr ⟨message, quiet unchecked receiver .null,
            sendWithin_of_prepared found isPrepared⟩
      | false =>
          have failed : prepareArgument selector message.signature.argument none =
              .error (.expectedArgumentButFoundNil selector) := by
            rw [prepareArgument_of_missing (.inl rfl), unchecked, if_neg Bool.false_ne_true]
          refine .inl ⟨.expectedArgumentButFoundNil selector, fun levels => ?_⟩
          rw [sendWithin, found]
          simp only [deliver, failed]
          rfl

theorem sendWithin_unary_ends (levels : Nat) :
    (sendWithin context (levels + 1) receiver selector none).Ends := by
  obtain ⟨cause, fails⟩ | ⟨message, quiet, runs⟩ := unary_cases hostFree selector context
  · rw [fails]
    exact .andThen (.record _) fun _ => .failing cause
  · rw [runs]
    exact .andThen (.record _) fun _ => .andThen (.ask _ _ _) fun _ => .andThen (.record _) fun _ =>
      .andThen quiet.ends fun result => .ofExcept _

/-- How deeply sends may be nested does not matter. -/
theorem sendWithin_unary_eq (levels other : Nat) :
    sendWithin context (levels + 1) receiver selector none =
      sendWithin context (other + 1) receiver selector none := by
  obtain ⟨cause, fails⟩ | ⟨message, quiet, runs⟩ := unary_cases hostFree selector context
  · rw [fails, fails]
  · rw [runs, runs, implement, implement, quiet.run_eq (sendWithin context other)]

/-- **The answer to a message that does not choose is always the same**, and the state of the host
stays. -/
theorem sendWithin_unary_steady (fixed : context.HasFixedClock) (nobody : context.gatekeeper = none)
    (noChoice : selector ∉ selectorsOfChoice) (levels : Nat) :
    (sendWithin context (levels + 1) receiver selector none).Steady := by
  have asks : ∀ signature, (context.ask selector signature).Steady := by
    intro signature
    rw [Context.ask_eq_returning nobody]
    exact .returning ()
  obtain ⟨cause, fails⟩ | ⟨message, quiet, runs⟩ := unary_cases hostFree selector context
  · rw [fails]
    exact .andThen (.record _) fun _ => .failing cause
  · rw [runs]
    exact .andThen (.record _) fun _ => .andThen (asks _) fun _ => .andThen (.record _) fun _ =>
      .andThen (quiet.steady noChoice fixed) fun result => .ofExcept _

end HostFree

end MessageExpr
