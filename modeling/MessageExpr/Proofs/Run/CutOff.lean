import MessageExpr.Evaluation
import MessageExpr.Proofs.Run.Sequence

/-!
# Runs that a limit cuts off

Of all that surrounds an evaluation only the limit on nested brackets is about expressions: sends and
names do not depend on it (`send_limited`, `resolve_limited`).

A run is cut off if it is like another one up to a point at which it fails because of the limit
(`Run.CutsOff`). Runs in sequence are cut off if their parts are (`Run.CutsOff.andThen`). Nothing is
cut off by a failure of another kind, so every run is cut off by itself.
-/

set_option autoImplicit false

namespace MessageExpr

variable {World Result Next : Type}

/-! ## The limit of a context -/

/-- The same surroundings with another limit on nested brackets. -/
def Context.limited (context : Context World) (limit : Option Nat) : Context World :=
  { context with maxDepth := limit }

section Limited

variable (context : Context World) (limit : Option Nat)

theorem Behaviour.run_limited (send : Value → String → Option Value → Run World Value)
    (behaviour : Behaviour World) :
    behaviour.run (context.limited limit) send = behaviour.run context send := by
  induction behaviour with
  | finish reply => rfl
  | send receiver selector argument next ih => simp only [Behaviour.run, ih]
  | now next ih =>
      simp only [Behaviour.run, ih]
      rfl
  | userInfo next ih => exact ih context.userInfo
  | choose count next ih =>
      simp only [Behaviour.run, ih]
      rfl
  | change update next ih => simp only [Behaviour.run, ih]

theorem sendWithin_limited (levels : Nat) :
    sendWithin (context.limited limit) levels = sendWithin context levels := by
  induction levels with
  | zero => rfl
  | succ levels ih =>
      funext receiver selector argument
      simp only [sendWithin, ih, deliver, perform, Behaviour.run_limited]
      rfl

/-- Sends do not depend on the limit. -/
theorem send_limited : send (context.limited limit) = send context :=
  sendWithin_limited context limit context.sendNesting

theorem resolve_limited (registry : Registry) (name : String) :
    resolve (context.limited limit) registry name = resolve context registry name := rfl

end Limited

/-! ## Cutting off -/

/-- The endings are the same, or the first one is that of the limit, after a part of what happened
before the second one. -/
def Ending.CutOff (limit : Nat) (short full : Ending World Result) : Prop :=
  short = full ∨
    short.outcome = .failure (.nestingTooDeep limit) ∧ short.events <+: full.events

/-- From every state the run is another one or is cut off before its end. -/
def Run.CutsOff (limit : Nat) (short full : Run World Result) : Prop :=
  ∀ world, (short world).CutOff limit (full world)

namespace Run.CutsOff

variable {limit : Nat}

theorem refl (run : Run World Result) : run.CutsOff limit run := fun _ => .inl rfl

theorem failing (full : Run World Result) :
    (Run.failing (.nestingTooDeep limit)).CutsOff limit full :=
  fun _ => .inr ⟨rfl, List.nil_prefix⟩

/-- What happens in the first part of a sequence happens first. -/
theorem events_prefix_andThen (first : Run World Result) (next : Result → Run World Next)
    (world : World) : (first world).events <+: (first.andThen next world).events := by
  cases ending : first world with
  | mk outcome reached events =>
      cases outcome with
      | value result =>
          rw [andThen_of_value ending]
          exact List.prefix_append _ _
      | failure cause => simp only [andThen_of_failure ending, List.prefix_rfl]
      | exhausted => simp only [andThen_of_exhausted ending, List.prefix_rfl]

/-- **Runs in sequence are cut off if their parts are.** -/
theorem andThen {short full : Run World Result} {next following : Result → Run World Next}
    (firsts : short.CutsOff limit full)
    (nexts : ∀ result, (next result).CutsOff limit (following result)) :
    (short.andThen next).CutsOff limit (full.andThen following) := by
  intro world
  cases ending : short world with
  | mk outcome reached events =>
      rcases firsts world with same | ⟨failed, happened⟩
      · have fullEnding : full world = ⟨outcome, reached, events⟩ := same ▸ ending
        cases outcome with
        | value result =>
            rw [andThen_of_value ending, andThen_of_value fullEnding]
            rcases nexts result reached with sameNext | ⟨nextFailed, nextHappened⟩
            · exact .inl (by rw [sameNext])
            · exact .inr ⟨nextFailed, (List.prefix_append_right_inj events).mpr nextHappened⟩
        | failure cause =>
            rw [andThen_of_failure ending, andThen_of_failure fullEnding]
            exact .inl rfl
        | exhausted =>
            rw [andThen_of_exhausted ending, andThen_of_exhausted fullEnding]
            exact .inl rfl
      · rw [ending] at failed happened
        cases failed
        rw [andThen_of_failure ending]
        exact .inr ⟨rfl, happened.trans (events_prefix_andThen full following world)⟩

end Run.CutsOff

theorem Run.compositional_cutsOff (limit : Nat) :
    Run.Compositional fun short full : Run World Value => short.CutsOff limit full where
  returning := fun value => .refl (.returning value)
  failing := fun cause _ => .refl (.failing cause)
  andThen := .andThen

end MessageExpr
