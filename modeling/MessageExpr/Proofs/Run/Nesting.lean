import MessageExpr.Proofs.Run.Sequence
import MessageExpr.Run.Send

/-!
# The bound on nested sends

How deeply sends may be nested decides whether a send has an answer, but not which one: a send that
has an answer below a bound ends in the same way below every greater bound (`sendWithin_settles`).
-/

set_option autoImplicit false

namespace MessageExpr

variable {World Result Next : Type}

/-- The second run ends like the first one wherever the first one has an answer. -/
def Run.Settles (first second : Run World Result) : Prop :=
  ∀ world, (first world).outcome = .exhausted ∨ second world = first world

namespace Run.Settles

theorem refl (run : Run World Result) : run.Settles run := fun _ => .inr rfl

theorem andThen {first other : Run World Result} {next following : Result → Run World Next}
    (settles : first.Settles other)
    (nextSettles : ∀ result, (next result).Settles (following result)) :
    (first.andThen next).Settles (other.andThen following) := by
  intro world
  cases ending : first world with
  | mk outcome reached events =>
      have same := settles world
      rw [ending] at same
      cases outcome with
      | exhausted => exact .inl (by rw [andThen_of_exhausted ending])
      | failure cause =>
          obtain otherEnding : other world = _ := same.resolve_left (by simp)
          exact .inr (by rw [andThen_of_failure ending, andThen_of_failure otherEnding])
      | value result =>
          obtain otherEnding : other world = _ := same.resolve_left (by simp)
          rw [andThen_of_value ending, andThen_of_value otherEnding]
          exact (nextSettles result reached).imp_right fun same => by rw [same]

theorem attempt {first other : Run World Result} (settles : first.Settles other) :
    first.attempt.Settles other.attempt := by
  intro world
  rcases settles world with exhausted | same
  · refine .inl ?_
    simp only [Run.attempt]
    cases ending : first world with
    | mk outcome reached events =>
        rw [ending] at exhausted
        cases exhausted
        rfl
  · exact .inr (by simp only [Run.attempt, same])

end Run.Settles

section Sends

variable {context : Context World} {send other : Value → String → Option Value → Run World Value}
  (settles : ∀ receiver selector argument,
    (send receiver selector argument).Settles (other receiver selector argument))
include settles

theorem Behaviour.run_settles (behaviour : Behaviour World) :
    (behaviour.run context send).Settles (behaviour.run context other) := by
  induction behaviour with
  | finish reply => exact .refl _
  | send receiver selector argument next ih =>
      exact .andThen (.attempt (settles receiver selector argument)) ih
  | now next ih => exact .andThen (.refl _) ih
  | userInfo next ih => exact ih context.userInfo
  | choose count next ih => exact .andThen (.refl _) fun choice => ih (choice % count)
  | change update next ih => exact .andThen (.refl _) ih

theorem deliver_settles (receiver : Value) (selector : String) (message : Message World)
    (argument : Option Value) :
    (deliver context send receiver selector message argument).Settles
      (deliver context other receiver selector message argument) := by
  refine .andThen (.refl _) fun prepared => .andThen (.refl _) fun _ => .andThen ?_ fun _ => .refl _
  exact .andThen (.refl _) fun _ => Behaviour.run_settles settles _

end Sends

/-- **A send that has an answer has the same one below a greater bound.** -/
theorem sendWithin_settles (context : Context World) (levels : Nat) (receiver : Value)
    (selector : String) (argument : Option Value) :
    (sendWithin context levels receiver selector argument).Settles
      (sendWithin context (levels + 1) receiver selector argument) := by
  induction levels generalizing receiver selector argument with
  | zero => exact fun _ => .inl rfl
  | succ levels ih =>
      refine .andThen (.refl _) fun _ => ?_
      cases found : context.directory.find? receiver selector with
      | none => exact .refl _
      | some message => exact deliver_settles ih receiver selector message argument

end MessageExpr
