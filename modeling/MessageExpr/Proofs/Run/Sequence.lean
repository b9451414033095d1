import MessageExpr.Run.Basic

/-!
# Runs in sequence

A run that returns at once changes nothing in front of another run or behind it, a run that fails at
once is the end, and runs in sequence can be put together in any way. Runs that leave the state of the
host as it is do so in sequence (`Run.Stays.andThen`).

Evaluation makes runs of few parts: values that are there, failures that it finds itself, what
heads name, sends, and runs in sequence. Two evaluations are related in every way that these parts
keep (`Run.Compositional`); so an evaluation has every property that these parts have, as a relation
of a run with itself. A relation that fails for some failures is still kept by sequence
(`Run.Sequential`).

The failure of a limit on nested brackets is apart. It is the one failure that does not depend on
the expression and its values alone (`Failure.Shallow`).
-/

set_option autoImplicit false

namespace MessageExpr

namespace Run

variable {World Result Next : Type}

theorem returning_andThen (result : Result) (next : Result → Run World Next) :
    (returning result).andThen next = next result := rfl

theorem failing_andThen (cause : Failure) (next : Result → Run World Next) :
    (failing cause).andThen next = failing cause := rfl

/-- Recording an event puts it before all that follows. -/
theorem record_andThen (event : Event) (next : Unit → Run World Next) (world : World) :
    (record event).andThen next world =
      { next () world with events := event :: (next () world).events } := rfl

theorem andThen_returning (run : Run World Result) : run.andThen returning = run := by
  funext world
  cases ending : run world with
  | mk outcome reached events => cases outcome <;> simp [andThen, ending, returning]

theorem andThen_assoc {Last : Type} (run : Run World Result) (next : Result → Run World Next)
    (last : Next → Run World Last) :
    (run.andThen next).andThen last = run.andThen fun result => (next result).andThen last := by
  funext world
  simp only [andThen]
  cases run world with
  | mk outcome reached events =>
      cases outcome with
      | value result =>
          dsimp only
          cases next result reached with
          | mk outcome reached further =>
              cases outcome <;> simp only [List.append_assoc]
      | failure cause => rfl
      | exhausted => rfl

/-- What goes on with a result and passes a failure on goes on in sequence. -/
theorem attempt_andThen {run : Run World Result} {next : Except Failure Result → Run World Next}
    (passesOn : ∀ cause, next (.error cause) = failing cause) :
    run.attempt.andThen next = run.andThen fun result => next (.ok result) := by
  funext world
  simp only [andThen, attempt]
  cases run world with
  | mk outcome reached events => cases outcome <;> simp [passesOn, failing]

/-! ## Runs by the end of the first part -/

section Ends

variable {first : Run World Result} {next : Result → Run World Next} {world reached : World}
  {events : List Event}

theorem andThen_of_value {result : Result} (ends : first world = ⟨.value result, reached, events⟩) :
    first.andThen next world =
      { next result reached with events := events ++ (next result reached).events } := by
  simp only [andThen, ends]

theorem andThen_of_failure {cause : Failure}
    (ends : first world = ⟨.failure cause, reached, events⟩) :
    first.andThen next world = ⟨.failure cause, reached, events⟩ := by
  simp only [andThen, ends]

theorem andThen_of_exhausted (ends : first world = ⟨.exhausted, reached, events⟩) :
    first.andThen next world = ⟨.exhausted, reached, events⟩ := by
  simp only [andThen, ends]

/-- A sequence with a result has one because both its parts do. -/
theorem value_of_andThen {value : Next}
    (ends : (first.andThen next world).outcome = .value value) :
    ∃ result, (first world).outcome = .value result ∧
      (next result (first world).world).outcome = .value value := by
  cases ending : first world with
  | mk outcome reached events =>
      cases outcome with
      | value result =>
          rw [andThen_of_value ending] at ends
          exact ⟨result, rfl, ends⟩
      | failure cause =>
          rw [andThen_of_failure ending] at ends
          cases ends
      | exhausted =>
          rw [andThen_of_exhausted ending] at ends
          cases ends

end Ends

/-! ## Runs that leave the state of the host -/

/-- From this state the run ends with the outcome and reaches no other state. -/
def Stays (run : Run World Result) (world : World) (outcome : Outcome Result) : Prop :=
  ∃ events, run world = ⟨outcome, world, events⟩

namespace Stays

theorem returning (result : Result) (world : World) :
    (Run.returning result).Stays world (.value result) := ⟨[], rfl⟩

theorem failing (cause : Failure) (world : World) :
    (Run.failing cause : Run World Result).Stays world (.failure cause) := ⟨[], rfl⟩

theorem record (event : Event) (world : World) : (Run.record event).Stays world (.value ()) :=
  ⟨[event], rfl⟩

variable {first : Run World Result} {next : Result → Run World Next} {world : World}

theorem andThen {result : Result} {outcome : Outcome Next}
    (stays : first.Stays world (.value result)) (goesOn : (next result).Stays world outcome) :
    (first.andThen next).Stays world outcome := by
  obtain ⟨events, ends⟩ := stays
  obtain ⟨further, goesOn⟩ := goesOn
  exact ⟨events ++ further, by rw [andThen_of_value ends, goesOn]⟩

theorem andThen_of_failure {cause : Failure} (stays : first.Stays world (.failure cause)) :
    (first.andThen next).Stays world (.failure cause) := by
  obtain ⟨events, ends⟩ := stays
  exact ⟨events, Run.andThen_of_failure ends⟩

/-- What follows starts in the same state. -/
theorem outcome_andThen {result : Result} (stays : first.Stays world (.value result)) :
    (first.andThen next world).outcome = (next result world).outcome := by
  obtain ⟨events, ends⟩ := stays
  rw [andThen_of_value ends]

theorem outcome_eq {outcome : Outcome Result} (stays : first.Stays world outcome) :
    (first world).outcome = outcome := by
  obtain ⟨events, ends⟩ := stays
  rw [ends]

end Stays

end Run

/-! ## Relations that sequence keeps -/

/-- Every failure but the one that brackets are nested beyond the limit. -/
def Failure.Shallow : Failure → Prop
  | .nestingTooDeep _ => False
  | _ => True

namespace Run

variable {World : Type}

/-- A relation that holds between the runs in sequence if it holds between their parts. -/
structure Compositional (related : Run World Value → Run World Value → Prop) : Prop where
  returning : ∀ value, related (.returning value) (.returning value)
  failing : ∀ cause : Failure, cause.Shallow → related (.failing cause) (.failing cause)
  andThen : ∀ {first other : Run World Value} {next following : Value → Run World Value},
    related first other → (∀ value, related (next value) (following value)) →
      related (first.andThen next) (other.andThen following)

/-- A relation that holds between values that are there, and between runs in sequence if it holds
between their parts. -/
structure Sequential (related : Run World Value → Run World Value → Prop) : Prop where
  returning : ∀ value, related (.returning value) (.returning value)
  andThen : ∀ {first other : Run World Value} {next following : Value → Run World Value},
    related first other → (∀ value, related (next value) (following value)) →
      related (first.andThen next) (other.andThen following)

theorem Compositional.sequential {related : Run World Value → Run World Value → Prop}
    (compositional : Compositional related) : Sequential related :=
  ⟨compositional.returning, compositional.andThen⟩

theorem compositional_eq : Compositional (@Eq (Run World Value)) where
  returning := fun _ => rfl
  failing := fun _ _ => rfl
  andThen := by
    rintro first other next following rfl same
    rw [funext same]

end Run

end MessageExpr
