import MessageExpr.Proofs.Value.HostFree

/-!
# Prepared arguments and checked results

An argument reaches an implementation in one of three ways: as the missing value, unchanged, or
replaced by another value that stands in for it (`Prepared`). There are exactly three replacements
(`StandsIn`): a text that reads as a whole number or as a binary64 number, and a whole number
rounded to binary64. Otherwise there is one failure for a missing argument and one for an argument
of another type (`Unprepared`).

A result is returned unchanged if it is there and the declared type admits it, or if it is missing
and no result is declared (`checkResult_eq_ok_iff`).
-/

set_option autoImplicit false

namespace MessageExpr

/-! ## Conversions -/

/-- The second value is given in place of the first where the type is declared. -/
inductive StandsIn : Value → ValueType → Value → Prop where
  | textForInt {text : String} {integer : Int64} (reads : Literal.readInt? text = some integer) :
      StandsIn (.string text) .int (.int integer)
  | intForDouble (integer : Int64) :
      StandsIn (.int integer) .double (.double (.ofInt integer.toInt))
  | textForDouble {text : String} {number : Binary64}
      (reads : Literal.readDouble? text = some number) :
      StandsIn (.string text) .double (.double number)

theorem StandsIn.type {value standIn : Value} {declared : ValueType}
    (standsIn : StandsIn value declared standIn) : standIn.type = declared := by
  cases standsIn <;> rfl

theorem coerce?_eq_some_iff {value standIn : Value} {declared : ValueType} :
    value.coerce? declared = some standIn ↔ StandsIn value declared standIn := by
  constructor
  · intro coerces
    rw [Value.coerce?.eq_def] at coerces
    split at coerces
    · obtain ⟨integer, reads, rfl⟩ := Option.map_eq_some_iff.mp coerces
      exact .textForInt reads
    · cases coerces
      exact .intForDouble _
    · obtain ⟨number, reads, rfl⟩ := Option.map_eq_some_iff.mp coerces
      exact .textForDouble reads
    · cases coerces
  · intro standsIn
    cases standsIn with
    | textForInt reads => simp [Value.coerce?, reads]
    | intForDouble integer => rfl
    | textForDouble reads => simp [Value.coerce?, reads]

/-! ## Types and the missing value -/

theorem Value.isNull_iff {value : Value} : value.isNull = true ↔ value = .null := by
  cases value <;> simp [Value.isNull]

namespace ValueType

theorem isUnchecked_iff {declared : ValueType} :
    declared.isUnchecked = true ↔ declared = .null ∨ declared = .any := by
  cases declared <;> simp [isUnchecked]

/-- The test that decides whether a value is taken as it is. -/
theorem accepts_iff {declared : ValueType} {value : Value} :
    (declared.isUnchecked || decide (declared = value.type)) = true ↔ declared.Admits value := by
  rw [Bool.or_eq_true, decide_eq_true_iff, Admits, eq_comm (a := value.type)]

theorem admits_iff {declared : ValueType} {value : Value} :
    declared.Admits value ↔ declared = .null ∨ declared = .any ∨ declared = value.type := by
  rw [Admits, isUnchecked_iff, or_assoc, eq_comm (a := value.type)]

end ValueType

/-! ## Arguments -/

/-- No argument, or the missing value as one. -/
def MissingArgument (argument : Option Value) : Prop := argument = none ∨ argument = some .null

theorem missingArgument_iff {argument : Option Value} :
    MissingArgument argument ↔ argument.getD .null = .null := by
  cases argument <;> simp [MissingArgument]

/-- What an implementation is given where a type is declared. -/
inductive Prepared (declared : ValueType) : Option Value → Value → Prop where
  | missing {argument : Option Value} (isMissing : MissingArgument argument)
      (unchecked : declared.isUnchecked = true) : Prepared declared argument .null
  | unchanged {value : Value} (present : value ≠ .null) (admits : declared.Admits value) :
      Prepared declared (some value) value
  | replaced {value standIn : Value} (present : value ≠ .null)
      (refuses : ¬ declared.Admits value) (standsIn : StandsIn value declared standIn) :
      Prepared declared (some value) standIn

/-- Why an implementation is given nothing. -/
inductive Unprepared (selector : String) (declared : ValueType) :
    Option Value → Failure → Prop where
  | missing {argument : Option Value} (isMissing : MissingArgument argument)
      (checked : declared.isUnchecked = false) :
      Unprepared selector declared argument (.expectedArgumentButFoundNil selector)
  | mismatched {value : Value} (present : value ≠ .null) (refuses : ¬ declared.Admits value)
      (nothing : ∀ standIn, ¬ StandsIn value declared standIn) :
      Unprepared selector declared (some value)
        (.unexpectedArgumentType selector declared value.type)

section Arguments

variable {selector : String} {declared : ValueType} {argument : Option Value}

theorem prepareArgument_of_missing (isMissing : MissingArgument argument) :
    prepareArgument selector declared argument =
      if declared.isUnchecked then .ok .null
      else .error (.expectedArgumentButFoundNil selector) := by
  have isNull : (argument.getD .null).isNull = true :=
    Value.isNull_iff.mpr (missingArgument_iff.mp isMissing)
  simp only [prepareArgument, isNull, if_true]

theorem prepareArgument_of_admits {value : Value} (present : value ≠ .null)
    (admits : declared.Admits value) :
    prepareArgument selector declared (some value) = .ok value := by
  have notNull : ¬ value.isNull = true := fun isNull => present (Value.isNull_iff.mp isNull)
  simp only [prepareArgument, Option.getD_some]
  rw [if_neg notNull, if_pos (ValueType.accepts_iff.mpr admits)]

theorem prepareArgument_of_refuses {value : Value} (present : value ≠ .null)
    (refuses : ¬ declared.Admits value) :
    prepareArgument selector declared (some value) =
      match value.coerce? declared with
      | some standIn => .ok standIn
      | none => .error (.unexpectedArgumentType selector declared value.type) := by
  have notNull : ¬ value.isNull = true := fun isNull => present (Value.isNull_iff.mp isNull)
  simp only [prepareArgument, Option.getD_some]
  exact (if_neg notNull).trans
    (if_neg fun accepted => refuses (ValueType.accepts_iff.mp accepted))

/-- **Preparing an argument gives what the declared type makes of it, or the reason why nothing
is given.** -/
theorem prepareArgument_spec (selector : String) (declared : ValueType)
    (argument : Option Value) :
    (∃ received, prepareArgument selector declared argument = .ok received ∧
        Prepared declared argument received) ∨
      ∃ cause, prepareArgument selector declared argument = .error cause ∧
        Unprepared selector declared argument cause := by
  by_cases isMissing : MissingArgument argument
  · rw [prepareArgument_of_missing isMissing]
    cases unchecked : declared.isUnchecked with
    | true => exact .inl ⟨.null, rfl, .missing isMissing unchecked⟩
    | false => exact .inr ⟨_, rfl, .missing isMissing unchecked⟩
  · obtain ⟨value, rfl⟩ : ∃ value, argument = some value :=
      Option.ne_none_iff_exists'.mp fun absent => isMissing (.inl absent)
    have present : value ≠ .null := fun isNull => isMissing (.inr (congrArg some isNull))
    by_cases admits : declared.Admits value
    · exact .inl ⟨value, prepareArgument_of_admits present admits, .unchanged present admits⟩
    · rw [prepareArgument_of_refuses present admits]
      cases coerces : value.coerce? declared with
      | some standIn =>
          exact .inl ⟨standIn, rfl, .replaced present admits (coerce?_eq_some_iff.mp coerces)⟩
      | none =>
          refine .inr ⟨_, rfl, .mismatched present admits fun standIn standsIn => ?_⟩
          rw [coerce?_eq_some_iff.mpr standsIn] at coerces
          cases coerces

theorem Prepared.prepareArgument {received : Value} (selector : String)
    (prepared : Prepared declared argument received) :
    prepareArgument selector declared argument = .ok received := by
  cases prepared with
  | missing isMissing unchecked => rw [prepareArgument_of_missing isMissing, if_pos unchecked]
  | unchanged present admits => exact prepareArgument_of_admits present admits
  | replaced present refuses standsIn =>
      rw [prepareArgument_of_refuses present refuses, coerce?_eq_some_iff.mpr standsIn]

theorem Unprepared.prepareArgument {cause : Failure}
    (unprepared : Unprepared selector declared argument cause) :
    prepareArgument selector declared argument = .error cause := by
  cases unprepared with
  | missing isMissing checked => simp [prepareArgument_of_missing isMissing, checked]
  | @mismatched value present refuses nothing =>
      rw [prepareArgument_of_refuses present refuses]
      cases coerces : value.coerce? declared with
      | none => rfl
      | some standIn => exact absurd (coerce?_eq_some_iff.mp coerces) (nothing standIn)

end Arguments

/-! ## Results -/

theorem checkResult_eq_ok_iff {receiver declared : ValueType} {selector : String}
    {result returned : Value} :
    checkResult receiver selector declared result = .ok returned ↔
      returned = result ∧
        (result = .null ∧ declared = .null ∨ result ≠ .null ∧ declared.Admits result) := by
  rw [checkResult]
  by_cases isNull : result = .null
  · rw [if_pos (Value.isNull_iff.mpr isNull)]
    by_cases noResult : declared = .null
    · rw [if_pos noResult]
      simp [isNull, noResult, eq_comm]
    · rw [if_neg noResult]
      simp [isNull, noResult]
  · rw [if_neg fun missing => isNull (Value.isNull_iff.mp missing)]
    by_cases admits : declared.Admits result
    · rw [if_pos (ValueType.accepts_iff.mpr admits)]
      simp [isNull, admits, eq_comm]
    · rw [if_neg fun accepted => admits (ValueType.accepts_iff.mp accepted)]
      simp [isNull, admits]

end MessageExpr
