import MessageExpr.Run.Send

/-!
# Values without host objects

A value is free of hosts if no host object is in it at any depth (`Value.HostFree`). A type admits
the values of its own and, if it leaves them unchecked, all others (`ValueType.Admits`); the values
that a checked type admits have its form.

The argument that is prepared for a message is admitted by the type that the message declares, and
is free of hosts if the argument that is sent is (`prepareArgument_admits`).
-/

set_option autoImplicit false

namespace MessageExpr

/-- No host object is in the value. -/
inductive Value.HostFree : Value → Prop where
  | null : HostFree .null
  | any : HostFree .any
  | bool (truth : Bool) : HostFree (.bool truth)
  | int (integer : Int64) : HostFree (.int integer)
  | double (number : Binary64) : HostFree (.double number)
  | string (text : String) : HostFree (.string text)
  | date (instant : Instant) : HostFree (.date instant)
  | array {elements : List Value} (all : ∀ element ∈ elements, HostFree element) :
      HostFree (.array elements)
  | map {entries : List (String × Value)} (all : ∀ entry ∈ entries, HostFree entry.2) :
      HostFree (.map entries)

/-- A value that is there and free of hosts. -/
structure Value.Proper (value : Value) : Prop where
  hostFree : value.HostFree
  present : value.isNull = false

theorem Value.Proper.ne_null {value : Value} (proper : value.Proper) : value ≠ .null := by
  rintro rfl
  cases proper.present

/-- Texts are no host objects. -/
theorem Value.hostFree_of_mem_strings {Item : Type} (write : Item → String) (items : List Item) :
    ∀ value ∈ items.map fun item => Value.string (write item), value.HostFree :=
  List.forall_mem_map.mpr fun item _ => .string (write item)

/-! ## Types and their values -/

namespace ValueType

/-- The type is the value's own or leaves it unchecked. -/
def Admits (expected : ValueType) (value : Value) : Prop :=
  expected.isUnchecked = true ∨ value.type = expected

variable {value : Value}

theorem Admits.exists_int (admits : ValueType.int.Admits value) :
    ∃ integer, value = .int integer := by
  cases value with
  | int integer => exact ⟨integer, rfl⟩
  | _ => rcases admits with unchecked | same <;> contradiction

theorem Admits.exists_double (admits : ValueType.double.Admits value) :
    ∃ number, value = .double number := by
  cases value with
  | double number => exact ⟨number, rfl⟩
  | _ => rcases admits with unchecked | same <;> contradiction

theorem Admits.exists_string (admits : ValueType.string.Admits value) :
    ∃ text, value = .string text := by
  cases value with
  | string text => exact ⟨text, rfl⟩
  | _ => rcases admits with unchecked | same <;> contradiction

theorem Admits.exists_date (admits : ValueType.date.Admits value) :
    ∃ instant, value = .date instant := by
  cases value with
  | date instant => exact ⟨instant, rfl⟩
  | _ => rcases admits with unchecked | same <;> contradiction

end ValueType

/-! ## Arguments -/

/-- What stands in for a value is of the target type and no host object. -/
theorem Value.coerce?_spec {value coerced : Value} {target : ValueType}
    (coerces : value.coerce? target = some coerced) :
    coerced.type = target ∧ coerced.HostFree := by
  rw [Value.coerce?.eq_def] at coerces
  split at coerces
  · obtain ⟨integer, -, rfl⟩ := Option.map_eq_some_iff.mp coerces
    exact ⟨rfl, .int integer⟩
  · cases coerces
    exact ⟨rfl, .double _⟩
  · obtain ⟨number, -, rfl⟩ := Option.map_eq_some_iff.mp coerces
    exact ⟨rfl, .double number⟩
  · cases coerces

/-- **A prepared argument is admitted by the declared type.** -/
theorem prepareArgument_admits {selector : String} {expected : ValueType} {argument : Option Value}
    {prepared : Value} (isPrepared : prepareArgument selector expected argument = .ok prepared)
    (hostFree : ∀ value, argument = some value → value.HostFree) :
    prepared.HostFree ∧ expected.Admits prepared := by
  have sentHostFree : (argument.getD .null).HostFree := by
    cases argument with
    | none => exact .null
    | some value => exact hostFree value rfl
  simp only [prepareArgument] at isPrepared
  split at isPrepared
  · split at isPrepared
    · rename_i unchecked
      cases isPrepared
      exact ⟨.null, .inl unchecked⟩
    · cases isPrepared
  split at isPrepared
  · rename_i accepted
    cases isPrepared
    rcases Bool.or_eq_true_iff.mp accepted with unchecked | same
    · exact ⟨sentHostFree, .inl unchecked⟩
    · exact ⟨sentHostFree, .inr (of_decide_eq_true same).symm⟩
  split at isPrepared
  · rename_i coerced coerces
    cases isPrepared
    obtain ⟨isTarget, coercedHostFree⟩ := Value.coerce?_spec coerces
    exact ⟨coercedHostFree, .inr isTarget⟩
  · cases isPrepared

/-- A missing argument is prepared for unchecked types only. -/
theorem isUnchecked_of_prepareArgument_none {selector : String} {expected : ValueType}
    {prepared : Value} (isPrepared : prepareArgument selector expected none = .ok prepared) :
    expected.isUnchecked = true := by
  by_cases unchecked : expected.isUnchecked = true
  · exact unchecked
  · simp [prepareArgument, Value.isNull, unchecked] at isPrepared

end MessageExpr
