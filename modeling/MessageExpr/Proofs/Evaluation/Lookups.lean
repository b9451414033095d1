import MessageExpr.Proofs.Evaluation.Naming

/-!
# What evaluation reads of a registry

A registry is asked for the heads of an expression and of its bracketed expressions, and for nothing
else. Arguments, selectors and the results of messages are never looked up, and the two constructors
mean the same in every registry. So an evaluation depends on nothing but the entries of its heads
(`only_heads_are_looked_up`): other entries may be added and overridden.
-/

set_option autoImplicit false

namespace MessageExpr

/-- Entries of other names leave what a name means as it is. -/
theorem Registry.get?_insertAll_of_absent {registry : Registry} {entries : List (String × Value)}
    {sought : String} (absent : ∀ entry ∈ entries, entry.1 ≠ sought) :
    (registry.insertAll entries).get? sought = registry.get? sought := by
  induction entries generalizing registry with
  | nil => rfl
  | cons entry rest ih =>
      obtain ⟨otherName, restAbsent⟩ := List.forall_mem_cons.mp absent
      calc (registry.insertAll (entry :: rest)).get? sought
          = (registry.insert entry.1 entry.2).get? sought := ih restAbsent
        _ = registry.get? sought := by
          rw [get?_insert, if_neg (Ne.symm otherName)]

variable {World : Type}

/-- Registries that agree on the heads of an expression evaluate it alike. -/
theorem evaluate_congr_of_heads {registry alternative : Registry} (context : Context World)
    {expression : String}
    (agree : ∀ name, IsHead name expression → name ≠ "Date" → name ≠ "String" →
      registry.get? name = alternative.get? name) :
    evaluate context registry expression = evaluate context alternative expression := by
  rw [evaluate, evaluate, evaluateAt_congr_of_heads expression agree 0]

/-- **Evaluation depends on a registry only through the heads of the expression.** Registries that
agree on the heads other than the constructors evaluate it alike, with the same questions and
implementations on the way. In particular, entries under other names or under the constructors'
names may be added and overridden. -/
theorem only_heads_are_looked_up (context : Context World) (expression : String) :
    (∀ registry alternative : Registry,
      (∀ name, IsHead name expression → name ≠ "Date" → name ≠ "String" →
        registry.get? name = alternative.get? name) →
      evaluate context registry expression = evaluate context alternative expression) ∧
    ∀ (registry : Registry) (entries : List (String × Value)),
      (∀ entry ∈ entries,
        IsHead entry.1 expression → entry.1 = "Date" ∨ entry.1 = "String") →
      evaluate context (registry.insertAll entries) expression =
        evaluate context registry expression := by
  refine ⟨fun registry alternative agree => evaluate_congr_of_heads context agree, ?_⟩
  intro registry entries unmentioned
  refine evaluate_congr_of_heads context fun name isHead notDate notString => ?_
  refine Registry.get?_insertAll_of_absent fun entry member => ?_
  rintro rfl
  rcases unmentioned entry member isHead with date | string
  · exact notDate date
  · exact notString string

/-- The selector, the text of the bracketed expression and a constructor are overridden; the head is
not. -/
theorem only_heads_are_looked_up_overridden :
    let registry := Registry.empty.insert "yes" (.bool true)
    let entries := [("invertedBool", .null), ("yes intValue", .any), ("Date", .int 3)]
    let expression := "yes invertedBool [yes intValue]"
    (∀ entry ∈ entries, IsHead entry.1 expression → entry.1 = "Date" ∨ entry.1 = "String") ∧
      (∀ name, IsHead name expression → name ≠ "Date" → name ≠ "String" →
        (registry.insertAll entries).get? name = registry.get? name) ∧
      evaluate countingContext (registry.insertAll entries) expression =
        evaluate countingContext registry expression ∧
      evaluate countingContext registry expression =
        evaluate countingContext (registry.insertAll entries) expression := by
  intro registry entries expression
  have scanned : Token.scan expression =
      .ok [.head "yes", .unary "invertedBool", .bracket "yes intValue"] := by decide
  have innerScanned : Token.scan "yes intValue" = .ok [.head "yes", .unary "intValue"] := by decide
  have onlyHead : ∀ name, IsHead name expression → name = "yes" := by
    intro name isHead
    rw [isHead_iff_of_scan scanned] at isHead
    simpa [Token.inner?, isHead_iff_of_scan innerScanned, eq_comm] using isHead
  have unmentioned : ∀ entry ∈ entries,
      IsHead entry.1 expression → entry.1 = "Date" ∨ entry.1 = "String" := by
    intro entry member isHead
    have yes := onlyHead entry.1 isHead
    simp only [entries, List.mem_cons, List.not_mem_nil, or_false] at member
    rcases member with rfl | rfl | rfl <;> simp at yes
  have agree : ∀ name, IsHead name expression → name ≠ "Date" → name ≠ "String" →
      registry.get? name = (registry.insertAll entries).get? name := by
    intro name isHead _ _
    obtain rfl := onlyHead name isHead
    rfl
  obtain ⟨agreeing, overriding⟩ := only_heads_are_looked_up countingContext expression
  exact ⟨unmentioned, fun name isHead notDate notString => (agree name isHead notDate notString).symm,
    overriding registry entries unmentioned, agreeing registry _ agree⟩

end MessageExpr
