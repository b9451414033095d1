import MessageExpr.Proofs.Expression.Classification

/-!
# Texts with a space between them

Where a text ends outside quotes and brackets, a space after it completes the component under way
and nothing stays open (`EndsOutside`). The components of two such texts with a space between them
are then those of the first and those of the second (`componentsOf_append_space`).

So an expression can go on with the messages of another one: nothing is pending at the seam, and the
head of the second is what the first one stands in for (`scan_continued`).
-/

set_option autoImplicit false

namespace MessageExpr

open OpenComponent

/-- At the end of the text no quote and no bracket is open. -/
def EndsOutside (text : String) : Prop := (fresh.read text.toList).2.expectsSpace = false

instance (text : String) : Decidable (EndsOutside text) :=
  inferInstanceAs (Decidable ((fresh.read text.toList).2.expectsSpace = false))

/-- **A space after a text that ends outside quotes and brackets keeps its components apart from
those that follow.** -/
theorem componentsOf_append_space {first : String} (outside : EndsOutside first)
    (second : String) :
    componentsOf (first ++ " " ++ second) = componentsOf first ++ componentsOf second := by
  have characters : (first ++ " " ++ second).toList = first.toList ++ ' ' :: second.toList := by
    simp
  have consistent : Consistent (fresh.read first.toList).2 :=
    (fresh_settled.read first.toList).toConsistent
  simp only [componentsOf, characters, read_append, OpenComponent.read,
    consistent.step_space outside, List.append_assoc]

/-- A text that can stand in front of messages as the name of a receiver. -/
structure PlainName (name : String) : Prop where
  nonempty : name ≠ ""
  unmarked : ∀ character ∈ name.toList, character ≠ ' ' ∧ character ≠ '"' ∧ character ≠ '['

/-- A name is the head of every expression that starts with it. -/
theorem PlainName.componentsOf {name : String} (plain : PlainName name) (rest : String) :
    componentsOf (name ++ " " ++ rest) = name :: MessageExpr.componentsOf rest :=
  componentsOf_append (standsAlone_of_plain plain.nonempty plain.unmarked) rest

namespace Token

/-- **An expression goes on with what can follow a name.** -/
theorem scan_continued {first name rest : String} {firstTokens restTokens : List Token}
    (scanned : scan first = .ok firstTokens) (outside : EndsOutside first)
    (plain : PlainName name) (restScanned : scan (name ++ " " ++ rest) = .ok restTokens) :
    ∃ messages, messages ≠ [] ∧ restTokens = .head name :: messages ∧
      scan (first ++ " " ++ rest) = .ok (firstTokens ++ messages) := by
  obtain ⟨head, components, earlier, read, nonempty, classified, rfl⟩ :=
    scan_eq_ok_iff_classified.mp scanned
  obtain ⟨_, further, later, readLater, furtherNonempty, furtherClassified, rfl⟩ :=
    scan_eq_ok_iff_classified.mp restScanned
  rw [plain.componentsOf] at readLater
  obtain ⟨rfl, rfl⟩ := List.cons.inj readLater
  refine ⟨later, furtherClassified.ne_nil furtherNonempty, rfl, ?_⟩
  have joined : MessageExpr.componentsOf (first ++ " " ++ rest) =
      head :: (components ++ MessageExpr.componentsOf rest) := by
    rw [componentsOf_append_space outside, read, List.cons_append]
  exact scan_eq_ok_iff_classified.mpr ⟨head, _, earlier ++ later, joined,
    List.append_ne_nil_of_left_ne_nil nonempty _, classified.append furtherClassified, rfl⟩

end Token

end MessageExpr
