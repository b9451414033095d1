import MessageExpr.Proofs.Evaluation.Unfolding
import MessageExpr.Proofs.Expression.Classification

/-!
# The names that an evaluation looks up

An evaluation looks up heads: that of the expression and those of the bracketed expressions in it
(`IsHead`). Nothing else in an expression is ever a name. Evaluations of an expression are therefore
related if what they make of its heads is, and their sends (`evaluateAt_related`).

In particular, two registries that agree on the heads of an expression evaluate it alike, at every
depth (`evaluateAt_congr_of_heads`). The names of the two constructors are not looked up, so the
registries need not agree on them.
-/

set_option autoImplicit false

namespace MessageExpr

/-- The name is the head of the expression or of a bracketed expression in it, however deep. -/
inductive IsHead (name : String) : String → Prop where
  | outer {expression : String} {messages : List Token}
      (scanned : Token.scan expression = .ok (.head name :: messages)) : IsHead name expression
  | inner {expression inner : String} {tokens : List Token} {token : Token}
      (scanned : Token.scan expression = .ok tokens) (member : token ∈ tokens)
      (inside : token.inner? = some inner) (head : IsHead name inner) : IsHead name expression

/-- The heads of an expression are its own one and those of its bracketed expressions. -/
theorem isHead_iff_of_scan {name expression : String} {tokens : List Token}
    (scanned : Token.scan expression = .ok tokens) :
    IsHead name expression ↔
      tokens.head? = some (.head name) ∨
        ∃ token ∈ tokens, ∃ inner, token.inner? = some inner ∧ IsHead name inner := by
  constructor
  · intro head
    cases head with
    | outer alsoScanned =>
        rw [scanned] at alsoScanned
        cases alsoScanned
        exact .inl rfl
    | inner alsoScanned member inside head =>
        rw [scanned] at alsoScanned
        cases alsoScanned
        exact .inr ⟨_, member, _, inside, head⟩
  · rintro (first | ⟨token, member, inner, inside, head⟩)
    · obtain ⟨messages, rfl⟩ := List.head?_eq_some_iff.mp first
      exact .outer scanned
    · exact .inner scanned member inside head

theorem Token.shallow_of_scan_eq_error {expression : String} {failure : Failure}
    (failed : scan expression = .error failure) : failure.Shallow := by
  obtain rfl | ⟨keyword, rfl⟩ := failure_of_scan_eq_error failed
  · trivial
  · trivial

variable {World : Type} {context other : Context World} {registry alternative : Registry}

/-- **Evaluations of an expression are related, at every depth, if the values of its heads and their
sends are**, and if what is too deep for the first one is related to any evaluation there. -/
theorem evaluateAt_related {related : Run World Value → Run World Value → Prop}
    (compositional : Run.Compositional related) (registry alternative : Registry)
    (tooDeep : ∀ depth limit, context.exceeded? depth = some limit → ∀ expression,
      related (.failing (.nestingTooDeep limit)) (evaluateAt other alternative depth expression))
    (wider : ∀ depth, context.exceeded? depth = none → other.exceeded? depth = none)
    (sends : ∀ receiver selector argument,
      related (send context receiver selector argument) (send other receiver selector argument))
    (expression : String)
    (resolves : ∀ name, IsHead name expression →
      related (resolve context registry name) (resolve other alternative name)) (depth : Nat) :
    related (evaluateAt context registry depth expression)
      (evaluateAt other alternative depth expression) := by
  induction expression using expression_induction generalizing depth with
  | step expression ih =>
      cases within : context.exceeded? depth with
      | some limit =>
          rw [evaluateAt_of_exceeded within]
          exact tooDeep depth limit within expression
      | none =>
          have otherWithin : other.exceeded? depth = none := wider depth within
          cases scanned : Token.scan expression with
          | error failure =>
              rw [evaluateAt_of_scan_error within scanned,
                evaluateAt_of_scan_error otherWithin scanned]
              exact compositional.failing failure (Token.shallow_of_scan_eq_error scanned)
          | ok tokens =>
              rw [evaluateAt_of_scan within scanned, evaluateAt_of_scan otherWithin scanned]
              refine evaluateTokensAt_related compositional sends (fun name first => ?_) ?_
              · exact resolves name ((isHead_iff_of_scan scanned).mpr (.inl first))
              · intro token member inner inside
                exact ih tokens scanned token member inner inside
                  (fun name head => resolves name (.inner scanned member inside head)) (depth + 1)

/-! ## Registries -/

/-- A name means the same in registries that agree on it; a constructor means the same in all. -/
theorem resolve_congr {name : String}
    (agree : name ≠ "Date" → name ≠ "String" → registry.get? name = alternative.get? name) :
    resolve context registry name = resolve context alternative name := by
  by_cases date : name = "Date"
  · simp only [resolve, date, if_true]
  by_cases string : name = "String"
  · simp only [resolve, string, if_true]
  · simp only [resolve, agree date string]

/-- **Registries that agree on the heads of an expression evaluate it alike.** -/
theorem evaluateAt_congr_of_heads (expression : String)
    (agree : ∀ name, IsHead name expression → name ≠ "Date" → name ≠ "String" →
      registry.get? name = alternative.get? name) (depth : Nat) :
    evaluateAt context registry depth expression =
      evaluateAt context alternative depth expression :=
  evaluateAt_related Run.compositional_eq registry alternative
    (fun _ _ exceeded expression => (evaluateAt_of_exceeded exceeded expression).symm)
    (fun _ within => within) (fun _ _ _ => rfl) expression
    (fun name head => resolve_congr (agree name head)) depth

end MessageExpr
