import MessageExpr.Proofs.Evaluation.Unfolding
import MessageExpr.Proofs.Expression.Classification

/-!
# Texts that are too short

An evaluation can fail because a text is too short to be an expression. The text is then the whole
expression or stands in brackets of it, at some depth (`InBrackets`), and it is really too short; no
message and no head has this failure (`evaluate_short`). The failure names the text, so it tells
these cases apart.
-/

set_option autoImplicit false

namespace MessageExpr

/-! ## Brackets -/

/-- A text stands in brackets of an expression, or in brackets of such a text. -/
inductive InBrackets (inner : String) : String → Prop where
  | own {expression : String} {tokens : List Token} {token : Token}
      (scanned : Token.scan expression = .ok tokens) (member : token ∈ tokens)
      (inside : token.inner? = some inner) : InBrackets inner expression
  | nested {expression between : String} {tokens : List Token} {token : Token}
      (scanned : Token.scan expression = .ok tokens) (member : token ∈ tokens)
      (inside : token.inner? = some between) (within : InBrackets inner between) :
      InBrackets inner expression

/-- The text has too few components for an expression. -/
def TooShort (text : String) : Prop := Token.scan text = .error (.expressionTooShort text)

/-- A failure about a text that is too short is about the expression or a text in its brackets. -/
def Failure.ShortWithin (expression : String) : Failure → Prop
  | .expressionTooShort source =>
    TooShort source ∧ (source = expression ∨ InBrackets source expression)
  | _ => True

namespace Failure

theorem OfSend.shortWithin {expression : String} {cause : Failure} (ofSend : cause.OfSend) :
    cause.ShortWithin expression := by
  cases cause <;> trivial

theorem shortWithin_of_scan_eq_error {expression : String} {cause : Failure}
    (failed : Token.scan expression = .error cause) : cause.ShortWithin expression := by
  obtain rfl | ⟨keyword, rfl⟩ := Token.failure_of_scan_eq_error failed
  · exact ⟨failed, .inl rfl⟩
  · trivial

/-- What is within brackets of an expression is within the expression. -/
theorem ShortWithin.of_inner {expression inner : String} {tokens : List Token} {token : Token}
    (scanned : Token.scan expression = .ok tokens) (member : token ∈ tokens)
    (inside : token.inner? = some inner) {cause : Failure} (short : cause.ShortWithin inner) :
    cause.ShortWithin expression := by
  cases cause with
  | expressionTooShort source =>
      obtain ⟨tooShort, rfl | deeper⟩ := short
      · exact ⟨tooShort, .inr (.own scanned member inside)⟩
      · exact ⟨tooShort, .inr (.nested scanned member inside deeper)⟩
  | _ => trivial

end Failure

/-! ## Evaluation -/

variable {World : Type} {context : Context World} {registry : Registry}

theorem sequential_failsOnly {allowed : Failure → Prop} :
    Run.Sequential fun run _ : Run World Value => run.FailsOnly allowed where
  returning := .returning
  andThen := .andThen

/-- **An expression fails because of a text that is too short only if it holds one.** -/
theorem evaluateAt_short (host : ∀ expression, context.FailsOnly (Failure.ShortWithin expression))
    (expression : String) (depth : Nat) :
    (evaluateAt context registry depth expression).FailsOnly (Failure.ShortWithin expression) := by
  induction expression using expression_induction generalizing depth with
  | step expression ih =>
      cases within : context.exceeded? depth with
      | some limit =>
          rw [evaluateAt_of_exceeded within]
          exact .failing trivial
      | none =>
          cases scanned : Token.scan expression with
          | error failure =>
              rw [evaluateAt_of_scan_error within scanned]
              exact .failing (Failure.shortWithin_of_scan_eq_error scanned)
          | ok tokens =>
              rw [evaluateAt_of_scan within scanned]
              obtain ⟨name, message, messages, rfl, -⟩ :=
                Token.head_and_messages_of_scan scanned
              have sends := sendWithin_failsOnly (fun _ => Failure.OfSend.shortWithin)
                (host expression) context.sendNesting
              rw [evaluateTokensAt_head (List.cons_ne_nil message messages)]
              refine .andThen (resolve_failsOnly trivial) fun receiver => ?_
              refine takeTokens_property sequential_failsOnly sends (.failing trivial)
                (fun _ => .failing trivial) ?_ receiver
              intro token member inner inside world cause failed
              have listed := List.mem_cons_of_mem (.head name) member
              have short := ih _ scanned token listed inner inside (depth + 1) world cause failed
              exact short.of_inner scanned listed inside

/-- An expression without a value is no text that is too short. -/
theorem evaluate_short (host : ∀ expression, context.FailsOnly (Failure.ShortWithin expression))
    (expression : String) :
    (evaluate context registry expression).FailsOnly (Failure.ShortWithin expression) := by
  refine .andThen (evaluateAt_short host expression 0) fun value => ?_
  rw [present]
  split
  · exact .failing trivial
  · exact .returning value

end MessageExpr
