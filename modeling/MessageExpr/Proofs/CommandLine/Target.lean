import MessageExpr.Proofs.CommandLine.Objects
import MessageExpr.Proofs.Evaluation.Shortness

/-!
# What a listing of selectors is about

A listing is about the value of an expression, or about what a text names that is too short for an
expression. Which of the two is decided by the failure of the evaluation, and this failure does not
only come from the text itself: an expression whose evaluation reaches brackets with too short a
text in them is taken for a name as a whole (`selectorsTarget_of_literals`). Every other expression
keeps its value or its failure.
-/

set_option autoImplicit false

namespace MessageExpr

namespace CommandLine

variable {now : Instant} {seed : Nat} {configuration : Configuration} {expression : String}
  {objects : Registry}

/-! ## Evaluations of a command -/

/-- A command has no host that could fail. -/
theorem context_failsOnly (allowed : Failure → Prop) (now : Instant)
    (configuration : Configuration) : (context now configuration).FailsOnly allowed where
  gatekeeper := fun _ asks => nomatch asks
  hosts := fun _ _ _ own => nomatch own

/-- What the whole text names. -/
def namedTarget (now : Instant) (seed : Nat) (configuration : Configuration) (objects : Registry)
    (text : String) : Except CommandFailure Value :=
  resultOf (resolve (context now configuration) objects (Text.trim text) seed).outcome

theorem evaluateExpression_eq (configured : registry now configuration = .ok objects) :
    evaluateExpression now seed configuration expression false =
      resultOf (evaluate (context now configuration) objects expression seed).outcome := by
  simp only [evaluateExpression, configured, Bool.false_eq_true, if_false, bind, Except.bind]

/-- Where the evaluation finds too short a text, the whole text is taken for a name. -/
theorem selectorsTarget_of_short (configured : registry now configuration = .ok objects)
    {source : String}
    (failed : evaluateExpression now seed configuration expression false =
      .error (.evaluation (.expressionTooShort source))) :
    selectorsTarget now seed configuration expression =
      namedTarget now seed configuration objects expression := by
  simp only [selectorsTarget, failed, configured, bind, Except.bind, namedTarget]

theorem selectorsTarget_of_not_short
    (other : ∀ source, evaluateExpression now seed configuration expression false ≠
      .error (.evaluation (.expressionTooShort source))) :
    selectorsTarget now seed configuration expression =
      evaluateExpression now seed configuration expression false := by
  rw [selectorsTarget]
  split
  · exact absurd ‹_› (other _)
  · rfl

/-- A text that is too short for an expression fails so. -/
theorem evaluateExpression_of_tooShort (configured : registry now configuration = .ok objects)
    (short : TooShort expression) :
    evaluateExpression now seed configuration expression false =
      .error (.evaluation (.expressionTooShort expression)) := by
  rw [evaluateExpression_eq configured, evaluate_of_scan_error short]
  rfl

/-- The text that an evaluation finds too short is one. -/
theorem shortWithin_of_evaluateExpression (configured : registry now configuration = .ok objects)
    {cause : Failure}
    (failed : evaluateExpression now seed configuration expression false =
      .error (.evaluation cause)) : cause.ShortWithin expression := by
  rw [evaluateExpression_eq configured] at failed
  cases outcome : (evaluate (context now configuration) objects expression seed).outcome with
  | value value =>
      rw [outcome] at failed
      cases failed
  | failure other =>
      rw [outcome] at failed
      cases failed
      exact evaluate_short (fun _ => context_failsOnly _ now configuration) expression seed cause
        outcome
  | exhausted =>
      rw [outcome] at failed
      cases failed

/-- **A listing is about the value of the expression, except where a text is too short.** A text
that is itself too short for an expression is taken for a name. So is an expression in whose
brackets the evaluation finds a text that is too short. In every other case the outcome is that of
the evaluation, failures included. -/
theorem selectorsTarget_of_literals (now : Instant) (seed : Nat) (configuration : Configuration)
    (expression : String)
    (literal : ∀ entry ∈ configuration.objects.entries,
      ∃ value, Literal.read? entry.2 = some value) :
    ∃ objects, registry now configuration = .ok objects ∧
      let evaluated := evaluateExpression now seed configuration expression false
      let target := selectorsTarget now seed configuration expression
      let named := namedTarget now seed configuration objects expression
      (TooShort expression → target = named) ∧
        (¬ TooShort expression → target = evaluated ∨
          ∃ source, InBrackets source expression ∧ TooShort source ∧
            evaluated = .error (.evaluation (.expressionTooShort source)) ∧ target = named) := by
  obtain ⟨objects, configured⟩ := registry_eq_ok literal now
  refine ⟨objects, configured, fun short => ?_, fun long => ?_⟩
  · exact selectorsTarget_of_short configured (evaluateExpression_of_tooShort configured short)
  by_cases finds : ∃ source, evaluateExpression now seed configuration expression false =
      .error (.evaluation (.expressionTooShort source))
  · obtain ⟨source, failed⟩ := finds
    obtain ⟨short, rfl | within⟩ := shortWithin_of_evaluateExpression configured failed
    · exact absurd short long
    · exact .inr ⟨source, within, short, failed, selectorsTarget_of_short configured failed⟩
  · exact .inl (selectorsTarget_of_not_short (not_exists.mp finds))

/-- A configured object is listed by its name, blanks around it included. -/
theorem selectorsTarget_of_literals_greeting :
    let configuration := { Configuration.standard with
      objects := .ofList [("greeting", "\"hello\"")] }
    (∀ entry ∈ configuration.objects.entries, ∃ value, Literal.read? entry.2 = some value) ∧
      TooShort " greeting " ∧
      ∃ objects, registry default configuration = .ok objects ∧
        selectorsTarget default 0 configuration " greeting " =
          namedTarget default 0 configuration objects " greeting " := by
  intro configuration
  have literal : ∀ entry ∈ configuration.objects.entries,
      ∃ value, Literal.read? entry.2 = some value :=
    List.forall_mem_singleton.mpr ⟨.string "hello", Literal.read?_eq_string_iff.mpr (by decide)⟩
  have short : TooShort " greeting " := by
    unfold TooShort
    decide
  obtain ⟨objects, configured, named, -⟩ :=
    selectorsTarget_of_literals default 0 configuration " greeting " literal
  exact ⟨literal, short, objects, configured, named short⟩

/-- The expression has a head and two messages, and a single word in brackets. Its evaluation fails
because of the word, and yet something is listed: there are quotes at both ends, so as a name the
whole text is the literal of what stands between them. -/
theorem selectorsTarget_quotes_at_both_ends :
    let expression := "\"a\" appending: [b] \"c\""
    Token.scan expression = .ok [.head "\"a\"", .keywordBracket "appending:" "b", .unary "\"c\""] ∧
      evaluateExpression default 0 .standard expression false =
        .error (.evaluation (.expressionTooShort "b")) ∧
      selectorsTarget default 0 .standard expression =
        .ok (.string "a\" appending: [b] \"c") := by
  intro expression
  have scanned : Token.scan expression =
      .ok [.head "\"a\"", .keywordBracket "appending:" "b", .unary "\"c\""] := by decide
  have short : TooShort "b" := by
    unfold TooShort
    decide
  have configured : registry default .standard = .ok (.standard default) := rfl
  have within : (context default .standard).exceeded? 1 = none := rfl
  have failed : evaluateExpression default 0 .standard expression false =
      .error (.evaluation (.expressionTooShort "b")) := by
    rw [evaluateExpression_eq configured, evaluate,
      evaluateAt_of_scan (exceeded?_zero (context default .standard)) scanned]
    simp only [evaluateTokensAt, takeTokens, takeToken, evaluateAt_of_scan_error within short]
    rfl
  have trimmed : Text.trim expression = expression := by decide
  have notDate : expression ≠ "Date" := by decide
  have notString : expression ≠ "String" := by decide
  have absent : (Registry.standard default).get? expression = none := by decide
  have read : Literal.read? expression = some (.string "a\" appending: [b] \"c") :=
    Literal.read?_eq_string_iff.mpr (by decide)
  refine ⟨scanned, failed, ?_⟩
  rw [selectorsTarget_of_short configured failed, namedTarget, trimmed, resolve, if_neg notDate,
    if_neg notString]
  simp only [absent, read]
  rfl

end CommandLine

end MessageExpr
