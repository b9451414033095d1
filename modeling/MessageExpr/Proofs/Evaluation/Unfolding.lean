import MessageExpr.Evaluation
import MessageExpr.Proofs.Expression.Places
import MessageExpr.Proofs.Run.Failing
import MessageExpr.Proofs.Run.Sequence

/-!
# Unfolding evaluation

A bracketed expression is shorter than the expression that holds it, so the evaluation of a text
unfolds into that of its tokens (`evaluateAt_of_scan`), and what holds of an expression whenever it
holds of its bracketed expressions holds of every expression (`expression_induction`).

Evaluation only puts runs in sequence. Evaluations of the same tokens are therefore related in every
way that sequence keeps, if their parts are (`evaluateTokensAt_related`).

At the outermost level the limit on nested brackets never applies. Evaluating the tokens of an
expression is therefore evaluating the expression (`evaluateTokens_of_scan`), and writing the tokens
back first changes neither the tokens nor the evaluation (`rescanning_changes_nothing`).
-/

set_option autoImplicit false

namespace MessageExpr

/-- **What every expression takes over from its bracketed expressions holds of all expressions.** -/
theorem expression_induction {motive : String → Prop}
    (step : ∀ expression,
      (∀ tokens, Token.scan expression = .ok tokens → ∀ token ∈ tokens, ∀ inner,
        token.inner? = some inner → motive inner) → motive expression)
    (expression : String) : motive expression := by
  induction hypothesis : expression.length using Nat.strongRecOn generalizing expression with
  | ind size ih =>
      refine step expression fun tokens scanned token member inner inside => ?_
      exact ih inner.length (hypothesis ▸ Token.inner_shorter scanned member inside) inner rfl

variable {World : Type} {context : Context World} {registry : Registry}

/-! ## Heads -/

/-- What the name of a head can mean: the two constructors come first, then the registry, then
literals. -/
inductive Resolves (context : Context World) (registry : Registry) (name : String) :
    Run World Value → Prop where
  | clock (isDate : name = "Date") :
      Resolves context registry name
        ((Run.ofState context.clock).andThen fun instant => .returning (.date instant))
  | emptyText (isString : name = "String") :
      Resolves context registry name (.returning (.string ""))
  | entry {value : Value} (notDate : name ≠ "Date") (notString : name ≠ "String")
      (found : registry.get? name = some value) : Resolves context registry name (.returning value)
  | literal {value : Value} (notDate : name ≠ "Date") (notString : name ≠ "String")
      (absent : registry.get? name = none) (read : Literal.read? name = some value) :
      Resolves context registry name (.returning value)
  | nothing (notDate : name ≠ "Date") (notString : name ≠ "String")
      (absent : registry.get? name = none) (unread : Literal.read? name = none) :
      Resolves context registry name (.failing (.noInitialObject name))

theorem resolves (context : Context World) (registry : Registry) (name : String) :
    Resolves context registry name (resolve context registry name) := by
  rw [resolve]
  split
  · exact .clock ‹_›
  split
  · exact .emptyText ‹_›
  split
  · exact .entry ‹_› ‹_› ‹_›
  split
  · exact .literal ‹_› ‹_› ‹_› ‹_›
  · exact .nothing ‹_› ‹_› ‹_› ‹_›

/-- A head names a value or fails because it names none. -/
theorem resolve_failsOnly {allowed : Failure → Prop} {name : String}
    (unnamed : allowed (.noInitialObject name)) :
    (resolve context registry name).FailsOnly allowed := by
  have meaning := resolves context registry name
  generalize resolve context registry name = run at meaning ⊢
  cases meaning with
  | clock => exact .andThen (.ofState _) fun instant => .returning _
  | emptyText => exact .returning _
  | entry => exact .returning _
  | literal => exact .returning _
  | nothing => exact .failing unnamed

/-! ## Tokens -/

theorem takeTokens_append {evaluateInner : String → Run World Value} (receiver : Value)
    (earlier later : List Token) :
    takeTokens context evaluateInner receiver (earlier ++ later) =
      (takeTokens context evaluateInner receiver earlier).andThen fun result =>
        takeTokens context evaluateInner result later := by
  induction earlier generalizing receiver with
  | nil => rfl
  | cons token rest ih =>
      simp only [List.cons_append, takeTokens, Run.andThen_assoc, ih]

section Related

variable {other : Context World} {alternative : Registry}
  {related : Run World Value → Run World Value → Prop}

theorem present_related (compositional : Run.Compositional related) (value : Value) :
    related (present value) (present value) := by
  rw [present]
  split
  · exact compositional.failing _ trivial
  · exact compositional.returning value

variable {evaluateInner otherInner : String → Run World Value}

section Messages

-- Of the failures that evaluation finds itself, messages have only two.
variable (sequential : Run.Sequential related)
  (sends : ∀ receiver selector argument,
    related (send context receiver selector argument) (send other receiver selector argument))
  (unexpected : related (.failing .unexpected) (.failing .unexpected))
  (missing : ∀ inner, related (.failing (.innerExpressionReturnedNil inner))
    (.failing (.innerExpressionReturnedNil inner)))
include sequential sends unexpected missing

/-- Two ways to evaluate a bracketed expression that are related take its token in related ways. -/
theorem takeToken_related {token : Token}
    (inners : ∀ inner, token.inner? = some inner →
      related (evaluateInner inner) (otherInner inner)) (receiver : Value) :
    related (takeToken context evaluateInner receiver token)
      (takeToken other otherInner receiver token) := by
  have presented : ∀ inner, token.inner? = some inner →
      related ((evaluateInner inner).andThen (presentInner inner))
        ((otherInner inner).andThen (presentInner inner)) := by
    refine fun inner inside => sequential.andThen (inners inner inside) fun value => ?_
    rw [presentInner]
    split
    · exact missing inner
    · exact sequential.returning value
  cases token with
  | head name => exact unexpected
  | unary selector => exact sends receiver selector none
  | keyword selector argument => exact sends receiver selector (some (flatArgument argument))
  | keywordBracket selector inner =>
      exact sequential.andThen (presented inner rfl) fun argument =>
        sends receiver selector (some argument)
  | bracket inner => exact presented inner rfl

theorem takeTokens_related {tokens : List Token}
    (inners : ∀ token ∈ tokens, ∀ inner, token.inner? = some inner →
      related (evaluateInner inner) (otherInner inner)) (receiver : Value) :
    related (takeTokens context evaluateInner receiver tokens)
      (takeTokens other otherInner receiver tokens) := by
  induction tokens generalizing receiver with
  | nil => exact sequential.returning receiver
  | cons token rest ih =>
      obtain ⟨inner, restInners⟩ := List.forall_mem_cons.mp inners
      have taken := takeToken_related sequential sends unexpected missing inner receiver
      exact sequential.andThen taken fun result => ih restInners result

end Messages

/-- **Evaluations of the same tokens are related if the values of their heads, their sends and their
bracketed expressions are.** -/
theorem evaluateTokensAt_related (compositional : Run.Compositional related)
    (sends : ∀ receiver selector argument,
      related (send context receiver selector argument) (send other receiver selector argument))
    {tokens : List Token}
    (resolves : ∀ name, tokens.head? = some (.head name) →
      related (resolve context registry name) (resolve other alternative name))
    (inners : ∀ token ∈ tokens, ∀ inner, token.inner? = some inner →
      related (evaluateInner inner) (otherInner inner)) :
    related (evaluateTokensAt context registry evaluateInner tokens)
      (evaluateTokensAt other alternative otherInner tokens) := by
  rw [evaluateTokensAt.eq_def, evaluateTokensAt.eq_def]
  split
  · rename_i name token rest
    obtain ⟨-, restInners⟩ := List.forall_mem_cons.mp inners
    have takes := takeTokens_related compositional.sequential sends
      (compositional.failing _ trivial) (fun _ => compositional.failing _ trivial) restInners
    exact compositional.andThen (resolves name rfl) takes
  · exact compositional.failing _ trivial
  · exact compositional.failing _ trivial
  · exact compositional.failing _ trivial

end Related

/-- A property that sequence keeps is one of messages whose parts have it. -/
theorem takeTokens_property {property : Run World Value → Prop}
    (sequential : Run.Sequential fun run _ => property run)
    (sends : ∀ receiver selector argument, property (send context receiver selector argument))
    (unexpected : property (.failing .unexpected))
    (missing : ∀ inner, property (.failing (.innerExpressionReturnedNil inner)))
    {evaluateInner : String → Run World Value} {tokens : List Token}
    (inners : ∀ token ∈ tokens, ∀ inner, token.inner? = some inner →
      property (evaluateInner inner)) (receiver : Value) :
    property (takeTokens context evaluateInner receiver tokens) :=
  @takeTokens_related World context context _ evaluateInner evaluateInner sequential sends
    unexpected missing tokens inners receiver

/-- A property that runs in sequence have if their parts have it is one of every evaluation whose
parts have it. -/
theorem evaluateTokensAt_property {property : Run World Value → Prop}
    (compositional : Run.Compositional fun run _ => property run)
    (sends : ∀ receiver selector argument, property (send context receiver selector argument))
    (resolves : ∀ name, property (resolve context registry name))
    {evaluateInner : String → Run World Value} {tokens : List Token}
    (inners : ∀ token ∈ tokens, ∀ inner, token.inner? = some inner →
      property (evaluateInner inner)) :
    property (evaluateTokensAt context registry evaluateInner tokens) :=
  @evaluateTokensAt_related World context registry context registry _ evaluateInner evaluateInner
    compositional sends tokens (fun name _ => resolves name) inners

/-- Two ways to evaluate bracketed expressions that agree on those of the tokens evaluate the tokens
alike. -/
theorem evaluateTokensAt_congr {first second : String → Run World Value} {tokens : List Token}
    (agree : ∀ token ∈ tokens, ∀ inner, token.inner? = some inner → first inner = second inner) :
    evaluateTokensAt context registry first tokens =
      evaluateTokensAt context registry second tokens :=
  evaluateTokensAt_related Run.compositional_eq (fun _ _ _ => rfl) (fun _ _ => rfl) agree

/-- Evaluating a head and messages is taking the messages on what the head names. -/
theorem evaluateTokensAt_head {evaluateInner : String → Run World Value} {name : String}
    {messages : List Token} (nonempty : messages ≠ []) :
    evaluateTokensAt context registry evaluateInner (.head name :: messages) =
      (resolve context registry name).andThen fun receiver =>
        takeTokens context evaluateInner receiver messages := by
  cases messages with
  | nil => exact absurd rfl nonempty
  | cons message rest => rfl

/-! ## Expressions -/

theorem evaluateAt_of_exceeded {depth limit : Nat} (exceeded : context.exceeded? depth = some limit)
    (expression : String) :
    evaluateAt context registry depth expression = .failing (.nestingTooDeep limit) := by
  rw [evaluateAt]
  split <;> simp_all

theorem evaluateAt_of_scan_error {depth : Nat} (within : context.exceeded? depth = none)
    {expression : String} {failure : Failure} (failed : Token.scan expression = .error failure) :
    evaluateAt context registry depth expression = .failing failure := by
  rw [evaluateAt]
  simp only [within, failed]

/-- **Evaluating an expression is evaluating its tokens, and its bracketed expressions one level
deeper.** -/
theorem evaluateAt_of_scan {depth : Nat} (within : context.exceeded? depth = none)
    {expression : String} {tokens : List Token} (scanned : Token.scan expression = .ok tokens) :
    evaluateAt context registry depth expression =
      evaluateTokensAt context registry (evaluateAt context registry (depth + 1)) tokens := by
  rw [evaluateAt]
  simp only [within, scanned]
  refine evaluateTokensAt_congr fun token member inner inside => ?_
  rw [if_pos (Token.inner_shorter scanned member inside)]

/-- The limit that is exceeded is the context's. -/
theorem maxDepth_of_exceeded? {depth limit : Nat}
    (exceeded : context.exceeded? depth = some limit) : context.maxDepth = some limit := by
  cases set : context.maxDepth with
  | none => simp [Context.exceeded?, set] at exceeded
  | some maximum =>
      simp only [Context.exceeded?, set, Option.ite_none_right_eq_some] at exceeded
      exact exceeded.2

theorem exceeded?_eq_none_iff {depth : Nat} :
    context.exceeded? depth = none ↔ ∀ limit, context.maxDepth = some limit → depth ≤ limit := by
  cases set : context.maxDepth <;> simp [Context.exceeded?, set]

/-- No limit is below the outermost level. -/
theorem exceeded?_zero (context : Context World) : context.exceeded? 0 = none :=
  exceeded?_eq_none_iff.mpr fun limit _ => Nat.zero_le limit

/-- An expression without tokens fails at once. -/
theorem evaluate_of_scan_error {expression : String} {failure : Failure}
    (failed : Token.scan expression = .error failure) (context : Context World)
    (registry : Registry) : evaluate context registry expression = .failing failure := by
  rw [evaluate, evaluateAt_of_scan_error (exceeded?_zero context) failed]
  exact Run.failing_andThen failure present

/-- Evaluating the tokens of an expression is evaluating the expression. -/
theorem evaluateTokens_of_scan (context : Context World) (registry : Registry)
    {expression : String} {tokens : List Token} (scanned : Token.scan expression = .ok tokens) :
    evaluateTokens context registry tokens = evaluate context registry expression := by
  rw [evaluateTokens, evaluate, evaluateAt_of_scan (exceeded?_zero context) scanned]

/-- **Writing the tokens of an expression back changes neither its tokens nor its evaluation.** -/
theorem rescanning_changes_nothing {expression : String} {tokens : List Token}
    (scanned : Token.scan expression = .ok tokens) :
    Token.scan (Token.source tokens) = .ok tokens ∧
      (Token.scan (Token.source tokens)).map Token.source = .ok (Token.source tokens) ∧
      ∀ {World : Type} (context : Context World) (registry : Registry),
        evaluate context registry (Token.source tokens) =
            evaluateTokens context registry tokens ∧
          evaluateTokens context registry tokens = evaluate context registry expression := by
  have again : Token.scan (Token.source tokens) = .ok tokens := Token.scan_source_eq scanned
  refine ⟨again, by rw [again]; rfl, fun context registry => ⟨?_, ?_⟩⟩
  · exact (evaluateTokens_of_scan context registry again).symm
  · exact evaluateTokens_of_scan context registry scanned

/-- Quotes within a word, glued components, a stray bracket and a quote that is not closed: the
tokens are written back with other spaces, and are the same. -/
theorem rescanning_changes_nothing_glued :
    Token.scan "x\"a b\"c [y z]w ] at:  [u]\"q\" \"p  r" =
        .ok [.head "x\"a b\"c", .bracket "y z", .unary "w", .unary "]",
          .keywordBracket "at:" "u", .unary "\"q\"", .unary "\"p  r"] ∧
      Token.scan "x\"a b\"c [y z] w ] at: [u] \"q\" \"p  r" =
        .ok [.head "x\"a b\"c", .bracket "y z", .unary "w", .unary "]",
          .keywordBracket "at:" "u", .unary "\"q\"", .unary "\"p  r"] := by
  have scanned : Token.scan "x\"a b\"c [y z]w ] at:  [u]\"q\" \"p  r" =
      .ok [.head "x\"a b\"c", .bracket "y z", .unary "w", .unary "]",
        .keywordBracket "at:" "u", .unary "\"q\"", .unary "\"p  r"] := by decide
  exact ⟨scanned, (rescanning_changes_nothing scanned).1⟩

end MessageExpr
