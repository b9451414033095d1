import MessageExpr.Proofs.Evaluation.Heads
import MessageExpr.Proofs.Expression.Seam

/-!
# Naming an intermediate result

The messages that follow an expression are sent to its value. To evaluate an expression that goes on
is therefore to evaluate its first part and then, with the value of that part under a name, the rest
on this name (`evaluate_continued`). The name may be any that the rest does not look up anywhere
else: then only the head of the rest means the value (`evaluate_insert_head`).

So naming an intermediate result changes nothing, and a failure of the first part is that of the
whole (`naming_changes_nothing`).
-/

set_option autoImplicit false

namespace MessageExpr

variable {World : Type} {context : Context World} {registry : Registry}

/-- A name that is no constructor's means the value that was inserted under it. -/
theorem resolve_insert {name : String} (notDate : name ≠ "Date") (notString : name ≠ "String")
    (value : Value) : resolve context (registry.insert name value) name = .returning value := by
  rw [resolve, if_neg notDate, if_neg notString, Registry.get?_insert, if_pos rfl]

/-! ## Evaluation from the head on -/

section Head

variable {expression name : String} {messages : List Token}
  (scanned : Token.scan expression = .ok (.head name :: messages))
include scanned

/-- To evaluate an expression is to take its messages on what its head means. -/
theorem evaluate_of_head (context : Context World) (registry : Registry) :
    evaluate context registry expression =
      (resolve context registry name).andThen fun value =>
        (takeTokens context (evaluateAt context registry 1) value messages).andThen present := by
  obtain ⟨_, message, earlier, same, -⟩ := Token.head_and_messages_of_scan scanned
  have nonempty : messages ≠ [] := by
    rw [(List.cons.inj same).2]
    exact List.cons_ne_nil message earlier
  rw [← evaluateTokens_of_scan context registry scanned, evaluateTokens,
    evaluateTokensAt_head nonempty, Run.andThen_assoc]

/-- **With a value under the name of its head, an expression is evaluated as if its messages were
sent to the value.** No bracketed expression of it may look the name up. -/
theorem evaluate_insert_head (notDate : name ≠ "Date") (notString : name ≠ "String")
    (uncaptured : ∀ token ∈ messages, ∀ inner, token.inner? = some inner → ¬ IsHead name inner)
    (value : Value) :
    evaluate context (registry.insert name value) expression =
      (takeTokens context (evaluateAt context registry 1) value messages).andThen present := by
  -- The bracketed expressions do not look up the name, so all of them evaluate as before.
  have unchanged :
      takeTokens context (evaluateAt context (registry.insert name value) 1) value messages =
        takeTokens context (evaluateAt context registry 1) value messages := by
    refine takeTokens_related Run.compositional_eq.sequential (fun _ _ _ => rfl) rfl (fun _ => rfl)
      ?_ value
    intro token member inner inside
    refine evaluateAt_congr_of_heads inner (fun other isHead _ _ => ?_) 1
    have otherName : other ≠ name := by
      rintro rfl
      exact uncaptured token member inner inside isHead
    rw [Registry.get?_insert, if_neg otherName]
  rw [evaluate_of_head scanned, resolve_insert notDate notString, Run.returning_andThen, unchanged]

end Head

/-! ## Expressions that go on -/

section Continued

variable {first name rest : String} {firstTokens restTokens : List Token}
  (scanned : Token.scan first = .ok firstTokens) (outside : EndsOutside first)
  (plain : PlainName name) (notDate : name ≠ "Date") (notString : name ≠ "String")
  (restScanned : Token.scan (name ++ " " ++ rest) = .ok restTokens)
  (uncaptured : ∀ token ∈ restTokens, ∀ inner, token.inner? = some inner → ¬ IsHead name inner)
include scanned outside plain notDate notString restScanned uncaptured

/-- **An expression that goes on evaluates like the rest on a name for the value of its first
part.** -/
theorem evaluate_continued (context : Context World) (registry : Registry) :
    evaluate context registry (first ++ " " ++ rest) =
      (evaluateTokensAt context registry (evaluateAt context registry 1) firstTokens).andThen
        fun value => evaluate context (registry.insert name value) (name ++ " " ++ rest) := by
  obtain ⟨messages, nonempty, rfl, joined⟩ :=
    Token.scan_continued scanned outside plain restScanned
  obtain ⟨head, message, earlier, rfl, -⟩ := Token.head_and_messages_of_scan scanned
  have named : ∀ value,
      evaluate context (registry.insert name value) (name ++ " " ++ rest) =
        (takeTokens context (evaluateAt context registry 1) value messages).andThen present :=
    evaluate_insert_head restScanned notDate notString fun token member =>
      uncaptured token (List.mem_cons_of_mem _ member)
  simp only [named]
  rw [List.cons_append] at joined
  rw [evaluate_of_head joined, evaluateTokensAt_head (List.cons_ne_nil message earlier)]
  simp only [takeTokens_append, Run.andThen_assoc]

/-- **Naming an intermediate result changes nothing.** An expression that goes on has tokens. If its
first part fails, so does the whole, in the same way and with nothing else done; if the first part
ends with a value, even the missing one, the whole ends like the rest on a name for it. -/
theorem naming_changes_nothing (context : Context World) (registry : Registry) (world : World) :
    (∃ tokens, Token.scan (first ++ " " ++ rest) = .ok tokens) ∧
      (∀ cause reached events,
        evaluateTokensAt context registry (evaluateAt context registry 1) firstTokens world =
            ⟨.failure cause, reached, events⟩ →
          evaluate context registry (first ++ " " ++ rest) world =
            ⟨.failure cause, reached, events⟩) ∧
      ∀ value reached events,
        evaluateTokensAt context registry (evaluateAt context registry 1) firstTokens world =
            ⟨.value value, reached, events⟩ →
          let named := evaluate context (registry.insert name value) (name ++ " " ++ rest) reached
          evaluate context registry (first ++ " " ++ rest) world =
            ⟨named.outcome, named.world, events ++ named.events⟩ := by
  obtain ⟨messages, -, -, joined⟩ := Token.scan_continued scanned outside plain restScanned
  have continued := evaluate_continued scanned outside plain notDate notString restScanned
    uncaptured context registry
  refine ⟨⟨_, joined⟩, fun cause reached events ends => ?_, fun value reached events ends => ?_⟩
  · rw [continued, Run.andThen_of_failure ends]
  · rw [continued, Run.andThen_of_value ends]

end Continued

/-- A context whose gatekeeper accepts everything and counts its questions. -/
def countingContext : Context Nat where
  clock world := (default, world)
  choose _ world := (0, world)
  userInfo := none
  gatekeeper := some fun _ _ world => (none, world + 1)
  maxDepth := none
  directory _ := .empty
  hostNesting := 0

/-- The name ends in a colon and a bracket, and the rest has a bracketed expression; the first part
asks one question and the rest two more. -/
theorem naming_changes_nothing_counted :
    let registry := Registry.empty.insert "yes" (.bool true)
    let extended := registry.insert "then:]" (.bool false)
    let rest := "invertedBool [yes intValue]"
    let firstTokens := [Token.head "yes", .unary "invertedBool"]
    let restTokens := [Token.head "then:]", .unary "invertedBool", .bracket "yes intValue"]
    let first := evaluateTokensAt countingContext registry (evaluateAt countingContext registry 1)
      firstTokens 0
    let named := evaluate countingContext extended ("then:]" ++ " " ++ rest) 1
    let whole := evaluate countingContext registry ("yes invertedBool" ++ " " ++ rest) 0
    Token.scan "yes invertedBool" = .ok firstTokens ∧ EndsOutside "yes invertedBool" ∧
      PlainName "then:]" ∧ "then:]" ≠ "Date" ∧ "then:]" ≠ "String" ∧
      Token.scan ("then:]" ++ " " ++ rest) = .ok restTokens ∧
      (∀ token ∈ restTokens, ∀ inner, token.inner? = some inner → ¬ IsHead "then:]" inner) ∧
      first.outcome = .value (.bool false) ∧ first.world = 1 ∧ named.outcome = .value (.int 1) ∧
      named.world = 3 ∧ whole = ⟨named.outcome, named.world, first.events ++ named.events⟩ := by
  intro registry extended rest firstTokens restTokens first named whole
  have scanned : Token.scan "yes invertedBool" = .ok firstTokens := by decide
  have outside : EndsOutside "yes invertedBool" := by decide
  have plain : PlainName "then:]" := ⟨by decide, by simp⟩
  have restScanned : Token.scan ("then:]" ++ " " ++ rest) = .ok restTokens := by decide
  have innerScanned : Token.scan "yes intValue" = .ok [.head "yes", .unary "intValue"] := by decide
  have uncaptured : ∀ token ∈ restTokens, ∀ inner, token.inner? = some inner →
      ¬ IsHead "then:]" inner := by
    intro token member inner inside
    obtain rfl : inner = "yes intValue" := by
      rcases List.mem_cons.mp member with rfl | member
      · cases inside
      rcases List.mem_cons.mp member with rfl | member
      · cases inside
      obtain rfl := List.mem_singleton.mp member
      exact (Option.some.inj inside).symm
    rw [isHead_iff_of_scan innerScanned]
    simp [Token.inner?]
  have innerEnds : evaluateAt countingContext extended 1 "yes intValue" =
      evaluateTokensAt countingContext extended (evaluateAt countingContext extended 2)
        [.head "yes", .unary "intValue"] :=
    evaluateAt_of_scan rfl innerScanned
  have namedEnds : named = evaluateTokens countingContext extended restTokens 1 := by
    rw [evaluateTokens_of_scan countingContext extended restScanned]
  simp only [evaluateTokens, restTokens, evaluateTokensAt, takeTokens, takeToken, innerEnds]
    at namedEnds
  obtain ⟨-, -, continues⟩ := naming_changes_nothing scanned outside plain (by decide) (by decide)
    restScanned uncaptured countingContext registry 0
  refine ⟨scanned, outside, plain, by decide, by decide, restScanned, uncaptured, rfl, rfl, ?_, ?_,
    ?_⟩
  · rw [namedEnds]
    rfl
  · rw [namedEnds]
    rfl
  · exact continues (.bool false) 1 first.events rfl

end MessageExpr
