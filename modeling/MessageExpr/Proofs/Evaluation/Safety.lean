import MessageExpr.Proofs.Evaluation.Unfolding
import MessageExpr.Proofs.Expression.Classification
import MessageExpr.Proofs.Run.SendSafety

/-!
# Evaluation without a host

Where neither the registry holds host objects nor a gatekeeper is asked, an evaluation ends with a
value that is there and free of hosts, or with an ordinary failure (`evaluate_safe`). It always ends
with one of them; so no message replies with what its signature does not declare, no operand is of a
wrong type, and no expression, whole or in brackets, is without a value.

The head of an expression may name the missing value, but every message that is sent replies with a
value that is there, and an expression has at least one message.
-/

set_option autoImplicit false

namespace MessageExpr

variable {maxDepth : Option Nat}

/-! ## Tokens -/

namespace Token

/-- An expression that cannot be read fails ordinarily. -/
theorem ordinary_of_scan_eq_error {expression : String} {cause : Failure}
    (failed : scan expression = .error cause) : cause.Ordinary maxDepth := by
  obtain rfl | ⟨keyword, rfl⟩ := failure_of_scan_eq_error failed
  · trivial
  · trivial

end Token

/-! ## Evaluation -/

variable {World : Type} {context : Context World} {registry : Registry}

theorem Literal.hostFree_of_read? {text : String} {value : Value}
    (read : Literal.read? text = some value) : value.HostFree := by
  rw [Literal.read?] at read
  split at read
  · cases read
    exact .int _
  · cases read
    exact .double _
  · obtain ⟨content, -, rfl⟩ := Option.map_eq_some_iff.mp read
    exact .string content

/-- What a head names is free of hosts if the registry is. It may be the missing value. -/
theorem resolve_safe (hostFree : ∀ entry ∈ registry.entries, entry.2.HostFree) (name : String) :
    (resolve context registry name).Safe maxDepth Value.HostFree := by
  have meaning := resolves context registry name
  generalize resolve context registry name = run at meaning ⊢
  cases meaning with
  | clock => exact .andThen (.ofState _) fun instant _ => .returning (.date instant)
  | emptyText => exact .returning (.string "")
  | @entry value _ _ found =>
      have member : (name, value) ∈ registry.entries := Dictionary.mem_of_lookup_eq_some found
      exact .returning (hostFree (name, value) member)
  | literal _ _ _ read => exact .returning (Literal.hostFree_of_read? read)
  | nothing => exact .failing trivial

theorem presentInner_safe (inner : String) {value : Value} (proper : value.Proper) :
    (presentInner inner value : Run World Value).Safe maxDepth Value.Proper := by
  rw [presentInner, proper.present]
  exact .returning proper

theorem present_safe {value : Value} (proper : value.Proper) :
    (present value : Run World Value).Safe maxDepth Value.Proper := by
  rw [present, proper.present]
  exact .returning proper

section Hostless

variable {evaluateInner : String → Run World Value}
  (noGatekeeper : context.gatekeeper = none)
include noGatekeeper

/-- A message makes a proper value of every receiver, even of the missing one. -/
theorem takeToken_safe {token : Token}
    (isMessage : token.IsMessage)
    (inners : ∀ inner, token.inner? = some inner →
      (evaluateInner inner).Safe maxDepth Value.Proper)
    {receiver : Value} (hostFree : receiver.HostFree) :
    (takeToken context evaluateInner receiver token).Safe maxDepth Value.Proper := by
  cases token with
  | head name => exact isMessage.elim
  | unary selector => exact send_safe noGatekeeper hostFree selector nofun
  | keyword selector argument =>
      refine send_safe noGatekeeper hostFree selector ?_
      rintro value ⟨⟩
      exact .string _
  | keywordBracket selector inner =>
      have evaluated : ((evaluateInner inner).andThen (presentInner inner)).Safe maxDepth
          Value.Proper :=
        .andThen (inners inner rfl) fun value proper => presentInner_safe inner proper
      refine .andThen evaluated fun argument proper => ?_
      refine send_safe noGatekeeper hostFree selector ?_
      rintro value ⟨⟩
      exact proper.hostFree
  | bracket inner =>
      exact .andThen (inners inner rfl) fun value proper => presentInner_safe inner proper

theorem takeTokens_safe {tokens : List Token}
    (areMessages : ∀ token ∈ tokens, token.IsMessage)
    (inners : ∀ token ∈ tokens, ∀ inner, token.inner? = some inner →
      (evaluateInner inner).Safe maxDepth Value.Proper)
    {receiver : Value} (proper : receiver.Proper) :
    (takeTokens context evaluateInner receiver tokens).Safe maxDepth Value.Proper := by
  induction tokens generalizing receiver with
  | nil => exact .returning proper
  | cons token rest ih =>
      obtain ⟨isMessage, restAreMessages⟩ := List.forall_mem_cons.mp areMessages
      obtain ⟨inner, restInners⟩ := List.forall_mem_cons.mp inners
      have taken := takeToken_safe noGatekeeper isMessage inner proper.hostFree
      exact .andThen taken fun result resultProper =>
        ih restAreMessages restInners resultProper

/-- **An expression is safe at every depth because its bracketed expressions are.** -/
theorem evaluateAt_safe (hostFree : ∀ entry ∈ registry.entries, entry.2.HostFree)
    (expression : String) (depth : Nat) :
    (evaluateAt context registry depth expression).Safe context.maxDepth Value.Proper := by
  induction expression using expression_induction generalizing depth with
  | step expression ih =>
      cases within : context.exceeded? depth with
      | some limit =>
          rw [evaluateAt_of_exceeded within]
          exact .failing (maxDepth_of_exceeded? within)
      | none =>
          cases scanned : Token.scan expression with
          | error failure =>
              rw [evaluateAt_of_scan_error within scanned]
              exact .failing (Token.ordinary_of_scan_eq_error scanned)
          | ok tokens =>
              rw [evaluateAt_of_scan within scanned]
              obtain ⟨name, message, messages, rfl, areMessages⟩ :=
                Token.head_and_messages_of_scan scanned
              have inners : ∀ token ∈ message :: messages, ∀ inner, token.inner? = some inner →
                  (evaluateAt context registry (depth + 1) inner).Safe context.maxDepth
                    Value.Proper :=
                fun token member inner inside =>
                  ih _ scanned token (List.mem_cons_of_mem _ member) inner inside (depth + 1)
              -- The first message is apart: only its receiver may be the missing value.
              obtain ⟨isMessage, restAreMessages⟩ := List.forall_mem_cons.mp areMessages
              obtain ⟨inner, restInners⟩ := List.forall_mem_cons.mp inners
              rw [evaluateTokensAt_head (List.cons_ne_nil message messages)]
              refine .andThen (resolve_safe hostFree name) fun receiver receiverHostFree => ?_
              have taken := takeToken_safe noGatekeeper isMessage inner receiverHostFree
              exact .andThen taken fun result proper =>
                takeTokens_safe noGatekeeper restAreMessages restInners proper

end Hostless

/-- **An evaluation without a host ends with a value that is there and free of hosts, or with an
ordinary failure.** -/
theorem evaluate_safe (noGatekeeper : context.gatekeeper = none)
    (hostFree : ∀ entry ∈ registry.entries, entry.2.HostFree) (expression : String)
    (world : World) :
    (∃ value, (evaluate context registry expression world).outcome = .value value ∧
        value.isNull = false ∧ value.HostFree) ∨
      ∃ cause, (evaluate context registry expression world).outcome = .failure cause ∧
        cause.Ordinary context.maxDepth := by
  have safe : (evaluate context registry expression).Safe context.maxDepth Value.Proper :=
    .andThen (evaluateAt_safe noGatekeeper hostFree expression 0) fun _ => present_safe
  have ends := safe world
  cases outcome : (evaluate context registry expression world).outcome with
  | value value =>
      rw [outcome] at ends
      exact .inl ⟨value, rfl, ends.present, ends.hostFree⟩
  | failure cause =>
      rw [outcome] at ends
      exact .inr ⟨cause, rfl, ends⟩
  | exhausted =>
      rw [outcome] at ends
      exact ends.elim

/-- A context without a gatekeeper and without host objects. -/
def hostlessContext : Context Unit where
  clock world := (default, world)
  choose _ world := (0, world)
  userInfo := none
  gatekeeper := none
  maxDepth := some 1
  directory _ := .empty
  hostNesting := 0

/-- The missing argument that `map:` leaves to `appending:` is put into the array, and taking it out
again is the ordinary failure of a message that finds nothing. -/
theorem evaluate_safe_missing_element :
    let registry := Registry.empty.insert "lists" (.array [.array [.any]])
    let expression := "lists map: \"appending:\" elementAtIndex: 0 elementAtIndex: 1"
    let ending := evaluate hostlessContext registry expression ()
    hostlessContext.gatekeeper = none ∧ (∀ entry ∈ registry.entries, entry.2.HostFree) ∧
      ((∃ value, ending.outcome = .value value ∧ value.isNull = false ∧ value.HostFree) ∨
        ∃ cause, ending.outcome = .failure cause ∧
          cause.Ordinary hostlessContext.maxDepth) ∧
      ending.outcome = .failure (.methodReturnedNil "elementAtIndex:" .array) := by
  intro registry expression ending
  have hostFree : ∀ entry ∈ registry.entries, entry.2.HostFree := by
    refine List.forall_mem_singleton.mpr (.array (List.forall_mem_singleton.mpr ?_))
    exact .array (List.forall_mem_singleton.mpr .any)
  have scanned : Token.scan expression =
      .ok [.head "lists", .keyword "map:" "\"appending:\"", .keyword "elementAtIndex:" "0",
        .keyword "elementAtIndex:" "1"] := by
    decide
  refine ⟨rfl, hostFree, evaluate_safe rfl hostFree expression (), ?_⟩
  change (evaluate hostlessContext registry expression ()).outcome = _
  rw [← evaluateTokens_of_scan hostlessContext registry scanned]
  rfl

end MessageExpr
