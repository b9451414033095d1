import MessageExpr.Proofs.Evaluation.Unfolding
import MessageExpr.Proofs.Expression.Tree
import MessageExpr.Proofs.Run.Sequence

/-!
# Evaluating expression trees

An expression tree can be evaluated without writing it down: its head names the first receiver, each
message is sent to what the one before it returned, and a tree in it is evaluated one level deeper
(`ExpressionTree.evaluate`). Of the text of a tree only two uses remain, as the name that a
quotation may have in the registry and as the source that a failure reports.

Evaluating the text of a tree is the same run, with the same outcome, the same states of the host
and the same events (`evaluate_print`).
-/

set_option autoImplicit false

namespace MessageExpr

variable {World : Type}

/-! ## The evaluation of a tree -/

/-- The value that a head names. A quotation may be the name of an entry, and otherwise is its own
content. -/
def Head.resolve (context : Context World) (registry : Registry) : Head → Run World Value
  | .word name => MessageExpr.resolve context registry name.text
  | .quotation literal =>
    match registry.get? literal.text with
    | some value => .returning value
    | none => .returning (.string literal.content)

/-- The value of an argument that is no expression. -/
def FlatArgument.value : FlatArgument → Value
  | .word name => .string name.text
  | .quotation literal => .string literal.content

mutual

/-- Evaluates a tree inside a number of brackets. -/
def ExpressionTree.evaluateAt (context : Context World) (registry : Registry) :
    ExpressionTree → Nat → Run World Value
  | .mk head messages, depth =>
    match context.exceeded? depth with
    | some limit => .failing (.nestingTooDeep limit)
    | none => (head.resolve context registry).andThen (messages.send context registry depth)

/-- Sends messages, each to what the one before it returned. -/
def MessageTrees.send (context : Context World) (registry : Registry) (depth : Nat) :
    MessageTrees → Value → Run World Value
  | .one message, receiver => message.send context registry depth receiver
  | .more message rest, receiver =>
    (message.send context registry depth receiver).andThen (rest.send context registry depth)

/-- Sends a message to a receiver. A tree in the place of a message takes the receiver's place. -/
def MessageTree.send (context : Context World) (registry : Registry) (depth : Nat) :
    MessageTree → Value → Run World Value
  | .unary selector, receiver => MessageExpr.send context receiver selector.text none
  | .keyword selector argument, receiver =>
    MessageExpr.send context receiver selector.text (some argument.value)
  | .keywordBracket selector argument, receiver =>
    ((argument.evaluateAt context registry (depth + 1)).andThen
      (presentInner argument.print)).andThen fun value =>
        MessageExpr.send context receiver selector.text (some value)
  | .bracket inner, _ =>
    (inner.evaluateAt context registry (depth + 1)).andThen (presentInner inner.print)

end

/-- Evaluates a tree. -/
def ExpressionTree.evaluate (context : Context World) (registry : Registry)
    (tree : ExpressionTree) : Run World Value :=
  (tree.evaluateAt context registry 0).andThen present

/-! ## Heads and arguments -/

theorem FlatArgument.flatArgument_text (argument : FlatArgument) :
    flatArgument argument.text = argument.value := by
  cases argument with
  | word name => exact name.flatArgument_text
  | quotation literal => exact literal.flatArgument_text

/-- A quotation is no number. -/
theorem Quotation.read?_text (quotation : Quotation) :
    Literal.read? quotation.text = some (.string quotation.content) := by
  have notNumeric : Literal.looksNumeric quotation.text.toList = false := by
    rw [quotation.toList_text]
    rfl
  simp [Literal.read?, Literal.readInt?, Literal.readDouble?, notNumeric, quotation.unquote?_text]

/-- A quotation is the name of neither constructor. -/
theorem Quotation.text_ne {name : String} (quotation : Quotation)
    (other : name.toList.head? ≠ some '"') : quotation.text ≠ name := by
  rintro rfl
  rw [quotation.toList_text] at other
  exact other rfl

theorem Head.resolve_text (context : Context World) (registry : Registry) (head : Head) :
    MessageExpr.resolve context registry head.text = head.resolve context registry := by
  cases head with
  | word name => rfl
  | quotation literal =>
      have notDate : literal.text ≠ "Date" := literal.text_ne (by decide)
      have notString : literal.text ≠ "String" := literal.text_ne (by decide)
      rw [Head.text, Head.resolve, MessageExpr.resolve, if_neg notDate, if_neg notString]
      cases registry.get? literal.text with
      | some value => rfl
      | none => rw [literal.read?_text]

/-! ## Agreement -/

variable (context : Context World) (registry : Registry)

mutual

/-- **The evaluation of a printed tree is the evaluation of the tree, at every depth.** -/
theorem ExpressionTree.evaluateAt_print : ∀ (tree : ExpressionTree) (depth : Nat),
    MessageExpr.evaluateAt context registry depth tree.print =
      tree.evaluateAt context registry depth
  | .mk head messages, depth => by
      cases within : context.exceeded? depth with
      | some limit =>
          rw [evaluateAt_of_exceeded within, ExpressionTree.evaluateAt, within]
      | none =>
          rw [evaluateAt_of_scan within (ExpressionTree.scan_print _), ExpressionTree.evaluateAt,
            within, ExpressionTree.tokens, evaluateTokensAt_head messages.tokens_ne_nil,
            head.resolve_text]
          congr 1
          funext receiver
          exact messages.takeTokens_tokens depth receiver

/-- Taking the tokens of messages is sending the messages. -/
theorem MessageTrees.takeTokens_tokens : ∀ (messages : MessageTrees) (depth : Nat)
    (receiver : Value),
    takeTokens context (MessageExpr.evaluateAt context registry (depth + 1)) receiver
        messages.tokens =
      messages.send context registry depth receiver
  | .one message, depth, receiver => by
      rw [MessageTrees.tokens, takeTokens, message.takeToken_token, MessageTrees.send]
      exact Run.andThen_returning _
  | .more message rest, depth, receiver => by
      rw [MessageTrees.tokens, takeTokens, message.takeToken_token, MessageTrees.send]
      congr 1
      funext result
      exact rest.takeTokens_tokens depth result

/-- Taking the token of a message is sending the message. -/
theorem MessageTree.takeToken_token : ∀ (message : MessageTree) (depth : Nat) (receiver : Value),
    takeToken context (MessageExpr.evaluateAt context registry (depth + 1)) receiver
        message.token =
      message.send context registry depth receiver
  | .unary selector, depth, receiver => rfl
  | .keyword selector argument, depth, receiver => by
      rw [MessageTree.token, takeToken, argument.flatArgument_text, MessageTree.send]
  | .keywordBracket selector argument, depth, receiver => by
      rw [MessageTree.token, takeToken, argument.evaluateAt_print, MessageTree.send]
  | .bracket inner, depth, receiver => by
      rw [MessageTree.token, takeToken, inner.evaluateAt_print, MessageTree.send]

end

/-- **Evaluating the text of a tree is evaluating the tree.** -/
theorem evaluate_print (tree : ExpressionTree) :
    evaluate context registry tree.print = tree.evaluate context registry := by
  rw [evaluate, ExpressionTree.evaluate, tree.evaluateAt_print]

end MessageExpr
