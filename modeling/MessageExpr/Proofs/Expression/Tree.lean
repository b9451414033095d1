import MessageExpr.Proofs.Expression.Lexeme

/-!
# Expression trees and their texts

An expression tree is a head and one message or more. A message is unary, a keyword with a word, a
quotation or a tree as its argument, or a tree in the place of a message. A tree is written with one
space between its components and with brackets around the trees in it (`ExpressionTree.print`).

Every component that a tree is written with is well-bracketed (`MessageTrees.wellBracketed`), so
reading a printed tree gives the tokens of the tree (`ExpressionTree.scan_print`).
-/

set_option autoImplicit false

namespace MessageExpr

/-- What an expression starts with. -/
inductive Head where
  | word (name : Word)
  | quotation (literal : Quotation)

/-- An argument that is no expression. -/
inductive FlatArgument where
  | word (name : Name)
  | quotation (literal : Quotation)

mutual

/-- A head and the messages after it. -/
inductive ExpressionTree where
  | mk (head : Head) (messages : MessageTrees)

/-- One message or more. -/
inductive MessageTrees where
  | one (message : MessageTree)
  | more (message : MessageTree) (rest : MessageTrees)

/-- A message, or a tree in the place of one. -/
inductive MessageTree where
  | unary (selector : Name)
  | keyword (selector : Keyword) (argument : FlatArgument)
  | keywordBracket (selector : Keyword) (argument : ExpressionTree)
  | bracket (inner : ExpressionTree)

end

/-! ## Writing -/

/-- The text of a head. -/
def Head.text : Head → String
  | .word name => name.text
  | .quotation literal => literal.text

/-- The text of an argument that is no expression. -/
def FlatArgument.text : FlatArgument → String
  | .word name => name.text
  | .quotation literal => literal.text

mutual

/-- The text of a tree. -/
def ExpressionTree.print : ExpressionTree → String
  | .mk head messages => " ".intercalate (head.text :: messages.components)

/-- The components of messages in their order. -/
def MessageTrees.components : MessageTrees → List String
  | .one message => message.components
  | .more message rest => message.components ++ rest.components

/-- The components of a message. -/
def MessageTree.components : MessageTree → List String
  | .unary selector => [selector.text]
  | .keyword selector argument => [selector.text, argument.text]
  | .keywordBracket selector argument => [selector.text, "[" ++ argument.print ++ "]"]
  | .bracket inner => ["[" ++ inner.print ++ "]"]

end

/-- The token of a message. -/
def MessageTree.token : MessageTree → Token
  | .unary selector => .unary selector.text
  | .keyword selector argument => .keyword selector.text argument.text
  | .keywordBracket selector argument => .keywordBracket selector.text argument.print
  | .bracket inner => .bracket inner.print

/-- The tokens of messages. -/
def MessageTrees.tokens : MessageTrees → List Token
  | .one message => [message.token]
  | .more message rest => message.token :: rest.tokens

/-- The tokens of a tree. -/
def ExpressionTree.tokens : ExpressionTree → List Token
  | .mk head messages => .head head.text :: messages.tokens

/-! ## Components -/

theorem Head.wellBracketed (head : Head) : WellBracketed head.text := by
  cases head with
  | word name => exact name.wellBracketed
  | quotation literal => exact literal.wellBracketed

namespace FlatArgument

variable (argument : FlatArgument)

theorem wellBracketed : WellBracketed argument.text := by
  cases argument with
  | word name => exact name.wellBracketed
  | quotation literal => exact literal.wellBracketed

theorem isKeyword_text : Token.isKeyword argument.text = false := by
  cases argument with
  | word name => exact name.isKeyword_text
  | quotation literal => exact literal.isKeyword_text

theorem bracketInner?_eq_none : Token.bracketInner? argument.text = none := by
  cases argument with
  | word name => exact name.bracketInner?_eq_none
  | quotation literal => exact literal.bracketInner?_eq_none

end FlatArgument

mutual

/-- A printed tree leaves the brackets around it as they are. -/
theorem ExpressionTree.neutral_print : ∀ tree : ExpressionTree, Neutral tree.print
  | .mk head messages => by
      rw [ExpressionTree.print]
      refine neutral_intercalate (List.cons_ne_nil _ _) fun component member => ?_
      rcases List.mem_cons.mp member with rfl | inMessages
      · exact head.wellBracketed
      · exact messages.wellBracketed component inMessages

/-- The components of messages are well-bracketed. -/
theorem MessageTrees.wellBracketed : ∀ messages : MessageTrees,
    ∀ component ∈ messages.components, WellBracketed component
  | .one message, component, member => by
      rw [MessageTrees.components] at member
      exact message.wellBracketed component member
  | .more message rest, component, member => by
      rw [MessageTrees.components] at member
      rcases List.mem_append.mp member with here | further
      · exact message.wellBracketed component here
      · exact rest.wellBracketed component further

/-- The components of a message are well-bracketed. -/
theorem MessageTree.wellBracketed : ∀ message : MessageTree,
    ∀ component ∈ message.components, WellBracketed component
  | .unary selector, component, member => by
      rw [MessageTree.components, List.mem_singleton] at member
      exact member ▸ selector.wellBracketed
  | .keyword selector argument, component, member => by
      rw [MessageTree.components, List.mem_pair] at member
      rcases member with rfl | rfl
      · exact selector.wellBracketed
      · exact argument.wellBracketed
  | .keywordBracket selector argument, component, member => by
      rw [MessageTree.components, List.mem_pair] at member
      rcases member with rfl | rfl
      · exact selector.wellBracketed
      · exact argument.neutral_print.wellBracketed
  | .bracket inner, component, member => by
      rw [MessageTree.components, List.mem_singleton] at member
      exact member ▸ inner.neutral_print.wellBracketed

end

/-! ## Tokens -/

namespace MessageTree

/-- The components of a message are read as its token. -/
theorem ofMessages_components (message : MessageTree) (rest : List String) :
    Token.ofMessages (message.components ++ rest) =
      (Token.ofMessages rest).map (message.token :: ·) := by
  cases message with
  | unary selector =>
      simp only [components, List.singleton_append, token,
        Token.ofMessages_single selector.isKeyword_text, Token.ofSingle,
        selector.bracketInner?_eq_none]
  | keyword selector argument =>
      simp only [components, List.cons_append, List.nil_append, token,
        Token.ofMessages_keyword selector.isKeyword_text argument.isKeyword_text,
        Token.ofKeyword, argument.bracketInner?_eq_none]
  | keywordBracket selector argument =>
      simp only [components, List.cons_append, List.nil_append, token,
        Token.ofMessages_keyword selector.isKeyword_text (isKeyword_brackets argument.print),
        Token.ofKeyword, bracketInner?_brackets]
  | bracket inner =>
      simp only [components, List.singleton_append, token,
        Token.ofMessages_single (isKeyword_brackets inner.print), Token.ofSingle,
        bracketInner?_brackets]

end MessageTree

namespace MessageTrees

/-- The components of messages are read as their tokens. -/
theorem ofMessages_components : ∀ messages : MessageTrees,
    Token.ofMessages messages.components = .ok messages.tokens
  | .one message => by
      have reads := message.ofMessages_components []
      rw [List.append_nil] at reads
      rw [components, reads]
      rfl
  | .more message rest => by
      rw [components, message.ofMessages_components, rest.ofMessages_components]
      rfl

theorem components_ne_nil : ∀ messages : MessageTrees, messages.components ≠ []
  | .one message => by cases message <;> simp [components, MessageTree.components]
  | .more message rest => by simp [components, rest.components_ne_nil]

theorem tokens_ne_nil (messages : MessageTrees) : messages.tokens ≠ [] := by
  cases messages <;> exact List.cons_ne_nil _ _

end MessageTrees

/-- **Reading a printed tree gives the tokens of the tree.** -/
theorem ExpressionTree.scan_print : ∀ tree : ExpressionTree,
    Token.scan tree.print = .ok tree.tokens
  | .mk head messages => by
      have wellBracketed : ∀ component ∈ head.text :: messages.components,
          WellBracketed component := by
        intro component member
        rcases List.mem_cons.mp member with rfl | inMessages
        · exact head.wellBracketed
        · exact messages.wellBracketed component inMessages
      obtain ⟨message, more, components_eq⟩ :=
        List.exists_cons_of_ne_nil messages.components_ne_nil
      refine Token.scan_eq_ok_iff.mpr ⟨head.text, message, more, messages.tokens, ?_, ?_, rfl⟩
      · rw [ExpressionTree.print, componentsOf_intercalate wellBracketed, components_eq]
      · rw [← components_eq, messages.ofMessages_components]

end MessageExpr
