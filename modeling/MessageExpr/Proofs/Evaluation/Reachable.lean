import MessageExpr.Evaluation
import MessageExpr.Proofs.Expression.Classification

/-!
# Reading an expression and taking its tokens

Evaluation has two failures for tokens that no expression has: too few of them, and a head that is
missing or in the wrong place. Whatever run stands in the place of these failures
(`evaluateTokensOr`), the tokens that were read from an expression are evaluated in the same way, so
these branches are not reached.

This is the last of four facts on reading (`scan_specified`). The others say from the components of
an expression alone whether it has tokens, which ones they are, and which failure it has otherwise.
-/

set_option autoImplicit false

namespace MessageExpr

variable {World : Type}

/-! ## Other runs in the place of failures -/

section Branches

variable (tooShort : String → Run World Value) (unexpected : Run World Value)
  (context : Context World) (registry : Registry) (evaluateInner : String → Run World Value)

/-- Takes a token, with another run in the place of the failure on a head. -/
def takeTokenOr (receiver : Value) : Token → Run World Value
  | .head _ => unexpected
  | token => takeToken context evaluateInner receiver token

/-- Takes tokens, with another run in the place of the failure on a head. -/
def takeTokensOr (receiver : Value) : List Token → Run World Value
  | [] => .returning receiver
  | token :: rest =>
    (takeTokenOr unexpected context evaluateInner receiver token).andThen fun result =>
      takeTokensOr result rest

/-- Evaluates tokens, with other runs in the place of the failures on tokens that no expression
has. -/
def evaluateTokensOr : List Token → Run World Value
  | .head name :: token :: rest =>
    (resolve context registry name).andThen fun receiver =>
      takeTokensOr unexpected context evaluateInner receiver (token :: rest)
  | [.head name] => tooShort (Token.source [.head name])
  | [] => tooShort ""
  | _ => unexpected

theorem takeTokensOr_failing (receiver : Value) (tokens : List Token) :
    takeTokensOr (.failing .unexpected) context evaluateInner receiver tokens =
      takeTokens context evaluateInner receiver tokens := by
  induction tokens generalizing receiver with
  | nil => rfl
  | cons token rest ih =>
      have here : takeTokenOr (.failing .unexpected) context evaluateInner receiver token =
          takeToken context evaluateInner receiver token := by
        cases token <;> rfl
      simp only [takeTokensOr, takeTokens, here, ih]

/-- With the failures themselves in these places, evaluation is what it is. -/
theorem evaluateTokensOr_failing (tokens : List Token) :
    evaluateTokensOr (fun source => .failing (.expressionTooShort source)) (.failing .unexpected)
        context registry evaluateInner tokens =
      evaluateTokensAt context registry evaluateInner tokens := by
  match tokens with
  | [] => rfl
  | [.head name] => rfl
  | .head name :: token :: rest =>
      simp only [evaluateTokensOr, evaluateTokensAt, takeTokensOr_failing]
  | .unary _ :: _ => rfl
  | .keyword _ _ :: _ => rfl
  | .keywordBracket _ _ :: _ => rfl
  | .bracket _ :: _ => rfl

theorem takeTokensOr_messages (receiver : Value) {tokens : List Token}
    (areMessages : ∀ token ∈ tokens, token.IsMessage) :
    takeTokensOr unexpected context evaluateInner receiver tokens =
      takeTokens context evaluateInner receiver tokens := by
  induction tokens generalizing receiver with
  | nil => rfl
  | cons token rest ih =>
      obtain ⟨isMessage, restAreMessages⟩ := List.forall_mem_cons.mp areMessages
      have here : takeTokenOr unexpected context evaluateInner receiver token =
          takeToken context evaluateInner receiver token := by
        cases token with
        | head name => exact isMessage.elim
        | _ => rfl
      simp only [takeTokensOr, takeTokens, here]
      congr 1
      funext result
      exact ih result restAreMessages

/-- The tokens of an expression do not reach the failures. -/
theorem evaluateTokensOr_of_scan {expression : String} {tokens : List Token}
    (scanned : Token.scan expression = .ok tokens) :
    evaluateTokensOr tooShort unexpected context registry evaluateInner tokens =
      evaluateTokensAt context registry evaluateInner tokens := by
  obtain ⟨name, message, messages, rfl, areMessages⟩ := Token.head_and_messages_of_scan scanned
  simp only [evaluateTokensOr, evaluateTokensAt]
  congr 1
  funext receiver
  exact takeTokensOr_messages unexpected context evaluateInner receiver areMessages

end Branches

/-! ## The specification of reading -/

namespace Token

/-- An expression without a message is too short. -/
theorem scan_of_short {expression : String} (short : (componentsOf expression).length ≤ 1) :
    scan expression = .error (.expressionTooShort expression) := by
  rw [scan]
  split
  · rename_i name message messages read
    rw [read] at short
    simp at short
  · rfl

/-- A keyword that dangles behind the head does so among the messages. -/
theorem firstDangling_messages {name : String} {messages : List String} {position : Nat}
    {keyword : String} (first : DanglingAt (name :: messages) (position + 1) keyword)
    (none : ∀ earlier other, 1 ≤ earlier → earlier < position + 1 →
      ¬ DanglingAt (name :: messages) earlier other) :
    FirstDangling messages position keyword := by
  refine ⟨danglingAt_cons_succ.mp first, fun earlier other before dangling => ?_⟩
  exact none (earlier + 1) other (Nat.le_add_left 1 earlier) (Nat.succ_lt_succ before)
    (danglingAt_cons_succ.mpr dangling)

theorem scan_of_dangling {expression : String} {position : Nat} {keyword : String}
    (behind : 1 ≤ position) (first : DanglingAt (componentsOf expression) position keyword)
    (none : ∀ earlier other, 1 ≤ earlier → earlier < position →
      ¬ DanglingAt (componentsOf expression) earlier other) :
    scan expression = .error (.expectedArgumentButFoundNil keyword) := by
  obtain ⟨position, rfl⟩ := Nat.exists_eq_add_of_le' behind
  rw [scan]
  split
  · rename_i name message messages read
    rw [read] at first none
    have firstMessage : FirstDangling (message :: messages) position keyword :=
      firstDangling_messages first none
    obtain ⟨tokens, -, classified⟩ | ⟨other, found, failed, alsoFirst⟩ :=
      ofMessages_spec (message :: messages)
    · exact absurd firstMessage.1 (classified.not_danglingAt position keyword)
    · rw [failed, firstMessage.unique alsoFirst, Except.map]
  · rename_i short
    have found := first.found
    cases read : componentsOf expression with
    | nil => simp [read] at found
    | cons name messages =>
        cases messages with
        | nil => simp [read] at found
        | cons message messages => exact absurd read (short name message messages)

theorem scan_of_answered {expression : String} (long : 1 < (componentsOf expression).length)
    (none : ∀ position keyword, 1 ≤ position →
      ¬ DanglingAt (componentsOf expression) position keyword) :
    ∃ tokens, scan expression = .ok tokens := by
  obtain ⟨name, message, messages, read⟩ :
      ∃ name message messages, componentsOf expression = name :: message :: messages := by
    match read : componentsOf expression with
    | [] => simp [read] at long
    | [_] => simp [read] at long
    | name :: message :: messages => exact ⟨name, message, messages, rfl⟩
  rw [read] at none
  obtain ⟨tokens, readMessages, -⟩ | ⟨position, keyword, -, first⟩ :=
    ofMessages_spec (message :: messages)
  · exact ⟨.head name :: tokens, by simp only [scan, read, readMessages, Except.map]⟩
  · exact absurd (danglingAt_cons_succ.mpr first.1)
      (none (position + 1) keyword (Nat.le_add_left 1 position))

/-- **Reading is what the components of an expression say: too short without a message, a failure on
the first keyword that dangles, and otherwise a head and messages that are made of exactly these
components. What was read is evaluated without the failures on other tokens.** -/
theorem scan_specified (expression : String) :
    ((componentsOf expression).length ≤ 1 →
        scan expression = .error (.expressionTooShort expression)) ∧
      (∀ position keyword, 1 ≤ position →
        DanglingAt (componentsOf expression) position keyword →
        (∀ earlier other, 1 ≤ earlier → earlier < position →
          ¬ DanglingAt (componentsOf expression) earlier other) →
        scan expression = .error (.expectedArgumentButFoundNil keyword)) ∧
      (1 < (componentsOf expression).length →
        (∀ position keyword, 1 ≤ position →
          ¬ DanglingAt (componentsOf expression) position keyword) →
        ∃ name message messages, scan expression = .ok (.head name :: message :: messages) ∧
          (∀ token ∈ message :: messages, token.IsMessage) ∧
          (.head name :: message :: messages : List Token).flatMap components =
            componentsOf expression) ∧
      ∀ {World : Type} (context : Context World) (registry : Registry)
        (evaluateInner : String → Run World Value),
        (∀ tokens, evaluateTokensOr (fun source => .failing (.expressionTooShort source))
            (.failing .unexpected) context registry evaluateInner tokens =
          evaluateTokensAt context registry evaluateInner tokens) ∧
        ∀ tokens, scan expression = .ok tokens →
          ∀ (tooShort : String → Run World Value) (unexpected : Run World Value),
            evaluateTokensOr tooShort unexpected context registry evaluateInner tokens =
              evaluateTokensAt context registry evaluateInner tokens := by
  refine ⟨scan_of_short, fun position keyword => scan_of_dangling, fun long none => ?_, ?_⟩
  · obtain ⟨tokens, scanned⟩ := scan_of_answered long none
    obtain ⟨name, message, messages, rfl, areMessages⟩ := head_and_messages_of_scan scanned
    exact ⟨name, message, messages, scanned, areMessages, components_of_scan scanned⟩
  · intro World context registry evaluateInner
    refine ⟨evaluateTokensOr_failing context registry evaluateInner, ?_⟩
    intro tokens scanned tooShort unexpected
    exact evaluateTokensOr_of_scan tooShort unexpected context registry evaluateInner scanned

end Token

end MessageExpr
