import MessageExpr.Proofs.Evaluation.Unfolding
import MessageExpr.Proofs.Expression.Classification

/-!
# How much an evaluation reads

Evaluation reads an expression into tokens, and a bracketed expression when its token is reached. To
say how often and how deeply it does so, evaluation is run with a note of every reading
(`evaluateNoted`). Without the notes it is evaluation itself (`evaluateNoted_run`).

The text alone says what there is to read: the expression and the bracketed expressions in it, from
left to right (`expressionsIn`). What an evaluation reads is the beginning of this list, and all of it
where the evaluation has a value (`evaluateNoted_follows`).

A bracketed expression is at least four characters shorter than the one that holds it, and uses up a
bracket of it that no other one uses. This bounds the depth and the length of the list
(`depth_of_mem_expressionsIn`, `length_expressionsIn_le`), whatever the registry, the host and its
gatekeeper do (`evaluation_bounded_by_text`).
-/

set_option autoImplicit false

namespace MessageExpr

/-- The reading of an expression into tokens, inside a number of brackets. -/
structure Reading where
  depth : Nat
  expression : String
deriving DecidableEq

/-! ## Runs with notes -/

/-- A run, and what is read in it. -/
structure NotedRun (World Result : Type) where
  run : Run World Result
  readings : World → List Reading

namespace NotedRun

variable {World Result Next : Type}

/-- A run in which nothing is read. -/
def silent (run : Run World Result) : NotedRun World Result := ⟨run, fun _ => []⟩

/-- Notes a reading in front of a run. -/
def noting (reading : Reading) (noted : NotedRun World Result) : NotedRun World Result :=
  ⟨noted.run, fun world => reading :: noted.readings world⟩

/-- A run and then another one that depends on its result. Without a result nothing more is read. -/
def andThen (first : NotedRun World Result) (next : Result → NotedRun World Next) :
    NotedRun World Next where
  run := first.run.andThen fun result => (next result).run
  readings world :=
    first.readings world ++
      match first.run world with
      | ⟨.value result, reached, _⟩ => (next result).readings reached
      | _ => []

/-- The run reads from the front of the list, and all of it if it ends with a value. -/
structure Follows (noted : NotedRun World Result) (plan : List Reading) : Prop where
  isPrefix : ∀ world, noted.readings world <+: plan
  complete : ∀ world value, (noted.run world).outcome = .value value →
    noted.readings world = plan

namespace Follows

variable {first : NotedRun World Result} {next : Result → NotedRun World Next}
  {plan further : List Reading}

theorem silent (run : Run World Result) : (NotedRun.silent run).Follows [] where
  isPrefix _ := List.prefix_rfl
  complete _ _ _ := rfl

/-- What fails at once need not read anything. -/
theorem failing (cause : Failure) (plan : List Reading) :
    (NotedRun.silent (.failing cause) : NotedRun World Result).Follows plan where
  isPrefix _ := List.nil_prefix
  complete _ _ ends := nomatch ends

theorem noting (reading : Reading) (follows : first.Follows plan) :
    (first.noting reading).Follows (reading :: plan) where
  isPrefix world := List.cons_prefix_cons.mpr ⟨rfl, follows.isPrefix world⟩
  complete world value ends := congrArg (reading :: ·) (follows.complete world value ends)

theorem andThen (follows : first.Follows plan)
    (goesOn : ∀ result, (next result).Follows further) :
    (first.andThen next).Follows (plan ++ further) where
  isPrefix world := by
    cases ending : first.run world with
    | mk outcome reached events =>
        cases outcome with
        | value result =>
            have all := follows.complete world result (by rw [ending])
            simp only [NotedRun.andThen, ending, all, List.prefix_append_right_inj]
            exact (goesOn result).isPrefix reached
        | failure cause =>
            simp only [NotedRun.andThen, ending, List.append_nil]
            exact (follows.isPrefix world).trans (List.prefix_append plan further)
        | exhausted =>
            simp only [NotedRun.andThen, ending, List.append_nil]
            exact (follows.isPrefix world).trans (List.prefix_append plan further)
  complete world value ends := by
    obtain ⟨result, firstEnds, nextEnds⟩ := Run.value_of_andThen ends
    have all := follows.complete world result firstEnds
    cases ending : first.run world with
    | mk outcome reached events =>
        rw [ending] at firstEnds nextEnds
        obtain rfl : outcome = .value result := firstEnds
        simp only [NotedRun.andThen, ending, all]
        rw [(goesOn result).complete reached value nextEnds]

end Follows

end NotedRun

/-! ## Evaluation with notes -/

variable {World : Type}

section Evaluation

variable (context : Context World) (registry : Registry)
  (readInner : String → NotedRun World Value)

/-- Takes a token. Its bracketed expression is evaluated first. -/
def takeTokenNoted (receiver : Value) (token : Token) : NotedRun World Value :=
  match token.inner? with
  | some inner =>
    (readInner inner).andThen fun value =>
      .silent (takeToken context (fun _ => .returning value) receiver token)
  | none => .silent (takeToken context (fun _ => .exhausted) receiver token)

/-- Takes the tokens after the head, each on the result of the one before. -/
def takeTokensNoted (receiver : Value) : List Token → NotedRun World Value
  | [] => .silent (.returning receiver)
  | token :: rest =>
    (takeTokenNoted context readInner receiver token).andThen fun result =>
      takeTokensNoted result rest

/-- Evaluates the tokens of an expression. -/
def evaluateTokensNoted : List Token → NotedRun World Value
  | .head name :: token :: rest =>
    (NotedRun.silent (resolve context registry name)).andThen fun receiver =>
      takeTokensNoted context readInner receiver (token :: rest)
  | tokens => .silent (evaluateTokensAt context registry (fun _ => .exhausted) tokens)

/-- Evaluates an expression inside a number of brackets and notes what is read. -/
def evaluateNotedAt (depth : Nat) (expression : String) : NotedRun World Value :=
  match context.exceeded? depth with
  | some limit => .silent (.failing (.nestingTooDeep limit))
  | none =>
    .noting ⟨depth, expression⟩
      (match Token.scan expression with
      | .error failure => .silent (.failing failure)
      | .ok tokens =>
        evaluateTokensNoted context registry
          (fun inner =>
            if inner.length < expression.length then evaluateNotedAt (depth + 1) inner
            else .silent .exhausted)
          tokens)
  termination_by expression.length

/-- Evaluates an expression and notes what is read. -/
def evaluateNoted (expression : String) : NotedRun World Value :=
  (evaluateNotedAt context registry 0 expression).andThen fun value => .silent (present value)

end Evaluation

/-! ## The notes change nothing -/

variable {context : Context World} {registry : Registry}

section Tokens

variable {readInner : String → NotedRun World Value}

theorem takeTokenNoted_run {evaluateInner : String → Run World Value} {token : Token}
    (agree : ∀ inner, token.inner? = some inner → (readInner inner).run = evaluateInner inner)
    (receiver : Value) :
    (takeTokenNoted context readInner receiver token).run =
      takeToken context evaluateInner receiver token := by
  cases token with
  | head name => rfl
  | unary selector => rfl
  | keyword selector argument => rfl
  | keywordBracket selector inner =>
      simp only [takeTokenNoted, Token.inner?, NotedRun.andThen, NotedRun.silent, takeToken,
        Run.returning_andThen, Run.andThen_assoc, agree inner rfl]
  | bracket inner =>
      simp only [takeTokenNoted, Token.inner?, NotedRun.andThen, NotedRun.silent, takeToken,
        Run.returning_andThen, agree inner rfl]

theorem takeTokensNoted_run {evaluateInner : String → Run World Value} {tokens : List Token}
    (agree : ∀ token ∈ tokens, ∀ inner, token.inner? = some inner →
      (readInner inner).run = evaluateInner inner) (receiver : Value) :
    (takeTokensNoted context readInner receiver tokens).run =
      takeTokens context evaluateInner receiver tokens := by
  induction tokens generalizing receiver with
  | nil => rfl
  | cons token rest ih =>
      obtain ⟨agreeHere, agreeRest⟩ := List.forall_mem_cons.mp agree
      simp only [takeTokensNoted, takeTokens, NotedRun.andThen, takeTokenNoted_run agreeHere,
        ih agreeRest]

theorem evaluateTokensNoted_run {evaluateInner : String → Run World Value} {tokens : List Token}
    (agree : ∀ token ∈ tokens, ∀ inner, token.inner? = some inner →
      (readInner inner).run = evaluateInner inner) :
    (evaluateTokensNoted context registry readInner tokens).run =
      evaluateTokensAt context registry evaluateInner tokens := by
  rw [evaluateTokensNoted.eq_def]
  split
  · rename_i name token rest
    obtain ⟨-, agreeRest⟩ := List.forall_mem_cons.mp agree
    simp only [NotedRun.andThen, NotedRun.silent, evaluateTokensAt, takeTokensNoted_run agreeRest]
  · rename_i other
    rw [NotedRun.silent, evaluateTokensAt.eq_def, evaluateTokensAt.eq_def]
    split
    · exact absurd rfl (other _ _ _)
    · rfl
    · rfl
    · rfl

end Tokens

/-- **Without its notes, evaluation with notes is evaluation.** -/
theorem evaluateNotedAt_run (depth : Nat) (expression : String) :
    (evaluateNotedAt context registry depth expression).run =
      evaluateAt context registry depth expression := by
  induction expression using expression_induction generalizing depth with
  | step expression ih =>
      rw [evaluateNotedAt]
      cases within : context.exceeded? depth with
      | some limit =>
          rw [evaluateAt_of_exceeded within]
          rfl
      | none =>
          cases scanned : Token.scan expression with
          | error failure =>
              rw [evaluateAt_of_scan_error within scanned]
              rfl
          | ok tokens =>
              rw [evaluateAt_of_scan within scanned]
              refine evaluateTokensNoted_run fun token member inner inside => ?_
              rw [if_pos (Token.inner_shorter scanned member inside)]
              exact ih tokens scanned token member inner inside (depth + 1)

theorem evaluateNoted_run (expression : String) :
    (evaluateNoted context registry expression).run = evaluate context registry expression :=
  congrArg (Run.andThen · present) (evaluateNotedAt_run 0 expression)

/-! ## What there is to read -/

/-- The expression inside a number of brackets and the bracketed expressions in it, from left to
right. -/
def expressionsIn (depth : Nat) (expression : String) : List Reading :=
  ⟨depth, expression⟩ ::
    match Token.scan expression with
    | .error _ => []
    | .ok tokens =>
      (tokens.filterMap Token.inner?).flatMap fun inner =>
        if inner.length < expression.length then expressionsIn (depth + 1) inner else []
  termination_by expression.length

theorem expressionsIn_of_scan_error {expression : String} {failure : Failure}
    (failed : Token.scan expression = .error failure) (depth : Nat) :
    expressionsIn depth expression = [⟨depth, expression⟩] := by
  rw [expressionsIn]
  simp only [failed]

theorem expressionsIn_of_scan {expression : String} {tokens : List Token}
    (scanned : Token.scan expression = .ok tokens) (depth : Nat) :
    expressionsIn depth expression =
      ⟨depth, expression⟩ ::
        (tokens.filterMap Token.inner?).flatMap (expressionsIn (depth + 1)) := by
  rw [expressionsIn]
  simp only [scanned]
  congr 1
  refine List.flatMap_congr fun inner member => ?_
  obtain ⟨token, isToken, inside⟩ := List.mem_filterMap.mp member
  rw [if_pos (Token.inner_shorter scanned isToken inside)]

/-- There is at most one bracketed expression for each opening bracket. -/
theorem length_expressionsIn_le (depth : Nat) (expression : String) :
    (expressionsIn depth expression).length ≤ expression.toList.count '[' + 1 := by
  induction expression using expression_induction generalizing depth with
  | step expression ih =>
      cases scanned : Token.scan expression with
      | error failure => simp [expressionsIn_of_scan_error scanned]
      | ok tokens =>
          rw [expressionsIn_of_scan scanned, List.length_cons]
          refine Nat.succ_le_succ ((Token.inner_apart scanned).length_flatMap_le ?_)
          intro inner member
          obtain ⟨token, isToken, inside⟩ := List.mem_filterMap.mp member
          exact ih tokens scanned token isToken inner inside (depth + 1)

/-- Each level of brackets takes four characters from the text. -/
theorem depth_of_mem_expressionsIn {depth : Nat} {expression : String} {reading : Reading}
    (member : reading ∈ expressionsIn depth expression) :
    4 * reading.depth + reading.expression.length ≤ 4 * depth + expression.length := by
  induction expression using expression_induction generalizing depth with
  | step expression ih =>
      cases scanned : Token.scan expression with
      | error failure =>
          rw [expressionsIn_of_scan_error scanned] at member
          obtain rfl := List.mem_singleton.mp member
          exact Nat.le_refl _
      | ok tokens =>
          rw [expressionsIn_of_scan scanned] at member
          rcases List.mem_cons.mp member with rfl | within
          · exact Nat.le_refl _
          · obtain ⟨inner, isInner, behind⟩ := List.mem_flatMap.mp within
            obtain ⟨token, isToken, inside⟩ := List.mem_filterMap.mp isInner
            have deeper := ih tokens scanned token isToken inner inside behind
            have shorter := Token.inner_length_add_four_le scanned isToken inside
            omega

/-! ## What is read -/

/-- Tokens are read like the list of their bracketed expressions. -/
theorem takeTokensNoted_follows {readInner : String → NotedRun World Value} {tokens : List Token}
    {plan : String → List Reading}
    (follows : ∀ token ∈ tokens, ∀ inner, token.inner? = some inner →
      (readInner inner).Follows (plan inner)) (receiver : Value) :
    (takeTokensNoted context readInner receiver tokens).Follows
      ((tokens.filterMap Token.inner?).flatMap plan) := by
  induction tokens generalizing receiver with
  | nil => exact .silent _
  | cons token rest ih =>
      obtain ⟨here, followsRest⟩ := List.forall_mem_cons.mp follows
      rw [takeTokensNoted, takeTokenNoted]
      cases inside : token.inner? with
      | none =>
          rw [List.filterMap_cons_none inside]
          exact .andThen (.silent _) fun result => ih followsRest result
      | some inner =>
          rw [List.filterMap_cons_some inside, List.flatMap_cons]
          refine .andThen ?_ fun result => ih followsRest result
          rw [← List.append_nil (plan inner)]
          exact .andThen (here inner inside) fun value => .silent _

/-- **An evaluation reads the expressions of its text from left to right**, and all of them if it has
a value. -/
theorem evaluateNotedAt_follows (depth : Nat) (expression : String) :
    (evaluateNotedAt context registry depth expression).Follows
      (expressionsIn depth expression) := by
  induction expression using expression_induction generalizing depth with
  | step expression ih =>
      rw [evaluateNotedAt]
      cases within : context.exceeded? depth with
      | some limit => exact .failing _ _
      | none =>
          cases scanned : Token.scan expression with
          | error failure =>
              rw [expressionsIn_of_scan_error scanned]
              exact .noting _ (.failing _ _)
          | ok tokens =>
              obtain ⟨name, message, messages, rfl, -⟩ := Token.head_and_messages_of_scan scanned
              rw [expressionsIn_of_scan scanned]
              refine .noting _ (.andThen (.silent _) fun receiver => ?_)
              refine takeTokensNoted_follows (fun token member inner inside => ?_) receiver
              have isToken := List.mem_cons_of_mem (.head name) member
              rw [if_pos (Token.inner_shorter scanned isToken inside)]
              exact ih _ scanned token isToken inner inside (depth + 1)

/-- Evaluation reads the expression itself, and then bracketed expressions in it. -/
theorem evaluateNoted_follows (expression : String) :
    (evaluateNoted context registry expression).Follows (expressionsIn 0 expression) := by
  rw [← List.append_nil (expressionsIn 0 expression)]
  exact .andThen (evaluateNotedAt_follows 0 expression) fun value => .silent (present value)

/-- No limit is below the outermost level, so the expression itself is always read first. -/
theorem exists_readings_evaluateNoted (expression : String) (world : World) :
    ∃ nested, (evaluateNoted context registry expression).readings world =
      ⟨0, expression⟩ :: nested := by
  rw [evaluateNoted, evaluateNotedAt, exceeded?_zero]
  exact ⟨_, rfl⟩

/-- **How much an evaluation reads is bounded by its text.** The bracketed expressions of an
expression stand in it apart from each other, and each is at least four characters shorter, so
evaluating an expression by evaluating them ends. Whatever the registry, the gatekeeper and the host
do, an evaluation reads the expression and then at most as many bracketed expressions as it has opening
brackets, none of them deeper than a quarter of its length. If it has a value, it reads all there
are. -/
theorem evaluation_bounded_by_text (expression : String) :
    (∀ tokens, Token.scan expression = .ok tokens →
      StandInBrackets (tokens.filterMap Token.inner?) expression ∧
        (∀ token ∈ tokens, ∀ inner, token.inner? = some inner →
          inner.toList <:+: expression.toList ∧ inner.length + 4 ≤ expression.length) ∧
        ∀ {World : Type} (context : Context World) (registry : Registry) (depth : Nat),
          context.exceeded? depth = none →
            evaluateAt context registry depth expression =
              evaluateTokensAt context registry (evaluateAt context registry (depth + 1)) tokens) ∧
      ∀ {World : Type} (context : Context World) (registry : Registry) (world : World),
        let noted := evaluateNoted context registry expression
        noted.run = evaluate context registry expression ∧
          (∃ nested, noted.readings world = ⟨0, expression⟩ :: nested ∧
            nested.length ≤ expression.toList.count '[' ∧
            ∀ reading ∈ nested, reading.depth ≤ expression.length / 4) ∧
          ∀ value, (noted.run world).outcome = .value value →
            noted.readings world = expressionsIn 0 expression := by
  refine ⟨fun tokens scanned => ⟨Token.inner_apart scanned, fun token member inner inside => ?_,
    fun context registry depth within => evaluateAt_of_scan within scanned⟩,
    fun context registry world => ?_⟩
  · exact ⟨Token.inner_isInfix scanned member inside,
      Token.inner_length_add_four_le scanned member inside⟩
  · intro noted
    have follows : noted.Follows (expressionsIn 0 expression) := evaluateNoted_follows expression
    obtain ⟨nested, readings⟩ :
        ∃ nested, noted.readings world = ⟨0, expression⟩ :: nested :=
      exists_readings_evaluateNoted expression world
    have isPrefix := follows.isPrefix world
    refine ⟨evaluateNoted_run expression, ⟨nested, readings, ?_, fun reading member => ?_⟩,
      follows.complete world⟩
    · have bound := Nat.le_trans isPrefix.length_le (length_expressionsIn_le 0 expression)
      rw [readings, List.length_cons] at bound
      exact Nat.le_of_succ_le_succ bound
    · have listed : reading ∈ expressionsIn 0 expression := by
        refine isPrefix.subset ?_
        rw [readings]
        exact List.mem_cons_of_mem _ member
      have bound := depth_of_mem_expressionsIn listed
      omega

end MessageExpr
