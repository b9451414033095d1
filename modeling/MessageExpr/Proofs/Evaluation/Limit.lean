import MessageExpr.Proofs.Evaluation.Heads
import MessageExpr.Proofs.Expression.Regions
import MessageExpr.Proofs.Run.CutOff
import MessageExpr.Proofs.Run.Shallow

/-!
# The limit on nested brackets

An evaluation under a limit is the evaluation under any wider limit, or none, up to the point where
a bracket is too deep (`evaluateAt_cutsOff`).

A bracketed expression that is too deep is not even read. Two expressions that differ only inside a
bracket one level beyond the limit are therefore evaluated alike, even if one of them is malformed
there (`evaluateAt_alikeAbove`).

Where the reader of an expression never has more brackets open than the limit allows, no bracket is
too deep (`evaluateAt_shallow`). All three together say that a limit does nothing but cut off
(`limit_only_cuts_off`).
-/

set_option autoImplicit false

namespace MessageExpr

variable {World : Type} {context : Context World} {registry : Registry}

/-! ## Wider limits -/

/-- **A limit cuts an evaluation off that goes on under a wider one.** -/
theorem evaluateAt_cutsOff {limit : Nat} {wider : Option Nat}
    (wide : ∀ other, wider = some other → limit ≤ other) (expression : String) (depth : Nat) :
    (evaluateAt (context.limited (some limit)) registry depth expression).CutsOff limit
      (evaluateAt (context.limited wider) registry depth expression) := by
  refine evaluateAt_related (Run.compositional_cutsOff limit) registry registry ?_ ?_ ?_ expression
    ?_ depth
  · intro depth exceeded beyond expression
    obtain rfl : limit = exceeded := Option.some.inj (maxDepth_of_exceeded? beyond)
    exact .failing _
  · intro depth within
    have notDeeper : depth ≤ limit := exceeded?_eq_none_iff.mp within limit rfl
    exact exceeded?_eq_none_iff.mpr fun other set => Nat.le_trans notDeeper (wide other set)
  · intro receiver selector argument
    rw [send_limited, send_limited]
    exact .refl _
  · intro name _
    rw [resolve_limited, resolve_limited]
    exact .refl _

/-! ## What is too deep -/

/-- The token with another expression in its brackets. -/
def Token.withInner (other : String) : Token → Token
  | .keywordBracket selector _ => .keywordBracket selector other
  | .bracket _ => .bracket other
  | token => token

/-- Two expressions are read alike but for what is inside one bracket this many levels deep; there
each of them may be anything. -/
inductive AlikeAbove : Nat → String → String → Prop where
  | anything (first second : String) : AlikeAbove 0 first second
  | brackets {levels : Nat} {first second inner other : String} {token : Token}
      (before after : List Token) (scanned : Token.scan first = .ok (before ++ token :: after))
      (alsoScanned : Token.scan second = .ok (before ++ token.withInner other :: after))
      (inside : token.inner? = some inner) (alike : AlikeAbove levels inner other) :
      AlikeAbove (levels + 1) first second

/-- The run ends with no value. -/
def Run.Valueless {Result : Type} (run : Run World Result) : Prop :=
  ∀ world value, (run world).outcome ≠ .value value

namespace Run.Valueless

variable {Result Next : Type} {first : Run World Result} {next : Result → Run World Next}

theorem andThen (valueless : first.Valueless) : (first.andThen next).Valueless := by
  intro world value ends
  obtain ⟨result, firstEnds, -⟩ := value_of_andThen ends
  exact valueless world result firstEnds

theorem andThen_of_next (valueless : ∀ result, (next result).Valueless) :
    (first.andThen next).Valueless := by
  intro world value ends
  obtain ⟨result, -, nextEnds⟩ := value_of_andThen ends
  exact valueless result _ value nextEnds

/-- What follows a run without a value does not matter. -/
theorem andThen_congr (valueless : first.Valueless) (following : Result → Run World Next) :
    first.andThen next = first.andThen following := by
  funext world
  have noValue := valueless world
  cases ending : first world with
  | mk outcome reached events =>
      cases outcome with
      | value result => exact absurd (congrArg Ending.outcome ending) (noValue result)
      | failure cause => rw [andThen_of_failure ending, andThen_of_failure ending]
      | exhausted => rw [andThen_of_exhausted ending, andThen_of_exhausted ending]

end Run.Valueless

/-- A bracket whose expression has no value is taken like every other with this expression's run. -/
theorem takeToken_withInner (context : Context World) {evaluateInner : String → Run World Value}
    {token : Token} {inner other : String} (inside : token.inner? = some inner)
    (valueless : (evaluateInner inner).Valueless)
    (same : evaluateInner other = evaluateInner inner) (receiver : Value) :
    takeToken context evaluateInner receiver (token.withInner other) =
        takeToken context evaluateInner receiver token ∧
      (takeToken context evaluateInner receiver token).Valueless := by
  have presented : (evaluateInner other).andThen (presentInner other) =
      (evaluateInner inner).andThen (presentInner inner) := by
    rw [same]
    exact valueless.andThen_congr _
  cases token with
  | head name => cases inside
  | unary selector => cases inside
  | keyword selector argument => cases inside
  | keywordBracket selector text =>
      obtain rfl : text = inner := Option.some.inj inside
      refine ⟨?_, valueless.andThen.andThen⟩
      simp only [Token.withInner, takeToken, presented]
  | bracket text =>
      obtain rfl : text = inner := Option.some.inj inside
      exact ⟨presented, valueless.andThen⟩

/-- **What is beyond the limit is not read.** Expressions that are alike down to there are evaluated
alike, and have no value. -/
theorem evaluateAt_alikeAbove (registry : Registry) {levels : Nat} {first second : String}
    (alike : AlikeAbove levels first second) {depth limit : Nat}
    (beyond : context.exceeded? (depth + levels) = some limit) :
    evaluateAt context registry depth second = evaluateAt context registry depth first ∧
      (evaluateAt context registry depth first).Valueless := by
  induction alike generalizing depth with
  | anything first second =>
      rw [Nat.add_zero] at beyond
      rw [evaluateAt_of_exceeded beyond, evaluateAt_of_exceeded beyond]
      exact ⟨rfl, fun _ _ failed => nomatch failed⟩
  | @brackets levels first second inner other token before after scanned alsoScanned inside _ ih =>
      cases within : context.exceeded? depth with
      | some exceeded =>
          rw [evaluateAt_of_exceeded within, evaluateAt_of_exceeded within]
          exact ⟨rfl, fun _ _ failed => nomatch failed⟩
      | none =>
          have deeper : context.exceeded? (depth + 1 + levels) = some limit := by
            rwa [Nat.add_assoc, Nat.add_comm 1 levels]
          obtain ⟨same, valueless⟩ := ih deeper
          -- The bracket is not the head, so it is taken on what the tokens before it make.
          obtain ⟨name, earlier, rfl⟩ : ∃ name earlier, before = .head name :: earlier := by
            obtain ⟨name, message, messages, parts, -⟩ := Token.head_and_messages_of_scan scanned
            cases before with
            | nil =>
                cases parts
                cases inside
            | cons token earlier =>
                obtain ⟨rfl, -⟩ := List.cons.inj parts
                exact ⟨name, earlier, rfl⟩
          rw [evaluateAt_of_scan within scanned, evaluateAt_of_scan within alsoScanned,
            List.cons_append, List.cons_append, evaluateTokensAt_head (by simp),
            evaluateTokensAt_head (by simp)]
          have taken := fun receiver =>
            takeToken_withInner context inside valueless same receiver
          simp only [takeTokens_append, takeTokens, (taken _).1, true_and]
          exact .andThen_of_next fun receiver => .andThen_of_next fun result =>
            (taken result).2.andThen

/-! ## What is not too deep -/

/-- **No bracket is too deep where fewer are open than the limit allows.** -/
theorem evaluateAt_shallow (shallow : context.Shallow) {expression : String} {levels depth : Nat}
    (bounded : LevelWithin levels expression)
    (allowed : ∀ limit, context.maxDepth = some limit → depth + levels ≤ limit) :
    (evaluateAt context registry depth expression).Shallow := by
  induction expression using expression_induction generalizing levels depth with
  | step expression ih =>
      have within : context.exceeded? depth = none :=
        exceeded?_eq_none_iff.mpr fun limit set =>
          Nat.le_trans (Nat.le_add_right depth levels) (allowed limit set)
      cases scanned : Token.scan expression with
      | error failure =>
          rw [evaluateAt_of_scan_error within scanned]
          exact .failing (Token.shallow_of_scan_eq_error scanned)
      | ok tokens =>
          rw [evaluateAt_of_scan within scanned]
          refine evaluateTokensAt_property Run.compositional_shallow
            (sendWithin_shallow shallow context.sendNesting) (fun name => resolve_failsOnly trivial) ?_
          intro token member inner inside
          obtain ⟨lower, rfl, innerBounded⟩ := bounded.of_inner scanned member inside
          refine ih tokens scanned token member inner inside innerBounded fun limit set => ?_
          have bound := allowed limit set
          omega

/-! ## Evaluation under a limit -/

/-- **A limit on nested brackets does nothing but cut off.** Under the limit an evaluation fails
because of it or ends as it does under every wider limit and without one; what happened before is the
beginning of what happens there. What is in a bracket beyond the limit is not read. If no more
brackets than the limit allows are ever open in the expression, the limit plays no part. -/
theorem limit_only_cuts_off (context : Context World) (registry : Registry) (expression : String)
    (limit : Nat) (world : World) :
    let short := evaluate (context.limited (some limit)) registry expression world
    (∀ wider : Option Nat, (∀ other, wider = some other → limit ≤ other) →
        let full := evaluate (context.limited wider) registry expression world
        (short.outcome = .failure (.nestingTooDeep limit) ∨ short = full) ∧
          short.events <+: full.events) ∧
      (∀ other, AlikeAbove (limit + 1) expression other →
        evaluate (context.limited (some limit)) registry other world = short) ∧
      (context.Shallow → LevelWithin limit expression →
        ∀ deeper, short.outcome ≠ .failure (.nestingTooDeep deeper)) := by
  intro short
  refine ⟨fun wider wide => ?_, fun other alike => ?_, fun shallow within deeper failed => ?_⟩
  · have cut : (evaluate (context.limited (some limit)) registry expression).CutsOff limit
        (evaluate (context.limited wider) registry expression) :=
      .andThen (evaluateAt_cutsOff wide expression 0) fun value => .refl (present value)
    rcases cut world with same | ⟨failed, happened⟩
    · exact ⟨.inr same, same ▸ List.prefix_rfl⟩
    · exact ⟨.inl failed, happened⟩
  · have beyond : (context.limited (some limit)).exceeded? (0 + (limit + 1)) = some limit := by
      simp [Context.exceeded?, Context.limited]
    have same := (evaluateAt_alikeAbove registry alike beyond).1
    simp only [short, evaluate, same]
  · have limitedShallow : (context.limited (some limit)).Shallow :=
      ⟨shallow.gatekeeper, shallow.hosts⟩
    have evaluates : (evaluate (context.limited (some limit)) registry expression).Shallow :=
      .andThen (evaluateAt_shallow limitedShallow within fun other set => by
        obtain rfl := Option.some.inj set
        omega) (present_related Run.compositional_shallow)
    exact evaluates world _ failed

/-- A context whose host objects answer with their argument, or raise a failure without one. -/
def answeringContext : Context Unit where
  clock world := (default, world)
  choose _ world := (0, world)
  userInfo := none
  gatekeeper := some fun _ _ world => (none, world)
  maxDepth := none
  directory _ := .ofList
    [("echo:", ⟨⟨.any, .any⟩, fun _ argument =>
      if argument.isNull then .failing (.raised (.report "nothing")) else .returning argument⟩)]
  hostNesting := 0

theorem answeringContext_shallow : answeringContext.Shallow where
  gatekeeper := by
    rintro gatekeeper ⟨⟩ selector signature world cause ⟨⟩
  hosts := by
    intro identity selector message found receiver argument
    refine Dictionary.property_of_get?_ofList
      (fun _ message => ∀ receiver argument, (message.implementation receiver argument).Shallow) ?_
      found receiver argument
    refine List.forall_mem_singleton.mpr fun receiver argument => ?_
    dsimp only
    split
    · rintro _ ⟨⟩
      trivial
    · exact fun _ failed => nomatch failed

/-- The innermost bracket is beyond a limit of one, so a dangling keyword in it is no failure. Under
a limit of two it is reached, and brackets in quotes open no level. -/
theorem limit_only_cuts_off_dangling :
    let registry := Registry.empty.insert "it" (.object ⟨0, "Echo", "an echo", .empty⟩)
    let expression := "it echo: [it echo: [it echo: \"[[\"]]"
    let dangling := "it echo: [it echo: [it echo:]]"
    let under := fun limit text => evaluate (answeringContext.limited limit) registry text ()
    (under (some 1) expression).outcome = .failure (.nestingTooDeep 1) ∧
      (∀ other, (none : Option Nat) = some other → 1 ≤ other) ∧
      (under (some 1) expression).events <+: (under none expression).events ∧
      AlikeAbove 2 expression dangling ∧ under (some 1) dangling = under (some 1) expression ∧
      answeringContext.Shallow ∧ LevelWithin 2 expression ∧
      ∀ deeper, (under (some 2) expression).outcome ≠ .failure (.nestingTooDeep deeper) := by
  intro registry expression dangling under
  have scanned : Token.scan expression =
      .ok [.head "it", .keywordBracket "echo:" "it echo: [it echo: \"[[\"]"] := by decide
  have innerScanned : Token.scan "it echo: [it echo: \"[[\"]" =
      .ok [.head "it", .keywordBracket "echo:" "it echo: \"[[\""] := by decide
  have danglingScanned : Token.scan dangling =
      .ok [.head "it", .keywordBracket "echo:" "it echo: [it echo:]"] := by decide
  have danglingInnerScanned : Token.scan "it echo: [it echo:]" =
      .ok [.head "it", .keywordBracket "echo:" "it echo:"] := by decide
  have innerAlike : AlikeAbove 1 "it echo: [it echo: \"[[\"]" "it echo: [it echo:]" :=
    .brackets [.head "it"] [] innerScanned danglingInnerScanned rfl (.anything _ _)
  have alike : AlikeAbove 2 expression dangling :=
    .brackets [.head "it"] [] scanned danglingScanned rfl innerAlike
  have within : LevelWithin 2 expression := by decide
  obtain ⟨cuts, unread, -⟩ := limit_only_cuts_off answeringContext registry expression 1 ()
  obtain ⟨-, -, unlimited⟩ := limit_only_cuts_off answeringContext registry expression 2 ()
  refine ⟨?_, nofun, (cuts none nofun).2, alike, unread dangling alike, answeringContext_shallow,
    within, unlimited answeringContext_shallow within⟩
  have exceeded : (answeringContext.limited (some 1)).exceeded? 2 = some 1 := rfl
  have notExceeded : (answeringContext.limited (some 1)).exceeded? 1 = none := rfl
  simp only [under, evaluate, evaluateAt_of_scan (exceeded?_zero _) scanned, evaluateTokensAt,
    takeTokens, takeToken, evaluateAt_of_scan notExceeded innerScanned,
    evaluateAt_of_exceeded exceeded]
  rfl

end MessageExpr
