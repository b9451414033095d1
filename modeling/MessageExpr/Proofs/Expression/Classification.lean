import MessageExpr.Proofs.Expression.Lexeme

/-!
# Which tokens components make

The components after the head are read from left to right: a keyword takes the component after it,
which is no keyword, and every other component makes a token of its own (`Classified`). This reading
exists exactly if no keyword is dangling, that is, stands last or directly in front of another
keyword; otherwise the first dangling keyword is what the failure names (`ofMessages_spec`).

Tokens that are read this way are messages: a head is not among them, and what they say about
colons and brackets is so (`IsMessage`).
-/

set_option autoImplicit false

namespace MessageExpr.Token

/-! ## Dangling keywords -/

/-- The component at a position is a keyword, and the next one, if there is one, is a keyword too. -/
structure DanglingAt (components : List String) (position : Nat) (keyword : String) : Prop where
  found : components[position]? = some keyword
  colon : isKeyword keyword = true
  unanswered : ∀ next, components[position + 1]? = some next → isKeyword next = true

/-- The keyword dangles, and none does before it. -/
def FirstDangling (components : List String) (position : Nat) (keyword : String) : Prop :=
  DanglingAt components position keyword ∧
    ∀ earlier other, earlier < position → ¬ DanglingAt components earlier other

section Dangling

variable {component : String} {components : List String} {position : Nat} {keyword : String}

theorem danglingAt_cons_succ :
    DanglingAt (component :: components) (position + 1) keyword ↔
      DanglingAt components position keyword :=
  ⟨fun ⟨found, colon, unanswered⟩ => ⟨found, colon, unanswered⟩,
    fun ⟨found, colon, unanswered⟩ => ⟨found, colon, unanswered⟩⟩

theorem not_danglingAt_zero (notKeyword : isKeyword component = false) :
    ¬ DanglingAt (component :: components) 0 keyword := by
  rintro ⟨found, colon, -⟩
  obtain rfl := Option.some.inj found
  rw [notKeyword] at colon
  cases colon

theorem not_danglingAt_zero_of_answer {answer : String} (notKeyword : isKeyword answer = false) :
    ¬ DanglingAt (component :: answer :: components) 0 keyword := by
  rintro ⟨-, -, unanswered⟩
  have colon := unanswered answer rfl
  rw [notKeyword] at colon
  cases colon

/-- A component that does not dangle in front changes no first dangling keyword. -/
theorem FirstDangling.cons (first : FirstDangling components position keyword)
    (here : ∀ other, ¬ DanglingAt (component :: components) 0 other) :
    FirstDangling (component :: components) (position + 1) keyword := by
  obtain ⟨dangling, none⟩ := first
  refine ⟨danglingAt_cons_succ.mpr dangling, fun earlier other before => ?_⟩
  cases earlier with
  | zero => exact here other
  | succ earlier =>
      rw [danglingAt_cons_succ]
      exact none earlier other (Nat.lt_of_succ_lt_succ before)

theorem FirstDangling.unique {otherPosition : Nat} {other : String}
    (first : FirstDangling components position keyword)
    (alsoFirst : FirstDangling components otherPosition other) : keyword = other := by
  obtain ⟨dangling, none⟩ := first
  obtain ⟨alsoDangling, alsoNone⟩ := alsoFirst
  obtain before | rfl | behind := Nat.lt_trichotomy position otherPosition
  · exact absurd dangling (alsoNone position keyword before)
  · exact Option.some.inj (dangling.found.symm.trans alsoDangling.found)
  · exact absurd alsoDangling (none otherPosition other behind)

end Dangling

/-! ## Reading components -/

/-- The components after the head are read as these tokens. -/
inductive Classified : List String → List Token → Prop where
  | nil : Classified [] []
  | single {component : String} {components : List String} {tokens : List Token}
      (notKeyword : isKeyword component = false) (rest : Classified components tokens) :
      Classified (component :: components) (ofSingle component :: tokens)
  | keyword {keyword argument : String} {components : List String} {tokens : List Token}
      (colon : isKeyword keyword = true) (notKeyword : isKeyword argument = false)
      (rest : Classified components tokens) :
      Classified (keyword :: argument :: components) (ofKeyword keyword argument :: tokens)

namespace Classified

variable {components more : List String} {tokens further : List Token}

theorem ofMessages_eq (classified : Classified components tokens) :
    ofMessages components = .ok tokens := by
  induction classified with
  | nil => rfl
  | single notKeyword _ ih => rw [ofMessages_single notKeyword, ih, Except.map]
  | keyword colon notKeyword _ ih => rw [ofMessages_keyword colon notKeyword, ih, Except.map]

/-- Readings one after the other are a reading: nothing is pending where the first one ends. -/
theorem append (classified : Classified components tokens) (following : Classified more further) :
    Classified (components ++ more) (tokens ++ further) := by
  induction classified with
  | nil => exact following
  | single notKeyword _ ih => exact .single notKeyword ih
  | keyword colon notKeyword _ ih => exact .keyword colon notKeyword ih

theorem not_danglingAt (classified : Classified components tokens) (position : Nat)
    (keyword : String) : ¬ DanglingAt components position keyword := by
  induction classified generalizing position with
  | nil => exact fun dangling => nomatch dangling.found
  | single notKeyword _ ih =>
      cases position with
      | zero => exact not_danglingAt_zero notKeyword
      | succ position =>
          rw [danglingAt_cons_succ]
          exact ih position
  | keyword _ notKeyword _ ih =>
      match position with
      | 0 => exact not_danglingAt_zero_of_answer notKeyword
      | 1 =>
          rw [danglingAt_cons_succ]
          exact not_danglingAt_zero notKeyword
      | position + 2 =>
          rw [danglingAt_cons_succ, danglingAt_cons_succ]
          exact ih position

theorem ne_nil (classified : Classified components tokens) (nonempty : components ≠ []) :
    tokens ≠ [] := by
  cases classified with
  | nil => exact absurd rfl nonempty
  | single => exact List.cons_ne_nil _ _
  | keyword => exact List.cons_ne_nil _ _

end Classified

/-- **Components are read as tokens unless a keyword dangles, and the first one that does is the
failure.** -/
theorem ofMessages_spec (components : List String) :
    (∃ tokens, ofMessages components = .ok tokens ∧ Classified components tokens) ∨
      ∃ position keyword, ofMessages components = .error (.expectedArgumentButFoundNil keyword) ∧
        FirstDangling components position keyword := by
  have atFront : ∀ {keyword : String} {rest : List String}, isKeyword keyword = true →
      (∀ next, rest.head? = some next → isKeyword next = true) →
      FirstDangling (keyword :: rest) 0 keyword := by
    intro keyword rest colon unanswered
    refine ⟨⟨rfl, colon, ?_⟩, fun earlier other before => absurd before (Nat.not_lt_zero earlier)⟩
    rwa [List.head?_eq_getElem?] at unanswered
  induction components using ofMessages.induct with
  | case1 => exact .inl ⟨[], rfl, .nil⟩
  | case2 component colon =>
      exact .inr ⟨0, component, by simp [ofMessages, colon], atFront colon (by simp)⟩
  | case3 component noColon =>
      have notKeyword : isKeyword component = false := by simpa using noColon
      exact .inl ⟨[ofSingle component], by simp [ofMessages, notKeyword], .single notKeyword .nil⟩
  | case4 component next rest colon nextColon =>
      refine .inr ⟨0, component, by simp [ofMessages, colon, nextColon], atFront colon ?_⟩
      rintro _ ⟨⟩
      exact nextColon
  | case5 component next rest colon noColon ih =>
      have notKeyword : isKeyword next = false := by simpa using noColon
      rw [ofMessages_keyword colon notKeyword]
      obtain ⟨tokens, read, classified⟩ | ⟨position, keyword, failed, first⟩ := ih
      · exact .inl ⟨ofKeyword component next :: tokens, by rw [read, Except.map],
          .keyword colon notKeyword classified⟩
      · exact .inr ⟨position + 2, keyword, by rw [failed, Except.map],
          (first.cons fun other => not_danglingAt_zero notKeyword).cons fun other =>
            not_danglingAt_zero_of_answer notKeyword⟩
  | case6 component next rest noColon ih =>
      have notKeyword : isKeyword component = false := by simpa using noColon
      rw [ofMessages_single notKeyword]
      obtain ⟨tokens, read, classified⟩ | ⟨position, keyword, failed, first⟩ := ih
      · exact .inl ⟨ofSingle component :: tokens, by rw [read, Except.map],
          .single notKeyword classified⟩
      · exact .inr ⟨position + 1, keyword, by rw [failed, Except.map],
          first.cons fun other => not_danglingAt_zero notKeyword⟩

theorem ofMessages_eq_ok_iff {components : List String} {tokens : List Token} :
    ofMessages components = .ok tokens ↔ Classified components tokens := by
  refine ⟨fun read => ?_, Classified.ofMessages_eq⟩
  obtain ⟨others, alsoRead, classified⟩ | ⟨_, _, failed, _⟩ := ofMessages_spec components
  · rw [read] at alsoRead
    cases alsoRead
    exact classified
  · rw [read] at failed
    cases failed

/-! ## Messages -/

/-- A text with a bracket at each end. -/
def BracketDelimited (text : String) : Prop := ∃ inner, text = "[" ++ inner ++ "]"

theorem bracketInner?_eq_none_iff {text : String} :
    bracketInner? text = none ↔ ¬ BracketDelimited text := by
  constructor
  · rintro none ⟨inner, rfl⟩
    rw [bracketInner?_brackets] at none
    cases none
  · intro notDelimited
    cases brackets : bracketInner? text with
    | none => rfl
    | some inner => exact absurd ⟨inner, eq_of_bracketInner?_eq_some brackets⟩ notDelimited

/-- No head; keywords and nothing else end in a colon, and only inner expressions were in
brackets. -/
def IsMessage : Token → Prop
  | .head _ => False
  | .unary selector => isKeyword selector = false ∧ ¬ BracketDelimited selector
  | .keyword selector argument =>
    isKeyword selector = true ∧ isKeyword argument = false ∧ ¬ BracketDelimited argument
  | .keywordBracket selector _ => isKeyword selector = true
  | .bracket _ => True

theorem isMessage_ofSingle {component : String} (notKeyword : isKeyword component = false) :
    (ofSingle component).IsMessage := by
  rw [ofSingle]
  split
  · trivial
  · rename_i none
    exact ⟨notKeyword, bracketInner?_eq_none_iff.mp none⟩

theorem isMessage_ofKeyword {keyword argument : String} (colon : isKeyword keyword = true)
    (notKeyword : isKeyword argument = false) : (ofKeyword keyword argument).IsMessage := by
  rw [ofKeyword]
  split
  · exact colon
  · rename_i none
    exact ⟨colon, notKeyword, bracketInner?_eq_none_iff.mp none⟩

theorem Classified.isMessage {components : List String} {tokens : List Token}
    (classified : Classified components tokens) : ∀ token ∈ tokens, token.IsMessage := by
  induction classified with
  | nil => exact fun token absent => nomatch absent
  | single notKeyword _ ih => exact List.forall_mem_cons.mpr ⟨isMessage_ofSingle notKeyword, ih⟩
  | keyword colon notKeyword _ ih =>
      exact List.forall_mem_cons.mpr ⟨isMessage_ofKeyword colon notKeyword, ih⟩

/-! ## Expressions -/

/-- **An expression that is read has a head, and messages that its other components are read as.** -/
theorem scan_eq_ok_iff_classified {expression : String} {tokens : List Token} :
    scan expression = .ok tokens ↔
      ∃ name components messages, componentsOf expression = name :: components ∧
        components ≠ [] ∧ Classified components messages ∧ tokens = .head name :: messages := by
  rw [scan_eq_ok_iff]
  constructor
  · rintro ⟨name, message, components, messages, read, readMore, rfl⟩
    exact ⟨name, message :: components, messages, read, List.cons_ne_nil _ _,
      ofMessages_eq_ok_iff.mp readMore, rfl⟩
  · rintro ⟨name, components, messages, read, nonempty, classified, rfl⟩
    obtain ⟨message, more, rfl⟩ := List.exists_cons_of_ne_nil nonempty
    exact ⟨name, message, more, messages, read, classified.ofMessages_eq, rfl⟩

/-- An expression without tokens is too short or lacks an argument. -/
theorem failure_of_scan_eq_error {expression : String} {failure : Failure}
    (failed : scan expression = .error failure) :
    failure = .expressionTooShort expression ∨
      ∃ keyword, failure = .expectedArgumentButFoundNil keyword := by
  rw [scan] at failed
  split at failed
  · rename_i name message messages _
    have messagesFailed := map_eq_error_iff.mp failed
    obtain ⟨_, read, _⟩ | ⟨_, keyword, alsoFailed, _⟩ := ofMessages_spec (message :: messages)
    · rw [messagesFailed] at read
      cases read
    · rw [messagesFailed] at alsoFailed
      cases alsoFailed
      exact .inr ⟨keyword, rfl⟩
  · cases failed
    exact .inl rfl

/-- The tokens of an expression are one head and at least one message. -/
theorem head_and_messages_of_scan {expression : String} {tokens : List Token}
    (scanned : scan expression = .ok tokens) :
    ∃ name message messages, tokens = .head name :: message :: messages ∧
      ∀ token ∈ message :: messages, token.IsMessage := by
  obtain ⟨name, components, messages, -, nonempty, classified, rfl⟩ :=
    scan_eq_ok_iff_classified.mp scanned
  obtain ⟨message, more, rfl⟩ := List.exists_cons_of_ne_nil (classified.ne_nil nonempty)
  exact ⟨name, message, more, rfl, classified.isMessage⟩

end MessageExpr.Token
