import MessageExpr.Expression.Token
import MessageExpr.Proofs.Expression.Reading
import MessageExpr.Proofs.Value.Literal

/-!
# Tokens written back and read again

A completed component stands alone: reading it from the start and then a space completes it and
nothing else (`StandsAlone`). Only the last component of an expression need not do so, because a
quote or a bracket may still be open in it. The components of every text are therefore separable by
single spaces, and putting the spaces back does not change them (`componentsOf_rejoined`).

Tokens write exactly the components that they were made of (`components_of_scan`), so what the
tokens of an expression write has the same tokens (`scan_source_eq`). A bracketed expression is, in
its brackets, a component of the expression that holds it (`brackets_mem_componentsOf`).
-/

set_option autoImplicit false

namespace MessageExpr

open OpenComponent

/-! ## Components that spaces keep apart -/

/-- A text that is one component, also with a space after it. -/
structure StandsAlone (component : String) : Prop where
  /-- By itself the text is one component. -/
  whole : componentsOf component = [component]
  /-- A space after the text completes it and begins nothing. -/
  separated : fresh.read (component.toList ++ [' ']) = ([component], fresh)

namespace StandsAlone

/-- A text that its last character completes stands alone. -/
theorem of_closed {component : String}
    (closed : fresh.read component.toList = ([component], fresh)) : StandsAlone component where
  whole := by
    simp only [componentsOf, closed]
    rfl
  separated := by
    rw [read_append, closed]
    rfl

/-- A text that is still under way outside quotes and brackets stands alone. -/
theorem of_open {component : String} (nonempty : component ≠ "")
    (reads : fresh.read component.toList = ([], plain component)) : StandsAlone component where
  whole := by
    simp only [componentsOf, reads, finish, complete_of_ne_empty (plain component) nonempty]
    rfl
  separated := by
    have separates : (plain component).step ' ' = (plain component).complete := rfl
    rw [read_append_of_silent reads, read_singleton, separates,
      complete_of_ne_empty (plain component) nonempty]
    rfl

/-- A component that a step completes stands alone. -/
theorem of_step {state : OpenComponent} (settled : Settled state) {character : Char}
    {component : String} (completes : (state.step character).2 = some component) :
    StandsAlone component := by
  obtain ⟨advance, _⟩ := step_advance settled.toConsistent character
  generalize reached : (state.step character).1 = next at advance
  rw [completes] at advance
  cases advance with
  | close =>
      refine of_closed ?_
      rw [String.toList_push, read_append_of_silent settled.replays, read_singleton, completes,
        reached]
      rfl
  | separate _ outside nonempty =>
      refine of_open nonempty ?_
      rw [← settled.eq_of_outside outside]
      exact settled.replays

end StandsAlone

/-- Components that stay the same when they are joined with spaces. Only the last one may be
unfinished. -/
inductive Separable : List String → Prop where
  | nil : Separable []
  | last {component : String} (whole : componentsOf component = [component]) :
      Separable [component]
  | cons {component : String} {rest : List String} (alone : StandsAlone component)
      (separable : Separable rest) : Separable (component :: rest)

/-- Reading a component, a space and a further text is reading the further text. -/
theorem componentsOf_append {component : String} (alone : StandsAlone component)
    (rest : String) : componentsOf (component ++ " " ++ rest) = component :: componentsOf rest := by
  have characters : (component ++ " " ++ rest).toList =
      (component.toList ++ [' ']) ++ rest.toList := by simp
  simp only [componentsOf, characters]
  rw [read_append, alone.separated]
  rfl

/-- **Separable components are those of the text that joins them with spaces.** -/
theorem Separable.componentsOf_intercalate {components : List String}
    (separable : Separable components) :
    componentsOf (" ".intercalate components) = components := by
  induction separable with
  | nil => rfl
  | last whole => simpa using whole
  | @cons component rest alone _ ih =>
      cases rest with
      | nil => simpa using alone.whole
      | cons next more => rw [String.intercalate_cons_cons, componentsOf_append alone, ih]

/-- What is left when reading stops in a settled state is separable. -/
theorem separable_finish {state : OpenComponent} (settled : Settled state) :
    Separable state.finish.toList := by
  by_cases empty : state.text = ""
  · obtain rfl := settled.fresh_of_empty empty
    exact .nil
  · have leftOver : state.finish = some state.text := by
      rw [finish, complete_of_ne_empty _ empty]
    rw [leftOver]
    refine .last ?_
    simp only [componentsOf, settled.replays, leftOver]
    rfl

/-- The components that are read from a settled state are separable. -/
theorem separable_read {state : OpenComponent} (settled : Settled state) (text : List Char) :
    Separable ((state.read text).1 ++ (state.read text).2.finish.toList) := by
  induction text generalizing state with
  | nil => exact separable_finish settled
  | cons character rest ih =>
      have more := ih (settled.step character)
      simp only [OpenComponent.read, List.append_assoc]
      cases completed : (state.step character).2 with
      | none => exact more
      | some component => exact .cons (.of_step settled completed) more

theorem separable_componentsOf (expression : String) : Separable (componentsOf expression) :=
  separable_read fresh_settled expression.toList

/-- Each separable component is one by itself. -/
theorem Separable.whole {components : List String} (separable : Separable components) :
    ∀ component ∈ components, componentsOf component = [component] := by
  induction separable with
  | nil => exact fun component absent => nomatch absent
  | last whole => exact List.forall_mem_singleton.mpr whole
  | cons alone _ ih => exact List.forall_mem_cons.mpr ⟨alone.whole, ih⟩

/-- **Joining the components of a text with single spaces does not change them.** -/
theorem componentsOf_rejoined (expression : String) :
    componentsOf (" ".intercalate (componentsOf expression)) = componentsOf expression :=
  (separable_componentsOf expression).componentsOf_intercalate

/-! ## Components of tokens -/

/-- A computation that is changed afterwards succeeds exactly when it does so before. -/
theorem map_eq_ok_iff {Cause Data Other : Type} {change : Data → Other}
    {computed : Except Cause Data} {result : Other} :
    computed.map change = .ok result ↔ ∃ data, computed = .ok data ∧ change data = result := by
  cases computed <;> simp [Except.map]

theorem map_eq_error_iff {Cause Data Other : Type} {change : Data → Other}
    {computed : Except Cause Data} {cause : Cause} :
    computed.map change = .error cause ↔ computed = .error cause := by
  cases computed <;> simp [Except.map]

namespace Token

/-- The components that a token is made of. -/
def components : Token → List String
  | .head name => [name]
  | .unary selector => [selector]
  | .keyword selector argument => [selector, argument]
  | .keywordBracket selector inner => [selector, "[" ++ inner ++ "]"]
  | .bracket inner => ["[" ++ inner ++ "]"]

theorem components_ne_nil (token : Token) : token.components ≠ [] := by
  cases token <;> simp [components]

theorem text_eq_intercalate (token : Token) : token.text = " ".intercalate token.components := by
  cases token with
  | keywordBracket selector inner =>
      simp only [text, components, String.intercalate_cons_cons, String.intercalate_singleton,
        String.append_assoc]
      rfl
  | _ => simp [text, components]

/-- Tokens write their components with spaces between them. -/
theorem source_eq_intercalate (tokens : List Token) :
    source tokens = " ".intercalate (tokens.flatMap components) := by
  induction tokens with
  | nil => rfl
  | cons token rest ih =>
      cases rest with
      | nil => simp [source, text_eq_intercalate]
      | cons next more =>
          have further : (next :: more).flatMap components ≠ [] := by
            simp [components_ne_nil]
          rw [List.flatMap_cons,
            String.intercalate_append_of_ne_nil (components_ne_nil token) further, ← ih,
            ← text_eq_intercalate]
          simp [source]

/-- A component between brackets is its inner text in brackets. -/
theorem eq_of_bracketInner?_eq_some {component inner : String}
    (brackets : bracketInner? component = some inner) : component = "[" ++ inner ++ "]" := by
  obtain ⟨characters, between, rfl⟩ := Option.map_eq_some_iff.mp brackets
  rw [← String.toList_inj, Literal.between?_eq_some_iff.mp between]
  simp

theorem components_ofKeyword (keyword argument : String) :
    (ofKeyword keyword argument).components = [keyword, argument] := by
  rw [ofKeyword]
  split
  · rename_i inner brackets
    rw [components, eq_of_bracketInner?_eq_some brackets]
  · rfl

theorem components_ofSingle (component : String) :
    (ofSingle component).components = [component] := by
  rw [ofSingle]
  split
  · rename_i inner brackets
    rw [components, eq_of_bracketInner?_eq_some brackets]
  · rfl

/-- A component that is no keyword makes a token of its own. -/
theorem ofMessages_single {component : String} (notKeyword : isKeyword component = false)
    (rest : List String) :
    ofMessages (component :: rest) = (ofMessages rest).map (ofSingle component :: ·) := by
  cases rest <;> simp [ofMessages, notKeyword, Except.map]

/-- A keyword and the component after it make a token together. -/
theorem ofMessages_keyword {keyword argument : String} (isKeyword_eq : isKeyword keyword = true)
    (notKeyword : isKeyword argument = false) (rest : List String) :
    ofMessages (keyword :: argument :: rest) =
      (ofMessages rest).map (ofKeyword keyword argument :: ·) := by
  simp [ofMessages, isKeyword_eq, notKeyword]

/-- The tokens of messages are made of exactly the components of the messages. -/
theorem components_of_ofMessages {messages : List String} {tokens : List Token}
    (read : ofMessages messages = .ok tokens) : tokens.flatMap components = messages := by
  induction messages using ofMessages.induct generalizing tokens with
  | case1 =>
      cases read
      rfl
  | case2 component keyword => simp [ofMessages, keyword] at read
  | case3 component notKeyword =>
      simp only [ofMessages, notKeyword] at read
      cases read
      simp [components_ofSingle]
  | case4 component next rest keyword dangling => simp [ofMessages, keyword, dangling] at read
  | case5 component next rest keyword notDangling ih =>
      simp only [ofMessages, keyword, notDangling, if_true] at read
      obtain ⟨more, readMore, rfl⟩ := map_eq_ok_iff.mp read
      simp [components_ofKeyword, ih readMore]
  | case6 component next rest notKeyword ih =>
      simp only [ofMessages, notKeyword] at read
      obtain ⟨more, readMore, rfl⟩ := map_eq_ok_iff.mp read
      simp [components_ofSingle, ih readMore]

/-- What it takes to have tokens: a head, and messages with their arguments. -/
theorem scan_eq_ok_iff {expression : String} {tokens : List Token} :
    scan expression = .ok tokens ↔
      ∃ name message messages more, componentsOf expression = name :: message :: messages ∧
        ofMessages (message :: messages) = .ok more ∧ tokens = .head name :: more := by
  rw [scan]
  split
  · rename_i name message messages read
    rw [map_eq_ok_iff]
    constructor
    · rintro ⟨more, readMore, rfl⟩
      exact ⟨name, message, messages, more, read, readMore, rfl⟩
    · rintro ⟨_, _, _, more, same, readMore, rfl⟩
      rw [read] at same
      cases same
      exact ⟨more, readMore, rfl⟩
  · rename_i other
    constructor
    · intro failed
      cases failed
    · rintro ⟨name, message, messages, _, read, _, _⟩
      exact absurd read (other name message messages)

/-- **The tokens of an expression are made of exactly its components.** -/
theorem components_of_scan {expression : String} {tokens : List Token}
    (scanned : scan expression = .ok tokens) :
    tokens.flatMap components = componentsOf expression := by
  obtain ⟨name, message, messages, more, read, readMore, rfl⟩ := scan_eq_ok_iff.mp scanned
  rw [List.flatMap_cons, components_of_ofMessages readMore, read]
  rfl

/-- A bracketed expression stands in the last component of its token. -/
theorem components_of_inner {token : Token} {inner : String}
    (inside : token.inner? = some inner) :
    ∃ front, token.components = front ++ ["[" ++ inner ++ "]"] := by
  cases token with
  | head name => cases inside
  | unary selector => cases inside
  | keyword selector argument => cases inside
  | keywordBracket selector text =>
      cases inside
      exact ⟨[selector], rfl⟩
  | bracket text =>
      cases inside
      exact ⟨[], rfl⟩

/-- A bracketed expression is, in its brackets, a component of the expression that holds it. -/
theorem brackets_mem_componentsOf {expression inner : String} {tokens : List Token} {token : Token}
    (scanned : scan expression = .ok tokens) (member : token ∈ tokens)
    (inside : token.inner? = some inner) : "[" ++ inner ++ "]" ∈ componentsOf expression := by
  obtain ⟨front, parts⟩ := components_of_inner inside
  have bracketed : "[" ++ inner ++ "]" ∈ token.components := by simp [parts]
  rw [← components_of_scan scanned]
  exact List.mem_flatMap_of_mem member bracketed

/-- Expressions with the same components have the same tokens. -/
theorem scan_eq_of_componentsOf_eq {expression other : String} {tokens : List Token}
    (scanned : scan expression = .ok tokens)
    (same : componentsOf other = componentsOf expression) : scan other = .ok tokens := by
  rw [scan_eq_ok_iff, same, ← scan_eq_ok_iff]
  exact scanned

/-- **Reading what the tokens of an expression write gives the same tokens.** -/
theorem scan_source_eq {expression : String} {tokens : List Token}
    (scanned : scan expression = .ok tokens) : scan (source tokens) = .ok tokens := by
  refine scan_eq_of_componentsOf_eq scanned ?_
  rw [source_eq_intercalate, components_of_scan scanned, componentsOf_rejoined]

end Token

end MessageExpr
