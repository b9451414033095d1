import MessageExpr.Expression.Component

/-!
# Reading an expression character by character

The state of a reader fits together: brackets are open exactly when their number is positive, a
quote inside brackets needs brackets, and a component without text is no component at all
(`Consistent`). A character then does one of four things (`Advance`). It is skipped, it extends the
component under way, it closes the component and is its last character, or it is a space that
separates the component from the next one. After every completed component the reader is in the
fresh state. Whether a quote is open and how many brackets are changes only with quotes, and with
brackets outside quotes (`step_openQuote`, `step_bracketLevel`).

A reachable state is therefore determined by its text: reading that text from the fresh state leads
back to it (`Settled.read`).
-/

set_option autoImplicit false

namespace MessageExpr.OpenComponent

/-! ## Reading in parts -/

/-- Reading two texts one after the other is reading the second from where the first one leads. -/
theorem read_append (state : OpenComponent) (first second : List Char) :
    state.read (first ++ second) =
      ((state.read first).1 ++ ((state.read first).2.read second).1,
        ((state.read first).2.read second).2) := by
  induction first generalizing state with
  | nil => rfl
  | cons character rest ih =>
      simp only [List.cons_append, read, ih, List.append_assoc]

/-- Reading one character is a step. -/
theorem read_singleton (state : OpenComponent) (character : Char) :
    state.read [character] = ((state.step character).2.toList, (state.step character).1) := by
  simp only [read, List.append_nil]

/-- Reading two texts when no component is completed in the first one. -/
theorem read_append_of_silent {state next : OpenComponent} {first : List Char}
    (silent : state.read first = ([], next)) (second : List Char) :
    state.read (first ++ second) = next.read second := by
  rw [read_append, silent]
  rfl

/-! ## States that fit together -/

/-- The flags of a state fit its text and each other. -/
structure Consistent (state : OpenComponent) : Prop where
  /-- A bracket region is open exactly when brackets are. -/
  inBracket_iff : state.inBracket = true ↔ 0 < state.bracketLevel
  /-- A quote inside brackets is open only in a bracket region. -/
  inBracket_of_quote : state.quoteInBracket = true → state.inBracket = true
  /-- A quote outside brackets and a bracket region are never open together. -/
  notInBracket_of_inQuote : state.inQuote = true → state.inBracket = false
  /-- Without text nothing is open. -/
  fresh_of_empty : state.text = "" → state = fresh
  /-- A component that starts with a quote is inside it. -/
  inQuote_of_quoted : state.text.toList.head? = some '"' → state.inQuote = true

theorem fresh_consistent : Consistent fresh where
  inBracket_iff := by decide
  inBracket_of_quote := by decide
  notInBracket_of_inQuote := by decide
  fresh_of_empty := fun _ => rfl
  inQuote_of_quoted := by decide

/-- The state outside quotes and brackets with a text under way. -/
def plain (text : String) : OpenComponent := { fresh with text := text }

/-- What a character does to a state: the next state, and the component that it completes. -/
inductive Advance (state : OpenComponent) (character : Char) :
    OpenComponent → Option String → Prop where
  /-- A space between components is skipped. -/
  | skip (space : character = ' ') (between : state = fresh) : Advance state character fresh none
  /-- The character extends the component. -/
  | extend {next : OpenComponent} (longer : next.text = state.text.push character) :
      Advance state character next none
  /-- The character is the last one of the component. -/
  | close : Advance state character fresh (some (state.text.push character))
  /-- A space ends the component and does not belong to it. -/
  | separate (space : character = ' ') (outside : state.expectsSpace = false)
      (nonempty : state.text ≠ "") : Advance state character fresh (some state.text)

theorem push_ne_empty (text : String) (character : Char) : text.push character ≠ "" := by
  intro empty
  have noCharacters := congrArg String.toList empty
  simp at noCharacters

/-- The first character of a longer text is that of the text, if it has one. -/
theorem head?_push {text : String} (nonempty : text ≠ "") (character : Char) :
    (text.push character).toList.head? = text.toList.head? := by
  cases characters : text.toList with
  | nil => exact absurd (String.toList_eq_nil_iff.mp characters) nonempty
  | cons first rest => simp [characters]

/-! ## Taking a step -/

namespace Consistent

variable {state : OpenComponent}

/-- Outside quotes and brackets a state is known by its text. -/
theorem eq_of_outside (consistent : Consistent state) (outside : state.expectsSpace = false) :
    state = plain state.text := by
  obtain ⟨text, inQuote, inBracket, level, quoteInBracket⟩ := state
  obtain ⟨rfl, rfl⟩ : inQuote = false ∧ inBracket = false := by simpa [expectsSpace] using outside
  have noLevel : level = 0 := by simpa using consistent.inBracket_iff
  have noQuote : quoteInBracket = false := by simpa using consistent.inBracket_of_quote
  rw [noLevel, noQuote, plain, fresh]

theorem inQuote_eq_false (consistent : Consistent state) (inside : state.inBracket = true) :
    state.inQuote = false := by
  cases inQuote : state.inQuote with
  | false => rfl
  | true => simp [consistent.notInBracket_of_inQuote inQuote] at inside

theorem quoteInBracket_eq_false (consistent : Consistent state)
    (outside : state.inBracket = false) : state.quoteInBracket = false := by
  simpa [outside] using consistent.inBracket_of_quote

/-- A state in which something is open has text. -/
theorem text_ne_empty (consistent : Consistent state) (inside : state.expectsSpace = true) :
    state.text ≠ "" := by
  intro empty
  rw [consistent.fresh_of_empty empty] at inside
  exact absurd inside (by decide)

/-- A component with more text stays consistent if its flags do and it does not start with a quote
that is not open. -/
theorem of_longer {next : OpenComponent} {character : Char} (consistent : Consistent state)
    (longer : next.text = state.text.push character)
    (inBracket_iff : next.inBracket = true ↔ 0 < next.bracketLevel)
    (inBracket_of_quote : next.quoteInBracket = true → next.inBracket = true)
    (notInBracket_of_inQuote : next.inQuote = true → next.inBracket = false)
    (first : state.text = "" → character = '"' → next.inQuote = true)
    (further : state.inQuote = true → state.text.toList.head? = some '"' → next.inQuote = true) :
    Consistent next where
  inBracket_iff := inBracket_iff
  inBracket_of_quote := inBracket_of_quote
  notInBracket_of_inQuote := notInBracket_of_inQuote
  fresh_of_empty := fun empty => absurd (longer ▸ empty) (push_ne_empty _ _)
  inQuote_of_quoted := by
    intro quoted
    rw [longer] at quoted
    by_cases empty : state.text = ""
    · exact first empty (by simpa [empty] using quoted)
    · rw [head?_push empty] at quoted
      exact further (consistent.inQuote_of_quoted quoted) quoted

/-- Adding a character that is not a quote and changing no flag. -/
theorem push (consistent : Consistent state) {character : Char} (notQuote : character ≠ '"') :
    Consistent (state.push character) :=
  consistent.of_longer rfl consistent.inBracket_iff consistent.inBracket_of_quote
    consistent.notInBracket_of_inQuote (fun _ quote => absurd quote notQuote)
    fun inQuote _ => inQuote

end Consistent

/-- A state with text completes it. -/
theorem complete_of_ne_empty (state : OpenComponent) (nonempty : state.text ≠ "") :
    complete state = ({ state with text := "" }, some state.text) := by
  rw [complete, if_neg (by simpa using nonempty)]

/-- Outside quotes and brackets a space completes what is under way. -/
theorem Consistent.step_space {state : OpenComponent} (consistent : Consistent state)
    (outside : state.expectsSpace = false) : state.step ' ' = (fresh, state.finish) := by
  have separates : (plain state.text).step ' ' = (plain state.text).complete := rfl
  rw [consistent.eq_of_outside outside, separates, finish]
  by_cases empty : state.text = ""
  · rw [empty]
    rfl
  · rw [complete_of_ne_empty (plain state.text) empty]
    rfl

section Steps

variable {state : OpenComponent}

/-- A quote outside brackets closes the quoted text that the component is, or changes between inside
and outside. -/
theorem stepQuote_advance (consistent : Consistent state) (outside : state.inBracket = false) :
    Advance state '"' (stepQuote state).1 (stepQuote state).2 ∧ Consistent (stepQuote state).1 := by
  have noLevel : state.bracketLevel = 0 := by simpa [outside] using consistent.inBracket_iff
  have noQuote : state.quoteInBracket = false := consistent.quoteInBracket_eq_false outside
  rw [stepQuote]
  split
  · rename_i closing
    rw [complete_of_ne_empty _ (push_ne_empty _ _)]
    have isFresh : { state.push '"' with inQuote := false, text := "" } = fresh := by
      simp only [OpenComponent.push, outside, noLevel, noQuote, fresh]
    rw [isFresh]
    exact ⟨.close, fresh_consistent⟩
  · rename_i notClosing
    refine ⟨.extend rfl, consistent.of_longer rfl consistent.inBracket_iff
      consistent.inBracket_of_quote (fun _ => outside) ?_ ?_⟩
    · intro empty _
      simp [consistent.fresh_of_empty empty, fresh]
    · intro inQuote quoted
      refine absurd ?_ notClosing
      cases characters : state.text.toList with
      | nil => simp [characters] at quoted
      | cons first rest =>
          obtain rfl : first = '"' := by simpa [characters] using quoted
          simp [inQuote, holdsCompleteQuote, OpenComponent.push, characters]

/-- The last closing bracket completes the region. -/
theorem stepClose_last (consistent : Consistent state) (inside : state.inBracket = true)
    (unquoted : state.quoteInBracket = false) (last : state.bracketLevel - 1 = 0) :
    stepClose state = (fresh, some (state.text.push ']')) := by
  have notInQuote : state.inQuote = false := consistent.inQuote_eq_false inside
  rw [stepClose, if_pos last, complete_of_ne_empty _ (push_ne_empty _ _)]
  simp only [OpenComponent.push, last, notInQuote, unquoted, fresh]

/-- A closing bracket closes the region that the component is, or one of the brackets in it. -/
theorem stepClose_advance (consistent : Consistent state) (inside : state.inBracket = true)
    (unquoted : state.quoteInBracket = false) :
    Advance state ']' (stepClose state).1 (stepClose state).2 ∧ Consistent (stepClose state).1 := by
  by_cases last : state.bracketLevel - 1 = 0
  · rw [stepClose_last consistent inside unquoted last]
    exact ⟨.close, fresh_consistent⟩
  · rw [stepClose, if_neg last]
    refine ⟨.extend rfl, consistent.of_longer rfl ?_ consistent.inBracket_of_quote
      consistent.notInBracket_of_inQuote (by simp) fun inQuote _ => inQuote⟩
    simpa [OpenComponent.push, inside] using Nat.pos_of_ne_zero last

/-- **A character advances a consistent state to a consistent state.** -/
theorem step_advance (consistent : Consistent state) (character : Char) :
    Advance state character (state.step character).1 (state.step character).2 ∧
      Consistent (state.step character).1 := by
  rw [step]
  split
  · rename_i quote
    subst quote
    split
    · rename_i inside
      have notEmpty : state.text ≠ "" := consistent.text_ne_empty (by simp [expectsSpace, inside])
      exact ⟨.extend rfl, consistent.of_longer rfl consistent.inBracket_iff (fun _ => inside)
        consistent.notInBracket_of_inQuote (fun empty => absurd empty notEmpty)
        fun inQuote _ => inQuote⟩
    · rename_i outside
      exact stepQuote_advance consistent (by simpa using outside)
  · rename_i notQuote
    split
    · rename_i bracket
      split
      · exact ⟨.extend (by rw [OpenComponent.push, bracket]), bracket ▸ consistent.push notQuote⟩
      · rename_i unquoted
        obtain ⟨notInQuote, _⟩ : state.inQuote = false ∧ state.quoteInBracket = false := by
          simpa using unquoted
        have notOpen : (state.push '[').inQuote ≠ true := by simp [OpenComponent.push, notInQuote]
        refine ⟨.extend (by rw [OpenComponent.push, bracket]), consistent.of_longer rfl (by simp)
          (fun _ => rfl) (fun inQuote => absurd inQuote notOpen) (fun _ quote => ?_)
          fun inQuote _ => inQuote⟩
        exact absurd quote (by decide)
    · split
      · rename_i closing
        obtain ⟨⟨rfl, inside⟩, unquoted⟩ :
            (character = ']' ∧ state.inBracket = true) ∧ state.quoteInBracket = false := by
          simpa using closing
        exact stepClose_advance consistent inside unquoted
      · split
        · rename_i separating
          obtain ⟨rfl, outside⟩ : character = ' ' ∧ state.expectsSpace = false := by
            simpa using separating
          by_cases empty : state.text = ""
          · obtain rfl := consistent.fresh_of_empty empty
            exact ⟨.skip rfl rfl, fresh_consistent⟩
          · rw [complete_of_ne_empty _ empty]
            have isFresh : { state with text := "" } = fresh := by
              rw [consistent.eq_of_outside outside]
              rfl
            rw [isFresh]
            exact ⟨.separate rfl outside empty, fresh_consistent⟩
        · exact ⟨.extend rfl, consistent.push notQuote⟩

end Steps

/-! ## Open quotes and open brackets -/

/-- Whether a quote is open, outside brackets or inside. -/
def openQuote (state : OpenComponent) : Bool := state.inQuote || state.quoteInBracket

section Complete

variable (state : OpenComponent)

@[simp] theorem complete_inQuote : (complete state).1.inQuote = state.inQuote := by
  rw [complete]
  split <;> rfl

@[simp] theorem complete_quoteInBracket :
    (complete state).1.quoteInBracket = state.quoteInBracket := by
  rw [complete]
  split <;> rfl

@[simp] theorem complete_bracketLevel : (complete state).1.bracketLevel = state.bracketLevel := by
  rw [complete]
  split <;> rfl

end Complete

section Steps

variable {state : OpenComponent}

/-- A quote opens a quote or closes it, and nothing else does. -/
theorem step_openQuote (consistent : Consistent state) (character : Char) :
    (state.step character).1.openQuote =
      if character = '"' then !state.openQuote else state.openQuote := by
  rw [step]
  split
  · split
    · rename_i inside
      simp [openQuote, push, consistent.inQuote_eq_false inside]
    · rename_i outside
      have noQuote : state.quoteInBracket = false :=
        consistent.quoteInBracket_eq_false (by simpa using outside)
      rw [stepQuote]
      split
      · rename_i closing
        obtain ⟨inQuote, -⟩ : state.inQuote = true ∧ _ := by simpa [push] using closing
        simp [openQuote, push, noQuote, inQuote]
      · simp [openQuote, push, noQuote]
  · split
    · split <;> simp [openQuote, push]
    · split
      · simp only [stepClose]
        split <;> simp [openQuote, push]
      · split
        · simp [openQuote]
        · rfl

/-- Outside quotes a bracket changes how many are open, and nothing else does. -/
theorem step_bracketLevel (consistent : Consistent state) (character : Char) :
    (state.step character).1.bracketLevel =
      if state.openQuote then state.bracketLevel
      else if character = '[' then state.bracketLevel + 1
      else if character = ']' then state.bracketLevel - 1
      else state.bracketLevel := by
  rw [step]
  split
  · rename_i quote
    subst quote
    split
    · simp [push]
    · rw [stepQuote]
      split <;> simp [push]
  · split
    · rename_i bracket
      subst bracket
      split
      · rename_i quoted
        simp [openQuote, quoted, push]
      · rename_i unquoted
        simp [openQuote, unquoted]
    · rename_i notOpen
      split
      · rename_i closing
        obtain ⟨⟨rfl, inside⟩, unquoted⟩ :
            (character = ']' ∧ state.inBracket = true) ∧ state.quoteInBracket = false := by
          simpa using closing
        have noQuote : state.openQuote = false := by
          simp [openQuote, consistent.inQuote_eq_false inside, unquoted]
        simp only [stepClose]
        split <;> simp [push, noQuote]
      · rename_i notClosing
        -- A closing bracket outside quotes that closes nothing is one that stands outside brackets.
        have nothingOpen : state.openQuote = false → character = ']' → state.bracketLevel = 0 := by
          intro noQuote close
          obtain ⟨-, unquoted⟩ : state.inQuote = false ∧ state.quoteInBracket = false := by
            simpa [openQuote] using noQuote
          have outside : state.inBracket = false := by simpa [close, unquoted] using notClosing
          simpa [outside] using consistent.inBracket_iff
        have sameLevel : (if (decide (character = ' ') && !state.expectsSpace) = true then
            complete state else (state.push character, none)).1.bracketLevel =
              state.bracketLevel := by
          split
          · exact complete_bracketLevel state
          · rfl
        rw [sameLevel]
        cases noQuote : state.openQuote with
        | true => rfl
        | false =>
            by_cases close : character = ']'
            · simp [close, nothingOpen noQuote close]
            · simp [close]

/-- The closing bracket of a region completes it. -/
theorem Consistent.step_close_last (consistent : Consistent state) (inside : state.inBracket = true)
    (noQuote : state.openQuote = false) (last : state.bracketLevel ≤ 1) :
    state.step ']' = (fresh, some (state.text.push ']')) := by
  have unquoted : state.quoteInBracket = false := (Bool.or_eq_false_iff.mp noQuote).2
  have closes : state.step ']' = stepClose state := by simp [step, inside, unquoted]
  rw [closes, stepClose_last consistent inside unquoted (Nat.sub_eq_zero_of_le last)]

end Steps

/-! ## Reachable states -/

/-- A state that reading its own text from the start leads to. -/
structure Settled (state : OpenComponent) : Prop extends Consistent state where
  /-- No component is completed on the way. -/
  replays : fresh.read state.text.toList = ([], state)

theorem fresh_settled : Settled fresh where
  toConsistent := fresh_consistent
  replays := rfl

/-- Every step from a settled state leads to a settled state. -/
theorem Settled.step {state : OpenComponent} (settled : Settled state) (character : Char) :
    Settled (state.step character).1 := by
  obtain ⟨advance, consistent⟩ := step_advance settled.toConsistent character
  refine ⟨consistent, ?_⟩
  generalize next : (state.step character).1 = reached at advance
  generalize completed : (state.step character).2 = component at advance
  cases advance with
  | skip => rfl
  | close => rfl
  | separate => rfl
  | extend longer =>
      rw [longer, String.toList_push, read_append_of_silent settled.replays, read_singleton, next,
        completed]
      rfl

/-- **Every state that reading leads to from a settled one is settled.** -/
theorem Settled.read {state : OpenComponent} (settled : Settled state) (text : List Char) :
    Settled (state.read text).2 := by
  induction text generalizing state with
  | nil => exact settled
  | cons character rest ih => exact ih (settled.step character)

/-- A state that reading a text from the start leads to. -/
def Reachable (state : OpenComponent) : Prop := ∃ text : String, (fresh.read text.toList).2 = state

theorem Reachable.settled {state : OpenComponent} (reachable : Reachable state) : Settled state := by
  obtain ⟨text, rfl⟩ := reachable
  exact fresh_settled.read text.toList

end MessageExpr.OpenComponent
