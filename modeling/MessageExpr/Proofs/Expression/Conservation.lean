import MessageExpr.Proofs.Expression.Reading

/-!
# What a reader keeps

The spaces that are read where no space belongs to a component separate components. All other
characters are kept: the completed components and the one under way spell them in their order, none
twice and none out of place (`spelled_read`). So a component is made of characters of the text
(`sublist_read`).

The first character never completes a component (`fresh_step_silent`), and a component does not start
with a space, because that space would have been a separator (`Settled.head?_ne_space`).

Together with the consistency of its states this is what holds of a reader after every character
(`reader_conserves`).
-/

set_option autoImplicit false

namespace MessageExpr.OpenComponent

/-! ## Characters on the way -/

/-- What is left at the end is the text under way. -/
theorem flatMap_finish (state : OpenComponent) :
    state.finish.toList.flatMap String.toList = state.text.toList := by
  by_cases empty : state.text = ""
  · simp [finish, complete, empty]
  · simp [finish, complete_of_ne_empty _ empty]

/-- The characters without the separators, which are the spaces that are read where none is expected
in a component. -/
def withoutSeparators (state : OpenComponent) : List Char → List Char
  | [] => []
  | character :: rest =>
    let kept := withoutSeparators (state.step character).1 rest
    if character = ' ' ∧ state.expectsSpace = false then kept else character :: kept

theorem withoutSeparators_sublist (state : OpenComponent) (text : List Char) :
    (withoutSeparators state text).Sublist text := by
  induction text generalizing state with
  | nil => exact .slnil
  | cons character rest ih =>
      rw [withoutSeparators]
      split
      · exact (ih _).cons character
      · exact (ih _).cons_cons character

/-- A step keeps its character, unless it is a separator. -/
theorem spelled_step {state : OpenComponent} (consistent : Consistent state) (character : Char) :
    (state.step character).2.toList.flatMap String.toList ++
        (state.step character).1.text.toList =
      state.text.toList ++
        if character = ' ' ∧ state.expectsSpace = false then [] else [character] := by
  by_cases separator : character = ' ' ∧ state.expectsSpace = false
  · obtain ⟨rfl, outside⟩ := separator
    rw [consistent.step_space outside, flatMap_finish]
    simp [fresh, outside]
  · rw [if_neg separator]
    obtain ⟨advance, -⟩ := step_advance consistent character
    generalize (state.step character).1 = next at advance
    generalize (state.step character).2 = completed at advance
    cases advance with
    | skip space between => exact absurd ⟨space, between ▸ rfl⟩ separator
    | extend longer => simp [longer]
    | close => simp [fresh]
    | separate space outside => exact absurd ⟨space, outside⟩ separator

/-- **The completed components and the one under way spell what was read without the separators.** -/
theorem spelled_read {state : OpenComponent} (consistent : Consistent state) (text : List Char) :
    (state.read text).1.flatMap String.toList ++ (state.read text).2.text.toList =
      state.text.toList ++ withoutSeparators state text := by
  induction text generalizing state with
  | nil => simp [read, withoutSeparators]
  | cons character rest ih =>
      have now := spelled_step consistent character
      have more := ih (step_advance consistent character).2
      simp only [read, withoutSeparators, List.flatMap_append, List.append_assoc, more]
      rw [← List.append_assoc, now]
      split <;> simp

/-- The characters of the completed components and of the one under way are, in their order,
characters of what was read. -/
theorem sublist_read {state : OpenComponent} (consistent : Consistent state) (text : List Char) :
    ((state.read text).1.flatMap String.toList ++ (state.read text).2.text.toList).Sublist
      (state.text.toList ++ text) := by
  rw [spelled_read consistent]
  exact (withoutSeparators_sublist state text).append_left state.text.toList

/-! ## Where components start -/

/-- The first character of a component does not complete it. -/
theorem fresh_step_silent (character : Char) : (fresh.step character).2 = none := by
  by_cases quote : character = '"'
  · rw [quote]
    rfl
  by_cases bracket : character = '['
  · rw [bracket]
    rfl
  by_cases space : character = ' '
  · rw [space]
    rfl
  · simp [step, fresh, quote, bracket, space]

namespace Settled

variable {state : OpenComponent}

/-- A space in front would not have been kept. -/
theorem head?_ne_space (settled : Settled state) : state.text.toList.head? ≠ some ' ' := by
  intro space
  obtain ⟨rest, characters⟩ : ∃ rest, state.text.toList = ' ' :: rest := by
    cases text : state.text.toList with
    | nil => simp [text] at space
    | cons first rest => exact ⟨rest, by simpa [text] using space⟩
  -- The text is what reading it keeps of it, and reading it skips the space.
  have kept : state.text.toList = withoutSeparators fresh rest := by
    calc state.text.toList = withoutSeparators fresh state.text.toList := by
          have spelled := spelled_read fresh_consistent state.text.toList
          rw [settled.replays] at spelled
          exact spelled
      _ = withoutSeparators fresh rest := by
          rw [characters]
          rfl
  have shorter := (withoutSeparators_sublist fresh rest).length_le
  rw [← kept, characters, List.length_cons] at shorter
  omega

/-- A component is completed with text that does not start with a space, and leaves the reader in
the fresh state. -/
theorem completed_spec (settled : Settled state) {character : Char} {component : String}
    (completes : (state.step character).2 = some component) :
    component ≠ "" ∧ component.toList.head? ≠ some ' ' ∧ (state.step character).1 = fresh := by
  obtain ⟨advance, -⟩ := step_advance settled.toConsistent character
  have notFirst : state.text ≠ "" := by
    intro empty
    rw [settled.fresh_of_empty empty, fresh_step_silent] at completes
    cases completes
  generalize (state.step character).1 = next at advance
  rw [completes] at advance
  cases advance with
  | close =>
      refine ⟨push_ne_empty _ _, ?_, rfl⟩
      rw [head?_push notFirst]
      exact settled.head?_ne_space
  | separate => exact ⟨notFirst, settled.head?_ne_space, rfl⟩

/-- So is the component that is left at the end. -/
theorem finish_spec (settled : Settled state) {component : String}
    (left : state.finish = some component) :
    component ≠ "" ∧ component.toList.head? ≠ some ' ' := by
  by_cases empty : state.text = ""
  · simp [finish, complete, empty] at left
  · rw [finish, complete_of_ne_empty state empty] at left
    obtain rfl := Option.some.inj left
    exact ⟨empty, settled.head?_ne_space⟩

end Settled

/-- A bracket that closes one of the open ones leaves one less open. -/
theorem Consistent.bracketLevel_of_close {state : OpenComponent} (consistent : Consistent state)
    (inside : state.inBracket = true) (unquoted : state.quoteInBracket = false) :
    (state.step ']').1.bracketLevel + 1 = state.bracketLevel := by
  have noQuote : state.openQuote = false := by
    simp [openQuote, consistent.inQuote_eq_false inside, unquoted]
  have level : (state.step ']').1.bracketLevel = state.bracketLevel - 1 := by
    rw [step_bracketLevel consistent, noQuote]
    simp
  rw [level, Nat.sub_add_cancel (consistent.inBracket_iff.mp inside)]

/-! ## After every character -/

/-- **What holds of a reader after every text.** Its state fits together, and no bracket is closed
that is not open. The next component that is completed has text, does not start with a space and
leaves nothing behind it. The components so far and the text under way spell what was read, without
the spaces that separate components. -/
theorem reader_conserves (text : String) :
    let completed := (fresh.read text.toList).1
    let state := (fresh.read text.toList).2
    Consistent state ∧
      (state.inBracket = true → state.quoteInBracket = false →
        (state.step ']').1.bracketLevel + 1 = state.bracketLevel) ∧
      (∀ character component, (state.step character).2 = some component →
        component ≠ "" ∧ component.toList.head? ≠ some ' ' ∧ (state.step character).1 = fresh) ∧
      (∀ component, state.finish = some component →
        component ≠ "" ∧ component.toList.head? ≠ some ' ') ∧
      completed.flatMap String.toList ++ state.text.toList =
        withoutSeparators fresh text.toList := by
  intro completed state
  have settled : Settled state := fresh_settled.read text.toList
  have spelled : completed.flatMap String.toList ++ state.text.toList =
      fresh.text.toList ++ withoutSeparators fresh text.toList :=
    spelled_read fresh_consistent text.toList
  have noText : fresh.text.toList = [] := rfl
  rw [noText, List.nil_append] at spelled
  refine ⟨settled.toConsistent, fun inside unquoted => ?_, fun character component completes => ?_,
    fun component left => settled.finish_spec left, spelled⟩
  · exact settled.toConsistent.bracketLevel_of_close inside unquoted
  · exact settled.completed_spec completes

end MessageExpr.OpenComponent
