import Mathlib.Data.List.Infix
import MessageExpr.Proofs.Expression.Places

/-!
# Brackets and quotes inside a region

What a character does to the number of open brackets and to an open quote depends on nothing but
these two. A text that is read inside brackets is therefore read like a text by itself: the same
quotes are open, and one bracket more (`Inside.read`). As long as the region stays open, all that is
read belongs to it (`Consistent.read_of_inside`).

A component begins where the reader is in the fresh state (`located_componentsOf`), so the brackets
that are open in it are those that are open in the whole expression. Where at most a number of
brackets is ever open, one bracket less is open in each bracketed expression
(`LevelWithin.of_inner`).
-/

set_option autoImplicit false

namespace MessageExpr

namespace OpenComponent

/-! ## Reading inside a region -/

/-- A reader in a bracket region and one that started behind its first bracket: the same quotes are
open, and one bracket more. -/
structure Inside (outer inner : OpenComponent) : Prop where
  level : outer.bracketLevel = inner.bracketLevel + 1
  quote : outer.openQuote = inner.openQuote

variable {outer inner : OpenComponent}

/-- A character that does not complete the region leaves both readers as they are to each other. -/
theorem Inside.step (inside : Inside outer inner) (outerConsistent : Consistent outer)
    (innerConsistent : Consistent inner) {character : Char}
    (silent : (outer.step character).2 = none) :
    Inside (outer.step character).1 (inner.step character).1 where
  level := by
    obtain ⟨level, quote⟩ := inside
    have inBracket : outer.inBracket = true :=
      outerConsistent.inBracket_iff.mpr (level ▸ Nat.succ_pos _)
    rw [step_bracketLevel outerConsistent, step_bracketLevel innerConsistent, quote, level]
    cases openQuote : inner.openQuote with
    | true => rfl
    | false =>
        by_cases opens : character = '['
        · simp [opens]
        by_cases closes : character = ']'
        · -- The last open bracket is the region's own, and closing it would complete the region.
          subst closes
          have more : ¬ outer.bracketLevel ≤ 1 := by
            intro last
            have noQuote : outer.openQuote = false := quote.trans openQuote
            rw [outerConsistent.step_close_last inBracket noQuote last] at silent
            cases silent
          simp
          omega
        · simp [opens, closes]
  quote := by
    rw [step_openQuote outerConsistent, step_openQuote innerConsistent, inside.quote]

/-- **As long as a region is not completed, the same quotes and one bracket more are open in it than
in its text by itself.** -/
theorem Inside.read (inside : Inside outer inner) (outerConsistent : Consistent outer)
    (innerConsistent : Consistent inner) {text : List Char} (silent : (outer.read text).1 = []) :
    Inside (outer.read text).2 (inner.read text).2 := by
  induction text generalizing outer inner with
  | nil => exact inside
  | cons character rest ih =>
      obtain ⟨notCompleted, restSilent⟩ := List.append_eq_nil_iff.mp silent
      have nothing : (outer.step character).2 = none := Option.toList_eq_nil_iff.mp notCompleted
      exact ih (inside.step outerConsistent innerConsistent nothing)
        (step_advance outerConsistent character).2 (step_advance innerConsistent character).2
        restSilent

/-- Behind its opening bracket a region is read like its text by itself. -/
theorem Inside.of_region {state : OpenComponent} (consistent : Consistent state)
    (outside : state.expectsSpace = false) {text : List Char}
    (silent : (state.read ('[' :: text)).1 = []) :
    Inside (state.read ('[' :: text)).2 (fresh.read text).2 := by
  have opened : Inside (state.step '[').1 fresh := by
    rw [consistent.eq_of_outside outside]
    exact ⟨rfl, rfl⟩
  exact opened.read (step_advance consistent '[').2 fresh_consistent
    (List.append_eq_nil_iff.mp silent).2

/-- A closing bracket leaves no bracket open exactly if the text of the region leaves nothing open. -/
theorem Inside.closes_iff (inside : Inside outer inner) (outerConsistent : Consistent outer) :
    (outer.step ']').1.bracketLevel = 0 ↔
      inner.openQuote = false ∧ inner.bracketLevel = 0 := by
  rw [step_bracketLevel outerConsistent, inside.quote, inside.level]
  cases inner.openQuote <;> simp

/-- While a region stays open nothing is completed, and every character belongs to it. -/
theorem Consistent.read_of_inside {state : OpenComponent} (consistent : Consistent state)
    {text : List Char}
    (inside : ∀ start, start <+: text → (state.read start).2.inBracket = true) :
    (state.read text).1 = [] ∧ (state.read text).2.text.toList = state.text.toList ++ text := by
  induction text generalizing state with
  | nil => exact ⟨rfl, by simp [OpenComponent.read]⟩
  | cons character rest ih =>
      obtain ⟨advance, nextConsistent⟩ := step_advance consistent character
      have stays : (state.step character).1.inBracket = true :=
        inside [character] (List.prefix_append [character] rest)
      obtain ⟨restSilent, restText⟩ := ih nextConsistent fun start isPrefix =>
        inside (character :: start) (List.cons_prefix_cons.mpr ⟨rfl, isPrefix⟩)
      simp only [OpenComponent.read, restSilent, restText, List.append_nil]
      generalize (state.step character).1 = next at advance stays
      generalize (state.step character).2 = completed at advance
      cases advance with
      | extend longer => simp [longer]
      | skip => cases stays
      | close => cases stays
      | separate => cases stays

end OpenComponent

open OpenComponent

/-! ## Components in brackets -/

/-- A component in brackets is not completed before its last character. -/
theorem read_region_of_whole {inner : String}
    (whole : componentsOf ("[" ++ inner ++ "]") = ["[" ++ inner ++ "]"]) :
    (fresh.read ('[' :: inner.toList)).1 = [] := by
  have characters : ("[" ++ inner ++ "]").toList = ('[' :: inner.toList) ++ [']'] := by simp
  have taken := (sublist_read fresh_consistent ('[' :: inner.toList)).length_le
  have noText : fresh.text.toList = [] := rfl
  simp only [componentsOf, characters, read_append, List.append_assoc] at whole
  cases completed : (fresh.read ('[' :: inner.toList)).1 with
  | nil => rfl
  | cons component rest =>
      -- The component would be the whole text, which is longer than what was read.
      rw [completed, List.cons_append] at whole
      obtain ⟨rfl, -⟩ := List.cons.inj whole
      simp only [completed, noText, List.flatMap_cons, characters, List.length_append,
        List.length_cons, List.length_nil] at taken
      omega

/-! ## Levels of brackets -/

/-- At most this number of brackets is ever open. -/
def LevelWithin (limit : Nat) (expression : String) : Prop :=
  ∀ start, start <+: expression.toList → (fresh.read start).2.bracketLevel ≤ limit

instance (limit : Nat) (expression : String) : Decidable (LevelWithin limit expression) :=
  decidable_of_iff (∀ start ∈ expression.toList.inits, (fresh.read start).2.bracketLevel ≤ limit)
    (by simp only [LevelWithin, List.mem_inits])

namespace LevelWithin

variable {limit : Nat} {expression : String}

theorem of_component (within : LevelWithin limit expression) {component : String}
    (member : component ∈ componentsOf expression) : LevelWithin limit component := by
  intro start isPrefix
  obtain ⟨earlier, later, read⟩ := List.append_of_mem member
  obtain ⟨before, after, rfl, readBefore, -⟩ := located_componentsOf read
  have placed : before.toList ++ start <+: (before ++ component ++ after).toList := by
    rw [String.toList_append, String.toList_append, List.append_assoc,
      List.prefix_append_right_inj]
    exact isPrefix.trans (List.prefix_append _ _)
  have bound := within (before.toList ++ start) placed
  rw [read_append, readBefore] at bound
  exact bound

/-- Inside a region one bracket less is open. -/
theorem of_region {inner : String} (within : LevelWithin limit ("[" ++ inner ++ "]"))
    (whole : componentsOf ("[" ++ inner ++ "]") = ["[" ++ inner ++ "]"]) :
    ∃ lower, limit = lower + 1 ∧ LevelWithin lower inner := by
  have characters : ("[" ++ inner ++ "]").toList = '[' :: (inner.toList ++ [']']) := by simp
  have bound : ∀ start, start <+: inner.toList →
      (fresh.read start).2.bracketLevel + 1 ≤ limit := by
    intro start isPrefix
    obtain ⟨rest, parts⟩ := isPrefix
    have silent := read_region_of_whole whole
    rw [← parts, ← List.cons_append, read_append] at silent
    have startSilent : (fresh.read ('[' :: start)).1 = [] := (List.append_eq_nil_iff.mp silent).1
    have reads := Inside.of_region fresh_consistent rfl startSilent
    have placed : '[' :: start <+: ("[" ++ inner ++ "]").toList := by
      rw [characters, ← parts]
      simp
    have outer : (fresh.read ('[' :: start)).2.bracketLevel ≤ limit := within _ placed
    rwa [reads.level] at outer
  obtain ⟨lower, rfl⟩ : ∃ lower, limit = lower + 1 :=
    Nat.exists_eq_add_of_le' (bound [] List.nil_prefix)
  exact ⟨lower, rfl, fun start isPrefix => Nat.le_of_succ_le_succ (bound start isPrefix)⟩

/-- **In the bracketed expressions of an expression one bracket less is open.** -/
theorem of_inner (within : LevelWithin limit expression) {tokens : List Token} {token : Token}
    {inner : String} (scanned : Token.scan expression = .ok tokens) (member : token ∈ tokens)
    (inside : token.inner? = some inner) :
    ∃ lower, limit = lower + 1 ∧ LevelWithin lower inner := by
  have isComponent : "[" ++ inner ++ "]" ∈ componentsOf expression :=
    Token.brackets_mem_componentsOf scanned member inside
  have whole := (separable_componentsOf expression).whole _ isComponent
  exact (within.of_component isComponent).of_region whole

end LevelWithin

end MessageExpr
