import MessageExpr.Proofs.Expression.Regions

/-!
# Balanced texts and closed regions

A text is balanced if reading it by itself leaves no bracket and no quote open (`Balanced`). A
component that starts with a bracket and ends with one is a text between brackets. It is a closed
region exactly if the text is balanced: the last bracket then closes the first one
(`balanced_iff_of_region`).

A text in brackets is read twice, within its expression and later by itself. Both readings see the
same quotes and brackets, and agree on where the region ends (`region_read_alike`).

Only the end of an expression can complete a component whose region is still open, so a component
that another one follows is closed. The bracketed expressions of an expression are therefore balanced,
with one exception: the last token of an expression that ends inside a region
(`inner_balanced_iff`). Such a token is made when the open region happens to end in a closing
bracket, either one of a nested region or one in a quoted text (`open_region_unbalanced`).
-/

set_option autoImplicit false

namespace MessageExpr

open OpenComponent

/-! ## Balance -/

/-- Read by itself, the text leaves nothing open. -/
structure Balanced (text : String) : Prop where
  /-- No bracket is open at the end. -/
  level : (fresh.read text.toList).2.bracketLevel = 0
  /-- No quote outside brackets is open at the end. -/
  inQuote : (fresh.read text.toList).2.inQuote = false
  /-- No quote inside brackets is open at the end. -/
  quoteInBracket : (fresh.read text.toList).2.quoteInBracket = false

theorem balanced_iff {text : String} :
    Balanced text ↔ (fresh.read text.toList).2.openQuote = false ∧
      (fresh.read text.toList).2.bracketLevel = 0 := by
  simp only [openQuote, Bool.or_eq_false_iff]
  constructor
  · rintro ⟨level, inQuote, quoteInBracket⟩
    exact ⟨⟨inQuote, quoteInBracket⟩, level⟩
  · rintro ⟨⟨inQuote, quoteInBracket⟩, level⟩
    exact ⟨level, inQuote, quoteInBracket⟩

instance (text : String) : Decidable (Balanced text) := decidable_of_iff _ balanced_iff.symm

/-- The number of brackets that are open at the end of a text. -/
def finalLevel (text : String) : Nat := (fresh.read text.toList).2.bracketLevel

/-- **A component between brackets is a closed region exactly if its inner text is balanced.** -/
theorem balanced_iff_of_region {inner : String}
    (whole : componentsOf ("[" ++ inner ++ "]") = ["[" ++ inner ++ "]"]) :
    Balanced inner ↔ finalLevel ("[" ++ inner ++ "]") = 0 := by
  have characters : ("[" ++ inner ++ "]").toList = ('[' :: inner.toList) ++ [']'] := by simp
  have consistent : Consistent (fresh.read ('[' :: inner.toList)).2 :=
    (fresh_settled.read ('[' :: inner.toList)).toConsistent
  have inside : Inside (fresh.read ('[' :: inner.toList)).2 (fresh.read inner.toList).2 :=
    .of_region fresh_consistent rfl (read_region_of_whole whole)
  rw [balanced_iff, finalLevel, characters, read_append, read_singleton]
  exact (inside.closes_iff consistent).symm

/-! ## Regions in their expression -/

/-- Behind an opening bracket the region stays open while the text is read. -/
def StaysInside (state : OpenComponent) (text : String) : Prop :=
  ∀ start, start <+: text.toList → (state.read ('[' :: start)).2.inBracket = true

instance (state : OpenComponent) (text : String) : Decidable (StaysInside state text) :=
  decidable_of_iff (∀ start ∈ text.toList.inits, (state.read ('[' :: start)).2.inBracket = true)
    (by simp only [StaysInside, List.mem_inits])

namespace StaysInside

variable {state : OpenComponent} {text : String}

/-- The region belongs to the component that is under way in front of it. -/
theorem read (inside : StaysInside state text) (consistent : Consistent state)
    (outside : state.expectsSpace = false) :
    (state.read ('[' :: text.toList)).1 = [] ∧
      (state.read ('[' :: text.toList)).2.text = state.text ++ "[" ++ text := by
  obtain ⟨restSilent, restText⟩ := (step_advance consistent '[').2.read_of_inside inside
  have opens : (state.step '[').2 = none ∧ (state.step '[').1.text = state.text.push '[' := by
    rw [consistent.eq_of_outside outside]
    exact ⟨rfl, rfl⟩
  refine ⟨?_, ?_⟩
  · simp only [OpenComponent.read, opens, restSilent]
    rfl
  · rw [← String.toList_inj]
    simp only [OpenComponent.read, restText, opens]
    simp

/-- A part of a text at whose end the region is open. -/
theorem of_prefix (inside : StaysInside state text) {start : List Char}
    (isPrefix : start <+: text.toList) : StaysInside state (String.ofList start) := by
  intro earlier isEarlier
  rw [String.toList_ofList] at isEarlier
  exact inside earlier (isEarlier.trans isPrefix)

/-- One bracket more is open in the region than in its text by itself, and the same quotes are. -/
theorem alike (inside : StaysInside state text) (consistent : Consistent state)
    (outside : state.expectsSpace = false) {start : List Char} (isPrefix : start <+: text.toList) :
    Inside (state.read ('[' :: start)).2 (fresh.read start).2 := by
  have silent := ((inside.of_prefix isPrefix).read consistent outside).1
  rw [String.toList_ofList] at silent
  exact .of_region consistent outside silent

/-- The bracket behind a balanced text completes the component with the region. -/
theorem read_closed (inside : StaysInside state text) (settled : Settled state)
    (outside : state.expectsSpace = false) (balanced : Balanced text) :
    state.read (('[' :: text.toList) ++ [']']) = ([state.text ++ "[" ++ text ++ "]"], fresh) := by
  obtain ⟨silent, regionText⟩ := inside.read settled.toConsistent outside
  have region := inside.alike settled.toConsistent outside List.prefix_rfl
  have isOpen := inside text.toList List.prefix_rfl
  have consistent := (settled.read ('[' :: text.toList)).toConsistent
  obtain ⟨noQuote, noLevel⟩ := balanced_iff.mp balanced
  have last : (state.read ('[' :: text.toList)).2.bracketLevel ≤ 1 := by
    rw [region.level, noLevel]
  have joined : (state.text ++ "[" ++ text).push ']' = state.text ++ "[" ++ text ++ "]" := by
    rw [← String.toList_inj]
    simp
  rw [read_append, read_singleton, silent,
    consistent.step_close_last isOpen (region.quote.trans noQuote) last, regionText, joined]
  rfl

end StaysInside

/-- **A text in brackets is read twice alike**, in its expression and by itself. In the first reading
one bracket more is open at every place, and a quote inside brackets is open where any quote is open
in the second. The next closing bracket closes the region exactly if the text is balanced, and then
it completes the component with the text in its brackets. -/
theorem region_read_alike {state : OpenComponent} {text : String} (reachable : Reachable state)
    (outside : state.expectsSpace = false) (inside : StaysInside state text) :
    (∀ start, start <+: text.toList →
        let within := (state.read ('[' :: start)).2
        let alone := (fresh.read start).2
        within.bracketLevel = 1 + alone.bracketLevel ∧
          within.quoteInBracket = (alone.inQuote || alone.quoteInBracket)) ∧
      (((state.read ('[' :: text.toList)).2.step ']').1.inBracket = false ↔ Balanced text) ∧
      (Balanced text →
        state.read (('[' :: text.toList) ++ [']']) =
          ([state.text ++ "[" ++ text ++ "]"], fresh)) := by
  have settled := reachable.settled
  refine ⟨fun start isPrefix => ?_, ?_, inside.read_closed settled outside⟩
  · have region := inside.alike settled.toConsistent outside isPrefix
    have consistent := (settled.read ('[' :: start)).toConsistent
    have notInQuote := consistent.inQuote_eq_false (inside start isPrefix)
    refine ⟨region.level.trans (Nat.add_comm _ 1), ?_⟩
    simpa [openQuote, notInQuote] using region.quote
  · have region := inside.alike settled.toConsistent outside List.prefix_rfl
    have consistent := (settled.read ('[' :: text.toList)).toConsistent
    have after := (step_advance consistent ']').2
    rw [balanced_iff, ← region.closes_iff consistent]
    simpa using not_congr after.inBracket_iff

/-- The region begins within a component. Brackets in its quotes are brackets in neither reading, and
the bracket behind the text completes the component. -/
theorem region_read_alike_glued :
    let state : OpenComponent := ⟨"a\"b\"c", false, false, 0, false⟩
    let text := "y \"[]]\" [z \"]\"] w"
    let start := "y \"[]]\" [z \"".toList
    let within := (state.read ('[' :: start)).2
    Reachable state ∧ state.expectsSpace = false ∧ StaysInside state text ∧
      start <+: text.toList ∧ within.bracketLevel = 1 + 1 ∧ within.quoteInBracket = true ∧
      Balanced text ∧ state.read (('[' :: text.toList) ++ [']']) =
        (["a\"b\"c[y \"[]]\" [z \"]\"] w]"], fresh) := by
  intro state text start within
  have reachable : Reachable state := ⟨"x a\"b\"c", by decide⟩
  have inside : StaysInside state text := by decide
  have isPrefix : start <+: text.toList := ⟨"]\"] w".toList, by decide⟩
  have balanced : Balanced text := by decide
  obtain ⟨alike, -, closes⟩ := region_read_alike reachable rfl inside
  obtain ⟨level, quote⟩ := alike start isPrefix
  exact ⟨reachable, rfl, inside, isPrefix, level, quote, balanced, closes balanced⟩

/-! ## Which components are closed -/

/-- A component that a space can follow leaves no bracket open. -/
theorem StandsAlone.finalLevel_eq_zero {component : String} (alone : StandsAlone component) :
    finalLevel component = 0 := by
  have consistent : Consistent (fresh.read component.toList).2 :=
    (fresh_settled.read component.toList).toConsistent
  have separated : ((fresh.read component.toList).2.step ' ').1 = fresh := by
    simpa only [read_append, read_singleton] using congrArg Prod.snd alone.separated
  have spaceChangesNothing := step_bracketLevel consistent ' '
  rw [separated] at spaceChangesNothing
  calc finalLevel component = fresh.bracketLevel := by
        rw [finalLevel]
        simpa using spaceChangesNothing.symm
    _ = 0 := rfl

/-- Of separable components all but the last one stand alone. -/
theorem Separable.standsAlone {before after : List String} {component next : String}
    (separable : Separable (before ++ component :: next :: after)) : StandsAlone component := by
  induction before with
  | nil =>
      cases separable with
      | cons alone _ => exact alone
  | cons first rest ih =>
      generalize following : rest ++ component :: next :: after = others at ih
      rw [List.cons_append, following] at separable
      cases separable with
      | last _ => simp at following
      | cons _ more => exact ih more

/-- A component that is read on the way stands alone. -/
theorem OpenComponent.Settled.standsAlone_of_mem_read {state : OpenComponent}
    (settled : Settled state) {text : List Char} {component : String}
    (member : component ∈ (state.read text).1) : StandsAlone component := by
  induction text generalizing state with
  | nil => cases member
  | cons character rest ih =>
      rcases List.mem_append.mp member with here | behind
      · exact .of_step settled (Option.mem_toList.mp here)
      · exact ih (settled.step character) behind

/-- **At the end of an expression as many brackets are open as at the end of its last component.** -/
theorem finalLevel_of_last {expression component : String} {before : List String}
    (read : componentsOf expression = before ++ [component]) :
    finalLevel expression = finalLevel component := by
  have settled : Settled (fresh.read expression.toList).2 := fresh_settled.read expression.toList
  simp only [componentsOf] at read
  by_cases empty : (fresh.read expression.toList).2.text = ""
  · have nothingOpen := settled.fresh_of_empty empty
    have completed : component ∈ (fresh.read expression.toList).1 := by
      have nothingLeft : fresh.finish.toList = [] := rfl
      rw [nothingOpen, nothingLeft, List.append_nil] at read
      rw [read]
      exact List.mem_append_right before (List.mem_singleton_self component)
    rw [(fresh_settled.standsAlone_of_mem_read completed).finalLevel_eq_zero, finalLevel,
      nothingOpen]
    rfl
  · rw [finish, complete_of_ne_empty _ empty] at read
    obtain ⟨-, isLast⟩ := List.append_inj' read rfl
    obtain rfl := List.singleton_inj.mp isLast
    rw [finalLevel, finalLevel, settled.replays]

/-! ## Bracketed expressions -/

namespace Token

/-- **A bracketed expression is balanced, unless its token is the last one of an expression that ends
inside a region.** -/
theorem inner_balanced_iff {expression inner : String} {earlier later : List Token} {token : Token}
    (scanned : scan expression = .ok (earlier ++ token :: later))
    (inside : token.inner? = some inner) :
    Balanced inner ↔ later ≠ [] ∨ finalLevel expression = 0 := by
  have separable : Separable (componentsOf expression) := separable_componentsOf expression
  have whole : componentsOf ("[" ++ inner ++ "]") = ["[" ++ inner ++ "]"] :=
    separable.whole _ (brackets_mem_componentsOf scanned (by simp) inside)
  obtain ⟨front, parts⟩ := components_of_inner inside
  have read : componentsOf expression = (earlier.flatMap components ++ front) ++
      ("[" ++ inner ++ "]") :: later.flatMap components := by
    rw [← components_of_scan scanned]
    simp [parts]
  rw [balanced_iff_of_region whole]
  cases later with
  | nil =>
      have sameLevel := finalLevel_of_last read
      simp [sameLevel]
  | cons next more =>
      have further : (next :: more).flatMap components ≠ [] := by simp [components_ne_nil]
      obtain ⟨component, others, following⟩ := List.exists_cons_of_ne_nil further
      rw [read, following] at separable
      simp [separable.standsAlone.finalLevel_eq_zero]

/-- A region that is still open at the end is taken for a bracketed expression if its last character
is a closing bracket, here that of a nested region and one in a quoted text. -/
theorem open_region_unbalanced :
    (scan "x [[a]" = .ok [.head "x", .bracket "[a"] ∧ ¬ Balanced "[a") ∧
      scan "x [\"a]" = .ok [.head "x", .bracket "\"a"] ∧ ¬ Balanced "\"a" := by
  decide

/-- The quoted bracket in the first region does not close it. The second region stays open. -/
theorem inner_balanced_iff_open_end :
    scan "x at: [y \"]\" [z]] [[a]" =
        .ok [.head "x", .keywordBracket "at:" "y \"]\" [z]", .bracket "[a"] ∧
      Balanced "y \"]\" [z]" ∧ ¬ Balanced "[a" := by
  have scanned : scan "x at: [y \"]\" [z]] [[a]" =
      .ok [.head "x", .keywordBracket "at:" "y \"]\" [z]", .bracket "[a"] := by decide
  have first := @inner_balanced_iff _ _ [.head "x"] [.bracket "[a"]
    (.keywordBracket "at:" "y \"]\" [z]") scanned rfl
  have second := @inner_balanced_iff _ _ [.head "x", .keywordBracket "at:" "y \"]\" [z]"] []
    (.bracket "[a") scanned rfl
  refine ⟨scanned, first.mpr (.inl (List.cons_ne_nil _ _)), fun balanced => ?_⟩
  rcases second.mp balanced with more | closed
  · exact more rfl
  · exact absurd closed (by decide)

end Token

end MessageExpr
