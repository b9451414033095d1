import MessageExpr.Proofs.Expression.Conservation
import MessageExpr.Proofs.Expression.Rescanning

/-!
# Where components stand in their expression

Every component stands in its expression. In front of it the components before it are read and the
reader is in the fresh state; behind it the components after it are read (`located_componentsOf`).

A bracketed expression therefore stands, with its brackets, in the expression that holds it. In front
of it there is a head with at least two characters, or one and a space, so it is at least four
characters shorter (`Token.inner_located`). The bracketed expressions of one expression have no
character in common (`Token.inner_apart`), and each uses up a bracket of the expression
(`StandInBrackets.length_flatMap_le`).
-/

set_option autoImplicit false

namespace MessageExpr

open OpenComponent

/-! ## Components -/

/-- A member of a list that begins with an optional one is this first one or stands behind it. -/
theorem front_or_behind_of_toList_append {Member : Type} {first : Option Member} {member : Member}
    {more earlier later : List Member} (parts : first.toList ++ more = earlier ++ member :: later) :
    (first = some member ∧ earlier = [] ∧ more = later) ∨
      ∃ others, earlier = first.toList ++ others ∧ more = others ++ member :: later := by
  cases first with
  | none => exact .inr ⟨earlier, rfl, parts⟩
  | some other =>
      cases earlier with
      | nil =>
          obtain ⟨rfl, same⟩ := List.cons.inj parts
          exact .inl ⟨rfl, rfl, same⟩
      | cons another others =>
          obtain ⟨rfl, same⟩ := List.cons.inj parts
          exact .inr ⟨others, rfl, same⟩

namespace OpenComponent

variable {state : OpenComponent}

/-- Reading can be taken up again from the start of the component under way. -/
theorem Settled.read_restarted (settled : Settled state) {character : Char} {before : List Char}
    {others : List String} (restarts : (state.step character).1 = fresh)
    (reads : fresh.read before = (others, fresh)) :
    fresh.read (state.text.toList ++ character :: before) =
      ((state.step character).2.toList ++ others, fresh) := by
  rw [read_append_of_silent settled.replays]
  simp only [OpenComponent.read, restarts, reads]

/-- A component stands behind what is read before it and in front of what is read after it. -/
theorem Settled.located (settled : Settled state) {text : List Char}
    {earlier later : List String} {component : String}
    (read : (state.read text).1 ++ (state.read text).2.finish.toList =
      earlier ++ component :: later) :
    ∃ before after, state.text.toList ++ text = before ++ (component.toList ++ after) ∧
      fresh.read before = (earlier, fresh) ∧ componentsOf (String.ofList after) = later := by
  induction text generalizing state earlier with
  | nil =>
      have left : state.finish.toList = earlier ++ component :: later := read
      by_cases empty : state.text = ""
      · simp [finish, complete, empty] at left
      · rw [finish, complete_of_ne_empty state empty] at left
        cases earlier with
        | nil =>
            obtain ⟨rfl, rfl⟩ := List.cons.inj left
            exact ⟨[], [], by simp, rfl, rfl⟩
        | cons other others => simp at left
  | cons character rest ih =>
      obtain ⟨advance, -⟩ := step_advance settled.toConsistent character
      have further := @ih _ (settled.step character)
      have restarted {before : List Char} {others : List String} :=
        @settled.read_restarted _ character before others
      simp only [OpenComponent.read, List.append_assoc] at read
      generalize (state.step character).1 = next at advance further restarted read
      generalize (state.step character).2 = completed at advance restarted read
      rcases front_or_behind_of_toList_append read with ⟨rfl, rfl, behind⟩ | ⟨others, rfl, behind⟩
      · -- The character completes the component.
        cases advance with
        | close => exact ⟨[], rest, by simp, rfl, by simpa [componentsOf] using behind⟩
        | separate space =>
            refine ⟨[], character :: rest, by simp, rfl, ?_⟩
            rw [space, componentsOf, String.toList_ofList]
            exact behind
      · -- The component is read later: the one under way goes on, or the reader starts afresh.
        obtain ⟨before, after, parts, starts, ends⟩ := further behind
        have afresh (isFresh : next = fresh) :
            state.text.toList ++ character :: rest =
              (state.text.toList ++ character :: before) ++ (component.toList ++ after) := by
          have rest_eq : rest = before ++ (component.toList ++ after) := by
            simpa [isFresh, fresh] using parts
          simp [rest_eq]
        cases advance with
        | extend longer => exact ⟨before, after, by simpa [longer] using parts, starts, ends⟩
        | skip => exact ⟨_, after, afresh rfl, restarted rfl starts, ends⟩
        | close => exact ⟨_, after, afresh rfl, restarted rfl starts, ends⟩
        | separate => exact ⟨_, after, afresh rfl, restarted rfl starts, ends⟩

end OpenComponent

/-- **Every component stands in its expression, between what the components before it and those after
it are read from.** -/
theorem located_componentsOf {expression component : String} {earlier later : List String}
    (read : componentsOf expression = earlier ++ component :: later) :
    ∃ before after : String, expression = before ++ component ++ after ∧
      fresh.read before.toList = (earlier, fresh) ∧ componentsOf after = later := by
  obtain ⟨before, after, parts, starts, ends⟩ := fresh_settled.located read
  refine ⟨String.ofList before, String.ofList after, ?_, by simpa using starts, ends⟩
  rw [← String.toList_inj]
  simpa [fresh] using parts

/-- What completes a component has at least two characters. -/
theorem two_le_length_of_read {text : String} {components : List String}
    (read : fresh.read text.toList = (components, fresh)) (nonempty : components ≠ []) :
    2 ≤ text.length := by
  rw [← String.length_toList]
  match characters : text.toList with
  | [] =>
      rw [characters] at read
      exact absurd (congrArg Prod.fst read).symm nonempty
  | [character] =>
      rw [characters, read_singleton, fresh_step_silent] at read
      exact absurd (congrArg Prod.fst read).symm nonempty
  | _ :: _ :: _ => simp

/-! ## Bracketed expressions -/

/-- The texts stand in the expression one behind the other, each between two brackets of its own. -/
inductive StandInBrackets : List String → String → Prop
  | nil (expression : String) : StandInBrackets [] expression
  | cons (before : String) {inner after : String} {others : List String}
      (further : StandInBrackets others after) :
      StandInBrackets (inner :: others) (before ++ ("[" ++ inner ++ "]") ++ after)

namespace StandInBrackets

variable {inners : List String} {expression : String}

theorem behind (before : String) (standing : StandInBrackets inners expression) :
    StandInBrackets inners (before ++ expression) := by
  cases standing with
  | nil => exact .nil _
  | cons between further =>
      rw [← String.append_assoc, ← String.append_assoc]
      exact .cons (before ++ between) further

/-- What has at most one member for each opening bracket of the texts and of their own brackets has
at most one for each opening bracket of the expression. -/
theorem length_flatMap_le {Member : Type} {members : String → List Member}
    (standing : StandInBrackets inners expression)
    (bounded : ∀ inner ∈ inners, (members inner).length ≤ inner.toList.count '[' + 1) :
    (inners.flatMap members).length ≤ expression.toList.count '[' := by
  induction standing with
  | nil => exact Nat.zero_le _
  | @cons before inner after others further ih =>
      obtain ⟨here, rest⟩ := List.forall_mem_cons.mp bounded
      have later := ih rest
      simp only [List.flatMap_cons, List.length_append, String.toList_append, List.count_append]
      have opening : "[".toList.count '[' = 1 := rfl
      omega

end StandInBrackets

namespace Token

/-- Bracketed expressions stand apart wherever the components of their tokens are read. -/
theorem standInBrackets {tokens : List Token} {expression : String}
    (read : componentsOf expression = tokens.flatMap components) :
    StandInBrackets (tokens.filterMap inner?) expression := by
  induction tokens generalizing expression with
  | nil => exact .nil expression
  | cons token rest ih =>
      have last {front : List String} {component : String}
          (parts : token.components = front ++ [component]) :
          ∃ before after, expression = before ++ component ++ after ∧
            StandInBrackets (rest.filterMap inner?) after := by
        rw [List.flatMap_cons, parts, List.append_assoc, List.singleton_append] at read
        obtain ⟨before, after, place, -, readAfter⟩ := located_componentsOf read
        exact ⟨before, after, place, ih readAfter⟩
      cases inside : token.inner? with
      | none =>
          obtain ⟨before, after, rfl, further⟩ :=
            last (List.dropLast_concat_getLast (components_ne_nil token)).symm
          rw [List.filterMap_cons_none inside]
          exact further.behind (before ++ token.components.getLast (components_ne_nil token))
      | some inner =>
          obtain ⟨front, parts⟩ := components_of_inner inside
          obtain ⟨before, after, rfl, further⟩ := last parts
          rw [List.filterMap_cons_some inside]
          exact .cons before further

/-- **The bracketed expressions of an expression stand in it one behind the other.** -/
theorem inner_apart {expression : String} {tokens : List Token}
    (scanned : scan expression = .ok tokens) :
    StandInBrackets (tokens.filterMap inner?) expression :=
  standInBrackets (components_of_scan scanned).symm

/-- **A bracketed expression stands in its expression, in brackets and behind at least two
characters.** -/
theorem inner_located {expression inner : String} {tokens : List Token} {token : Token}
    (scanned : scan expression = .ok tokens) (member : token ∈ tokens)
    (inside : token.inner? = some inner) :
    ∃ before after : String, expression = before ++ ("[" ++ inner ++ "]") ++ after ∧
      2 ≤ before.length := by
  obtain ⟨name, message, messages, more, read, readMore, rfl⟩ := scan_eq_ok_iff.mp scanned
  have isMessage : token ∈ more := by
    rcases List.mem_cons.mp member with rfl | isMessage
    · cases inside
    · exact isMessage
  obtain ⟨front, parts⟩ := components_of_inner inside
  have isComponent : "[" ++ inner ++ "]" ∈ message :: messages := by
    rw [← components_of_ofMessages readMore]
    exact List.mem_flatMap_of_mem isMessage (by simp [parts])
  obtain ⟨earlier, later, around⟩ := List.append_of_mem isComponent
  rw [around, ← List.cons_append] at read
  obtain ⟨before, after, place, readBefore, -⟩ := located_componentsOf read
  exact ⟨before, after, place, two_le_length_of_read readBefore (List.cons_ne_nil name earlier)⟩

/-- A bracketed expression is a contiguous part of the one that holds it. -/
theorem inner_isInfix {expression inner : String} {tokens : List Token} {token : Token}
    (scanned : scan expression = .ok tokens) (member : token ∈ tokens)
    (inside : token.inner? = some inner) : inner.toList <:+: expression.toList := by
  obtain ⟨before, after, rfl, -⟩ := inner_located scanned member inside
  exact ⟨before.toList ++ ['['], ']' :: after.toList, by simp⟩

/-- **A bracketed expression is at least four characters shorter than the one that holds it.** -/
theorem inner_length_add_four_le {expression inner : String} {tokens : List Token} {token : Token}
    (scanned : scan expression = .ok tokens) (member : token ∈ tokens)
    (inside : token.inner? = some inner) : inner.length + 4 ≤ expression.length := by
  obtain ⟨before, after, rfl, behind⟩ := inner_located scanned member inside
  simp only [String.length_append]
  have opening : "[".length = 1 := rfl
  have closing : "]".length = 1 := rfl
  omega

theorem inner_shorter {expression inner : String} {tokens : List Token} {token : Token}
    (scanned : scan expression = .ok tokens) (member : token ∈ tokens)
    (inside : token.inner? = some inner) : inner.length < expression.length :=
  Nat.lt_of_lt_of_le (by omega) (inner_length_add_four_le scanned member inside)

end Token

end MessageExpr
