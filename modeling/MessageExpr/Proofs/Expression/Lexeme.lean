import MessageExpr.Evaluation
import MessageExpr.Proofs.Expression.Rescanning

/-!
# Words, quotations and texts in brackets

A word has no space, no quote and no bracket; a quotation is a text without quotes between two of
them. Each of the two stands alone as a component. So does a text between brackets if the text is
neutral: read inside brackets it leaves open what it finds open and nothing else (`Neutral`). Words,
spaces, quotations and neutral texts in brackets are neutral, and so are neutral texts one after the
other.

Words and quotations also keep their kind as tokens: a word that does not end in a colon is no
keyword, and neither of them is a text in brackets.
-/

set_option autoImplicit false

namespace MessageExpr

open OpenComponent

/-! ## Characters that only extend a component -/

namespace OpenComponent

/-- The state in a quoted text outside brackets. -/
def quoted (text : String) : OpenComponent := ⟨text, true, false, 0, false⟩

/-- The state in a bracket region. -/
def bracketed (level : Nat) (text : String) : OpenComponent := ⟨text, false, true, level, false⟩

/-- The state in a quoted text within a bracket region. -/
def bracketedQuoted (level : Nat) (text : String) : OpenComponent :=
  ⟨text, false, true, level, true⟩

/-- Characters that change no flag are added to the text. -/
theorem read_of_extending (state : String → OpenComponent) {characters : List Char}
    (extending : ∀ character ∈ characters, ∀ text,
      (state text).step character = (state (text.push character), none))
    (text : String) :
    (state text).read characters = ([], state (text ++ String.ofList characters)) := by
  induction characters generalizing text with
  | nil => simp [read]
  | cons character rest ih =>
      have more := ih (fun next member => extending next (List.mem_cons_of_mem _ member))
      have joined : text.push character ++ String.ofList rest =
          text ++ String.ofList (character :: rest) := by
        rw [← String.toList_inj]
        simp
      simp only [read, extending character List.mem_cons_self, more, joined]
      rfl

variable {character : Char}

theorem step_plain (notSpace : character ≠ ' ') (notQuote : character ≠ '"')
    (notBracket : character ≠ '[') (text : String) :
    (plain text).step character = (plain (text.push character), none) := by
  simp [step, plain, fresh, push, notSpace, notQuote, notBracket]

theorem step_quoted (notQuote : character ≠ '"') (text : String) :
    (quoted text).step character = (quoted (text.push character), none) := by
  by_cases bracket : character = '['
  · simp [step, quoted, push, bracket]
  · simp [step, quoted, push, expectsSpace, notQuote, bracket]

theorem step_bracketed (notQuote : character ≠ '"') (notOpen : character ≠ '[')
    (notClose : character ≠ ']') (level : Nat) (text : String) :
    (bracketed level text).step character = (bracketed level (text.push character), none) := by
  simp [step, bracketed, push, expectsSpace, notQuote, notOpen, notClose]

theorem step_bracketedQuoted (notQuote : character ≠ '"') (level : Nat) (text : String) :
    (bracketedQuoted level text).step character =
      (bracketedQuoted level (text.push character), none) := by
  by_cases bracket : character = '['
  · simp [step, bracketedQuoted, push, bracket]
  · simp [step, bracketedQuoted, push, expectsSpace, notQuote, bracket]

end OpenComponent

/-! ## Neutral texts -/

/-- A text that leaves the brackets around it as they are. -/
def Neutral (text : String) : Prop :=
  ∀ before level, 0 < level →
    (bracketed level before).read text.toList = ([], bracketed level (before ++ text))

namespace Neutral

theorem append {first second : String} (firstNeutral : Neutral first)
    (secondNeutral : Neutral second) : Neutral (first ++ second) := by
  intro before level positive
  rw [String.toList_append, read_append_of_silent (firstNeutral before level positive),
    secondNeutral _ level positive, String.append_assoc]

/-- A text without quotes and brackets is neutral. -/
theorem of_unbracketed {text : String}
    (unbracketed : ∀ character ∈ text.toList,
      character ≠ '"' ∧ character ≠ '[' ∧ character ≠ ']') : Neutral text := by
  intro before level _
  rw [read_of_extending (bracketed level) fun character member extended => ?_, String.ofList_toList]
  obtain ⟨notQuote, notOpen, notClose⟩ := unbracketed character member
  exact step_bracketed notQuote notOpen notClose level extended

theorem space : Neutral " " := by
  refine of_unbracketed fun character member => ?_
  cases List.mem_singleton.mp (show character ∈ [' '] from member)
  decide

/-- A neutral text between brackets is neutral: one more bracket is open inside it. -/
theorem inBrackets {text : String} (neutral : Neutral text) : Neutral ("[" ++ text ++ "]") := by
  intro before level positive
  have characters : ("[" ++ text ++ "]").toList = '[' :: (text.toList ++ [']']) := by simp
  have opens : (bracketed level before).step '[' =
      (bracketed (level + 1) (before.push '['), none) := by
    simp [OpenComponent.step, bracketed, OpenComponent.push]
  have closes : (bracketed (level + 1) (before.push '[' ++ text)).step ']' =
      (bracketed level ((before.push '[' ++ text).push ']'), none) := by
    have stillOpen : level ≠ 0 := Nat.ne_of_gt positive
    simp [OpenComponent.step, bracketed, OpenComponent.push, stepClose, stillOpen]
  have joined : (before.push '[' ++ text).push ']' = before ++ ("[" ++ text ++ "]") := by
    rw [← String.toList_inj]
    simp
  rw [characters]
  simp only [OpenComponent.read, opens]
  rw [read_append_of_silent (neutral _ (level + 1) (Nat.succ_pos level)), read_singleton, closes,
    joined]
  rfl

/-- **A neutral text between brackets stands alone.** -/
theorem standsAlone {text : String} (neutral : Neutral text) :
    StandsAlone ("[" ++ text ++ "]") := by
  refine .of_closed ?_
  have characters : ("[" ++ text ++ "]").toList = '[' :: (text.toList ++ [']']) := by simp
  have opens : fresh.step '[' = (bracketed 1 "[", none) := by decide
  have closes : (bracketed 1 ("[" ++ text)).step ']' = (fresh, some ("[" ++ text ++ "]")) := by
    have joined : ("[" ++ text).push ']' = "[" ++ text ++ "]" := by
      rw [← String.toList_inj]
      simp
    simp [OpenComponent.step, bracketed, OpenComponent.push, stepClose, complete, joined, fresh]
  rw [characters]
  simp only [OpenComponent.read, opens]
  rw [read_append_of_silent (neutral "[" 1 Nat.one_pos), read_singleton, closes]
  rfl

end Neutral

/-- A component that stands alone and is neutral inside brackets. -/
structure WellBracketed (component : String) : Prop where
  standsAlone : StandsAlone component
  neutral : Neutral component

theorem Neutral.wellBracketed {text : String} (neutral : Neutral text) :
    WellBracketed ("[" ++ text ++ "]") := ⟨neutral.standsAlone, neutral.inBrackets⟩

/-- Well-bracketed components with spaces between them are neutral. -/
theorem neutral_intercalate {components : List String} (nonempty : components ≠ [])
    (wellBracketed : ∀ component ∈ components, WellBracketed component) :
    Neutral (" ".intercalate components) := by
  induction components with
  | nil => exact absurd rfl nonempty
  | cons component rest ih =>
      have here : Neutral component := (wellBracketed component List.mem_cons_self).neutral
      cases rest with
      | nil => simpa using here
      | cons next more =>
          rw [String.intercalate_cons_cons]
          exact (here.append .space).append
            (ih (List.cons_ne_nil _ _) fun other member =>
              wellBracketed other (List.mem_cons_of_mem _ member))

/-- Components that stand alone are those of the text that joins them with spaces. -/
theorem componentsOf_intercalate {components : List String}
    (wellBracketed : ∀ component ∈ components, WellBracketed component) :
    componentsOf (" ".intercalate components) = components := by
  refine Separable.componentsOf_intercalate ?_
  induction components with
  | nil => exact .nil
  | cons component rest ih =>
      exact .cons (wellBracketed component List.mem_cons_self).standsAlone
        (ih fun other member => wellBracketed other (List.mem_cons_of_mem _ member))

/-! ## Enclosed texts -/

namespace Literal

theorem between?_enclosed (first last : Char) (inner : List Char) :
    between? first last (first :: (inner ++ [last])) = some inner :=
  between?_eq_some_iff.mpr rfl

theorem between?_eq_none {first last : Char} {characters : List Char}
    (other : characters.head? ≠ some first) : between? first last characters = none := by
  cases characters with
  | nil => rfl
  | cons character rest =>
      have notFirst : character ≠ first := by simpa using other
      simp [between?, notFirst]

end Literal

theorem bracketInner?_brackets (text : String) :
    Token.bracketInner? ("[" ++ text ++ "]") = some text := by
  have characters : ("[" ++ text ++ "]").toList = '[' :: (text.toList ++ [']']) := by simp
  rw [Token.bracketInner?, characters, Literal.between?_enclosed, Option.map_some,
    String.ofList_toList]

/-- A text that ends in another character than a colon is no keyword. -/
theorem isKeyword_eq_false {text : String} {before : List Char} {last : Char}
    (ends : text.toList = before ++ [last]) (other : last ≠ ':') :
    Token.isKeyword text = false := by
  simpa [Token.isKeyword, ends] using other

theorem isKeyword_brackets (text : String) : Token.isKeyword ("[" ++ text ++ "]") = false :=
  isKeyword_eq_false String.toList_append (by decide)

/-! ## Words -/

/-- A text without spaces, quotes and opening brackets stands alone, if it is not empty. -/
theorem standsAlone_of_plain {text : String} (nonempty : text ≠ "")
    (unmarked : ∀ character ∈ text.toList,
      character ≠ ' ' ∧ character ≠ '"' ∧ character ≠ '[') : StandsAlone text := by
  refine .of_open nonempty ?_
  have extending : ∀ character ∈ text.toList, ∀ before,
      (plain before).step character = (plain (before.push character), none) := by
    intro character member before
    obtain ⟨notSpace, notQuote, notBracket⟩ := unmarked character member
    exact step_plain notSpace notQuote notBracket before
  have reads := read_of_extending plain extending ""
  rwa [String.ofList_toList, String.empty_append] at reads

/-- A text with at least one character and without spaces, quotes and brackets. -/
structure Word where
  text : String
  nonempty : text ≠ ""
  unmarked : ∀ character ∈ text.toList,
    character ≠ ' ' ∧ character ≠ '"' ∧ character ≠ '[' ∧ character ≠ ']'

namespace Word

variable (word : Word)

theorem standsAlone : StandsAlone word.text := by
  refine standsAlone_of_plain word.nonempty fun character member => ?_
  obtain ⟨notSpace, notQuote, notBracket, _⟩ := word.unmarked character member
  exact ⟨notSpace, notQuote, notBracket⟩

theorem neutral : Neutral word.text :=
  .of_unbracketed fun character member => (word.unmarked character member).2

theorem wellBracketed : WellBracketed word.text := ⟨word.standsAlone, word.neutral⟩

/-- A word does not start with a quote or a bracket. -/
theorem head?_ne {mark : Char} (marks : mark = '"' ∨ mark = '[') :
    word.text.toList.head? ≠ some mark := by
  intro starts
  obtain ⟨_, notQuote, notBracket, _⟩ := word.unmarked mark (List.mem_of_mem_head? starts)
  rcases marks with quote | bracket
  · exact notQuote quote
  · exact notBracket bracket

theorem bracketInner?_eq_none : Token.bracketInner? word.text = none := by
  rw [Token.bracketInner?, Literal.between?_eq_none (word.head?_ne (.inr rfl)), Option.map_none]

/-- As an argument a word writes itself. -/
theorem flatArgument_text : flatArgument word.text = .string word.text := by
  rw [flatArgument, Literal.unquote?, Literal.between?_eq_none (word.head?_ne (.inl rfl))]
  rfl

end Word

/-- A word that does not end in a colon. -/
structure Name extends Word where
  notKeyword : text.toList.getLast? ≠ some ':'

theorem Name.isKeyword_text (name : Name) : Token.isKeyword name.text = false := by
  simpa [Token.isKeyword] using name.notKeyword

/-- A word that ends in a colon. -/
structure Keyword extends Word where
  colon : text.toList.getLast? = some ':'

theorem Keyword.isKeyword_text (keyword : Keyword) : Token.isKeyword keyword.text = true := by
  simpa [Token.isKeyword] using keyword.colon

/-! ## Quotations -/

/-- A text that can stand between quotes. -/
structure Quotation where
  content : String
  unquoted : ∀ character ∈ content.toList, character ≠ '"'

namespace Quotation

variable (quotation : Quotation)

/-- The text with its quotes. -/
def text : String := "\"" ++ quotation.content ++ "\""

theorem toList_text : quotation.text.toList = '"' :: (quotation.content.toList ++ ['"']) := by
  simp [text]

theorem push_content (before : String) :
    ((before.push '"') ++ quotation.content).push '"' = before ++ quotation.text := by
  rw [← String.toList_inj]
  simp [text]

/-- The quote at the end of a quotation completes it. -/
theorem standsAlone : StandsAlone quotation.text := by
  refine .of_closed ?_
  have opens : fresh.step '"' = (quoted "\"", none) := by decide
  have inside := read_of_extending quoted
    (fun character member => step_quoted (quotation.unquoted character member)) "\""
  have closes : (quoted ("\"" ++ quotation.content)).step '"' = (fresh, some quotation.text) := by
    have joined : (quoted ("\"" ++ quotation.content)).push '"' = quoted quotation.text := by
      rw [OpenComponent.push, quoted, quoted, OpenComponent.mk.injEq, ← String.toList_inj]
      simp [text]
    have whole : (quoted quotation.text).holdsCompleteQuote = true := by
      simp [holdsCompleteQuote, quoted, toList_text]
    have nonempty : quotation.text ≠ "" := by simp [text]
    have isQuote : (quoted ("\"" ++ quotation.content)).step '"' =
        stepQuote (quoted ("\"" ++ quotation.content)) := rfl
    have inQuote : (quoted ("\"" ++ quotation.content)).inQuote = true := rfl
    simp only [isQuote, stepQuote, joined, inQuote, whole, Bool.and_self, if_true]
    exact complete_of_ne_empty _ nonempty
  rw [String.ofList_toList] at inside
  rw [quotation.toList_text]
  simp only [OpenComponent.read, opens]
  rw [read_append_of_silent inside, read_singleton, closes]
  rfl

theorem neutral : Neutral quotation.text := by
  intro before level _
  have opens : (bracketed level before).step '"' =
      (bracketedQuoted level (before.push '"'), none) := by
    simp [OpenComponent.step, bracketed, bracketedQuoted, OpenComponent.push]
  have inside := read_of_extending (bracketedQuoted level)
    (fun character member => step_bracketedQuoted (quotation.unquoted character member) level)
    (before.push '"')
  have closes : (bracketedQuoted level (before.push '"' ++ quotation.content)).step '"' =
      (bracketed level (before ++ quotation.text), none) := by
    rw [← quotation.push_content]
    simp [OpenComponent.step, bracketed, bracketedQuoted, OpenComponent.push]
  rw [String.ofList_toList] at inside
  rw [quotation.toList_text]
  simp only [OpenComponent.read, opens]
  rw [read_append_of_silent inside, read_singleton, closes]
  rfl

theorem wellBracketed : WellBracketed quotation.text :=
  ⟨quotation.standsAlone, quotation.neutral⟩

theorem bracketInner?_eq_none : Token.bracketInner? quotation.text = none := by
  have starts : quotation.text.toList.head? ≠ some '[' := by simp [toList_text]
  rw [Token.bracketInner?, Literal.between?_eq_none starts, Option.map_none]

theorem isKeyword_text : Token.isKeyword quotation.text = false :=
  isKeyword_eq_false String.toList_append (by decide)

theorem unquote?_text : Literal.unquote? quotation.text = some quotation.content := by
  rw [Literal.unquote?, toList_text, Literal.between?_enclosed, Option.map_some,
    String.ofList_toList]

/-- As an argument a quotation writes its content. -/
theorem flatArgument_text : flatArgument quotation.text = .string quotation.content := by
  rw [flatArgument, unquote?_text, Option.getD_some]

end Quotation

end MessageExpr
