import MessageExpr.Proofs.Text.Basic
import MessageExpr.Proofs.Value.Literal
import MessageExpr.Proofs.Value.Equality

/-!
# Collections and their texts

Inside a collection, texts are quoted, so the text of a member ends where a comma or the closing
bracket follows it. Members that are made of the missing value, the placeholder, truth values, whole
numbers, texts and further collections of such members (`Value.Discrete`) can therefore be read off
the text of a collection in only one way (`Discrete.determined`).

The induction is on the first of two values with one text. The text that follows is arbitrary but
for its first character, so the statement for the members of a list gives that for the list.
-/

set_option autoImplicit false

namespace MessageExpr.Value

/-! ## Discrete values -/

/-- A value with one word as its text. -/
inductive Atom : Value → Prop where
  | null : Atom .null
  | any : Atom .any
  | bool (truth : Bool) : Atom (.bool truth)
  | int (integer : Int64) : Atom (.int integer)

/-- A value without binary64 numbers, dates and host objects at any depth. -/
inductive Discrete : Value → Prop where
  | atom {value : Value} (isAtom : Atom value) : Discrete value
  | string (text : String) : Discrete (.string text)
  | array {elements : List Value} (all : ∀ element ∈ elements, Discrete element) :
      Discrete (.array elements)
  | map {entries : List (String × Value)} (all : ∀ entry ∈ entries, Discrete entry.2) :
      Discrete (.map entries)

/-- An array or a map. -/
def IsCollection (value : Value) : Prop :=
  (∃ elements, value = .array elements) ∨ ∃ entries, value = .map entries

/-! ## Atoms -/

/-- The characters of a value inside a collection. -/
def nested (value : Value) : List Char := (value.textWithin true).toList

/-- Reads the text of an atom back. -/
def ofAtomText? (text : List Char) : Option Value :=
  if text = ['n', 'i', 'l'] then some .null
  else if text = ['A', 'n', 'y'] then some .any
  else if text = ['t', 'r', 'u', 'e'] then some (.bool true)
  else if text = ['f', 'a', 'l', 's', 'e'] then some (.bool false)
  else Literal.read? (String.ofList text)

theorem Atom.ofAtomText?_nested {value : Value} (isAtom : Atom value) :
    ofAtomText? (nested value) = some value := by
  cases isAtom with
  | null => rfl
  | any => rfl
  | bool truth => cases truth <;> rfl
  | int integer =>
      -- No letter is in the text of a number.
      have noWord : ∀ letter rest, letter.isDigit = false → letter ≠ '-' →
          nested (.int integer) ≠ letter :: rest := by
        intro letter rest notDigit notMinus same
        have member : letter ∈ nested (.int integer) := same ▸ List.mem_cons_self
        rcases Decimal.mem_toString_integer member with isDigit | isMinus
        · exact absurd (isDigit.symm.trans notDigit) (by decide)
        · exact notMinus isMinus
      rw [ofAtomText?, if_neg (noWord _ _ (by decide) (by decide)),
        if_neg (noWord _ _ (by decide) (by decide)), if_neg (noWord _ _ (by decide) (by decide)),
        if_neg (noWord _ _ (by decide) (by decide)), nested, String.ofList_toList]
      exact read?_display_int integer

/-- Whether a character is a letter, a digit or the minus sign of a number. -/
def isAtomCharacter (character : Char) : Bool := character.isAlphanum || character = '-'

theorem Atom.isAtomCharacter_of_mem {value : Value} (isAtom : Atom value) :
    ∀ character ∈ nested value, isAtomCharacter character = true := by
  cases isAtom with
  | null => exact List.all_eq_true.mp rfl
  | any => exact List.all_eq_true.mp rfl
  | bool truth => cases truth <;> exact List.all_eq_true.mp rfl
  | int integer =>
      intro character member
      rcases Decimal.mem_toString_integer member with isDigit | isMinus
      · simp [isAtomCharacter, Char.isAlphanum, isDigit]
      · simp [isAtomCharacter, isMinus]

theorem Atom.nested_ne_nil {value : Value} (isAtom : Atom value) : nested value ≠ [] := by
  intro empty
  have read := isAtom.ofAtomText?_nested
  rw [empty] at read
  cases read

/-! ## Members -/

/-- A comma or a closing bracket follows. -/
def Delimited (rest : List Char) : Prop :=
  ∃ delimiter ∈ rest.head?, delimiter = ',' ∨ delimiter = ']'

theorem Delimited.stopsAt {rest : List Char} (delimited : Delimited rest) :
    Text.StopsAt isAtomCharacter rest := by
  obtain ⟨delimiter, first, isDelimiter⟩ := delimited
  intro character alsoFirst
  obtain rfl : delimiter = character := Option.some.inj (first.symm.trans alsoFirst)
  rcases isDelimiter with rfl | rfl <;> decide

/-- Two members with the same text before a delimiter are the same, and so is what follows. -/
def Determined {Member : Type} (text : Member → List Char) (member other : Member) : Prop :=
  ∀ rest others, Delimited rest → Delimited others →
    text member ++ rest = text other ++ others → member = other ∧ rest = others

/-- The characters of members behind the first one. -/
def following {Member : Type} (text : Member → List Char) (members : List Member) : List Char :=
  members.flatMap fun member => ',' :: ' ' :: text member

/-- The characters of members up to the closing bracket, and what follows it. -/
def closed {Member : Type} (text : Member → List Char) (rest : List Char) : List Member → List Char
  | [] => ']' :: rest
  | member :: members => text member ++ (following text members ++ ']' :: rest)

section Members

variable {Member : Type} {text : Member → List Char} {first second : List Member}
  {rest others : List Char}

theorem delimited_following (members : List Member) :
    Delimited (following text members ++ ']' :: rest) := by
  cases members with
  | nil => exact ⟨']', rfl, .inr rfl⟩
  | cons member more => exact ⟨',', rfl, .inl rfl⟩

variable (determined : ∀ member ∈ first, ∀ other ∈ second, Determined text member other)
include determined

theorem following_inj
    (same : following text first ++ ']' :: rest = following text second ++ ']' :: others) :
    first = second ∧ rest = others := by
  induction first generalizing second with
  | nil =>
      cases second with
      | nil => exact ⟨rfl, (List.cons.inj same).2⟩
      | cons other more => exact absurd (List.cons.inj same).1 (by decide)
  | cons member members ih =>
      cases second with
      | nil => exact absurd (List.cons.inj same).1 (by decide)
      | cons other more =>
          simp only [following, List.flatMap_cons, List.cons_append, List.append_assoc,
            List.cons.injEq, true_and] at same
          obtain ⟨rfl, behind⟩ := determined member List.mem_cons_self other List.mem_cons_self
            _ _ (delimited_following members) (delimited_following more) same
          have restDetermined : ∀ one ∈ members, ∀ another ∈ more, Determined text one another :=
            fun one isOne another isAnother =>
              determined one (List.mem_cons_of_mem _ isOne) another (List.mem_cons_of_mem _ isAnother)
          obtain ⟨rfl, left⟩ := ih restDetermined behind
          exact ⟨rfl, left⟩

/-- **The text of a collection determines its members if it determines each of them.** -/
theorem closed_inj
    (notClosing : ∀ member, member ∈ first ∨ member ∈ second → ∀ more left,
      text member ++ more ≠ ']' :: left)
    (same : closed text rest first = closed text others second) :
    first = second ∧ rest = others := by
  cases first with
  | nil =>
      cases second with
      | nil => exact ⟨rfl, (List.cons.inj same).2⟩
      | cons other more => exact absurd same.symm (notClosing other (.inr List.mem_cons_self) _ _)
  | cons member members =>
      cases second with
      | nil => exact absurd same (notClosing member (.inl List.mem_cons_self) _ _)
      | cons other more =>
          refine following_inj determined ?_
          simpa [following, closed] using same

end Members

/-! ## The text of a collection -/

/-- The characters of a map's entry. -/
def nestedEntry (entry : String × Value) : List Char :=
  (Text.quoted entry.1).toList ++ ':' :: ' ' :: nested entry.2

theorem toList_intercalate (text : String) (texts : List String) :
    (", ".intercalate (text :: texts)).toList = text.toList ++ following String.toList texts := by
  induction texts generalizing text with
  | nil => simp [following]
  | cons next rest ih =>
      rw [String.intercalate_cons_cons, String.toList_append, String.toList_append, ih]
      simp [following]

theorem nested_array (elements : List Value) (rest : List Char) :
    nested (.array elements) ++ rest = '[' :: closed nested rest elements := by
  cases elements with
  | nil => rfl
  | cons element more =>
      rw [nested, textWithin, elementTexts_eq_map, List.map_cons, String.toList_append,
        String.toList_append, toList_intercalate]
      simp [closed, following, nested, List.flatMap_map]

theorem nested_map_cons (entry : String × Value) (entries : List (String × Value))
    (rest : List Char) :
    nested (.map (entry :: entries)) ++ rest =
      '[' :: closed nestedEntry rest (entry :: entries) := by
  rw [nested, textWithin, entryTexts_eq_map, List.map_cons, String.toList_append,
    String.toList_append, toList_intercalate]
  simp [closed, following, nestedEntry, nested, List.flatMap_map]

/-! ## First characters -/

/-- The character that tells a text or a collection from an atom. -/
def mark? (character : Char) : Option Char :=
  if character = '"' ∨ character = '[' then some character else none

/-- The mark in front of the text of a value. -/
def mark : Value → Option Char
  | .string _ => some '"'
  | .array _ => some '['
  | .map _ => some '['
  | _ => none

theorem Atom.mark_eq_none {value : Value} (isAtom : Atom value) : value.mark = none := by
  cases isAtom <;> rfl

theorem nested_string (text : String) (rest : List Char) :
    nested (.string text) ++ rest = (Text.quoted text).toList ++ rest := rfl

theorem Discrete.head {value : Value} (discrete : Discrete value) (rest : List Char) :
    ∃ first more, nested value ++ rest = first :: more ∧ first ≠ ']' ∧ first ≠ ':' ∧
      mark? first = value.mark := by
  cases discrete with
  | atom isAtom =>
      obtain ⟨first, more, characters⟩ := List.exists_cons_of_ne_nil isAtom.nested_ne_nil
      have atomic : isAtomCharacter first = true :=
        isAtom.isAtomCharacter_of_mem first (characters ▸ List.mem_cons_self)
      have unmarked : mark? first = none := by
        refine if_neg ?_
        rintro (rfl | rfl) <;> exact absurd atomic (by decide)
      rw [characters, isAtom.mark_eq_none]
      refine ⟨first, more ++ rest, rfl, ?_, ?_, unmarked⟩
      · rintro rfl
        exact absurd atomic (by decide)
      · rintro rfl
        exact absurd atomic (by decide)
  | string text =>
      rw [nested_string, Text.toList_quoted]
      exact ⟨'"', _, rfl, by decide, by decide, rfl⟩
  | array =>
      rw [nested_array]
      exact ⟨'[', _, rfl, by decide, by decide, rfl⟩
  | @map entries =>
      cases entries with
      | nil => exact ⟨'[', _, rfl, by decide, by decide, rfl⟩
      | cons entry more =>
          rw [nested_map_cons]
          exact ⟨'[', _, rfl, by decide, by decide, rfl⟩

/-- Two discrete values with the same text have the same mark. -/
theorem Discrete.mark_eq {first second : Value} (firstDiscrete : Discrete first)
    (secondDiscrete : Discrete second) {rest others : List Char}
    (same : nested first ++ rest = nested second ++ others) : first.mark = second.mark := by
  obtain ⟨start, more, firstText, -, -, firstMark⟩ := firstDiscrete.head rest
  obtain ⟨other, further, secondText, -, -, secondMark⟩ := secondDiscrete.head others
  rw [firstText, secondText] at same
  rw [← firstMark, ← secondMark, (List.cons.inj same).1]

/-- An array and a map have different texts. -/
theorem nested_array_ne_map {elements : List Value} {entries : List (String × Value)}
    (discrete : ∀ element ∈ elements, Discrete element) (rest others : List Char) :
    nested (.array elements) ++ rest ≠ nested (.map entries) ++ others := by
  intro same
  rw [nested_array] at same
  cases entries with
  | nil =>
      have inside : closed nested rest elements = ':' :: ']' :: others := (List.cons.inj same).2
      cases elements with
      | nil => exact absurd (List.cons.inj inside).1 (by decide)
      | cons element more =>
          obtain ⟨start, _, text, -, notColon, -⟩ := (discrete element List.mem_cons_self).head
            (following nested more ++ ']' :: rest)
          rw [closed, text] at inside
          exact notColon (List.cons.inj inside).1
  | cons entry further =>
      rw [nested_map_cons] at same
      have inside := (List.cons.inj same).2
      simp only [closed, nestedEntry, List.append_assoc, List.cons_append] at inside
      cases elements with
      | nil =>
          rw [Text.toList_quoted] at inside
          exact absurd (List.cons.inj inside).1 (by decide)
      | cons element more =>
          -- Only a text starts like a key, and behind it stands no colon.
          have discreteElement := discrete element List.mem_cons_self
          have marked : element.mark = some '"' := discreteElement.mark_eq (.string entry.1) inside
          obtain ⟨text, rfl⟩ : ∃ text, element = .string text := by
            cases element with
            | string text => exact ⟨text, rfl⟩
            | _ => simp [mark] at marked
          obtain ⟨-, behind⟩ := Text.quoted_append_inj inside
          have delimited : Delimited (following nested more ++ ']' :: rest) :=
            delimited_following more
          obtain ⟨delimiter, first, isDelimiter⟩ := delimited
          rw [behind] at first
          cases first
          exact absurd isDelimiter (by decide)

/-! ## Unique reading -/

theorem Atom.determined {first second : Value} (firstAtom : Atom first) (secondAtom : Atom second) :
    Determined nested first second := by
  intro rest others delimited alsoDelimited same
  obtain ⟨text, left⟩ := Text.span_inj firstAtom.isAtomCharacter_of_mem delimited.stopsAt
    secondAtom.isAtomCharacter_of_mem alsoDelimited.stopsAt same
  have read := congrArg ofAtomText? text
  rw [firstAtom.ofAtomText?_nested, secondAtom.ofAtomText?_nested] at read
  exact ⟨Option.some.inj read, left⟩

/-- A map's entry is determined by its text if its value is. -/
theorem determined_nestedEntry {first second : String × Value}
    (determined : Determined nested first.2 second.2) : Determined nestedEntry first second := by
  intro rest others delimited alsoDelimited same
  simp only [nestedEntry, List.append_assoc, List.cons_append] at same
  obtain ⟨key, behind⟩ := Text.quoted_append_inj same
  simp only [List.cons.injEq, true_and] at behind
  obtain ⟨value, left⟩ := determined rest others delimited alsoDelimited behind
  exact ⟨Prod.ext key value, left⟩

theorem nestedEntry_ne_closing (entry : String × Value) (more left : List Char) :
    nestedEntry entry ++ more ≠ ']' :: left := by
  intro same
  rw [nestedEntry, Text.toList_quoted] at same
  exact absurd (List.cons.inj same).1 (by decide)

theorem determined_array {elements otherElements : List Value}
    (all : ∀ element ∈ elements, Discrete element)
    (otherAll : ∀ element ∈ otherElements, Discrete element)
    (determined : ∀ element ∈ elements, ∀ other ∈ otherElements, Determined nested element other) :
    Determined nested (.array elements) (.array otherElements) := by
  intro rest others _ _ same
  rw [nested_array, nested_array] at same
  have notClosing : ∀ element, element ∈ elements ∨ element ∈ otherElements →
      ∀ more left, nested element ++ more ≠ ']' :: left := by
    intro element member more left closing
    have discrete : Discrete element := member.elim (all element) (otherAll element)
    obtain ⟨start, _, text, notBracket, -, -⟩ := discrete.head more
    rw [text] at closing
    exact notBracket (List.cons.inj closing).1
  obtain ⟨rfl, left⟩ := closed_inj determined notClosing (List.cons.inj same).2
  exact ⟨rfl, left⟩

/-- A map without entries has another text than one with entries. -/
theorem nested_map_nil_ne (entry : String × Value) (entries : List (String × Value))
    (rest others : List Char) :
    nested (.map []) ++ rest ≠ nested (.map (entry :: entries)) ++ others := by
  intro same
  rw [nested_map_cons, closed, nestedEntry, Text.toList_quoted] at same
  exact absurd (List.cons.inj (List.cons.inj same).2).1 (by decide)

theorem determined_map {entries otherEntries : List (String × Value)}
    (determined : ∀ entry ∈ entries, ∀ other ∈ otherEntries,
      Determined nested entry.2 other.2) :
    Determined nested (.map entries) (.map otherEntries) := by
  intro rest others _ _ same
  match entries, otherEntries with
  | [], [] => exact ⟨rfl, List.append_cancel_left same⟩
  | [], other :: more => exact absurd same (nested_map_nil_ne other more rest others)
  | entry :: further, [] => exact absurd same.symm (nested_map_nil_ne entry further others rest)
  | entry :: further, other :: more =>
      rw [nested_map_cons, nested_map_cons] at same
      have entriesDetermined : ∀ one ∈ entry :: further, ∀ another ∈ other :: more,
          Determined nestedEntry one another := fun one isOne another isAnother =>
        determined_nestedEntry (determined one isOne another isAnother)
      obtain ⟨same, left⟩ := closed_inj entriesDetermined
        (fun one _ => nestedEntry_ne_closing one) (List.cons.inj same).2
      exact ⟨congrArg Value.map same, left⟩

/-- **Inside a collection, a discrete value is determined by its text.** -/
theorem Discrete.determined {first : Value} (discrete : Discrete first) :
    ∀ {second : Value}, Discrete second → Determined nested first second := by
  induction discrete with
  | atom isAtom =>
      intro second alsoDiscrete rest others delimited alsoDelimited same
      have marks := (Discrete.atom isAtom).mark_eq alsoDiscrete same
      rw [isAtom.mark_eq_none] at marks
      cases alsoDiscrete with
      | atom otherAtom => exact isAtom.determined otherAtom rest others delimited alsoDelimited same
      | string => cases marks
      | array => cases marks
      | map => cases marks
  | string text =>
      intro second alsoDiscrete rest others _ _ same
      have marks := (Discrete.string text).mark_eq alsoDiscrete same
      cases alsoDiscrete with
      | atom otherAtom => cases marks.trans otherAtom.mark_eq_none
      | string other =>
          obtain ⟨rfl, left⟩ := Text.quoted_append_inj same
          exact ⟨rfl, left⟩
      | array => cases marks
      | map => cases marks
  | array all ih =>
      intro second alsoDiscrete rest others delimited alsoDelimited same
      have marks := (Discrete.array all).mark_eq alsoDiscrete same
      cases alsoDiscrete with
      | atom otherAtom => cases marks.trans otherAtom.mark_eq_none
      | string => cases marks
      | array otherAll =>
          exact determined_array all otherAll
            (fun element member other otherMember => ih element member (otherAll other otherMember))
            rest others delimited alsoDelimited same
      | map => exact absurd same (nested_array_ne_map all rest others)
  | map all ih =>
      intro second alsoDiscrete rest others delimited alsoDelimited same
      have marks := (Discrete.map all).mark_eq alsoDiscrete same
      cases alsoDiscrete with
      | atom otherAtom => cases marks.trans otherAtom.mark_eq_none
      | string => cases marks
      | array otherAll => exact absurd same.symm (nested_array_ne_map otherAll others rest)
      | map otherAll =>
          exact determined_map
            (fun entry member other otherMember => ih entry member (otherAll other otherMember))
            rest others delimited alsoDelimited same

/-! ## Equal values -/

/-- There is nothing in a discrete value that differs from itself. -/
theorem Discrete.isEqual_self {value : Value} (discrete : Discrete value) :
    value.isEqual value = true := by
  induction discrete with
  | atom isAtom => cases isAtom <;> simp [isEqual]
  | string text => simp [isEqual]
  | array _ ih => exact areEqual_iff.mpr (List.forall₂_same.mpr ih)
  | map _ ih =>
      exact areEqualEntries_iff.mpr
        (List.forall₂_same.mpr fun entry member => ⟨rfl, ih entry member⟩)

/-- **Two collections of discrete values with the same text are equal.** -/
theorem display_unambiguous {first second : Value} (firstCollection : first.IsCollection)
    (secondCollection : second.IsCollection) (firstDiscrete : first.Discrete)
    (secondDiscrete : second.Discrete) (same : first.display = second.display) :
    first = second ∧ first.isEqual second = true := by
  have asNested : ∀ {value : Value}, value.IsCollection → value.display.toList = value.nested := by
    rintro value (⟨elements, rfl⟩ | ⟨entries, rfl⟩)
    · rfl
    · cases entries <;> rfl
  have text : nested first ++ [']'] = nested second ++ [']'] := by
    rw [← asNested firstCollection, ← asNested secondCollection, same]
  have delimited : Delimited [']'] := ⟨']', rfl, .inr rfl⟩
  obtain ⟨rfl, -⟩ := firstDiscrete.determined secondDiscrete _ _ delimited delimited text
  exact ⟨rfl, firstDiscrete.isEqual_self⟩

/-- A text and a key with the marks of a collection in them. The entries of the second map were put
in the other way round. -/
theorem display_unambiguous_marks :
    let first := Value.array [.string "], [", .ofDictionary (.ofList [("\": \\", .any), ("", .null)])]
    let second := Value.array [.string "], [", .ofDictionary (.ofList [("", .null), ("\": \\", .any)])]
    first.IsCollection ∧ second.IsCollection ∧ first.Discrete ∧ second.Discrete ∧
      first.display = second.display ∧ first = second ∧ first.isEqual second = true := by
  intro first second
  have firstCollection : first.IsCollection := .inl ⟨_, rfl⟩
  have secondCollection : second.IsCollection := .inl ⟨_, rfl⟩
  have entries : Discrete (.map [("", .null), ("\": \\", .any)]) := by
    refine .map ?_
    simp only [List.forall_mem_cons, List.not_mem_nil, false_implies, implies_true, and_true]
    exact ⟨.atom .null, .atom .any⟩
  have discrete : ∀ map : Value, map = .map [("", .null), ("\": \\", .any)] →
      Discrete (.array [.string "], [", map]) := by
    rintro _ rfl
    refine .array ?_
    simp only [List.forall_mem_cons, List.not_mem_nil, false_implies, implies_true, and_true]
    exact ⟨.string "], [", entries⟩
  have firstDiscrete : first.Discrete := discrete _ rfl
  have secondDiscrete : second.Discrete := discrete _ rfl
  have sameText : first.display = second.display := rfl
  exact ⟨firstCollection, secondCollection, firstDiscrete, secondDiscrete, sameText,
    display_unambiguous firstCollection secondCollection firstDiscrete secondDiscrete sameText⟩

end MessageExpr.Value
