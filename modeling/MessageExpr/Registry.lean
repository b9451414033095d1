import MessageExpr.Message.Vocabulary
import MessageExpr.Text.Basic

/-!
# Registries and aliases

A registry names the values that an expression can start with. It lists its entries in the order in
which their names were first present, so the entry that is found first by any search from the front
is determined. Inserting under a name that is present replaces the value and keeps the place.

The first word of an aliased expression stands for a message to the registered object that
advertises it. Expanding the word puts the object's name and the message in its place. Of several
objects that advertise one word, the first in the registry is meant.
-/

set_option autoImplicit false

namespace MessageExpr

/-- Named values in the order of their names' first appearance. -/
structure Registry where
  /-- The entries in their order. -/
  entries : List (String × Value)
  /-- No name appears twice. -/
  distinct : (entries.map Prod.fst).Nodup

namespace Registry

/-- The registry without entries. -/
def empty : Registry := ⟨[], List.nodup_nil⟩

instance : Inhabited Registry := ⟨empty⟩

/-- Replaces the value of a name in its place, or adds the name at the end. -/
def insertInto (name : String) (value : Value) : List (String × Value) → List (String × Value)
  | [] => [(name, value)]
  | entry :: rest =>
    if entry.1 = name then (name, value) :: rest else entry :: insertInto name value rest

theorem names_insertInto (name : String) (value : Value) (entries : List (String × Value)) :
    (insertInto name value entries).map Prod.fst =
      if name ∈ entries.map Prod.fst then entries.map Prod.fst
      else entries.map Prod.fst ++ [name] := by
  induction entries with
  | nil => simp [insertInto]
  | cons entry rest ih =>
    by_cases same : entry.1 = name
    · simp [insertInto, same]
    · simp only [insertInto, same, if_false, List.map_cons, ih, List.mem_cons, Ne.symm same,
        false_or]
      split <;> simp

theorem insertInto_distinct (name : String) (value : Value) {entries : List (String × Value)}
    (distinct : (entries.map Prod.fst).Nodup) :
    ((insertInto name value entries).map Prod.fst).Nodup := by
  rw [names_insertInto]
  split
  · exact distinct
  · rename_i absent
    refine List.nodup_append.mpr ⟨distinct, by simp, fun left member right single => ?_⟩
    have rightIs : right = name := List.mem_singleton.mp single
    exact fun same => absent (rightIs ▸ same ▸ member)

theorem lookup_insertInto (name sought : String) (value : Value)
    (entries : List (String × Value)) :
    (insertInto name value entries).lookup sought =
      if sought = name then some value else entries.lookup sought := by
  induction entries with
  | nil => simp [insertInto, Dictionary.lookup_cons_entry]
  | cons entry rest ih =>
    simp only [insertInto]
    split
    · rename_i same
      simp only [Dictionary.lookup_cons_entry, same]
      split <;> rfl
    · rename_i other
      simp only [Dictionary.lookup_cons_entry, ih]
      by_cases here : sought = entry.1
      · simp [here, other]
      · simp [here]

/-- Adds an entry, or replaces the value of one. -/
def insert (registry : Registry) (name : String) (value : Value) : Registry :=
  ⟨insertInto name value registry.entries, insertInto_distinct name value registry.distinct⟩

/-- Inserts several entries, one after the other. -/
def insertAll (registry : Registry) (entries : List (String × Value)) : Registry :=
  entries.foldl (fun result entry => result.insert entry.1 entry.2) registry

/-- One registry over another: where both have a name, the value of the upper one stays. -/
def overlay (lower upper : Registry) : Registry := lower.insertAll upper.entries

/-- The value of a name. -/
def get? (registry : Registry) (name : String) : Option Value := registry.entries.lookup name

theorem get?_insert (registry : Registry) (name sought : String) (value : Value) :
    (registry.insert name value).get? sought =
      if sought = name then some value else registry.get? sought :=
  lookup_insertInto name sought value registry.entries

/-- Whether a name is present. -/
def contains (registry : Registry) (name : String) : Bool := (registry.get? name).isSome

/-- How many entries there are. -/
def size (registry : Registry) : Nat := registry.entries.length

/-- Whether there are no entries. -/
def isEmpty (registry : Registry) : Bool := registry.entries.isEmpty

/-- The registry of one value for each of five types; `now` is that of the date. -/
def standard (now : Instant) : Registry :=
  empty.insertAll
    [("Bool", .bool true), ("Date", .date now), ("Int", .int 0), ("Double", .double (.ofInt 0)),
      ("String", .string "")]

/-- The standard registry with further entries. -/
def ofList (now : Instant) (entries : List (String × Value)) : Registry :=
  (standard now).insertAll entries

end Registry

/-! ## Aliases -/

namespace Alias

/-- The first word of an expression and what follows the one blank behind it. -/
def splitWord (expression : String) : String × String :=
  let characters := expression.toList.dropWhile Text.isBlank
  let word := characters.takeWhile fun character => !Text.isBlank character
  (String.ofList word, String.ofList (characters.drop (word.length + 1)))

/-- The name of the first entry that advertises a word, and the message that the word is short
for. -/
def find? (word : String) : List (String × Value) → Option (String × String)
  | [] => none
  | (name, value) :: rest =>
    match value.aliases.get? word with
    | some target => some (name, target)
    | none => find? word rest

/-- Replaces the first word of an expression by what it stands for. -/
def expand (registry : Registry) (expression : String) : Except Failure String :=
  let (word, tail) := splitWord expression
  if word.isEmpty then .error .unexpected
  else
    match find? word registry.entries with
    | none => .error (.unrecognisedAlias word)
    | some (name, target) =>
      .ok (name ++ " " ++ target ++ if tail.isEmpty then "" else " " ++ tail)

end Alias

end MessageExpr
