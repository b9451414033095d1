/-!
# Dictionaries

A dictionary holds values under texts and lists them in ascending order of the texts, compared by
code points. Each text stands for one value: putting a value under a text that is there replaces
the old value.

Looking up after an insertion is described by `get?_insert`, and the keys are in strict order by the
type's own field.
-/

set_option autoImplicit false

namespace MessageExpr

/-- Values under texts, in ascending order of the texts. -/
structure Dictionary (Item : Type) where
  /-- The entries in their order. -/
  entries : List (String × Item)
  /-- The keys ascend strictly. -/
  ascending : entries.Pairwise fun left right => left.1 < right.1

namespace Dictionary

variable {Item : Type}

/-- The dictionary without entries. -/
def empty : Dictionary Item := ⟨[], List.Pairwise.nil⟩

instance : Inhabited (Dictionary Item) := ⟨empty⟩

/-- Puts an item at its place in an ascending list. -/
def insertInto (key : String) (item : Item) : List (String × Item) → List (String × Item)
  | [] => [(key, item)]
  | entry :: rest =>
    if key < entry.1 then (key, item) :: entry :: rest
    else if key = entry.1 then (key, item) :: rest
    else entry :: insertInto key item rest

theorem key_of_mem_insertInto {key : String} {item : Item} {entry : String × Item}
    {entries : List (String × Item)} (member : entry ∈ insertInto key item entries) :
    entry.1 = key ∨ entry ∈ entries := by
  induction entries with
  | nil => simp_all [insertInto]
  | cons first rest ih =>
    simp only [insertInto] at member
    split at member
    · grind
    · split at member <;> grind

theorem insertInto_ascending (key : String) (item : Item) {entries : List (String × Item)}
    (ascending : entries.Pairwise fun left right => left.1 < right.1) :
    (insertInto key item entries).Pairwise fun left right => left.1 < right.1 := by
  induction entries with
  | nil => simp [insertInto]
  | cons first rest ih =>
    obtain ⟨below, restAscending⟩ := List.pairwise_cons.mp ascending
    simp only [insertInto]
    split
    · rename_i keyBelow
      refine List.pairwise_cons.mpr ⟨fun entry member => ?_, ascending⟩
      rcases List.mem_cons.mp member with rfl | inRest
      · exact keyBelow
      · exact String.lt_trans keyBelow (below entry inRest)
    · split
      · rename_i keyEq
        exact List.pairwise_cons.mpr ⟨fun entry member => keyEq ▸ below entry member, restAscending⟩
      · rename_i notBelow notEq
        have keyAbove : first.1 < key := by
          refine Decidable.byContradiction fun notAbove => notEq ?_
          exact String.le_antisymm (String.not_lt.mp notAbove) (String.not_lt.mp notBelow)
        refine List.pairwise_cons.mpr ⟨fun entry member => ?_, ih restAscending⟩
        rcases key_of_mem_insertInto member with keyEq | inRest
        · exact keyEq ▸ keyAbove
        · exact below entry inRest

theorem lookup_cons_entry (sought : String) (entry : String × Item)
    (entries : List (String × Item)) :
    (entry :: entries).lookup sought =
      if sought = entry.1 then some entry.2 else entries.lookup sought := by
  obtain ⟨key, item⟩ := entry
  rw [List.lookup_cons]
  by_cases same : sought = key
  · simp only [same, beq_self_eq_true, if_true]
  · simp only [same, beq_false_of_ne same, if_false]

theorem lookup_insertInto (key sought : String) (item : Item) (entries : List (String × Item)) :
    (insertInto key item entries).lookup sought =
      if sought = key then some item else entries.lookup sought := by
  induction entries with
  | nil => simp [insertInto, lookup_cons_entry]
  | cons first rest ih =>
    simp only [insertInto]
    split
    · exact lookup_cons_entry sought (key, item) (first :: rest)
    · split <;> grind [lookup_cons_entry]

/-- Puts an item under a key; an item already there is replaced. -/
def insert (dictionary : Dictionary Item) (key : String) (item : Item) : Dictionary Item :=
  ⟨insertInto key item dictionary.entries, insertInto_ascending key item dictionary.ascending⟩

/-- Puts several items in, one after the other. -/
def insertAll (dictionary : Dictionary Item) (entries : List (String × Item)) : Dictionary Item :=
  entries.foldl (fun result entry => result.insert entry.1 entry.2) dictionary

/-- The dictionary of a list of entries; of two entries with one key the later stays. -/
def ofList (entries : List (String × Item)) : Dictionary Item := empty.insertAll entries

/-- One dictionary over another: where both have a key, the upper item stays. -/
def overlay (lower upper : Dictionary Item) : Dictionary Item := lower.insertAll upper.entries

/-- The item under a key. -/
def get? (dictionary : Dictionary Item) (key : String) : Option Item :=
  dictionary.entries.lookup key

theorem get?_insert (dictionary : Dictionary Item) (key sought : String) (item : Item) :
    (dictionary.insert key item).get? sought =
      if sought = key then some item else dictionary.get? sought :=
  lookup_insertInto key sought item dictionary.entries

/-- The keys in ascending order. -/
def keys (dictionary : Dictionary Item) : List String := dictionary.entries.map Prod.fst

/-- The items in ascending order of their keys. -/
def items (dictionary : Dictionary Item) : List Item := dictionary.entries.map Prod.snd

/-- The dictionary with each item changed, under the same keys. -/
def mapItems {Other : Type} (change : Item → Other) (dictionary : Dictionary Item) :
    Dictionary Other :=
  ⟨dictionary.entries.map fun entry => (entry.1, change entry.2),
    dictionary.ascending.map _ fun _ _ less => less⟩

end Dictionary

end MessageExpr
