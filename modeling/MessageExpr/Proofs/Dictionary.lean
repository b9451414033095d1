import MessageExpr.Dictionary

/-!
# What is in a dictionary

The entries of a dictionary and what is found under its keys say the same (`get?_eq_some_iff`). What
is found in a dictionary that was made of a list is an entry of the list, so it has what all these
entries have (`property_of_get?_ofList`), and the entries of a dictionary make it again
(`ofList_entries`). In a dictionary over another one the items of the upper one
come first (`get?_overlay`), and changing all items can be done before or after
(`mapItems_overlay`).
-/

set_option autoImplicit false

namespace MessageExpr.Dictionary

variable {Item Other : Type}

/-! ## Entries -/

theorem eq_of_entries_eq {first second : Dictionary Item} (same : first.entries = second.entries) :
    first = second := by
  cases first
  cases second
  cases same
  rfl

theorem mem_of_lookup_eq_some {entries : List (String × Item)} {key : String} {item : Item}
    (found : entries.lookup key = some item) : (key, item) ∈ entries := by
  obtain ⟨before, after, rfl, -⟩ := List.lookup_eq_some_iff.mp found
  exact List.mem_append_right before List.mem_cons_self

/-- What is found after several insertions was inserted or was there before. -/
theorem mem_or_of_get?_insertAll {dictionary : Dictionary Item} {entries : List (String × Item)}
    {key : String} {item : Item} (found : (dictionary.insertAll entries).get? key = some item) :
    (key, item) ∈ entries ∨ dictionary.get? key = some item := by
  induction entries generalizing dictionary with
  | nil => exact .inr found
  | cons entry rest ih =>
      rcases ih found with inRest | before
      · exact .inl (List.mem_cons_of_mem _ inRest)
      · rw [get?_insert] at before
        split at before
        · rename_i same
          cases before
          exact .inl (same ▸ List.mem_cons_self)
        · exact .inr before

theorem mem_of_get?_ofList {entries : List (String × Item)} {key : String} {item : Item}
    (found : (ofList entries).get? key = some item) : (key, item) ∈ entries := by
  rcases mem_or_of_get?_insertAll found with member | absent
  · exact member
  · cases absent

/-- What holds of every entry of a list holds of what is found in its dictionary. -/
theorem property_of_get?_ofList (property : String → Item → Prop)
    {entries : List (String × Item)} (all : ∀ entry ∈ entries, property entry.1 entry.2)
    {key : String} {item : Item} (found : (ofList entries).get? key = some item) :
    property key item :=
  all (key, item) (mem_of_get?_ofList found)

theorem get?_insertAll_of_absent {dictionary : Dictionary Item} {entries : List (String × Item)}
    {key : String} (absent : key ∉ entries.map Prod.fst) :
    (dictionary.insertAll entries).get? key = dictionary.get? key := by
  induction entries generalizing dictionary with
  | nil => rfl
  | cons entry rest ih =>
      obtain ⟨otherKey, restAbsent⟩ := not_or.mp (mt List.mem_cons.mpr absent)
      calc (dictionary.insertAll (entry :: rest)).get? key
          = (dictionary.insert entry.1 entry.2).get? key := ih restAbsent
        _ = dictionary.get? key := by rw [get?_insert, if_neg otherKey]

theorem get?_insertAll_of_mem {dictionary : Dictionary Item} {entries : List (String × Item)}
    (distinct : (entries.map Prod.fst).Nodup) {key : String} {item : Item}
    (member : (key, item) ∈ entries) : (dictionary.insertAll entries).get? key = some item := by
  induction entries generalizing dictionary with
  | nil => cases member
  | cons entry rest ih =>
      obtain ⟨absent, restDistinct⟩ := List.nodup_cons.mp distinct
      rcases List.mem_cons.mp member with rfl | inRest
      · calc (dictionary.insertAll ((key, item) :: rest)).get? key
            = (dictionary.insert key item).get? key := get?_insertAll_of_absent absent
          _ = some item := by rw [get?_insert, if_pos rfl]
      · exact ih restDistinct inRest

/-- An entry of a list with distinct keys is found in its dictionary. -/
theorem get?_ofList_of_mem {entries : List (String × Item)}
    (distinct : (entries.map Prod.fst).Nodup) {key : String} {item : Item}
    (member : (key, item) ∈ entries) : (ofList entries).get? key = some item :=
  get?_insertAll_of_mem distinct member

/-- A key that is below all others is found nowhere behind it. -/
theorem lookup_eq_none_of_below {entries : List (String × Item)} {key : String}
    (below : ∀ entry ∈ entries, key < entry.1) : entries.lookup key = none := by
  rw [List.lookup_eq_none_iff]
  intro entry member
  rw [bne_iff_ne]
  rintro rfl
  exact String.lt_irrefl _ (below entry member)

theorem lookup_eq_some_of_mem {entries : List (String × Item)} {key : String} {item : Item}
    (ascending : entries.Pairwise fun left right => left.1 < right.1)
    (member : (key, item) ∈ entries) : entries.lookup key = some item := by
  induction entries with
  | nil => cases member
  | cons entry rest ih =>
      obtain ⟨below, restAscending⟩ := List.pairwise_cons.mp ascending
      rw [lookup_cons_entry]
      rcases List.mem_cons.mp member with rfl | inRest
      · rw [if_pos rfl]
      · have above : entry.1 < key := below _ inRest
        have otherKey : key ≠ entry.1 := by
          rintro rfl
          exact String.lt_irrefl _ above
        rw [if_neg otherKey]
        exact ih restAscending inRest

/-- **An item is found under a key exactly if the two are an entry.** -/
theorem get?_eq_some_iff {dictionary : Dictionary Item} {key : String} {item : Item} :
    dictionary.get? key = some item ↔ (key, item) ∈ dictionary.entries :=
  ⟨mem_of_lookup_eq_some, lookup_eq_some_of_mem dictionary.ascending⟩

/-- An entry whose key is above all others is put behind them. -/
theorem insertInto_of_above {entries : List (String × Item)} {key : String} {item : Item}
    (above : ∀ entry ∈ entries, entry.1 < key) :
    insertInto key item entries = entries ++ [(key, item)] := by
  induction entries with
  | nil => rfl
  | cons entry rest ih =>
      obtain ⟨below, restBelow⟩ := List.forall_mem_cons.mp above
      have notBelow : ¬ key < entry.1 := fun less =>
        String.lt_irrefl _ (String.lt_trans below less)
      have otherKey : key ≠ entry.1 := by
        rintro rfl
        exact String.lt_irrefl _ below
      rw [insertInto, if_neg notBelow, if_neg otherKey, ih restBelow]
      rfl

/-- Entries that go on in ascending order are put in as they are. -/
theorem entries_insertAll_of_ascending (dictionary : Dictionary Item)
    {entries : List (String × Item)}
    (ascending : (dictionary.entries ++ entries).Pairwise fun left right => left.1 < right.1) :
    (dictionary.insertAll entries).entries = dictionary.entries ++ entries := by
  induction entries generalizing dictionary with
  | nil => simp [insertAll]
  | cons entry rest ih =>
      have above : ∀ earlier ∈ dictionary.entries, earlier.1 < entry.1 := fun earlier member =>
        (List.pairwise_append.mp ascending).2.2 earlier member entry List.mem_cons_self
      have inserted : (dictionary.insert entry.1 entry.2).entries =
          dictionary.entries ++ [entry] := insertInto_of_above above
      have later := ih (dictionary.insert entry.1 entry.2) (by
        rw [inserted]
        simpa using ascending)
      rw [inserted, List.append_assoc] at later
      exact later

/-- **The entries of a dictionary make this dictionary.** -/
theorem ofList_entries (dictionary : Dictionary Item) : ofList dictionary.entries = dictionary :=
  eq_of_entries_eq (entries_insertAll_of_ascending empty dictionary.ascending)

theorem nodup_keys (dictionary : Dictionary Item) : (dictionary.entries.map Prod.fst).Nodup := by
  rw [List.Nodup, List.pairwise_map]
  refine dictionary.ascending.imp fun less same => ?_
  rw [same] at less
  exact String.lt_irrefl _ less

/-! ## One dictionary over another -/

theorem get?_insertAll_of_ascending (dictionary : Dictionary Item) {entries : List (String × Item)}
    (ascending : entries.Pairwise fun left right => left.1 < right.1) (key : String) :
    (dictionary.insertAll entries).get? key = (entries.lookup key).or (dictionary.get? key) := by
  induction entries generalizing dictionary with
  | nil => rfl
  | cons entry rest ih =>
      obtain ⟨below, restAscending⟩ := List.pairwise_cons.mp ascending
      have later := ih (dictionary.insert entry.1 entry.2) restAscending
      calc (dictionary.insertAll (entry :: rest)).get? key
          = (rest.lookup key).or ((dictionary.insert entry.1 entry.2).get? key) := later
        _ = ((entry :: rest).lookup key).or (dictionary.get? key) := by
          rw [get?_insert, lookup_cons_entry]
          split
          · rename_i same
            subst same
            rw [lookup_eq_none_of_below below, Option.none_or, Option.some_or]
          · rfl

/-- **Under a key stands the item of the upper dictionary, or else that of the lower one.** -/
theorem get?_overlay (lower upper : Dictionary Item) (key : String) :
    (lower.overlay upper).get? key = (upper.get? key).or (lower.get? key) :=
  get?_insertAll_of_ascending lower upper.ascending key

/-! ## Changed items -/

section MapItems

variable (change : Item → Other)

theorem get?_mapItems (dictionary : Dictionary Item) (key : String) :
    (dictionary.mapItems change).get? key = (dictionary.get? key).map change := by
  obtain ⟨entries, ascending⟩ := dictionary
  change (entries.map _).lookup key = (entries.lookup key).map change
  clear ascending
  induction entries with
  | nil => rfl
  | cons entry rest ih =>
      rw [List.map_cons, lookup_cons_entry, lookup_cons_entry, ih]
      split <;> rfl

theorem mapItems_insert (dictionary : Dictionary Item) (key : String) (item : Item) :
    (dictionary.insert key item).mapItems change =
      (dictionary.mapItems change).insert key (change item) := by
  have inserted : ∀ entries : List (String × Item),
      (insertInto key item entries).map (fun entry => (entry.1, change entry.2)) =
        insertInto key (change item) (entries.map fun entry => (entry.1, change entry.2)) := by
    intro entries
    induction entries with
    | nil => rfl
    | cons entry rest ih =>
        simp only [insertInto, List.map_cons]
        split
        · rfl
        · split
          · rfl
          · rw [List.map_cons, ih]
  exact eq_of_entries_eq (inserted dictionary.entries)

theorem mapItems_insertAll (dictionary : Dictionary Item) (entries : List (String × Item)) :
    (dictionary.insertAll entries).mapItems change =
      (dictionary.mapItems change).insertAll
        (entries.map fun entry => (entry.1, change entry.2)) := by
  induction entries generalizing dictionary with
  | nil => rfl
  | cons entry rest ih =>
      have later := ih (dictionary.insert entry.1 entry.2)
      rw [mapItems_insert] at later
      exact later

/-- **Changing the items of two dictionaries and laying one over the other can be done in either
order.** -/
theorem mapItems_overlay (lower upper : Dictionary Item) :
    (lower.overlay upper).mapItems change =
      (lower.mapItems change).overlay (upper.mapItems change) :=
  mapItems_insertAll change lower upper.entries

end MapItems

end MessageExpr.Dictionary
