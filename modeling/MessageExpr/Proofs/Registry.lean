import MessageExpr.Proofs.Evaluation.Aliases

/-!
# Layers of a registry

A registry is built from the standard one, from an empty one or from a list, by inserting entries
and by laying other registries over it (`Registry.History`). Whatever the order of these steps, it
is what writing some entries one after the other makes of nothing (`History.registry_eq`). So it
lists the names in the order of their first writes (`names_insertAll`), each with the value of its
last write (`get?_insertAll`). Two registries with the same names in the same order and the same
values are the same (`ext_of_names`), so that layers can be put together in any grouping
(`overlay_assoc`).

An alias means the first entry that advertises it. New names come behind all others, so what an
alias means stays as it is (`AddsTo.expand_eq`). The whole is `layers_of_history`.
-/

set_option autoImplicit false

namespace MessageExpr

namespace Registry

/-- The names of a registry in their order. -/
def names (registry : Registry) : List String := registry.entries.map Prod.fst

/-! ## First occurrences -/

theorem eraseDups_of_nodup {list : List String} (distinct : list.Nodup) :
    list.eraseDups = list := by
  induction list with
  | nil => rfl
  | cons first rest ih =>
      obtain ⟨absent, restDistinct⟩ := List.nodup_cons.mp distinct
      have others : rest.filter (fun other => !other == first) = rest := by
        rw [List.filter_eq_self]
        intro other member
        have different : other ≠ first := fun same => absent (same ▸ member)
        simp [different]
      rw [List.eraseDups_cons, others, ih restDistinct]

theorem length_filter_lt (keep : String → Bool) (first : String) (rest : List String) :
    (rest.filter keep).length < (first :: rest).length :=
  Nat.lt_succ_of_le (List.length_filter_le keep rest)

theorem nodup_eraseDups (list : List String) : list.eraseDups.Nodup := by
  induction size : list.length using Nat.strongRecOn generalizing list with
  | ind size ih =>
      subst size
      cases list with
      | nil => exact List.nodup_nil
      | cons first rest =>
          rw [List.eraseDups_cons]
          refine List.nodup_cons.mpr ⟨?_, ih _ (length_filter_lt _ first rest) _ rfl⟩
          simp [List.mem_eraseDups]

/-- A filter takes the same names out of a list and of its first occurrences. -/
theorem filter_eraseDups (keep : String → Bool) (list : List String) :
    list.eraseDups.filter keep = (list.filter keep).eraseDups := by
  induction size : list.length using Nat.strongRecOn generalizing list with
  | ind size ih =>
      subst size
      cases list with
      | nil => rfl
      | cons first rest =>
          rw [List.eraseDups_cons, List.filter_cons, List.filter_cons,
            ih _ (length_filter_lt _ first rest) _ rfl]
          split
          · rw [List.eraseDups_cons, List.filter_filter, List.filter_filter]
            simp only [Bool.and_comm]
          · rename_i dropped
            have others : (rest.filter fun other => !other == first).filter keep =
                rest.filter keep := by
              rw [List.filter_filter]
              refine List.filter_congr fun other member => ?_
              by_cases same : other = first
              · simp [same, dropped]
              · simp [same]
            rw [others]

/-- Repetitions can be left out of a list before it is appended. -/
theorem eraseDups_append_eraseDups (front back : List String) :
    (front ++ back.eraseDups).eraseDups = (front ++ back).eraseDups := by
  rw [List.eraseDups_append, List.eraseDups_append, List.removeAll, filter_eraseDups,
    eraseDups_of_nodup (nodup_eraseDups _)]
  rfl

/-! ## Names and values after several insertions -/

theorem names_insert (registry : Registry) (name : String) (value : Value) :
    (registry.insert name value).names =
      if name ∈ registry.names then registry.names else registry.names ++ [name] :=
  names_insertInto name value registry.entries

/-- **The names are in the order of their first writes.** -/
theorem names_insertAll (registry : Registry) (entries : List (String × Value)) :
    (registry.insertAll entries).names =
      (registry.names ++ entries.map Prod.fst).eraseDups := by
  induction entries generalizing registry with
  | nil =>
      rw [List.map_nil, List.append_nil]
      exact (eraseDups_of_nodup registry.distinct).symm
  | cons entry rest ih =>
      calc (registry.insertAll (entry :: rest)).names
          = ((registry.insert entry.1 entry.2).names ++ rest.map Prod.fst).eraseDups := ih _
        _ = (registry.names ++ (entry :: rest).map Prod.fst).eraseDups := by
          rw [names_insert]
          split
          · rename_i present
            rw [List.eraseDups_append, List.eraseDups_append, List.map_cons, List.removeAll,
              List.removeAll, List.filter_cons]
            simp [present]
          · rw [List.append_assoc]
            rfl

/-- **The value of a name is that of its last write.** -/
theorem get?_insertAll (registry : Registry) (entries : List (String × Value)) (name : String) :
    (registry.insertAll entries).get? name =
      (entries.reverse.lookup name).or (registry.get? name) := by
  induction entries generalizing registry with
  | nil => rfl
  | cons entry rest ih =>
      calc (registry.insertAll (entry :: rest)).get? name
          = (rest.reverse.lookup name).or ((registry.insert entry.1 entry.2).get? name) := ih _
        _ = ((entry :: rest).reverse.lookup name).or (registry.get? name) := by
          rw [get?_insert, List.reverse_cons, List.lookup_append, Option.or_assoc,
            Dictionary.lookup_cons_entry]
          split <;> rfl

/-! ## Registries over registries -/

theorem get?_eq_some_iff {registry : Registry} {name : String} {value : Value} :
    registry.get? name = some value ↔ (name, value) ∈ registry.entries :=
  ⟨Dictionary.mem_of_lookup_eq_some, get?_of_mem⟩

/-- Where names are distinct, it is all one from which end they are sought. -/
theorem lookup_reverse_entries (registry : Registry) (name : String) :
    registry.entries.reverse.lookup name = registry.get? name := by
  have distinct : (registry.entries.reverse.map Prod.fst).Nodup := by
    rw [List.map_reverse]
    exact (List.reverse_perm _).nodup_iff.mpr registry.distinct
  apply Option.ext
  intro value
  have found : (⟨registry.entries.reverse, distinct⟩ : Registry).get? name = some value ↔
      (name, value) ∈ registry.entries.reverse := get?_eq_some_iff
  rw [get?_eq_some_iff, ← List.mem_reverse]
  exact found

/-- **A registry is its names in their order and their values.** -/
theorem ext_of_names {registry other : Registry} (sameNames : registry.names = other.names)
    (sameValues : ∀ name, registry.get? name = other.get? name) : registry = other := by
  have pairs : ∀ registry : Registry,
      registry.entries.map (fun entry => (entry.1, some entry.2)) =
        registry.names.map fun name => (name, registry.get? name) := by
    intro registry
    rw [names, List.map_map]
    refine List.map_congr_left fun entry member => ?_
    rw [Function.comp_apply, get?_of_mem member]
  have entries : registry.entries = other.entries := by
    have injective : ∀ entry another : String × Value,
        (entry.1, some entry.2) = (another.1, some another.2) → entry = another := by
      rintro ⟨_, _⟩ ⟨_, _⟩ ⟨⟩
      rfl
    apply (List.map_inj_right injective).mp
    rw [pairs, pairs, sameNames, funext sameValues]
  cases registry
  cases other
  cases entries
  rfl

theorem insertAll_append (registry : Registry) (first second : List (String × Value)) :
    registry.insertAll (first ++ second) = (registry.insertAll first).insertAll second :=
  List.foldl_append

/-- Writing the entries that several writes leave is making these writes. -/
theorem insertAll_entries_insertAll (registry upper : Registry) (entries : List (String × Value)) :
    registry.insertAll (upper.insertAll entries).entries =
      (registry.insertAll upper.entries).insertAll entries := by
  rw [← insertAll_append]
  apply ext_of_names
  · rw [names_insertAll, names_insertAll, List.map_append]
    change (registry.names ++ (upper.insertAll entries).names).eraseDups = _
    rw [names_insertAll, eraseDups_append_eraseDups]
    rfl
  · intro name
    rw [get?_insertAll, get?_insertAll, lookup_reverse_entries, get?_insertAll,
      List.reverse_append, List.lookup_append, lookup_reverse_entries]

/-- **Layers can be grouped in any way.** -/
theorem overlay_assoc (lower middle upper : Registry) :
    (lower.overlay middle).overlay upper = lower.overlay (middle.overlay upper) :=
  (insertAll_entries_insertAll lower middle upper.entries).symm

theorem overlay_empty (registry : Registry) : registry.overlay empty = registry :=
  rfl

theorem empty_overlay (registry : Registry) : empty.overlay registry = registry := by
  apply ext_of_names
  · rw [overlay, names_insertAll]
    exact eraseDups_of_nodup registry.distinct
  · intro name
    rw [overlay, get?_insertAll, lookup_reverse_entries]
    exact Option.or_none

/-! ## Places -/

/-- An entry is sought behind the names that are not its own. -/
theorem insertInto_append {name : String} {front : List (String × Value)}
    (absent : name ∉ front.map Prod.fst) (value : Value) (back : List (String × Value)) :
    insertInto name value (front ++ back) = front ++ insertInto name value back := by
  induction front with
  | nil => rfl
  | cons entry more ih =>
      obtain ⟨other, moreAbsent⟩ := not_or.mp (mt List.mem_cons.mpr absent)
      rw [List.cons_append, insertInto, if_neg (Ne.symm other), ih moreAbsent, List.cons_append]

/-- **A new value takes the place of the old one.** -/
theorem entries_insert_of_entry {registry : Registry} {before after : List (String × Value)}
    {name : String} {value : Value} (entries : registry.entries = before ++ (name, value) :: after)
    (newer : Value) : (registry.insert name newer).entries = before ++ (name, newer) :: after := by
  change insertInto name newer registry.entries = _
  rw [entries, insertInto_append (absent_before entries), insertInto, if_pos rfl]

/-! ## Histories -/

/-- How a registry is built. -/
inductive History where
  /-- The standard registry. -/
  | standard (now : Instant)
  /-- The registry without entries. -/
  | empty
  /-- Several entries over the standard ones. -/
  | collected (now : Instant) (entries : List (String × Value))
  /-- One more entry, or another value for one. -/
  | inserted (earlier : History) (name : String) (value : Value)
  /-- One registry over another. -/
  | merged (lower upper : History)

namespace History

/-- The registry that is built. -/
def registry : History → Registry
  | .standard now => Registry.standard now
  | .empty => Registry.empty
  | .collected now entries => Registry.ofList now entries
  | .inserted earlier name value => earlier.registry.insert name value
  | .merged lower upper => lower.registry.overlay upper.registry

/-- The entries that are written, in their order. Those of an upper registry are written when it is
laid over a lower one, in the order that it lists them. -/
def writes : History → List (String × Value)
  | .standard now => (Registry.standard now).entries
  | .empty => []
  | .collected now entries => (Registry.standard now).entries ++ entries
  | .inserted earlier name value => earlier.writes ++ [(name, value)]
  | .merged lower upper => lower.writes ++ upper.registry.entries

/-- Whether the lowest layer is a standard registry. -/
def startsStandard : History → Bool
  | .standard _ => true
  | .empty => false
  | .collected _ _ => true
  | .inserted earlier _ _ => earlier.startsStandard
  | .merged lower _ => lower.startsStandard

/-- **A registry is what its writes make of nothing.** -/
theorem registry_eq (history : History) :
    history.registry = Registry.empty.insertAll history.writes := by
  induction history with
  | standard now => exact (empty_overlay (Registry.standard now)).symm
  | empty => rfl
  | collected now entries =>
      rw [writes, insertAll_append]
      exact congrArg (insertAll · entries) (empty_overlay (Registry.standard now)).symm
  | inserted earlier name value ih =>
      rw [writes, insertAll_append, ← ih]
      rfl
  | merged lower upper ih _ =>
      rw [writes, insertAll_append, ← ih]
      rfl

theorem names_registry (history : History) :
    history.registry.names = (history.writes.map Prod.fst).eraseDups := by
  rw [registry_eq, names_insertAll]
  rfl

/-- The standard entries are the first that are written. -/
theorem writes_of_startsStandard {history : History} (starts : history.startsStandard = true) :
    ∃ now others, history.writes = (Registry.standard now).entries ++ others := by
  induction history with
  | standard now => exact ⟨now, [], (List.append_nil _).symm⟩
  | empty => cases starts
  | collected now entries => exact ⟨now, entries, rfl⟩
  | inserted earlier name value ih =>
      obtain ⟨now, others, first⟩ := ih starts
      exact ⟨now, others ++ [(name, value)], by rw [writes, first, List.append_assoc]⟩
  | merged lower upper ih _ =>
      obtain ⟨now, others, first⟩ := ih starts
      exact ⟨now, others ++ upper.registry.entries, by rw [writes, first, List.append_assoc]⟩

/-- The names of the standard registry come first. -/
theorem standard_names_first {history : History} (starts : history.startsStandard = true) :
    ["Bool", "Date", "Int", "Double", "String"] <+: history.registry.names := by
  obtain ⟨now, others, first⟩ := writes_of_startsStandard starts
  have standardNames : (Registry.standard now).entries.map Prod.fst =
      ["Bool", "Date", "Int", "Double", "String"] := rfl
  have distinct : ["Bool", "Date", "Int", "Double", "String"].Nodup :=
    (Registry.standard now).distinct
  rw [names_registry, first, List.map_append, standardNames, List.eraseDups_append,
    eraseDups_of_nodup distinct]
  exact List.prefix_append _ _

end History

/-- The entry is the last one of its name that is written. -/
def IsLastWrite (writes : List (String × Value)) (name : String) (value : Value) : Prop :=
  ∃ before after, writes = before ++ (name, value) :: after ∧ name ∉ after.map Prod.fst

theorem lookup_reverse_eq_some_iff {writes : List (String × Value)} {name : String}
    {value : Value} :
    writes.reverse.lookup name = some value ↔ IsLastWrite writes name value := by
  rw [List.lookup_eq_some_iff]
  constructor
  · rintro ⟨after, before, reversed, others⟩
    refine ⟨before.reverse, after.reverse, ?_, ?_⟩
    · rw [← List.reverse_reverse writes, reversed]
      simp
    · simp only [List.map_reverse, List.mem_reverse, List.mem_map, not_exists, not_and]
      intro entry member same
      have other := others entry member
      simp [same] at other
  · rintro ⟨before, after, rfl, absent⟩
    refine ⟨after.reverse, before.reverse, by simp, fun entry member => ?_⟩
    rw [bne_iff_ne]
    rintro rfl
    exact absent (List.mem_map_of_mem (List.mem_reverse.mp member))

/-- **Under a name stands the value of its last write.** -/
theorem History.get?_registry (history : History) {name : String} {value : Value} :
    history.registry.get? name = some value ↔ IsLastWrite history.writes name value := by
  rw [registry_eq, get?_insertAll, ← lookup_reverse_eq_some_iff]
  exact iff_of_eq (congrArg (· = some value) Option.or_none)

/-! ## What an alias goes on meaning -/

/-- The later registry is the earlier one with entries under names that are new to the earlier one,
each added by itself or with a registry that is laid over. -/
inductive AddsTo (earlier : Registry) : Registry → Prop where
  | same : AddsTo earlier earlier
  | inserted {later : Registry} {name : String} (adds : AddsTo earlier later)
      (new : name ∉ earlier.names) (value : Value) : AddsTo earlier (later.insert name value)
  | merged {later upper : Registry} (adds : AddsTo earlier later)
      (new : ∀ name ∈ upper.names, name ∉ earlier.names) : AddsTo earlier (later.overlay upper)

/-- New names are added behind all others. -/
theorem entries_insertAll_of_new {earlier : Registry} {entries : List (String × Value)}
    (new : ∀ name ∈ entries.map Prod.fst, name ∉ earlier.names) {later : Registry}
    (kept : earlier.entries <+: later.entries) :
    earlier.entries <+: (later.insertAll entries).entries := by
  induction entries generalizing later with
  | nil => exact kept
  | cons entry rest ih =>
      obtain ⟨newName, restNew⟩ := List.forall_mem_cons.mp new
      obtain ⟨more, form⟩ := kept
      refine ih restNew ⟨insertInto entry.1 entry.2 more, ?_⟩
      change _ = insertInto entry.1 entry.2 later.entries
      rw [← form, insertInto_append newName]

/-- **Entries under new names leave the places of all others.** -/
theorem AddsTo.entries_kept {earlier later : Registry} (adds : AddsTo earlier later) :
    earlier.entries <+: later.entries := by
  induction adds with
  | same => exact List.prefix_rfl
  | inserted _ new value ih =>
      exact @entries_insertAll_of_new _ [(_, value)] (List.forall_mem_singleton.mpr new) _ ih
  | merged _ new ih => exact entries_insertAll_of_new new ih

/-- The first word of an expression is advertised by a first entry or by none. -/
theorem exists_firstAdvertises_or_silent (registry : Registry) (word : String) :
    (∃ name value target, FirstAdvertises registry word name value target) ∨
      ∀ entry ∈ registry.entries, entry.2.aliases.get? word = none := by
  cases sought : registry.entries.find? fun entry => (entry.2.aliases.get? word).isSome with
  | none =>
      right
      intro entry member
      simpa using List.find?_eq_none.mp sought entry member
  | some entry =>
      left
      obtain ⟨advertises, before, after, entries, silent⟩ :=
        List.find?_eq_some_iff_append.mp sought
      obtain ⟨target, isTarget⟩ := Option.isSome_iff_exists.mp advertises
      refine ⟨entry.1, entry.2, target, before, after, entries, fun other member => ?_, isTarget⟩
      simpa using silent other member

/-- **An alias is expanded to the first entry that advertises it**, and to nothing else. -/
theorem expand_eq_ok_iff {registry : Registry} {expression text : String} :
    Alias.expand registry expression = .ok text ↔
      (Alias.splitWord expression).1 ≠ "" ∧ ∃ name value target,
        FirstAdvertises registry (Alias.splitWord expression).1 name value target ∧
          text = name ++ " " ++ spelledOut target (Alias.splitWord expression).2 := by
  constructor
  · intro expanded
    have nonempty : (Alias.splitWord expression).1 ≠ "" := by
      intro empty
      rw [Alias.expand] at expanded
      simp [empty] at expanded
    refine ⟨nonempty, ?_⟩
    obtain ⟨name, value, target, first⟩ | silent :=
      exists_firstAdvertises_or_silent registry (Alias.splitWord expression).1
    · rw [Alias.expand_of_first rfl nonempty first] at expanded
      exact ⟨name, value, target, first, (Except.ok.inj expanded).symm⟩
    · rw [Alias.expand_of_silent rfl nonempty silent] at expanded
      cases expanded
  · rintro ⟨nonempty, name, value, target, first, rfl⟩
    exact Alias.expand_of_first rfl nonempty first

theorem firstAdvertises_of_kept {earlier later : Registry}
    (kept : earlier.entries <+: later.entries) {word name target : String} {value : Value}
    (first : FirstAdvertises earlier word name value target) :
    FirstAdvertises later word name value target := by
  obtain ⟨more, form⟩ := kept
  obtain ⟨before, after, entries, silent, advertises⟩ := first
  refine ⟨before, after ++ more, ?_, silent, advertises⟩
  rw [← form, entries, List.append_assoc, List.cons_append]

/-- **Entries under new names leave what an alias means.** -/
theorem AddsTo.expand_eq {earlier later : Registry} (adds : AddsTo earlier later)
    {expression text : String} (expanded : Alias.expand earlier expression = .ok text) :
    Alias.expand later expression = .ok text := by
  obtain ⟨nonempty, name, value, target, first, form⟩ := expand_eq_ok_iff.mp expanded
  exact expand_eq_ok_iff.mpr
    ⟨nonempty, name, value, target, firstAdvertises_of_kept adds.entries_kept first, form⟩

/-! ## Registries of any history -/

/-- **A registry lists its names in the order of their first writes, with the values of their last
writes.** Whatever its history, its names are distinct, and the standard ones come first if it
starts with them. A new value for a name takes the place of the old one. Registries can be laid over
each other in any grouping, and one without entries changes nothing. An alias is expanded to the
first entry that advertises it, and it stays so when entries are added under new names. -/
theorem layers_of_history (history : History) :
    let registry := history.registry
    registry.names.Nodup ∧
      (∀ name value, ((name, value) ∈ registry.entries ↔ registry.get? name = some value) ∧
        (registry.get? name = some value ↔ IsLastWrite history.writes name value)) ∧
      registry.names = (history.writes.map Prod.fst).eraseDups ∧
      (history.startsStandard = true →
        ["Bool", "Date", "Int", "Double", "String"] <+: registry.names) ∧
      (∀ before name value after, registry.entries = before ++ (name, value) :: after →
        ∀ newer, (registry.insert name newer).entries = before ++ (name, newer) :: after) ∧
      (∀ middle upper : History,
        (registry.overlay middle.registry).overlay upper.registry =
          registry.overlay (middle.registry.overlay upper.registry)) ∧
      registry.overlay empty = registry ∧ empty.overlay registry = registry ∧
      ∀ expression text,
        (Alias.expand registry expression = .ok text ↔
          (Alias.splitWord expression).1 ≠ "" ∧ ∃ name value target,
            FirstAdvertises registry (Alias.splitWord expression).1 name value target ∧
              text = name ++ " " ++ spelledOut target (Alias.splitWord expression).2) ∧
        ∀ later, AddsTo registry later → Alias.expand registry expression = .ok text →
          Alias.expand later expression = .ok text := by
  intro registry
  refine ⟨registry.distinct, fun name value => ⟨get?_eq_some_iff.symm, ?last⟩, ?order, ?standard,
    ?place, ?grouping, overlay_empty registry, empty_overlay registry, ?expansion⟩
  case last => exact history.get?_registry
  case order => exact history.names_registry
  case standard => exact History.standard_names_first
  case place =>
    intro before name value after entries newer
    exact entries_insert_of_entry entries newer
  case grouping =>
    intro middle upper
    exact overlay_assoc registry middle.registry upper.registry
  case expansion =>
    intro expression text
    exact ⟨expand_eq_ok_iff, fun later adds => adds.expand_eq⟩

/-- The entry that advertises `today` is overridden by one that does not, so the word means a later
entry, and goes on to mean it when another one advertises it. -/
theorem layers_of_history_overridden :
    let history : History :=
      .merged (.inserted (.standard default) "Date" (.int 7))
        (.inserted (.inserted .empty "Noon" (.date default)) "Bool" (.bool false))
    let registry := history.registry
    let entries := [("Bool", .bool false), ("Date", .int 7), ("Int", .int 0),
      ("Double", .double (.ofInt 0)), ("String", .string ""), ("Noon", .date default)]
    let later := registry.insert "Dusk" (.date default)
    registry.entries = entries ∧ history.startsStandard = true ∧
      ["Bool", "Date", "Int", "Double", "String"] <+: registry.names ∧
      (registry.insert "Bool" (.int 1)).entries = ("Bool", .int 1) :: entries.tail ∧
      Alias.expand registry "today year" = .ok "Noon today year" ∧ AddsTo registry later ∧
      Alias.expand later "today year" = .ok "Noon today year" := by
  intro history registry entries later
  have isEntries : registry.entries = entries := rfl
  obtain ⟨-, -, -, standard, place, -, -, -, expansion⟩ := layers_of_history history
  obtain ⟨means, stays⟩ := expansion "today year" "Noon today year"
  have new : "Dusk" ∉ registry.names := by
    rw [names, isEntries]
    decide
  have adds : AddsTo registry later := .inserted .same new _
  have first : FirstAdvertises registry "today" "Noon" (.date default) "today" :=
    ⟨entries.take 5, [], isEntries, by decide, by decide⟩
  have split : Alias.splitWord "today year" = ("today", "year") := by decide
  have expanded : Alias.expand registry "today year" = .ok "Noon today year" := by
    rw [means, split]
    exact ⟨by decide, "Noon", _, "today", first, by decide⟩
  exact ⟨isEntries, rfl, standard rfl, place [] "Bool" _ _ isEntries (.int 1), expanded, adds,
    stays later adds expanded⟩

end Registry

end MessageExpr
