import MessageExpr.Dictionary
import MessageExpr.Proofs.Toml.Lines

/-!
# Reading documents back

A text that consists of lines is read as what these lines say, one after the other
(`HasLines.readLines_eq`). The lines of a table are its header and a pair for each entry. If no
table has the name and no two entries have one name, they add the table with these entries to the
document (`addLines_table`).
-/

set_option autoImplicit false

namespace MessageExpr.Toml

/-! ## Lines of a text -/

/-- The text consists of these lines. -/
inductive HasLines : List Char → List Line → Prop where
  | nil : HasLines [] []
  | cons {text more : List Char} {line : Line} {lines : List Line} (isLine : IsLine text line)
      (others : HasLines more lines) : HasLines (text ++ more) (line :: lines)

namespace HasLines

theorem single {text : List Char} {line : Line} (isLine : IsLine text line) :
    HasLines text [line] := by
  have lines := cons isLine nil
  rwa [List.append_nil] at lines

theorem append {text more : List Char} {lines others : List Line} (first : HasLines text lines)
    (second : HasLines more others) : HasLines (text ++ more) (lines ++ others) := by
  induction first with
  | nil => exact second
  | cons isLine _ ih =>
      rw [List.append_assoc]
      exact .cons isLine ih

/-- The lines that write the items of a list, one for each. -/
theorem flatMap {Item : Type} {items : List Item} {text : Item → List Char} {line : Item → Line}
    (areLines : ∀ item ∈ items, IsLine (text item) (line item)) :
    HasLines (items.flatMap text) (items.map line) := by
  induction items with
  | nil => exact .nil
  | cons item rest ih =>
      obtain ⟨isLine, others⟩ := List.forall_mem_cons.mp areLines
      exact .cons isLine (ih others)

end HasLines

/-- Adds what lines say to a document, one after the other. -/
def addLines : List Line → List String → Entries → Option (List String × Entries)
  | [], openPath, entries => some (openPath, entries)
  | line :: lines, openPath, entries =>
    (addLine line openPath entries).bind fun (nextPath, added) => addLines lines nextPath added

theorem addLines_blank (lines : List Line) (openPath : List String) (entries : Entries) :
    addLines (.blank :: lines) openPath entries = addLines lines openPath entries := rfl

theorem addLines_append (lines others : List Line) (openPath : List String) (entries : Entries) :
    addLines (lines ++ others) openPath entries =
      (addLines lines openPath entries).bind fun (nextPath, added) =>
        addLines others nextPath added := by
  induction lines generalizing openPath entries with
  | nil => rfl
  | cons line lines ih =>
      simp only [List.cons_append, addLines]
      cases addLine line openPath entries with
      | none => rfl
      | some next => exact ih next.1 next.2

/-- **A text is read by adding its lines.** -/
theorem HasLines.readLines_eq {text : List Char} {lines : List Line} (has : HasLines text lines)
    {bound : Nat} (enough : text.length ≤ bound) (openPath : List String) (entries : Entries) :
    readLines bound openPath entries text = (addLines lines openPath entries).map Prod.snd := by
  induction has generalizing bound openPath entries with
  | nil => rw [readLines, addLines, Option.map_some]
  | @cons text more line lines isLine _ ih =>
      obtain ⟨nonempty, read⟩ := isLine
      have longer : 0 < text.length := List.length_pos_iff.mpr nonempty
      rw [List.length_append] at enough
      obtain ⟨less, rfl⟩ : ∃ less, bound = less + 1 := ⟨bound - 1, by omega⟩
      have fits : more.length ≤ less := by omega
      rw [readLines, read, addLines]
      · cases added : addLine line openPath entries with
        | none => simp only [added, Option.bind_none, Option.map_none]
        | some next => simpa only [added, Option.bind_some] using ih fits next.1 next.2
      · simp [nonempty]

/-! ## Tables -/

section Tables

variable {before inner : Entries} {table : String}

theorem replace_append (absent : before.lookup table = none) (old new : Node) :
    Entries.replace table new (before ++ [(table, old)]) = before ++ [(table, new)] := by
  induction before with
  | nil => simp [Entries.replace]
  | cons entry rest ih =>
      rw [Dictionary.lookup_cons_entry] at absent
      split at absent
      · cases absent
      · rename_i other
        simp [Entries.replace, Ne.symm other, ih absent]

/-- A header adds an empty table where none has its name. -/
theorem addLine_header (absent : before.lookup table = none) (openPath : List String) :
    addLine (.header [table]) openPath before =
      some ([table], before ++ [(table, .table .opened [])]) := by
  simp [addLine, Entries.updateAt, Entries.openTable?, absent]

/-- A pair is added to the table that was opened last, where none of its entries has the name. -/
theorem addLine_pair (absent : before.lookup table = none) {name : String}
    (fresh : inner.lookup name = none) (node : Node) :
    addLine (.pair [name] node) [table] (before ++ [(table, .table .opened inner)]) =
      some ([table], before ++ [(table, .table .opened (inner ++ [(name, node)]))]) := by
  have found : (before ++ [(table, Node.table .opened inner)]).lookup table =
      some (.table .opened inner) := by
    simp [List.lookup_append, absent]
  simp [addLine, Entries.updateAt, Entries.addAt?, Entries.add?, found, fresh, replace_append absent]

theorem addLines_pairs (absent : before.lookup table = none) {pairs : Entries}
    (distinct : ((inner ++ pairs).map Prod.fst).Nodup) :
    addLines (pairs.map fun pair => .pair [pair.1] pair.2) [table]
        (before ++ [(table, .table .opened inner)]) =
      some ([table], before ++ [(table, .table .opened (inner ++ pairs))]) := by
  induction pairs generalizing inner with
  | nil => simp [addLines]
  | cons pair rest ih =>
      have fresh : inner.lookup pair.1 = none := by
        rw [List.map_append, List.map_cons, List.nodup_append] at distinct
        refine List.lookup_eq_none_iff.mpr fun entry member => ?_
        rw [bne_iff_ne]
        exact Ne.symm (distinct.2.2 _ (List.mem_map_of_mem member) _ List.mem_cons_self)
      rw [List.map_cons, addLines, addLine_pair absent fresh]
      have split : inner ++ pair :: rest = (inner ++ [pair]) ++ rest := by simp
      rw [split] at distinct ⊢
      exact ih distinct

/-- The header of a table and a pair for each entry. -/
def tableLines (table : String) (pairs : Entries) : List Line :=
  .header [table] :: pairs.map fun pair => .pair [pair.1] pair.2

/-- **The lines of a table add this table**, where none has its name and no two of its entries
have one name. -/
theorem addLines_table (before : Entries) (table : String) (absent : before.lookup table = none)
    {pairs : Entries} (distinct : (pairs.map Prod.fst).Nodup) (openPath : List String) :
    addLines (tableLines table pairs) openPath before =
      some ([table], before ++ [(table, .table .opened pairs)]) := by
  rw [tableLines, addLines, addLine_header absent]
  exact addLines_pairs absent distinct

end Tables

end MessageExpr.Toml
