import MessageExpr.Configuration
import MessageExpr.Proofs.Dictionary
import MessageExpr.Proofs.Toml.Document

/-!
# Saved configurations

A configuration is written as a document of three tables and read back from it without loss
(`read?_write`), whatever its texts and names hold. The document says what the configuration does
(`nodes`): the written text is read as this document, and the document as the configuration. The
numbers of a configuration have to be integers of 64 bits, as TOML asks of all its integers.
-/

set_option autoImplicit false

namespace MessageExpr.Configuration

open Toml

variable {configuration : Configuration}

/-! ## The document of a configuration -/

/-- The entries about evaluation. -/
def runtimeNodes (configuration : Configuration) : Entries :=
  (configuration.maxDepth.map fun limit => ("max_depth", .integer limit)).toList

/-- The entries about sessions. -/
def replNodes (configuration : Configuration) : Entries :=
  ("prompt", .text configuration.prompt) :: ("quit_command", .text configuration.quitCommand) ::
    ((configuration.historyFile.map fun path => ("history_file", .text path)).toList ++
      [("max_history", .integer configuration.maxHistory)])

/-- The entries of the objects. -/
def objectNodes (configuration : Configuration) : Entries :=
  configuration.objects.entries.map fun entry => (entry.1, .text entry.2)

/-- The document of a configuration. -/
def nodes (configuration : Configuration) : Entries :=
  [("runtime", .table .opened configuration.runtimeNodes),
    ("repl", .table .opened configuration.replNodes),
    ("objects", .table .opened configuration.objectNodes)]

/-! ## Reading the document -/

theorem readObjects?_texts (entries : List (String × String)) (objects : Dictionary String) :
    readObjects? (entries.map fun entry => (entry.1, .text entry.2)) objects =
      some (objects.insertAll entries) := by
  induction entries generalizing objects with
  | nil => rfl
  | cons entry rest ih => exact ih (objects.insert entry.1 entry.2)

/-- **The document of a configuration means this configuration.** -/
theorem ofDocument?_nodes (configuration : Configuration) :
    ofDocument? configuration.nodes = some configuration := by
  obtain ⟨maxDepth, prompt, quitCommand, historyFile, maxHistory, objects⟩ := configuration
  have readObjects :
      readObjects? (objects.entries.map fun entry => (entry.1, .text entry.2)) .empty =
        some objects := by
    rw [readObjects?_texts]
    exact congrArg some objects.ofList_entries
  cases maxDepth <;> cases historyFile <;>
    simp [ofDocument?, nodes, group, settingOr, setting?, runtimeNodes, replNodes, objectNodes,
      objects?, text?, natural?, readObjects, List.lookup_cons]

/-! ## Writing the document -/

/-- The lines of the document. -/
def lines (configuration : Configuration) : List Line :=
  tableLines "runtime" configuration.runtimeNodes ++ .blank ::
    tableLines "repl" configuration.replNodes ++ .blank ::
      tableLines "objects" configuration.objectNodes

/-- No two entries of a table have one name. -/
theorem nodup_runtimeNodes (configuration : Configuration) :
    (configuration.runtimeNodes.map Prod.fst).Nodup := by
  cases limit : configuration.maxDepth <;> simp [runtimeNodes, limit]

theorem nodup_replNodes (configuration : Configuration) :
    (configuration.replNodes.map Prod.fst).Nodup := by
  cases path : configuration.historyFile <;> simp [replNodes, path]

theorem nodup_objectNodes (configuration : Configuration) :
    (configuration.objectNodes.map Prod.fst).Nodup := by
  have names : configuration.objectNodes.map Prod.fst =
      configuration.objects.entries.map Prod.fst := by
    simp [objectNodes, Function.comp_def]
  rw [names]
  exact configuration.objects.nodup_keys

/-- The lines add the three tables, one after the other. -/
theorem addLines_lines (configuration : Configuration) :
    addLines configuration.lines [] [] = some (["objects"], configuration.nodes) := by
  have runtime := addLines_table [] "runtime" rfl configuration.nodup_runtimeNodes []
  have repl := addLines_table [("runtime", .table .opened configuration.runtimeNodes)] "repl" rfl
    configuration.nodup_replNodes ["runtime"]
  have objects := addLines_table
    [("runtime", .table .opened configuration.runtimeNodes),
      ("repl", .table .opened configuration.replNodes)] "objects" rfl
    configuration.nodup_objectNodes ["repl"]
  simp only [lines, addLines_append, runtime, Option.bind_some, addLines_blank, List.nil_append,
    repl, List.cons_append, objects]
  rfl

section Write

variable (fitsDepth : ∀ limit, configuration.maxDepth = some limit → limit ≤ 9223372036854775807)
  (fitsHistory : configuration.maxHistory ≤ 9223372036854775807)

include fitsDepth in
theorem hasLines_runtime :
    HasLines (headerLine "runtime" ++
        (configuration.maxDepth.map (naturalLine "max_depth")).getD "").toList
      (tableLines "runtime" configuration.runtimeNodes) := by
  rw [String.toList_append]
  refine .cons (isLine_headerLine "runtime") ?_
  rw [runtimeNodes]
  cases set : configuration.maxDepth with
  | none => exact .nil
  | some limit => exact .single (isLine_naturalLine "max_depth" (fitsDepth limit set))

include fitsHistory in
theorem hasLines_repl :
    HasLines (headerLine "repl" ++ stringLine "prompt" configuration.prompt ++
        stringLine "quit_command" configuration.quitCommand ++
        (configuration.historyFile.map (stringLine "history_file")).getD "" ++
        naturalLine "max_history" configuration.maxHistory).toList
      (tableLines "repl" configuration.replNodes) := by
  simp only [String.toList_append, List.append_assoc]
  refine .cons (isLine_headerLine "repl") (.cons (isLine_stringLine "prompt" _)
    (.cons (isLine_stringLine "quit_command" _) ?_))
  rw [List.map_append]
  refine .append ?_ (.single (isLine_naturalLine "max_history" fitsHistory))
  cases configuration.historyFile with
  | none => exact .nil
  | some path => exact .single (isLine_stringLine "history_file" path)

theorem hasLines_objects (configuration : Configuration) :
    HasLines (headerLine "objects" ++ String.join (configuration.objects.entries.map fun entry =>
        stringLine entry.1 entry.2)).toList
      (tableLines "objects" configuration.objectNodes) := by
  rw [String.toList_append, String.toList_join, List.flatMap_map]
  refine .cons (isLine_headerLine "objects") ?_
  rw [objectNodes, List.map_map]
  exact .flatMap fun entry _ => isLine_stringLine entry.1 entry.2

include fitsDepth fitsHistory in
theorem hasLines_write : HasLines configuration.write.toList configuration.lines := by
  have written := ((hasLines_runtime fitsDepth).append
    (.cons isLine_blank (hasLines_repl fitsHistory))).append
      (.cons isLine_blank (hasLines_objects configuration))
  have newline : "\n".toList = ['\n'] := rfl
  simp only [String.toList_append, List.append_assoc] at written
  simpa only [write, lines, String.toList_append, List.append_assoc, newline] using written

end Write

/-- **A configuration that is saved is loaded unchanged.** -/
theorem read?_write (configuration : Configuration)
    (fitsDepth : ∀ limit, configuration.maxDepth = some limit → limit ≤ 9223372036854775807)
    (fitsHistory : configuration.maxHistory ≤ 9223372036854775807) :
    read? configuration.write = some configuration := by
  have unmarked : withoutMark configuration.write.toList = configuration.write.toList := by
    obtain ⟨rest, written⟩ : ∃ rest, configuration.write.toList = '[' :: rest := by
      simp [write, headerLine]
    rw [written]
    rfl
  have read : readDocument? configuration.write = some configuration.nodes := by
    have has := hasLines_write fitsDepth fitsHistory
    rw [readDocument?, unmarked, has.readLines_eq (Nat.le_succ _), addLines_lines]
    rfl
  rw [read?, read, Option.bind_some, ofDocument?_nodes]

/-- Names that are empty, dotted or look like a header, and texts with line ends, controls,
backslashes and quotes of both kinds, up to the end. -/
theorem read?_write_awkward :
    let configuration : Configuration :=
      { Configuration.standard with
        maxDepth := some 9223372036854775807
        prompt := "\n'''\"\"\"\"\"\\"
        quitCommand := ""
        historyFile := some "C:\\it's\x00\"\""
        objects := .ofList [("", "\"\""), ("a.b", "\t"), ("[x]", "''"),
          ("'\"\n", "\r\n''\"\"")] }
    (∀ limit, configuration.maxDepth = some limit → limit ≤ 9223372036854775807) ∧
      configuration.maxHistory ≤ 9223372036854775807 ∧
      read? configuration.write = some configuration := by
  intro configuration
  have fitsDepth : ∀ limit, configuration.maxDepth = some limit →
      limit ≤ 9223372036854775807 := by
    intro limit set
    cases set
    exact Nat.le_refl _
  have fitsHistory : configuration.maxHistory ≤ 9223372036854775807 := by decide
  exact ⟨fitsDepth, fitsHistory, read?_write configuration fitsDepth fitsHistory⟩

end MessageExpr.Configuration
