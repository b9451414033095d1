import MessageExpr.Evaluation
import MessageExpr.Toml.Document
import MessageExpr.Toml.Written

/-!
# Configurations

A configuration sets the limit on nested brackets, what an interactive session looks like, and further
objects, each given by a name and the text of a literal. It is kept as a TOML document with three
tables; a setting that is missing there has its usual value, and unknown keys mean nothing.
-/

set_option autoImplicit false

namespace MessageExpr

/-- The settings of the command line. -/
structure Configuration where
  /-- How deeply brackets may be nested. -/
  maxDepth : Option Nat
  /-- What an interactive session shows before each line. -/
  prompt : String
  /-- What ends a session. -/
  quitCommand : String
  /-- The file that keeps the lines of sessions. -/
  historyFile : Option String
  /-- How many lines are kept. -/
  maxHistory : Nat
  /-- The texts of further objects by their names. -/
  objects : Dictionary String

namespace Configuration

/-- The usual settings. -/
def standard : Configuration where
  maxDepth := none
  prompt := "> "
  quitCommand := "q"
  historyFile := none
  maxHistory := 1000
  objects := .empty

instance : Inhabited Configuration := ⟨standard⟩

/-- Whether two configurations have the same settings. -/
def isEqual (left right : Configuration) : Bool :=
  left.maxDepth == right.maxDepth && left.prompt == right.prompt &&
    left.quitCommand == right.quitCommand && left.historyFile == right.historyFile &&
    left.maxHistory == right.maxHistory && left.objects.entries == right.objects.entries

/-! ## Reading -/

/-- The node of a setting in a group of settings; nothing inside if the setting is missing, nothing
at all if the node is no group. A group is a table or lists its settings in their order. A date has
none of them. -/
def setting? (group : Toml.Node) (place : Nat) (name : String) : Option (Option Toml.Node) :=
  match group with
  | .table _ entries => some (entries.lookup name)
  | .array elements => some elements[place]?
  | .tables elements => some elements[place]?
  | .moment _ => some none
  | _ => none

/-- The text of a node. -/
def text? : Toml.Node → Option String
  | .text text => some text
  | _ => none

/-- The natural number of a node. -/
def natural? : Toml.Node → Option Nat
  | .integer integer => if 0 ≤ integer then some integer.toNat else none
  | _ => none

/-- The value of a setting: the usual one if it is missing, nothing if it is malformed. -/
def settingOr {Setting : Type} (read : Toml.Node → Option Setting) (usual : Setting)
    (group : Toml.Node) (place : Nat) (name : String) : Option Setting :=
  match setting? group place name with
  | none => none
  | some none => some usual
  | some (some node) => read node

/-- Reads the entries of the table of objects. -/
def readObjects? : Toml.Entries → Dictionary String → Option (Dictionary String)
  | [], objects => some objects
  | (name, node) :: rest, objects =>
    (text? node).bind fun text => readObjects? rest (objects.insert name text)

/-- The objects of a node. -/
def objects? : Toml.Node → Option (Dictionary String)
  | .table _ entries => readObjects? entries .empty
  | _ => none

/-- A group of a document; a missing one is empty. -/
def group (document : Toml.Entries) (name : String) : Toml.Node :=
  (document.lookup name).getD (.table .opened [])

/-- The configuration of a document; nothing if a setting is malformed. -/
def ofDocument? (document : Toml.Entries) : Option Configuration := do
  let runtime := group document "runtime"
  let repl := group document "repl"
  let maxDepth ← settingOr (fun node => (natural? node).map some) none runtime 0 "max_depth"
  let prompt ← settingOr text? standard.prompt repl 0 "prompt"
  let quitCommand ← settingOr text? standard.quitCommand repl 1 "quit_command"
  let historyFile ← settingOr (fun node => (text? node).map some) none repl 2 "history_file"
  let maxHistory ← settingOr natural? standard.maxHistory repl 3 "max_history"
  let objects ← objects? (group document "objects")
  return { maxDepth, prompt, quitCommand, historyFile, maxHistory, objects }

/-- Reads a configuration; nothing if the text is malformed. -/
def read? (text : String) : Option Configuration :=
  (Toml.readDocument? text).bind ofDocument?

/-! ## Writing -/

/-- The text of a configuration: the limit, the settings of sessions and the objects in ascending
order of their names, each group below its header. A limit or file that is not set has no line. -/
def write (configuration : Configuration) : String :=
  Toml.headerLine "runtime" ++
    (configuration.maxDepth.map (Toml.naturalLine "max_depth")).getD "" ++ "\n" ++
    Toml.headerLine "repl" ++
    Toml.stringLine "prompt" configuration.prompt ++
    Toml.stringLine "quit_command" configuration.quitCommand ++
    (configuration.historyFile.map (Toml.stringLine "history_file")).getD "" ++
    Toml.naturalLine "max_history" configuration.maxHistory ++ "\n" ++
    Toml.headerLine "objects" ++
    String.join (configuration.objects.entries.map fun entry =>
      Toml.stringLine entry.1 entry.2)

/-! ## Objects -/

/-- The values of configured objects, or the first entry whose text is no literal. -/
def literals : List (String × String) → Except (String × String) (List (String × Value))
  | [] => .ok []
  | (name, text) :: rest =>
    match Literal.read? text with
    | none => .error (name, text)
    | some value => (literals rest).map ((name, value) :: ·)

/-- The standard registry with the configured objects over it, or the first entry, in ascending order
of the names, whose text is no literal. -/
def registry (configuration : Configuration) (now : Instant) :
    Except (String × String) Registry :=
  (literals configuration.objects.entries).map (Registry.ofList now)

end Configuration

end MessageExpr
