import MessageExpr.CommandLine.Arguments
import MessageExpr.Configuration
import MessageExpr.Session

/-!
# Answers of the command line

A request of the command line is answered by text on the two outputs and a status: 0 for success, 1
for a failure and 2 for wrong arguments. A session is answered line by line.

The configuration is the file that is named by an option, or else the last readable one of the usual
files. A named file that cannot be read is a failure; the others are passed over.
-/

set_option autoImplicit false

namespace MessageExpr.CommandLine

/-- Why a command fails. -/
inductive CommandFailure where
  /-- The evaluation of an expression failed. -/
  | evaluation (cause : Failure)
  /-- A configuration is of no use. -/
  | configuration (message : String)
  /-- Implementations nest their sends too deeply. -/
  | exhausted

namespace CommandFailure

/-- What a command writes about its failure. -/
def text : CommandFailure → String
  | .evaluation cause => cause.report
  | .configuration message => "Configuration error: " ++ message ++ "\n"
  | .exhausted => "Sends are nested too deeply\n"

end CommandFailure

/-- What a command finds around it. -/
structure Surroundings where
  /-- The content of a file by its path. -/
  fileText : String → Option String
  /-- The paths of the usual files of a configuration; a later one wins. -/
  configPaths : List String
  /-- The time. -/
  now : Instant
  /-- Where the sequence of choices starts. -/
  seed : Nat

/-- The text of a command's answer. -/
structure Answer where
  /-- The exit status. -/
  status : Nat
  /-- What is written on the output. -/
  output : String
  /-- What is written on the output for failures. -/
  errors : String

/-! ## Evaluating -/

/-- The successor of a seed, by a linear congruence. -/
def nextSeed (seed : Nat) : Nat := (seed * 6364136223846793005 + 1442695040888963407) % Nat.pow 2 64

/-- The directory of a command, which has no host objects. -/
def noObjects : Directory Nat := fun _ => .empty

/-- The context of a command: a fixed time, choices from a seed, and no host. -/
def context (now : Instant) (configuration : Configuration) : Context Nat where
  clock := fun seed => (now, seed)
  choose := fun _ seed => (seed / Nat.pow 2 33, nextSeed seed)
  userInfo := none
  gatekeeper := none
  maxDepth := configuration.maxDepth
  directory := noObjects
  hostNesting := 0

/-- The message about an object whose text is no literal. -/
def notLiteral (entry : String × String) : String :=
  "Object " ++ entry.1 ++ " is not a literal: " ++ entry.2

/-- The registry of a configuration. -/
def registry (now : Instant) (configuration : Configuration) : Except CommandFailure Registry :=
  (configuration.registry now).mapError fun entry => .configuration (notLiteral entry)

/-- The result of a run, or its failure. -/
def resultOf {Result : Type} : Outcome Result → Except CommandFailure Result
  | .value result => .ok result
  | .failure cause => .error (.evaluation cause)
  | .exhausted => .error .exhausted

/-- Evaluates an expression with the objects of a configuration. -/
def evaluateExpression (now : Instant) (seed : Nat) (configuration : Configuration)
    (expression : String) (aliased : Bool) : Except CommandFailure Value := do
  let objects ← registry now configuration
  let evaluation := if aliased then evaluateAliased else evaluate
  resultOf (evaluation (context now configuration) objects expression seed).outcome

/-- The value whose selectors are listed: that of the expression, or the object that the text names if
it is too short for an expression. -/
def selectorsTarget (now : Instant) (seed : Nat) (configuration : Configuration)
    (expression : String) : Except CommandFailure Value :=
  match evaluateExpression now seed configuration expression false with
  | .error (.evaluation (.expressionTooShort _)) => do
    let objects ← registry now configuration
    resultOf (resolve (context now configuration) objects (Text.trim expression) seed).outcome
  | result => result

/-- The listing of what a value of a command understands. -/
def selectorsListing (value : Value) : String := listing (noObjects.signatures value)

/-! ## Configurations -/

/-- The configuration in a file. -/
def readConfiguration (surroundings : Surroundings) (path : String) : Option Configuration :=
  (surroundings.fileText path).bind Configuration.read?

/-- The last readable configuration of some files, or the one given. -/
def lastConfiguration (surroundings : Surroundings) : Configuration → List String → Configuration
  | configuration, [] => configuration
  | configuration, path :: paths =>
    lastConfiguration surroundings
      ((readConfiguration surroundings path).getD configuration) paths

/-- The configuration of a command. -/
def loadConfiguration (surroundings : Surroundings) (config : Option String) :
    Except CommandFailure Configuration :=
  match config with
  | none => .ok (lastConfiguration surroundings .standard surroundings.configPaths)
  | some path =>
    match readConfiguration surroundings path with
    | some configuration => .ok configuration
    | none => .error (.configuration ("Failed to read config file " ++ path))

/-! ## Answers -/

/-- The line of a result. -/
def resultLine (value : Value) : String := "Result: " ++ value.display ++ "\n"

/-- The line of a failure in a session. -/
def errorLine (report : String) : String := "Error: " ++ Text.trimEnd report ++ "\n"

/-- The answer that a computation of text gives. -/
def answerOf : Except CommandFailure String → Answer
  | .ok output => ⟨0, output, ""⟩
  | .error failure => ⟨1, "", failure.text⟩

/-- A session that is about to start. -/
structure OpenSession where
  /-- The settings. -/
  configuration : Configuration
  /-- The objects. -/
  registry : Registry
  /-- The file that keeps the lines, if there is one. -/
  historyFile : Option String

/-- What a request leads to. -/
inductive Response where
  /-- An answer. -/
  | answer (answer : Answer)
  /-- A session. -/
  | session (session : OpenSession)

/-- The session of a request. -/
def openSession (surroundings : Surroundings) (config history : Option String) :
    Except CommandFailure OpenSession := do
  let configuration ← loadConfiguration surroundings config
  let objects ← registry surroundings.now configuration
  return ⟨configuration, objects, history.orElse fun _ => configuration.historyFile⟩

/-- What a request leads to. -/
def respond (surroundings : Surroundings) : Request → Response
  | .usageError => .answer ⟨2, "", "The arguments are wrong\n"⟩
  | .version => .answer ⟨0, "terp 0.1.0\n", ""⟩
  | .help => .answer ⟨0, "", ""⟩
  | .eval config expression aliased => .answer <| answerOf do
    let configuration ← loadConfiguration surroundings config
    let value ←
      evaluateExpression surroundings.now surroundings.seed configuration expression aliased
    return resultLine value
  | .selectors config expression => .answer <| answerOf do
    let configuration ← loadConfiguration surroundings config
    let value ← selectorsTarget surroundings.now surroundings.seed configuration expression
    return selectorsListing value ++ "\n"
  | .repl config history =>
    match openSession surroundings config history with
    | .ok session => .session session
    | .error failure => .answer ⟨1, "", failure.text⟩

/-! ## Sessions -/

/-- The line with which a session starts. -/
def banner (configuration : Configuration) : String :=
  "» Smoltalk REPL. Type `" ++ configuration.quitCommand ++
    "` to quit; prefix a line with `@` to expand an alias.\n"

/-- What a session writes about a line; nothing if it ends. -/
def lineText? : Outcome LineOutcome → Option String
  | .value .quit => none
  | .value .skip => some ""
  | .value (.value value) => some (resultLine value)
  | .value (.report report) => some (errorLine report)
  | .failure cause => some (errorLine cause.report)
  | .exhausted => some (errorLine CommandFailure.exhausted.text)

/-- One line of a session: what it writes, nothing if it ends, and the next seed. -/
def sessionLine (now : Instant) (session : OpenSession) (line : String) (seed : Nat) :
    Option String × Nat :=
  let ending := Session.processLine (context now session.configuration) session.registry
    session.configuration.quitCommand line seed
  (lineText? ending.outcome, ending.world)

/-- What a session writes about lines up to its end. -/
def transcript (now : Instant) (session : OpenSession) : Nat → List String → String
  | _, [] => ""
  | seed, line :: rest =>
    match sessionLine now session line seed with
    | (none, _) => ""
    | (some text, next) => text ++ transcript now session next rest

/-- The lines of a text, without their ends. A last line need not have one. -/
def linesOf (text : String) : List String :=
  let pieces := (Text.piecesAround ['\n'] 0 text.toList).map String.ofList
  if pieces.getLast? = some "" then pieces.dropLast else pieces

/-- The whole answer to a request, with the lines of a session given beforehand. -/
def answer (surroundings : Surroundings) (request : Request) (input : String) : Answer :=
  match respond surroundings request with
  | .answer answer => answer
  | .session session =>
    ⟨0, banner session.configuration ++
      transcript surroundings.now session surroundings.seed (linesOf input), ""⟩

end MessageExpr.CommandLine
