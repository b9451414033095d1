/-!
# Arguments of the command line

The arguments select a command and set options. An option has a long name behind two hyphens and may
have a letter behind one; letters may be joined. The value of an option is joined to it or the next
argument, which then must not look like an option itself. After two hyphens nothing is an option.

Options that concern every command may stand before or after the command's name; those after it win.
An option may be set once on each side. Arguments are taken from left to right, and the first one
that is wrong, or that asks for the version or for help, decides (`Request.ofArguments`).
-/

set_option autoImplicit false

namespace MessageExpr.CommandLine

/-! ## Options -/

/-- An option. -/
inductive CliOption where
  /-- More messages about the work. -/
  | verbose
  /-- No messages but failures. -/
  | quiet
  /-- The level of messages. -/
  | log
  /-- The form of messages. -/
  | logFormat
  /-- The file of the configuration. -/
  | config
  /-- The expression starts with an alias. -/
  | aliased
  /-- The file that keeps the lines of sessions. -/
  | history
  /-- Shows the version. -/
  | version
  /-- Shows a description of the program. -/
  | help
deriving DecidableEq

/-- A command by its name. -/
inductive Command where
  /-- Evaluates an expression. -/
  | eval
  /-- Lists what a value understands. -/
  | selectors
  /-- Starts a session. -/
  | repl
deriving DecidableEq

namespace CliOption

/-- The long name. -/
def name : CliOption → String
  | .verbose => "verbose"
  | .quiet => "quiet"
  | .log => "log"
  | .logFormat => "log-format"
  | .config => "config"
  | .aliased => "aliased"
  | .history => "history"
  | .version => "version"
  | .help => "help"

/-- The letter, if the option has one. -/
def letter? : CliOption → Option Char
  | .verbose => some 'v'
  | .quiet => some 'q'
  | .config => some 'c'
  | .aliased => some 'a'
  | .version => some 'V'
  | .help => some 'h'
  | _ => none

/-- Whether the option has a value. -/
def takesValue : CliOption → Bool
  | .log => true
  | .logFormat => true
  | .config => true
  | .history => true
  | _ => false

/-- Whether a text is a value of the option. -/
def accepts (value : String) : CliOption → Bool
  | .log => value ∈ ["error", "warn", "info", "debug", "trace"]
  | .logFormat => value ∈ ["pretty", "json"]
  | .config => !value.isEmpty
  | .history => !value.isEmpty
  | _ => false

/-- The options that may stand before the name of a command. -/
def general : List CliOption := [.verbose, .quiet, .log, .logFormat, .config, .version, .help]

/-- The options that may stand after the name of a command. -/
def ofCommand : Command → List CliOption
  | .eval => [.verbose, .quiet, .log, .logFormat, .config, .aliased, .help]
  | .selectors => [.verbose, .quiet, .log, .logFormat, .config, .help]
  | .repl => [.verbose, .quiet, .log, .logFormat, .config, .history, .help]

end CliOption

/-! ## Taking arguments -/

/-- What the arguments ask for. -/
inductive Request where
  /-- The arguments are wrong. -/
  | usageError
  /-- The version. -/
  | version
  /-- A description of the program. -/
  | help
  /-- The evaluation of an expression. -/
  | eval (config : Option String) (expression : String) (aliased : Bool)
  /-- The messages that a value understands. -/
  | selectors (config : Option String) (expression : String)
  /-- A session. -/
  | repl (config history : Option String)

/-- The file that a request names for the configuration. -/
def Request.config? : Request → Option String
  | .eval config _ _ => config
  | .selectors config _ => config
  | .repl config _ => config
  | _ => none

/-- What has been taken on one side of the command's name. -/
structure Taken where
  /-- The options with their values, the last first. -/
  options : List (CliOption × String)
  /-- The other arguments, the last first. -/
  positional : List String
  /-- Whether no further argument is an option. -/
  closed : Bool

namespace Taken

/-- Nothing taken yet. -/
def empty : Taken := ⟨[], [], false⟩

/-- The value of an option. -/
def value? (taken : Taken) (option : CliOption) : Option String := taken.options.lookup option

/-- Sets an option. One that does not count may be set only once. -/
def set (taken : Taken) (option : CliOption) (value : String) : Except Request Taken :=
  if option = .version then .error .version
  else if option = .help then .error .help
  else if option ≠ .verbose && (taken.value? option).isSome then .error .usageError
  else if option.takesValue && !option.accepts value then .error .usageError
  else .ok { taken with options := (option, value) :: taken.options }

end Taken

/-- Whether an argument looks like an option. -/
def looksLikeOption (argument : String) : Bool :=
  match argument.toList with
  | '-' :: _ :: _ => true
  | _ => false

/-- Takes the value of an option from the next argument. -/
def takeNext (taken : Taken) (option : CliOption) (rest : List String) :
    Except Request (Taken × List String) :=
  match rest with
  | value :: left =>
    if looksLikeOption value then .error .usageError
    else (taken.set option value).map fun set => (set, left)
  | [] => .error .usageError

/-- Takes an option by its long name, with its value after an equals sign or in the next argument. -/
def takeLong (known : List CliOption) (taken : Taken) (body : List Char) (rest : List String) :
    Except Request (Taken × List String) :=
  let name := String.ofList (body.takeWhile (· ≠ '='))
  match known.find? fun option => option.name = name, body.dropWhile (· ≠ '=') with
  | none, _ => .error .usageError
  | some option, _ :: value =>
    if option.takesValue then
      (taken.set option (String.ofList value)).map fun set => (set, rest)
    else .error .usageError
  | some option, [] =>
    if option.takesValue then takeNext taken option rest
    else (taken.set option "").map fun set => (set, rest)

/-- Takes options by their letters. What follows the letter of an option with a value is the value,
with or without an equals sign. -/
def takeLetters (known : List CliOption) (rest : List String) :
    Taken → List Char → Except Request (Taken × List String)
  | taken, [] => .ok (taken, rest)
  | taken, letter :: letters =>
    match known.find? fun option => option.letter? = some letter with
    | none => .error .usageError
    | some option =>
      if option.takesValue then
        match letters with
        | [] => takeNext taken option rest
        | '=' :: value => (taken.set option (String.ofList value)).map fun set => (set, rest)
        | value => (taken.set option (String.ofList value)).map fun set => (set, rest)
      else
        match taken.set option "" with
        | .ok set => takeLetters known rest set letters
        | .error request => .error request

/-- Takes one argument, and its value if it is an option that has one. -/
def takeArgument (known : List CliOption) (taken : Taken) (argument : String)
    (rest : List String) : Except Request (Taken × List String) :=
  if taken.closed then .ok ({ taken with positional := argument :: taken.positional }, rest)
  else
    match argument.toList with
    | ['-', '-'] => .ok ({ taken with closed := true }, rest)
    | '-' :: '-' :: body => takeLong known taken body rest
    | '-' :: letter :: letters => takeLetters known rest taken (letter :: letters)
    | _ => .ok ({ taken with positional := argument :: taken.positional }, rest)

/-! ## Requests -/

/-- How many other arguments a command has. -/
def Command.arity : Command → Nat
  | .eval => 1
  | .selectors => 1
  | .repl => 0

/-- The request of a command with what was taken before and after its name. -/
def request (before : Taken) (command : Command) (after : Taken) : Request :=
  let config := (after.value? .config).orElse fun _ => before.value? .config
  match command, after.positional with
  | .eval, [expression] => .eval config expression (after.value? .aliased).isSome
  | .selectors, [expression] => .selectors config expression
  | .repl, [] => .repl config (after.value? .history)
  | _, _ => .usageError

/-- Takes the arguments after the name of a command; at most `bound` of them. -/
def takeAfter (before : Taken) (command : Command) : Nat → Taken → List String → Request
  | _, taken, [] => request before command taken
  | 0, _, _ => .usageError
  | bound + 1, taken, argument :: rest =>
    match takeArgument (CliOption.ofCommand command) taken argument rest with
    | .error answer => answer
    | .ok (next, left) =>
      if command.arity < next.positional.length then .usageError
      else takeAfter before command bound next left

/-- The command with a name. -/
def command? (name : String) : Option Command :=
  if name = "eval" then some .eval
  else if name = "selectors" then some .selectors
  else if name = "repl" then some .repl
  else none

/-- The request for help with the names after it, of which there may be one, that of a command. -/
def helpRequest : List String → Request
  | [] => .help
  | [name] => if name = "help" || (command? name).isSome then .help else .usageError
  | _ => .usageError

/-- Takes the arguments up to the name of a command and goes on with those after it; at most `bound`
of them. Without a command a session is asked for. -/
def takeBefore : Nat → Taken → List String → Request
  | _, taken, [] => request taken .repl .empty
  | 0, _, _ => .usageError
  | bound + 1, taken, argument :: rest =>
    match takeArgument CliOption.general taken argument rest with
    | .error answer => answer
    | .ok (next, left) =>
      match next.positional with
      | [] => takeBefore bound next left
      | name :: _ =>
        if taken.closed then .usageError
        else if name = "help" then helpRequest left
        else
          match command? name with
          | some command => takeAfter next command left.length .empty left
          | none => .usageError

/-- What the arguments ask for. -/
def Request.ofArguments (arguments : List String) : Request :=
  takeBefore arguments.length .empty arguments

end MessageExpr.CommandLine
